import GatewayAgent.Proofs.Session.Lifetime
import GatewayAgent.Proofs.Session.Provenance

/-!
# Sessions without a time to live

Without a time to live the registry stamps no expiry, so a session should stay until it is removed.
An update can plant an expiry of its own, though, and a registry without a time to live commits it.
`lasting_iff_no_draft_expires` says that this is the only way: if no draft that a run commits has an
expiry, then no entry has one, the last write of every session that was not removed is what readers
get at any time, and a sweep finds nothing.
-/

namespace GatewayAgent

/-- A session without an expiry is never expired. -/
theorem Session.isExpiredAt_eq_false {s : Session} (h : s.expiresAt = none) (now : Instant) :
    s.isExpiredAt now = false := by
  rw [isExpiredAt, h, Option.any_none]

namespace Registry

variable {r : Registry} {now : Instant} {id : String} {s : Session} {run : List Step}

/-- No session of the registry has an expiry. -/
def Lasting (r : Registry) : Prop := ∀ id s, r.sessions.find? id = some s → s.expiresAt = none

/-! ### Reading and sweeping -/

namespace Lasting

/-- Where nothing expires, what is there can be got. -/
theorem get_eq (h : r.Lasting) (hid : id ≠ "") (hs : r.sessions.find? id = some s)
    (now : Instant) : r.get now id = .ok s :=
  get_eq_ok_iff.mpr ⟨hid, live_eq_ok_iff.mpr ⟨hs, Session.isExpiredAt_eq_false (h id s hs) now⟩⟩

/-- Where nothing expires, what is there is listed. -/
theorem mem_list (h : r.Lasting) (hs : r.sessions.find? id = some s) (now : Instant) :
    s ∈ r.list now :=
  mem_list_iff.mpr ⟨⟨id, hs⟩, Session.isExpiredAt_eq_false (h id s hs) now⟩

/-- Where nothing expires, a sweep removes nothing. -/
theorem sweep_snd (h : r.Lasting) (now : Instant) : (r.sweep now).2 = 0 := by
  have hall : ∀ e ∈ r.sessions.entries, (!e.2.isExpiredAt now) = true := by
    intro e he
    rw [Session.isExpiredAt_eq_false (h e.1 e.2 (Dictionary.mem_entries_iff.mp he))]
    rfl
  have hrest : (r.sweep now).1.sessions.size = r.sessions.size :=
    congrArg List.length (List.filter_eq_self.mpr hall)
  change r.sessions.size - (r.sweep now).1.sessions.size = 0
  rw [hrest, Nat.sub_self]

end Lasting

/-- If nothing that a run leaves behind expires, nothing expires after it. -/
theorem lasting_after {ttl : Option Duration}
    (h : ∀ x ∈ (Registry.new ttl).events run, x.left.Lasting) :
    ((Registry.new ttl).after run).Lasting :=
  fun _ _ => forall_after (P := fun _ s => s.expiresAt = none) (fun id s hs => by simp at hs) h

/-! ### The last write -/

/-- A write leaves an entry. -/
theorem Event.Writes.exists_find?_left {x : Event} (h : x.Writes id) :
    ∃ s, x.left.sessions.find? id = some s := by
  cases x.effect h.id_ne with
  | written hleft => exact ⟨_, hleft⟩
  | kept hnot => exact absurd h hnot
  | gone hnot => exact absurd h hnot

/-- The last write of an id writes it. -/
theorem LastWrite.writes {l : List Event} {w : Event} (h : LastWrite id l w) : w.Writes id := by
  obtain ⟨-, -, -, hwrites, -⟩ := h
  exact hwrites

/-- Where nothing expires, what is on record is what the last write has left. -/
theorem find?_after_iff_lastWrite (hid : id ≠ "") (ttl : Option Duration)
    (h : ∀ x ∈ (Registry.new ttl).events run, x.left.Lasting) :
    ((Registry.new ttl).after run).sessions.find? id = some s ↔
      ∃ w, LastWrite id ((Registry.new ttl).events run) w ∧
        w.left.sessions.find? id = some s := by
  induction run using List.reverseRecOn generalizing s with
  | nil => exact iff_of_false (by simp [after]) fun ⟨w, hw, _⟩ => not_standing_nil hw
  | append_singleton run step ih =>
    rw [events_snoc] at h ⊢
    have hearlier : ∀ x ∈ (Registry.new ttl).events run, x.left.Lasting :=
      fun x hx => h x (List.mem_append_left _ hx)
    have hfound := lasting_after hearlier
    have ih := fun s => @ih s hearlier
    rw [after_snoc]
    set x : Event := ⟨step, (Registry.new ttl).after run⟩ with hx
    change x.left.sessions.find? id = some s ↔ _
    constructor
    · intro hs
      cases x.effect hid with
      | written hleft hexpires hwrites =>
        exact ⟨x, standing_snoc.mpr (.inl ⟨rfl, hwrites.imp_right And.left⟩), hs⟩
      | kept hnot hleft hremoves =>
        obtain ⟨w, hw, hwleft⟩ := (ih s).mp (hleft.symm.trans hs)
        refine ⟨w, standing_snoc.mpr (.inr ⟨hw, ?_⟩), hwleft⟩
        rintro (hwrites | ⟨t, ht, hremove⟩)
        · exact hnot hwrites
        · obtain rfl : s = t := Option.some.inj (hwleft.symm.trans ht)
          exact hremoves s (hleft.symm.trans hs) hremove
      | gone hnot hleft => exact absurd (hleft.symm.trans hs) (by simp)
    · rintro ⟨w, hw, hwleft⟩
      rcases standing_snoc.mp hw with ⟨rfl, -⟩ | ⟨hw, hends⟩
      · exact hwleft
      · have hs := (ih s).mpr ⟨w, hw, hwleft⟩
        cases x.effect hid with
        | written hleft hexpires hwrites =>
          exact absurd (.inl (hwrites.imp_right And.left)) hends
        | kept hnot hleft hremoves => exact hleft.trans hs
        | gone hnot hleft hfind hwhy =>
          obtain rfl : s = _ := Option.some.inj (hs.symm.trans hfind)
          rcases hwhy with hremove | hexpired
          · exact absurd (.inr ⟨s, hwleft, hremove⟩) hends
          · -- A sweep takes nothing, for nothing expires.
            rw [Session.isExpiredAt_eq_false (hfound id s hs)] at hexpired
            exact absurd hexpired Bool.false_ne_true

/-! ### Registries without a time to live -/

/-- No time to live and one of zero are the same. -/
theorem ttl_new_eq_none {ttl : Option Duration} (httl : ∀ d, ttl = some d → d.nanos = 0) :
    (Registry.new ttl).ttl = none := by
  refine Option.filter_eq_none_iff.mpr fun d hd => ?_
  simp [httl d hd]

/-- **Without a time to live, sessions last.** No entry of a run has an expiry exactly if no draft
that the run commits has one. Then a session whose last write was not followed by its removal is
what readers get at every reading of the clock, and sweeps remove nothing. -/
theorem lasting_iff_no_draft_expires (ttl : Option Duration)
    (httl : ∀ d, ttl = some d → d.nanos = 0) (run : List Step) :
    ((∀ x ∈ (Registry.new ttl).events run, x.left.Lasting) ↔
      ∀ x ∈ (Registry.new ttl).events run, ∀ id draft, x.Commits id draft →
        draft.expiresAt = none) ∧
    ((∀ x ∈ (Registry.new ttl).events run, ∀ id draft, x.Commits id draft →
        draft.expiresAt = none) →
      (∀ id w, LastWrite id ((Registry.new ttl).events run) w →
        ∃ s, w.left.sessions.find? id = some s ∧
          ∀ now, ((Registry.new ttl).after run).get now id = .ok s ∧
            s ∈ ((Registry.new ttl).after run).list now) ∧
      ∀ now, (((Registry.new ttl).after run).sweep now).2 = 0) := by
  have hnone : ∀ x ∈ (Registry.new ttl).events run, x.found.ttl = none :=
    fun x hx => (ttl_found hx).trans (ttl_new_eq_none httl)
  have hiff : (∀ x ∈ (Registry.new ttl).events run, x.left.Lasting) ↔
      ∀ x ∈ (Registry.new ttl).events run, ∀ id draft, x.Commits id draft →
        draft.expiresAt = none := by
    refine (forall_entries_iff (P := fun _ s => s.expiresAt = none) (fun id s hs => by simp at hs)
      fun x hx new _ _ => expiryFrom_of_ttl_eq_none (hnone x hx) x.step.now).trans ?_
    refine forall₂_congr fun x hx => forall₃_congr fun id draft _ => ?_
    rw [expiresAt_commit_of_ttl_eq_none (hnone x hx)]
  refine ⟨hiff, fun hdrafts => ?_⟩
  have hleft := hiff.mpr hdrafts
  have hafter := lasting_after hleft
  refine ⟨fun id w hw => ?_, hafter.sweep_snd⟩
  obtain ⟨s, hs⟩ := hw.writes.exists_find?_left
  have hfind := (find?_after_iff_lastWrite hw.writes.id_ne ttl hleft).mpr ⟨w, hw, hs⟩
  exact ⟨s, hs, fun now => ⟨hafter.get_eq hw.writes.id_ne hfind now, hafter.mem_list hfind now⟩⟩

/-- With a time to live of zero, a session that was recorded and changed is there for good. -/
theorem refreshed_available_for_good :
    (∀ d, some (⟨0⟩ : Duration) = some d → d.nanos = 0) ∧
      ∀ now, ∃ s, ((Registry.new (some ⟨0⟩)).after refreshed).get now "s1" = .ok s ∧
        s ∈ ((Registry.new (some ⟨0⟩)).after refreshed).list now := by
  have httl : ∀ d, some (⟨0⟩ : Duration) = some d → d.nanos = 0 := by
    rintro d ⟨⟩
    rfl
  have hdrafts : ∀ x ∈ (Registry.new (some ⟨0⟩)).events refreshed, ∀ id draft,
      x.Commits id draft → draft.expiresAt = none := by
    rintro x hx id draft ⟨change, s, hop, -, hlive, hchange⟩
    -- Only the second step changes something, and what it finds has no expiry.
    rcases List.mem_pair.mp hx with rfl | rfl
    · simp [Operation.change?] at hop
    · obtain ⟨rfl, rfl⟩ := Prod.mk.inj (Option.some.inj hop)
      obtain rfl := Except.ok.inj hlive
      obtain rfl := Except.ok.inj hchange
      rfl
  refine ⟨httl, fun now => ?_⟩
  have hlast := ((lasting_iff_no_draft_expires (some ⟨0⟩) httl refreshed).2 hdrafts).1
  obtain ⟨s, -, hs⟩ := hlast "s1" _ ⟨[_], [], rfl, .inr ⟨rfl, rfl⟩, by simp⟩
  exact ⟨s, hs now⟩

/-- A session is recorded, and an update plants an expiry. -/
def planting : List Step :=
  [{ now := ⟨0⟩, op := .add { id := "s1", username := "alice" },
      representable := Instant.representable_zero },
    { now := ⟨0⟩, op := .update "s1" fun s => .ok { s with expiresAt := some ⟨1⟩ },
      representable := Instant.representable_zero }]

/-- The planted expiry ends the session, although the registry has no time to live. -/
theorem planted_expiry_ends_session :
    ¬((Registry.new none).after planting).Lasting ∧
      ((Registry.new none).after planting).get ⟨2⟩ "s1" = .error (.expired "s1") ∧
      ((Registry.new none).after planting).list ⟨2⟩ = [] ∧
      (((Registry.new none).after planting).sweep ⟨2⟩).2 = 1 :=
  ⟨fun h => Option.some_ne_none _ (h "s1" _ rfl), rfl, rfl, rfl⟩

end Registry

end GatewayAgent
