import GatewayAgent.Proofs.Session.Run
import Mathlib.Data.List.Induction

/-!
# How long a session is available

With a time to live, a session is available from its last write on, until that write is older than
the time to live or the session is removed. `Event.Effect` says the three things that a step can do
to the entry under one identifier: it writes it, leaves it alone, or takes it away, because it is
told to or because a sweep finds it expired. `Tracks` is the invariant that ties the entry to the
last write, and `available_iff_last_write_unexpired` puts both together.

It does not matter what expiry a caller supplies or an update plants, for every write stamps its
own; nor whether a sweep has come by.
-/

namespace GatewayAgent

namespace Registry

/-! ### Writes and removals -/

/-- The identifier of the session that an operation is to change. -/
def Operation.changed? : Operation → Option String
  | .update id _ => some id
  | .updateTraffic id _ _ => some id
  | _ => none

namespace Event

/-- The step has recorded a new session under the identifier. -/
def Creates (id : String) (x : Event) : Prop :=
  match x.step.op, x.outcome with
  | .add s, .done (.ok ()) => s.id = id
  | .getOrCreate s, .provided (.ok (_, true)) => s.id = id
  | _, _ => False

/-- The step has changed the session under the identifier. -/
def Updates (id : String) (x : Event) : Prop :=
  x.step.op.changed? = some id ∧ x.outcome = .done (.ok ())

/-- The step has written the session under the identifier. -/
def Writes (id : String) (x : Event) : Prop := x.Creates id ∨ x.Updates id

/-- The step removes a session that is recorded under the identifier. -/
def Removes (id : String) (s : Session) (x : Event) : Prop :=
  match x.step.op with
  | .remove id' => id' = id
  | .removeByUsername username => s.username = username
  | .clear => True
  | _ => False

/-- What a step does to the entry under an identifier. -/
inductive Effect (id : String) (x : Event) : Prop
  /-- It writes the entry, and stamps its expiry. An update needs a live session. -/
  | written {s : Session} (hleft : x.left.sessions.find? id = some s)
      (hexpires : x.found.ttl.isSome → s.expiresAt = x.found.expiryFrom x.step.now)
      (hwrites : x.Creates id ∨ x.Updates id ∧
        ∃ t, x.found.sessions.find? id = some t ∧ t.isExpiredAt x.step.now = false)
  /-- It leaves the entry alone. -/
  | kept (hnot : ¬x.Writes id) (hleft : x.left.sessions.find? id = x.found.sessions.find? id)
      (hremoves : ∀ s, x.found.sessions.find? id = some s → ¬x.Removes id s)
  /-- It takes the entry away. -/
  | gone {s : Session} (hnot : ¬x.Writes id) (hleft : x.left.sessions.find? id = none)
      (hfound : x.found.sessions.find? id = some s)
      (hwhy : x.Removes id s ∨ s.isExpiredAt x.step.now = true)

namespace Effect

variable {id : String} {x : Event} {s : Session}

/-- A step that leaves the registry alone. -/
theorem of_unchanged (hleft : x.left = x.found) (hnot : ¬x.Writes id)
    (hremoves : ∀ s, ¬x.Removes id s) : Effect id x :=
  .kept hnot (by rw [hleft]) fun s _ => hremoves s

/-- A step that puts a session, under this identifier or another. -/
theorem of_put (hleft : x.left = x.found.put s)
    (hexpires : x.found.ttl.isSome → s.expiresAt = x.found.expiryFrom x.step.now)
    (hwrites : s.id = id → x.Creates id ∨ x.Updates id ∧
      ∃ t, x.found.sessions.find? id = some t ∧ t.isExpiredAt x.step.now = false)
    (hnot : s.id ≠ id → ¬x.Writes id) (hremoves : ∀ s, ¬x.Removes id s) : Effect id x := by
  have hfind : x.left.sessions.find? id =
      if id = s.id then some s else x.found.sessions.find? id := by
    rw [hleft, find?_put]
  by_cases hid : s.id = id
  · rw [if_pos hid.symm] at hfind
    exact .written hfind hexpires (hwrites hid)
  · rw [if_neg (Ne.symm hid)] at hfind
    exact .kept (hnot hid) hfind fun s _ => hremoves s

end Effect

section Steps

variable {id : String} {now : Instant} {h : now.Representable} {r : Registry}

/-- What an addition does to an id. -/
theorem effect_add (s : Session) : Effect id ⟨⟨now, .add s, h⟩, r⟩ := by
  cases hr : r.add now s with
  | error e =>
    refine .of_unchanged ?_ ?_ ?_
    · simp [left, perform, hr, settle]
    · simp [Writes, Creates, Updates, Operation.changed?, outcome, perform, hr, settle]
    · simp [Removes]
  | ok r' =>
    refine .of_put (s := r.stamp now s) ?_ (fun _ => rfl) (fun hid => .inl ?_) (fun hid => ?_) ?_
    · simp [left, perform, hr, settle, (add_eq_ok_iff.mp hr).2]
    · simpa [Creates, outcome, perform, hr, settle] using hid
    · simpa [Writes, Creates, Updates, Operation.changed?, outcome, perform, hr, settle] using hid
    · simp [Removes]

/-- What getting or creating a session does to an id. -/
theorem effect_getOrCreate (s : Session) : Effect id ⟨⟨now, .getOrCreate s, h⟩, r⟩ := by
  cases hr : r.getOrCreate now s with
  | error e =>
    refine .of_unchanged ?_ ?_ ?_
    · simp [left, perform, hr]
    · simp [Writes, Creates, Updates, Operation.changed?, outcome, perform, hr]
    · simp [Removes]
  | ok result =>
    obtain ⟨r', found, created⟩ := result
    rcases (getOrCreate_eq_ok_iff.mp hr).2 with ⟨rfl, rfl, -⟩ | ⟨rfl, rfl, rfl, -⟩
    · refine .of_unchanged ?_ ?_ ?_
      · simp [left, perform, hr]
      · simp [Writes, Creates, Updates, Operation.changed?, outcome, perform, hr]
      · simp [Removes]
    · refine .of_put (s := r.stamp now s) ?_ (fun _ => rfl) (fun hid => .inl ?_)
        (fun hid => ?_) ?_
      · simp [left, perform, hr]
      · simpa [Creates, outcome, perform, hr] using hid
      · simpa [Writes, Creates, Updates, Operation.changed?, outcome, perform, hr] using hid
      · simp [Removes]

/-- An update by any means. -/
theorem effect_of_update {x : Event} {id' : String} (change : Session → Except String Session)
    (hop : x.step.op.changed? = some id')
    (hperform : x.found.perform x.step.now x.step.op =
      x.found.settle (x.found.update x.step.now id' change))
    (hcreates : ¬x.Creates id) (hremoves : ∀ s, ¬x.Removes id s) : Effect id x := by
  cases hr : x.found.update x.step.now id' change with
  | error e =>
    rw [hr, settle] at hperform
    refine .of_unchanged (by rw [left, hperform]) ?_ hremoves
    rintro (hwrites | ⟨-, hout⟩)
    · exact hcreates hwrites
    · rw [outcome, hperform] at hout
      simp at hout
  | ok r' =>
    rw [hr, settle] at hperform
    -- Whatever the change made of the draft, its expiry is stamped over.
    obtain ⟨-, t, draft, hlive, -, rfl⟩ := update_eq_ok_iff.mp hr
    refine .of_put (s := x.found.commit x.step.now id' draft) (by rw [left, hperform])
      (fun httl => expiresAt_commit httl x.step.now id' draft) (fun hid => ?_) (fun hid => ?_)
      hremoves
    · rw [id_commit] at hid
      subst hid
      exact .inr ⟨⟨hop, by rw [outcome, hperform]⟩, t, live_eq_ok_iff.mp hlive⟩
    · rw [id_commit] at hid
      rintro (hwrites | ⟨hop', -⟩)
      · exact hcreates hwrites
      · exact hid (Option.some.inj (hop.symm.trans hop'))

/-- A step keeps a part of the sessions, and it can tell why the others go. -/
theorem Effect.of_filter {x : Event} (keep : Session → Bool) (hnot : ¬x.Writes id)
    (hleft : x.left.sessions.find? id = (x.found.sessions.find? id).filter keep)
    (hkept : ∀ s, keep s = true → ¬x.Removes id s)
    (hgone : ∀ s, keep s = false → x.Removes id s ∨ s.isExpiredAt x.step.now = true) :
    Effect id x := by
  cases hfound : x.found.sessions.find? id with
  | none =>
    refine .kept hnot ?_ (by simp [hfound])
    rw [hleft, hfound, Option.filter_none]
  | some s =>
    rw [hfound] at hleft
    cases hs : keep s with
    | true =>
      refine .kept hnot ?_ fun t ht => ?_
      · rw [hleft, hfound, Option.filter_some_pos hs]
      · rw [hfound, Option.some.injEq] at ht
        exact ht ▸ hkept s hs
    | false =>
      refine .gone hnot ?_ hfound (hgone s hs)
      rw [hleft, Option.filter_some_neg (by simp [hs])]

/-- A step does one of the three things to each entry. -/
theorem effect (hid : id ≠ "") (x : Event) : Effect id x := by
  obtain ⟨⟨now, op, h⟩, r⟩ := x
  cases op with
  | add s => exact effect_add s
  | getOrCreate s => exact effect_getOrCreate s
  | update id' change =>
    exact effect_of_update change rfl rfl (by simp [Creates]) (by simp [Removes])
  | updateTraffic id' bytesIn bytesOut =>
    exact effect_of_update (fun s => .ok { s with bytesIn, bytesOut }) rfl rfl
      (by simp [Creates]) (by simp [Removes])
  | remove id' =>
    refine .of_filter (fun _ => id' ≠ id) ?_ ?_ ?_ ?_
    · simp [Writes, Creates, Updates, Operation.changed?]
    · change (r.settle (r.remove id')).1.sessions.find? id = _
      rw [find?_settle_remove]
      by_cases heq : id' = id
      · subst heq
        rw [if_pos ⟨rfl, hid⟩]
        simp
      · rw [if_neg fun hboth => heq hboth.1.symm]
        cases r.sessions.find? id with
        | none => rfl
        | some s => exact (Option.filter_some_pos (by simp [heq])).symm
    · simp [Removes]
    · intro s hs
      have heq : id' = id := by simpa using hs
      exact .inl heq
  | removeByUsername username =>
    refine .of_filter (fun s => s.username ≠ username) ?_ ?_ ?_ ?_
    · simp [Writes, Creates, Updates, Operation.changed?]
    · exact find?_removeByUsername r username id
    · simp [Removes]
    · intro s hs
      have heq : s.username = username := by simpa using hs
      exact .inl heq
  | clear =>
    refine .of_filter (fun _ => false) ?_ ?_ ?_ ?_
    · simp [Writes, Creates, Updates, Operation.changed?]
    · cases r.sessions.find? id <;> rfl
    · simp
    · exact fun s _ => .inl trivial
  | sweep =>
    refine .of_filter (fun s => !s.isExpiredAt now) ?_ ?_ ?_ ?_
    · simp [Writes, Creates, Updates, Operation.changed?]
    · exact find?_sweep r now id
    · simp [Removes]
    · simp [Removes]
  | _ =>
    exact .of_unchanged rfl (by simp [Writes, Creates, Updates, Operation.changed?])
      (by simp [Removes])

end Steps

end Event

/-! ### The last write -/

/-- The step `x` has written the session under the identifier, and nothing after it has written it
again or removed what it wrote. -/
def LastWrite (id : String) (l : List Event) (x : Event) : Prop :=
  Standing (·.Writes id)
    (fun x y => y.Writes id ∨ ∃ s, x.left.sessions.find? id = some s ∧ y.Removes id s) l x

/-- What is recorded under the identifier is what the last write has left, with the expiry that it
was given; if that is no longer there, it has expired. -/
structure Tracks (ttl : Duration) (id : String) (l : List Event) (r : Registry) : Prop where
  ttl_eq : r.ttl = some ttl
  written : ∀ s, r.sessions.find? id = some s →
    ∃ w, LastWrite id l w ∧ w.left.sessions.find? id = some s
  last : ∀ w, LastWrite id l w → ∃ s, w.left.sessions.find? id = some s ∧
    s.expiresAt = w.step.now.add? ttl ∧
    (r.sessions.find? id = some s ∨
      r.sessions.find? id = none ∧ ∃ y ∈ l, s.isExpiredAt y.step.now = true)

namespace Tracks

variable {ttl : Duration} {id : String} {l : List Event} {x : Event}

/-- One more step keeps the lifetimes right. -/
theorem snoc (hid : id ≠ "") (h : Tracks ttl id l x.found) : Tracks ttl id (l ++ [x]) x.left := by
  have httl : x.left.ttl = some ttl := (ttl_perform _ _ _).trans h.ttl_eq
  cases x.effect hid with
  | @written s hleft hexpires hwrites =>
    have hwrite : x.Writes id := hwrites.imp_right And.left
    refine ⟨httl, fun t ht => ⟨x, standing_snoc.mpr (.inl ⟨rfl, hwrite⟩), ht⟩, fun w hw => ?_⟩
    rcases standing_snoc.mp hw with ⟨rfl, -⟩ | ⟨-, hends⟩
    · refine ⟨s, hleft, ?_, .inl hleft⟩
      rw [hexpires (by rw [h.ttl_eq]; rfl), expiryFrom_of_ttl_eq_some h.ttl_eq]
    · -- An earlier write is not the last one any more.
      exact absurd (.inl hwrite) hends
  | kept hnot hleft hremoves =>
    refine ⟨httl, fun t ht => ?_, fun w hw => ?_⟩
    · rw [hleft] at ht
      obtain ⟨w, hw, hwleft⟩ := h.written t ht
      refine ⟨w, standing_snoc.mpr (.inr ⟨hw, ?_⟩), hwleft⟩
      rintro (hwrite | ⟨t', ht', hremove⟩)
      · exact hnot hwrite
      · rw [hwleft, Option.some.injEq] at ht'
        exact hremoves t ht (ht' ▸ hremove)
    · rcases standing_snoc.mp hw with ⟨rfl, hwrite⟩ | ⟨hw, -⟩
      · exact absurd hwrite hnot
      · obtain ⟨s, hwleft, hexpires, hnow⟩ := h.last w hw
        rw [hleft]
        refine ⟨s, hwleft, hexpires, hnow.imp_right fun hgone => ?_⟩
        obtain ⟨hnone, y, hy, hexpired⟩ := hgone
        exact ⟨hnone, y, List.mem_append_left _ hy, hexpired⟩
  | @gone t hnot hleft hfound hwhy =>
    refine ⟨httl, fun s hs => ?_, fun w hw => ?_⟩
    · rw [hleft] at hs
      exact absurd hs (by simp)
    · rcases standing_snoc.mp hw with ⟨rfl, hwrite⟩ | ⟨hw, hends⟩
      · exact absurd hwrite hnot
      · obtain ⟨s, hwleft, hexpires, hnow⟩ := h.last w hw
        rw [hfound] at hnow
        have hst : t = s := by simpa using hnow
        subst hst
        rcases hwhy with hremove | hexpired
        · exact absurd (.inr ⟨t, hwleft, hremove⟩) hends
        · -- A sweep took the entry: the write is still the last one, but it has expired.
          exact ⟨t, hwleft, hexpires, .inr ⟨hleft, x, by simp, hexpired⟩⟩

/-- In every run the lifetimes are right. -/
theorem run (httl : 0 < ttl.nanos) (hid : id ≠ "") (run : List Step) :
    Tracks ttl id ((Registry.new (some ttl)).events run) ((Registry.new (some ttl)).after run) := by
  induction run using List.reverseRecOn with
  | nil =>
    exact ⟨ttl_new httl, fun s hs => absurd hs (by simp [after]),
      fun w hw => absurd hw not_standing_nil⟩
  | append_singleton run step ih =>
    rw [events_snoc, after_snoc]
    exact snoc (x := ⟨step, (Registry.new (some ttl)).after run⟩) hid ih

end Tracks

/-! ### Availability -/

variable {ttl : Duration} {id : String} {now later : Instant} {r : Registry} {s : Session}

/-- A session that was written at `written` is live as long as its time to live, or for good if no
clock can hold the end of it. -/
theorem isExpiredAt_eq_false_iff {written : Instant} (hwritten : written.Representable)
    (hs : s.expiresAt = written.add? ttl) :
    s.isExpiredAt now = false ↔
      ¬(written.later ttl).Representable ∨ now ≤ written.later ttl := by
  rw [Session.isExpiredAt, hs, Instant.add?_eq_ite hwritten]
  split_ifs with hend
  · simp [hend, Instant.not_lt]
  · simp [hend]

/-- There is no session with an empty id. -/
theorem get_of_id_eq_empty (r : Registry) (now : Instant) (s : Session) :
    r.get now "" ≠ .ok s := fun h => (get_eq_ok_iff.mp h).1 rfl

/-- No write goes to the empty identifier. -/
theorem Event.Writes.id_ne {x : Event} (h : x.Writes id) : id ≠ "" := by
  obtain ⟨⟨now, op, hnow⟩, r⟩ := x
  rcases h with h | ⟨hop, hout⟩
  · cases op with
    | add s =>
      cases hr : r.add now s with
      | error e => simp [Creates, outcome, perform, hr, settle] at h
      | ok r' =>
        have hid : s.id = id := by simpa [Creates, outcome, perform, hr, settle] using h
        exact hid ▸ (add_eq_ok_iff.mp hr).1.1
    | getOrCreate s =>
      cases hr : r.getOrCreate now s with
      | error e => simp [Creates, outcome, perform, hr] at h
      | ok result =>
        obtain ⟨r', found, created⟩ := result
        have hid : s.id = id := by
          cases created with
          | true => simpa [Creates, outcome, perform, hr] using h
          | false => simp [Creates, outcome, perform, hr] at h
        exact hid ▸ (getOrCreate_eq_ok_iff.mp hr).1.1
    | _ => exact absurd h (by simp [Creates])
  · cases op with
    | update id' change =>
      obtain ⟨r', hr'⟩ := ok_of_settle hout
      exact Option.some.inj hop ▸ (update_eq_ok_iff.mp hr').1
    | updateTraffic id' bytesIn bytesOut =>
      obtain ⟨r', hr'⟩ := ok_of_settle hout
      exact Option.some.inj hop ▸ (update_eq_ok_iff.mp hr').1
    | _ => exact absurd hop (by simp [Operation.changed?])

/-- What has expired stays so, or goes away, until the identifier is recorded anew. -/
theorem isExpiredAt_of_not_creates (hid : id ≠ "") {more : List Step}
    (hmore : ∀ step ∈ more, now ≤ step.now) (hcreates : ∀ x ∈ r.events more, ¬x.Creates id)
    (hexpired : ∀ s, r.sessions.find? id = some s → s.isExpiredAt now = true) :
    ∀ s, (r.after more).sessions.find? id = some s → s.isExpiredAt now = true := by
  induction more generalizing r with
  | nil => exact hexpired
  | cons step more ih =>
    have hstep : now ≤ step.now := hmore step List.mem_cons_self
    refine ih (r := (r.perform step.now step.op).1)
      (fun later hlater => hmore later (List.mem_cons_of_mem step hlater))
      (fun x hx => hcreates x (List.mem_cons_of_mem _ hx)) fun s hs => ?_
    cases Event.effect hid ⟨step, r⟩ with
    | written hleft hexpires hwrites =>
      rcases hwrites with hcreate | ⟨-, t, ht, hlive⟩
      · exact absurd hcreate (hcreates _ List.mem_cons_self)
      · -- An update would have needed a session that has not expired.
        have := Session.isExpiredAt_mono hstep (hexpired t ht)
        rw [hlive] at this
        exact absurd this Bool.false_ne_true
    | kept hnot hleft hremoves => exact hexpired s (hleft.symm.trans hs)
    | gone hnot hleft hfound hwhy => exact absurd (hleft.symm.trans hs) (by simp)

/-- Nothing can be got under an id exactly if what is there is expired. -/
theorem get_ne_ok_iff (hid : id ≠ "") :
    (∀ s, r.get now id ≠ .ok s) ↔
      ∀ s, r.sessions.find? id = some s → s.isExpiredAt now = true := by
  refine forall_congr' fun s => ?_
  rw [Ne, get_eq_ok_iff, live_eq_ok_iff, and_iff_right hid, not_and, Bool.not_eq_false]

/-- **The lifetime of a session.** With a time to live, a session is available exactly if it has
been written, its last write has not been followed by its removal, and the time to live since then
is not over, or is never over. Once it is not available, it becomes so only by being recorded
anew. -/
theorem available_iff_last_write_unexpired (httl : 0 < ttl.nanos) (run : List Step) (id : String)
    (now : Instant) (hnow : ∀ step ∈ run, step.now ≤ now) :
    ((∃ s, ((Registry.new (some ttl)).after run).get now id = .ok s) ↔
      ∃ w, LastWrite id ((Registry.new (some ttl)).events run) w ∧
        (¬(w.step.now.later ttl).Representable ∨ now ≤ w.step.now.later ttl)) ∧
    ((∀ s, ((Registry.new (some ttl)).after run).get now id ≠ .ok s) →
      ∀ more later, (∀ step ∈ more, now ≤ step.now) → now ≤ later →
        (∀ x ∈ ((Registry.new (some ttl)).after run).events more, ¬x.Creates id) →
        ∀ s, (((Registry.new (some ttl)).after run).after more).get later id ≠ .ok s) := by
  rcases eq_or_ne id "" with rfl | hid
  · refine ⟨iff_of_false (fun ⟨s, hs⟩ => get_of_id_eq_empty _ now s hs) ?_,
      fun _ more later _ _ _ => get_of_id_eq_empty _ later⟩
    rintro ⟨w, ⟨before, after, -, hwrites, -⟩, -⟩
    exact hwrites.id_ne rfl
  have htracks := Tracks.run httl hid run
  refine ⟨⟨?_, ?_⟩, fun hno more later hmore hlater hcreates => ?_⟩
  · -- What is available is on record, and the last write has put it there.
    rintro ⟨s, hs⟩
    obtain ⟨hfind, hlive⟩ := live_eq_ok_iff.mp (get_eq_ok_iff.mp hs).2
    obtain ⟨w, hw, hwleft⟩ := htracks.written s hfind
    obtain ⟨t, ht, hexpires, -⟩ := htracks.last w hw
    obtain rfl : s = t := Option.some.inj (hwleft.symm.trans ht)
    exact ⟨w, hw, (isExpiredAt_eq_false_iff w.step.representable hexpires).mp hlive⟩
  · rintro ⟨w, hw, hunexpired⟩
    obtain ⟨s, -, hexpires, hfind | ⟨-, y, hy, hpast⟩⟩ := htracks.last w hw
    · refine ⟨s, get_eq_ok_iff.mpr ⟨hid, live_eq_ok_iff.mpr ⟨hfind, ?_⟩⟩⟩
      exact (isExpiredAt_eq_false_iff w.step.representable hexpires).mpr hunexpired
    · -- What a sweep has found expired was so before `now`.
      have hexpired := Session.isExpiredAt_mono (hnow _ (step_mem_of_mem_events hy)) hpast
      rw [(isExpiredAt_eq_false_iff w.step.representable hexpires).mpr hunexpired] at hexpired
      exact absurd hexpired Bool.false_ne_true
  · rw [get_ne_ok_iff hid] at hno ⊢
    intro s hs
    exact Session.isExpiredAt_mono hlater
      (isExpiredAt_of_not_creates hid hmore hcreates hno s hs)

/-- A session is recorded and changed soon after. -/
def refreshed : List Step :=
  [{ now := ⟨0⟩, op := .add { id := "s1", username := "alice" } },
    { now := ⟨3⟩, op := .updateTraffic "s1" 10 20 }]

/-- The change counts, and the last instant of the time to live is part of it. -/
theorem refreshed_available_to_the_end :
    (∃ s, ((Registry.new (some ⟨5⟩)).after refreshed).get ⟨8⟩ "s1" = .ok s) ∧
      ((Registry.new (some ⟨5⟩)).after refreshed).get ⟨9⟩ "s1" = .error (.expired "s1") := by
  have hnow : ∀ step ∈ refreshed, step.now ≤ ⟨8⟩ := by
    unfold refreshed
    decide
  refine ⟨(available_iff_last_write_unexpired (by decide) refreshed "s1" ⟨8⟩ hnow).1.mpr ?_, rfl⟩
  exact ⟨_, ⟨[_], [], rfl, .inr ⟨rfl, rfl⟩, by simp⟩, .inr (by decide)⟩

end Registry

end GatewayAgent
