import GatewayAgent.Proofs.Session.Run
import GatewayAgent.Proofs.Time.Instant
import Mathlib.Data.List.Induction

/-!
# Where the entries of a registry come from

An entry that a step leaves behind was there before, or is a new session with the stamp of the
registry, or is what an update has committed (`Event.origin`). Callers have a say only in the draft
that an update commits. So what holds of every stamped session holds of all entries along a run
exactly if it holds of what the run commits (`forall_entries_iff`).

The first use of this is the identity of a session. It is recorded under its own identifier, which
is not empty, whatever the updates do; but its username is as good as the drafts
(`identified_iff_drafts_named`).
-/

namespace GatewayAgent

/-- The session is recorded under its own identifier, which is not empty, and has a username. -/
structure Session.Identified (id : String) (s : Session) : Prop where
  id_eq : s.id = id
  id_ne : s.id ≠ ""
  username_ne : s.username ≠ ""

namespace Registry

/-- The identifier of the session that an operation is to change, and the change. -/
def Operation.change? : Operation → Option (String × (Session → Except String Session))
  | .update id change => some (id, change)
  | .updateTraffic id bytesIn bytesOut => some (id, fun s => .ok { s with bytesIn, bytesOut })
  | _ => none

namespace Event

/-- The step has changed the live session under the identifier, and `draft` is what the change has
made of it. -/
def Commits (id : String) (draft : Session) (x : Event) : Prop :=
  ∃ change s, x.step.op.change? = some (id, change) ∧ id ≠ "" ∧
    x.found.live x.step.now id = .ok s ∧ change s = .ok draft

/-- Where an entry that a step leaves behind comes from. -/
inductive Origin (id : String) (s : Session) (x : Event) : Prop
  | kept (hfound : x.found.sessions.find? id = some s)
  | stamped (new : Session) (hid : new.id = id) (hvalid : new.id ≠ "" ∧ new.username ≠ "")
      (hs : s = x.found.stamp x.step.now new)
  | committed {draft : Session} (hdraft : x.Commits id draft)
      (hs : s = x.found.commit x.step.now id draft)

/-! ### The origin of an entry -/

section Steps

variable {id : String} {s : Session} {x : Event}

/-- What a step has left alone comes from before it. -/
theorem Origin.of_unchanged (hleft : x.left = x.found)
    (h : x.left.sessions.find? id = some s) : x.Origin id s :=
  .kept (hleft ▸ h)

/-- A step that puts a session, under this identifier or another. -/
theorem Origin.of_put {t : Session} (hleft : x.left = x.found.put t)
    (hput : t.id = id → x.Origin id t) (h : x.left.sessions.find? id = some s) :
    x.Origin id s := by
  rw [hleft, find?_put] at h
  split_ifs at h with hid
  · obtain rfl : t = s := Option.some.inj h
    exact hput hid.symm
  · exact .kept h

/-- A step that keeps a part of the entries. -/
theorem Origin.of_filter {p : Session → Bool}
    (hleft : x.left.sessions.find? id = (x.found.sessions.find? id).filter p)
    (h : x.left.sessions.find? id = some s) : x.Origin id s :=
  .kept (Option.filter_eq_some_iff.mp (hleft ▸ h)).1

/-- An update by any means. -/
theorem Origin.of_update {id' : String} {change : Session → Except String Session}
    (hop : x.step.op.change? = some (id', change))
    (hleft : x.left = (x.found.settle (x.found.update x.step.now id' change)).1)
    (h : x.left.sessions.find? id = some s) : x.Origin id s := by
  cases hr : x.found.update x.step.now id' change with
  | error e =>
    rw [hr] at hleft
    exact .of_unchanged hleft h
  | ok r' =>
    rw [hr] at hleft
    obtain ⟨hid', t, draft, hlive, hchange, rfl⟩ := update_eq_ok_iff.mp hr
    refine .of_put hleft (fun hid => ?_) h
    rw [id_commit] at hid
    subst hid
    exact .committed ⟨change, t, hop, hid', hlive, hchange⟩ rfl

/-- After an addition, every session comes from it or from before. -/
theorem origin_add {now : Instant} {hnow : now.Representable} {r : Registry} {new : Session}
    (h : (Event.mk ⟨now, .add new, hnow⟩ r).left.sessions.find? id = some s) :
    (Event.mk ⟨now, .add new, hnow⟩ r).Origin id s := by
  cases hr : r.add now new with
  | error e => exact .of_unchanged (by simp [left, perform, hr, settle]) h
  | ok r' =>
    obtain ⟨hvalid, rfl⟩ := add_eq_ok_iff.mp hr
    refine .of_put (t := r.stamp now new) (by simp [left, perform, hr, settle]) (fun hid => ?_) h
    exact .stamped new hid hvalid rfl

/-- After getting or creating a session, every session comes from it or from before. -/
theorem origin_getOrCreate {now : Instant} {hnow : now.Representable} {r : Registry}
    {new : Session}
    (h : (Event.mk ⟨now, .getOrCreate new, hnow⟩ r).left.sessions.find? id = some s) :
    (Event.mk ⟨now, .getOrCreate new, hnow⟩ r).Origin id s := by
  cases hr : r.getOrCreate now new with
  | error e => exact .of_unchanged (by simp [left, perform, hr]) h
  | ok result =>
    obtain ⟨r', found, created⟩ := result
    obtain ⟨hvalid, ⟨-, rfl, -⟩ | ⟨-, rfl, rfl, -⟩⟩ := getOrCreate_eq_ok_iff.mp hr
    · exact .of_unchanged (by simp [left, perform, hr]) h
    · refine .of_put (t := r.stamp now new) (by simp [left, perform, hr]) (fun hid => ?_) h
      exact .stamped new hid hvalid rfl

/-- An entry that a step leaves behind was there before, was stamped or was committed. -/
theorem origin (h : x.left.sessions.find? id = some s) : x.Origin id s := by
  obtain ⟨⟨now, op, hnow⟩, r⟩ := x
  cases op with
  | add new => exact origin_add h
  | getOrCreate new => exact origin_getOrCreate h
  | update id' change => exact .of_update rfl rfl h
  | updateTraffic id' bytesIn bytesOut =>
    have hop : (Operation.updateTraffic id' bytesIn bytesOut).change? =
        some (id', fun s => .ok { s with bytesIn, bytesOut }) := rfl
    exact .of_update hop rfl h
  | remove id' =>
    have hleft := find?_settle_remove r id' id
    change (r.settle (r.remove id')).1.sessions.find? id = some s at h
    rw [h] at hleft
    split_ifs at hleft
    exact .kept hleft.symm
  | removeByUsername username => exact .of_filter (find?_removeByUsername r username id) h
  | clear => exact absurd h (by simp [left, perform, clear, Dictionary.find?, Dictionary.empty])
  | sweep => exact .of_filter (find?_sweep r now id) h
  | _ => exact .of_unchanged rfl h

/-- What is committed is recorded. -/
theorem Commits.find?_left {draft : Session} (h : x.Commits id draft) :
    x.left.sessions.find? id = some (x.found.commit x.step.now id draft) := by
  obtain ⟨change, s, hop, hid, hlive, hchange⟩ := h
  have hr : x.found.update x.step.now id change =
      .ok (x.found.put (x.found.commit x.step.now id draft)) :=
    update_eq_ok_iff.mpr ⟨hid, s, draft, hlive, hchange, rfl⟩
  have hleft : x.left = (x.found.settle (x.found.update x.step.now id change)).1 := by
    obtain ⟨⟨now, op, hnow⟩, r⟩ := x
    cases op with
    | update id' change' =>
      obtain ⟨rfl, rfl⟩ : id' = id ∧ change' = change := by simpa [Operation.change?] using hop
      rfl
    | updateTraffic id' bytesIn bytesOut =>
      obtain ⟨rfl, rfl⟩ : id' = id ∧ (fun s => .ok { s with bytesIn, bytesOut }) = change := by
        simpa [Operation.change?] using hop
      rfl
    | _ => simp [Operation.change?] at hop
  rw [hleft, hr, settle, find?_put, id_commit, if_pos rfl]

end Steps

end Event

/-! ### Entries along a run -/

variable {P : String → Session → Prop} {r : Registry} {run : List Step}

/-- Only under an id that is not empty is a draft committed. -/
theorem Event.Commits.id_ne {x : Event} {id : String} {draft : Session} (h : x.Commits id draft) :
    id ≠ "" := by
  obtain ⟨-, -, -, hid, -⟩ := h
  exact hid

/-- Every step of a run finds the time to live that the run began with. -/
theorem ttl_found {x : Event} (hx : x ∈ r.events run) : x.found.ttl = r.ttl := by
  induction run generalizing r with
  | nil => exact absurd hx List.not_mem_nil
  | cons step run ih =>
    rw [events_cons] at hx
    rcases List.mem_cons.mp hx with rfl | hx
    · rfl
    · rw [ih hx, ttl_perform]

/-- The registry after a run is the first one, or the one that some step has left. -/
theorem after_eq_or_left (r : Registry) (run : List Step) :
    r.after run = r ∨ ∃ x ∈ r.events run, r.after run = x.left := by
  rcases List.eq_nil_or_concat run with rfl | ⟨run, step, rfl⟩
  · exact .inl rfl
  · rw [List.concat_eq_append, events_snoc, after_snoc]
    exact .inr ⟨_, List.mem_append_right _ List.mem_cons_self, rfl⟩

/-- What holds of the entries at first and of every stamped session holds of all entries along a
run exactly if it holds of what the run commits. -/
theorem forall_entries_iff (hfirst : ∀ id s, r.sessions.find? id = some s → P id s)
    (hstamp : ∀ x ∈ r.events run, ∀ new : Session, new.id ≠ "" → new.username ≠ "" →
      P new.id (x.found.stamp x.step.now new)) :
    (∀ x ∈ r.events run, ∀ id s, x.left.sessions.find? id = some s → P id s) ↔
      ∀ x ∈ r.events run, ∀ id draft, x.Commits id draft →
        P id (x.found.commit x.step.now id draft) := by
  refine ⟨fun h x hx id draft hdraft => h x hx id _ hdraft.find?_left, fun hcommit => ?_⟩
  induction run generalizing r with
  | nil => exact fun x hx => absurd hx List.not_mem_nil
  | cons step run ih =>
    rw [events_cons] at hstamp hcommit ⊢
    obtain ⟨hstamp, hstamps⟩ := List.forall_mem_cons.mp hstamp
    obtain ⟨hcommit, hcommits⟩ := List.forall_mem_cons.mp hcommit
    have hleft : ∀ id s, (Event.mk step r).left.sessions.find? id = some s → P id s := by
      intro id s hs
      cases Event.origin hs with
      | kept hfound => exact hfirst id s hfound
      | stamped new hid hvalid hs => exact hs ▸ hid ▸ hstamp new hvalid.1 hvalid.2
      | committed hdraft hs => exact hs ▸ hcommit id _ hdraft
    exact List.forall_mem_cons.mpr ⟨hleft, ih hleft hstamps hcommits⟩

/-- What holds of the entries at first and of those that every step leaves holds after the run. -/
theorem forall_after (hfirst : ∀ id s, r.sessions.find? id = some s → P id s)
    (hleft : ∀ x ∈ r.events run, ∀ id s, x.left.sessions.find? id = some s → P id s)
    {id : String} {s : Session} (h : (r.after run).sessions.find? id = some s) : P id s := by
  rcases after_eq_or_left r run with heq | ⟨x, hx, heq⟩
  · exact hfirst id s (heq ▸ h)
  · exact hleft x hx id s (heq ▸ h)

/-! ### Identity -/

/-- **The identity of a session.** All entries of a run are recorded under their own identifiers and
have a username exactly if every draft that the run commits has one. The first half needs no
condition: an update cannot change the identifier. -/
theorem identified_iff_drafts_named (ttl : Option Duration) (run : List Step) :
    ((∀ x ∈ (Registry.new ttl).events run, ∀ id s, x.left.sessions.find? id = some s →
        s.Identified id) ↔
      ∀ x ∈ (Registry.new ttl).events run, ∀ id draft, x.Commits id draft →
        draft.username ≠ "") ∧
    ∀ x ∈ (Registry.new ttl).events run, ∀ id s, x.left.sessions.find? id = some s →
      s.id = id ∧ s.id ≠ "" := by
  constructor
  · rw [forall_entries_iff (P := fun id s => s.Identified id) (fun id s hs => by simp at hs)
      fun x _ new hid hname => ⟨rfl, hid, hname⟩]
    refine forall₂_congr fun x _ => forall₃_congr fun id draft hdraft => ?_
    constructor
    · intro h
      simpa using h.username_ne
    · intro h
      exact ⟨id_commit .., by simpa using hdraft.id_ne, by simpa using h⟩
  · refine (forall_entries_iff (P := fun id s => s.id = id ∧ s.id ≠ "")
      (fun id s hs => by simp at hs) fun x _ new hid _ => ⟨rfl, hid⟩).mpr
      fun x _ id draft hdraft => ?_
    rw [id_commit]
    exact ⟨rfl, hdraft.id_ne⟩

/-- A session is recorded, and an update takes its username away. -/
def unnaming : List Step :=
  [{ now := ⟨0⟩, op := .add { id := "s1", username := "alice" },
      representable := Instant.representable_zero },
    { now := ⟨0⟩, op := .update "s1" fun s => .ok { s with username := "" },
      representable := Instant.representable_zero }]

/-- The update succeeds, and leaves an entry without a username. -/
theorem unnamed_entry_recorded :
    ∃ s, ((Registry.new none).after unnaming).sessions.find? "s1" = some s ∧
      ¬s.Identified "s1" :=
  ⟨_, rfl, fun h => h.username_ne rfl⟩

end Registry

end GatewayAgent
