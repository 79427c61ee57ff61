import GatewayAgent.Proofs.Dictionary
import GatewayAgent.Proofs.Time.Instant
import GatewayAgent.Session.Registry

/-!
# What the registry operations do

One law for each operation, so that later proofs never unfold one. Writes come with the exact
condition under which they succeed and the registry that they leave (`add_eq_ok_iff`,
`update_eq_ok_iff`, `remove_eq_ok_iff`, `getOrCreate_eq_ok_iff`); the registries that they build
from are known by their look-ups (`find?_put`, `find?_keep`, `find?_sweep`,
`find?_removeByUsername`).
-/

namespace GatewayAgent

/-! ### Expiry -/

/-- A session is expired if its expiry is before the present. -/
theorem Session.isExpiredAt_eq_true_iff {s : Session} {now : Instant} :
    s.isExpiredAt now = true ↔ ∃ e, s.expiresAt = some e ∧ e < now := by
  simp [isExpiredAt, Option.any_eq_true]

/-- What has expired stays expired. -/
theorem Session.isExpiredAt_mono {s : Session} {now later : Instant} (hle : now ≤ later)
    (h : s.isExpiredAt now = true) : s.isExpiredAt later = true := by
  obtain ⟨e, he, hlt⟩ := isExpiredAt_eq_true_iff.mp h
  exact isExpiredAt_eq_true_iff.mpr ⟨e, he, Instant.lt_of_lt_of_le hlt hle⟩

namespace Registry

variable {r r' : Registry} {now : Instant} {id : String} {s : Session}

/-! ### Look-ups -/

@[simp]
theorem find?_new (ttl : Option Duration) (id : String) : (new ttl).sessions.find? id = none := rfl

/-- A session is put under its own id. -/
theorem find?_put (r : Registry) (s : Session) (id : String) :
    (r.put s).sessions.find? id = if id = s.id then some s else r.sessions.find? id :=
  Dictionary.find?_insert r.sessions s.id id s

/-- What is kept is found where it was. -/
theorem find?_keep (r : Registry) (p : Session → Bool) (id : String) :
    (r.keep p).sessions.find? id = (r.sessions.find? id).filter p :=
  Dictionary.find?_filter r.sessions _ id

/-- A sweep removes the sessions that are expired, and no other. -/
theorem find?_sweep (r : Registry) (now : Instant) (id : String) :
    (r.sweep now).1.sessions.find? id = (r.sessions.find? id).filter fun s => !s.isExpiredAt now :=
  find?_keep r _ id

/-- The sessions of a user are removed, and no others. -/
theorem find?_removeByUsername (r : Registry) (username id : String) :
    (r.removeByUsername username).1.sessions.find? id =
      (r.sessions.find? id).filter fun s => s.username ≠ username :=
  find?_keep r _ id

@[simp]
theorem id_stamp (r : Registry) (now : Instant) (s : Session) : (r.stamp now s).id = s.id := rfl

/-- The identifier is the key: an update cannot change it. -/
@[simp]
theorem id_commit (r : Registry) (now : Instant) (id : String) (draft : Session) :
    (r.commit now id draft).id = id := by
  rw [commit]
  split <;> rfl

@[simp]
theorem username_commit (r : Registry) (now : Instant) (id : String) (draft : Session) :
    (r.commit now id draft).username = draft.username := by
  rw [commit]
  split <;> rfl

@[simp]
theorem lastActivity_commit (r : Registry) (now : Instant) (id : String) (draft : Session) :
    (r.commit now id draft).lastActivity = some now := by
  rw [commit]
  split <;> rfl

/-! ### The time to live -/

/-- A time to live that is not zero is the registry's. -/
theorem ttl_new {ttl : Duration} (hpos : 0 < ttl.nanos) : (new (some ttl)).ttl = some ttl := by
  simp [new, hpos]

@[simp]
theorem ttl_put (r : Registry) (s : Session) : (r.put s).ttl = r.ttl := rfl

/-- With a time to live, a write sets the expiry from the present. -/
theorem expiresAt_commit (httl : r.ttl.isSome) (now : Instant) (id : String) (draft : Session) :
    (r.commit now id draft).expiresAt = r.expiryFrom now := by
  rw [commit, if_pos httl]

/-- A session expires its time to live after the present, if the clock can tell that time. -/
theorem expiryFrom_of_ttl_eq_some {ttl : Duration} (h : r.ttl = some ttl) (now : Instant) :
    r.expiryFrom now = now.add? ttl := by
  rw [expiryFrom, h, Option.bind_some]

/-- Without a time to live there is no expiry. -/
theorem expiryFrom_of_ttl_eq_none (h : r.ttl = none) (now : Instant) : r.expiryFrom now = none := by
  change r.ttl.bind now.add? = none
  rw [h, Option.bind_none]

/-- Without a time to live, an update keeps the expiry that the draft has. -/
theorem expiresAt_commit_of_ttl_eq_none (h : r.ttl = none) (now : Instant) (id : String)
    (draft : Session) : (r.commit now id draft).expiresAt = draft.expiresAt := by
  rw [commit, h]
  rfl

/-- The expiry depends on the time to live only. -/
theorem expiryFrom_congr (h : r.ttl = r'.ttl) (now : Instant) :
    r.expiryFrom now = r'.expiryFrom now := by
  rw [expiryFrom, expiryFrom, h]

/-- What a registry makes of a session is a matter of its time to live. -/
theorem stamp_congr (h : r.ttl = r'.ttl) (now : Instant) (s : Session) :
    r.stamp now s = r'.stamp now s := by
  rw [stamp, stamp, expiryFrom_congr h]

/-- What is written depends on the time to live only. -/
theorem commit_congr (h : r.ttl = r'.ttl) (now : Instant) (id : String) (draft : Session) :
    r.commit now id draft = r'.commit now id draft := by
  rw [commit, commit, expiryFrom_congr h, h]

/-! ### When operations succeed -/

/-- A session is live if it is there and not expired. -/
theorem live_eq_ok_iff :
    r.live now id = .ok s ↔ r.sessions.find? id = some s ∧ s.isExpiredAt now = false := by
  rw [live]
  cases hf : r.sessions.find? id with
  | none => simp
  | some t =>
    cases ht : t.isExpiredAt now with
    | true =>
      simp only [ht, if_true, reduceCtorEq, Option.some.injEq, false_iff, not_and]
      rintro rfl
      simp [ht]
    | false =>
      simp only [ht, Bool.false_eq_true, if_false, Except.ok.injEq, Option.some.injEq, iff_self_and]
      rintro rfl
      exact ht

/-- An id is accepted if it is not empty. -/
theorem requireId_eq_ok_iff : requireId id = .ok () ↔ id ≠ "" := by
  rw [requireId]
  split_ifs with h <;> simp [h]

/-- A session is accepted if it has an id and a username. -/
theorem validate_eq_ok_iff : validate s = .ok () ↔ s.id ≠ "" ∧ s.username ≠ "" := by
  rw [validate]
  split_ifs with hid hname
  · simp [hid]
  · simp [hname]
  · simp [hid, hname]

/-- An addition succeeds if the session is accepted, and then it is put in with the present as its
time. -/
theorem add_eq_ok_iff :
    r.add now s = .ok r' ↔ (s.id ≠ "" ∧ s.username ≠ "") ∧ r' = r.put (r.stamp now s) := by
  rw [← validate_eq_ok_iff, add]
  cases validate s with
  | error e => simp [bind, Except.bind]
  | ok u => simp [bind, Except.bind, pure, Except.pure, eq_comm]

/-- A session is got if it is live. -/
theorem get_eq_ok_iff : r.get now id = .ok s ↔ id ≠ "" ∧ r.live now id = .ok s := by
  rw [← requireId_eq_ok_iff, get]
  cases requireId id with
  | error e => simp [bind, Except.bind]
  | ok u => simp [bind, Except.bind]

/-- An update succeeds if the session is live and the change accepts it, and then the draft is
committed. -/
theorem update_eq_ok_iff {change : Session → Except String Session} :
    r.update now id change = .ok r' ↔
      id ≠ "" ∧ ∃ s draft, r.live now id = .ok s ∧ change s = .ok draft ∧
        r' = r.put (r.commit now id draft) := by
  rw [← requireId_eq_ok_iff, update]
  cases requireId id with
  | error e => simp [bind, Except.bind]
  | ok u =>
    cases r.live now id with
    | error e => simp [bind, Except.bind]
    | ok s =>
      cases hc : change s with
      | error e => simp [bind, Except.bind, hc]
      | ok draft => simp [bind, Except.bind, hc, put, eq_comm]

/-- A removal succeeds if the session is there, expired or not. -/
theorem remove_eq_ok_iff :
    r.remove id = .ok r' ↔
      id ≠ "" ∧ r.sessions.contains id = true ∧
        r' = { r with sessions := r.sessions.erase id } := by
  rw [← requireId_eq_ok_iff, remove]
  cases requireId id with
  | error e => simp [bind, Except.bind]
  | ok u => cases r.sessions.contains id <;> simp [bind, Except.bind, eq_comm]

/-- What a removal leaves is found where it was. -/
theorem find?_of_remove {id' : String} (h : r.remove id = .ok r') :
    r'.sessions.find? id' = if id' = id then none else r.sessions.find? id' := by
  obtain ⟨-, -, rfl⟩ := remove_eq_ok_iff.mp h
  exact Dictionary.find?_erase r.sessions id id'

/-- A removal fails only for want of an identifier or of a session. -/
theorem find?_of_remove_eq_error {e : SessionError} (h : r.remove id = .error e) (hid : id ≠ "") :
    r.sessions.find? id = none := by
  cases hf : r.sessions.find? id with
  | none => rfl
  | some s =>
    rw [remove_eq_ok_iff.mpr ⟨hid, Dictionary.contains_iff.mpr ⟨s, hf⟩, rfl⟩] at h
    exact absurd h (by simp)

/-- A session is found if one is live under its id, and is put in if not. -/
theorem getOrCreate_eq_ok_iff {found : Session} {created : Bool} :
    r.getOrCreate now s = .ok (r', found, created) ↔
      (s.id ≠ "" ∧ s.username ≠ "") ∧
        ((created = false ∧ r' = r ∧ r.live now s.id = .ok found) ∨
          (created = true ∧ found = r.stamp now s ∧ r' = r.put found ∧
            ∀ t, r.live now s.id ≠ .ok t)) := by
  rw [← validate_eq_ok_iff, getOrCreate]
  cases validate s with
  | error e => simp [bind, Except.bind]
  | ok u =>
    cases hl : r.live now s.id with
    | error e =>
      simp only [bind, Except.bind, pure, Except.pure, Except.ok.injEq, Prod.mk.injEq, true_and,
        reduceCtorEq, and_false, ne_eq, not_false_eq_true, implies_true, and_true, false_or]
      constructor
      · rintro ⟨rfl, rfl, rfl⟩
        exact ⟨rfl, rfl, rfl⟩
      · rintro ⟨rfl, rfl, rfl⟩
        exact ⟨rfl, rfl, rfl⟩
    | ok t =>
      simp only [bind, Except.bind, pure, Except.pure, Except.ok.injEq, Prod.mk.injEq, true_and]
      constructor
      · rintro ⟨rfl, rfl, rfl⟩
        exact .inl ⟨rfl, rfl, rfl⟩
      · rintro (⟨rfl, rfl, rfl⟩ | ⟨-, -, -, hno⟩)
        · exact ⟨rfl, rfl, rfl⟩
        · exact absurd rfl (hno t)

/-! ### Reading -/

/-- What is listed is what is there and not expired. -/
theorem mem_list_iff :
    s ∈ r.list now ↔ (∃ id, r.sessions.find? id = some s) ∧ s.isExpiredAt now = false := by
  rw [list, List.mem_filter, Dictionary.mem_values_iff]
  simp

/-- The list of a user is the part of the list that is the user's. -/
theorem listByUsername_eq_filter (r : Registry) (now : Instant) (username : String) :
    r.listByUsername now username = (r.list now).filter fun s => s.username = username := by
  rw [listByUsername, list, List.filter_filter]
  exact congrArg (List.filter · _) (funext fun s => Bool.and_comm _ _)

/-- The count is the length of the list. -/
theorem count_eq_length (r : Registry) (now : Instant) : r.count now = (r.list now).length :=
  List.countP_eq_length_filter

/-- The count of a user is the length of the user's list. -/
theorem countByUsername_eq_length (r : Registry) (now : Instant) (username : String) :
    r.countByUsername now username = (r.listByUsername now username).length :=
  List.countP_eq_length_filter

/-- What a removal counts are the user's sessions, expired or not. -/
theorem removeByUsername_snd (r : Registry) (username : String) :
    (r.removeByUsername username).2 = r.sessions.values.countP fun s => s.username = username := by
  have hsplit := List.length_eq_countP_add_countP (l := r.sessions.entries)
    fun e => decide (e.2.username ≠ username)
  have hrest : (r.removeByUsername username).1.sessions.size =
      r.sessions.entries.countP fun e => decide (e.2.username ≠ username) :=
    List.countP_eq_length_filter.symm
  have hgone : (r.sessions.values.countP fun s => s.username = username) =
      r.sessions.entries.countP fun e => !decide (e.2.username ≠ username) := by
    rw [Dictionary.values, List.countP_map]
    exact List.countP_congr fun e _ => by simp
  change r.sessions.entries.length - (r.removeByUsername username).1.sessions.size = _
  rw [hrest, hgone, hsplit]
  simp

/-- Every session is recorded under its own identifier. -/
def Keyed (r : Registry) : Prop := ∀ id s, r.sessions.find? id = some s → s.id = id

/-- Where sessions are under their own ids, no two have the same one. -/
theorem Keyed.nodup_ids (h : r.Keyed) : (r.sessions.values.map Session.id).Nodup := by
  have hkeys : r.sessions.values.map Session.id = r.sessions.keys := by
    rw [Dictionary.values, Dictionary.keys, List.map_map]
    exact List.map_congr_left fun e he => h e.1 e.2 (Dictionary.mem_entries_iff.mp he)
  rw [hkeys]
  exact r.sessions.keys_nodup

end Registry

end GatewayAgent
