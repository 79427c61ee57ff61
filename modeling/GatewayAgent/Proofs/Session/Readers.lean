import GatewayAgent.Proofs.Session.Provenance
import GatewayAgent.Proofs.Session.Statistics

/-!
# All readers agree

The registry is read in seven ways: by identifier, as a list, by user, and in numbers. Each way
looks for live sessions on its own. `ReadersAgree` says that at one clock reading they all tell the
same, and `readers_agree` that this is so in every registry that a run can leave.

A look-up goes by key and a list by entry, so what ties the two together is that every session is
recorded under its own identifier, which is not empty (`entry_after`).
-/

namespace GatewayAgent

namespace Registry

/-- What the readers of a registry tell at a clock reading is the same for all. -/
structure ReadersAgree (r : Registry) (now : Instant) : Prop where
  /-- No identifier is listed twice. -/
  nodup_ids : ((r.list now).map Session.id).Nodup
  get_iff (id : String) (s : Session) : r.get now id = .ok s ↔ s ∈ r.list now ∧ s.id = id
  contains_iff (id : String) : r.contains now id = true ↔ ∃ s, r.get now id = .ok s
  count_eq : r.count now = (r.list now).length
  listByUsername_eq (username : String) :
    r.listByUsername now username = (r.list now).filter fun s => s.username = username
  countByUsername_eq (username : String) :
    r.countByUsername now username = (r.listByUsername now username).length
  /-- A user without an entry in the totals has no live session. -/
  sessionsByUser_eq (username : String) :
    ((r.statistics now).sessionsByUser.find? username).getD 0 = r.countByUsername now username
  sessionsByUser_ne_zero (username : String) :
    (r.statistics now).sessionsByUser.find? username ≠ some 0
  totalSessions_eq : (r.statistics now).totalSessions = r.count now
  sum_sessionsByUser : (r.statistics now).sessionsByUser.values.sum = r.count now

variable {r : Registry} {now : Instant} {id username : String}

/-! ### Totals by user -/

/-- The count of a user is the number of the user's sessions in the list. -/
theorem countByUsername_eq_countP (r : Registry) (now : Instant) (username : String) :
    r.countByUsername now username = (r.list now).countP fun s => s.username = username := by
  rw [countByUsername_eq_length, listByUsername_eq_filter, List.countP_eq_length_filter]

/-- The statistics have an entry for each user with a live session, and it is the user's count. -/
theorem find?_sessionsByUser (r : Registry) (now : Instant) (username : String) :
    (r.statistics now).sessionsByUser.find? username =
      if r.countByUsername now username = 0 then none
      else some (r.countByUsername now username) := by
  rw [statistics_eq_of, Statistics.find?_sessionsByUser_of, countByUsername_eq_countP]

/-! ### Look-ups and lists -/

/-- A session is contained if it can be got. -/
theorem contains_eq_true_iff : r.contains now id = true ↔ ∃ s, r.get now id = .ok s := by
  rw [contains]
  cases r.get now id <;> simp [Except.isOk, Except.toBool]

/-- No two sessions in the list have the same id. -/
theorem Keyed.nodup_ids_list (h : r.Keyed) (now : Instant) :
    ((r.list now).map Session.id).Nodup :=
  h.nodup_ids.sublist (List.filter_sublist.map Session.id)

/-- A look-up finds what is listed with the identifier, as long as nothing is recorded without
one. -/
theorem Keyed.get_eq_ok_iff_mem_list (h : r.Keyed) (hempty : r.sessions.find? "" = none)
    (s : Session) : r.get now id = .ok s ↔ s ∈ r.list now ∧ s.id = id := by
  rw [get_eq_ok_iff, live_eq_ok_iff, mem_list_iff]
  constructor
  · rintro ⟨-, hfind, hlive⟩
    exact ⟨⟨⟨id, hfind⟩, hlive⟩, h id s hfind⟩
  · rintro ⟨⟨⟨key, hfind⟩, hlive⟩, rfl⟩
    -- The entry that was listed sits under its own identifier.
    obtain rfl : s.id = key := h key s hfind
    refine ⟨fun hid => ?_, hfind, hlive⟩
    rw [hid, hempty] at hfind
    exact Option.some_ne_none s hfind.symm

/-! ### Runs -/

/-- Whatever updates do, a run leaves every entry under its own identifier, and none without
one. -/
theorem entry_after {ttl : Option Duration} {run : List Step} {s : Session}
    (h : ((Registry.new ttl).after run).sessions.find? id = some s) : s.id = id ∧ id ≠ "" := by
  have hfirst : ∀ id s, (Registry.new ttl).sessions.find? id = some s → s.id = id ∧ id ≠ "" :=
    fun id s hs => by simp at hs
  refine forall_after hfirst ((forall_entries_iff hfirst ?_).mpr ?_) h
  · exact fun x _ new hid _ => ⟨rfl, hid⟩
  · exact fun x _ id draft hdraft => ⟨id_commit .., hdraft.id_ne⟩

/-- **All readers agree.** In every state that a run leaves, whatever its operations, updates and
clock readings were, the seven readers tell the same at every clock reading. -/
theorem readers_agree (ttl : Option Duration) (run : List Step) (now : Instant) :
    ((Registry.new ttl).after run).ReadersAgree now := by
  have hkeyed : ((Registry.new ttl).after run).Keyed := fun id s hs => (entry_after hs).1
  have hempty : ((Registry.new ttl).after run).sessions.find? "" = none :=
    Option.eq_none_iff_forall_ne_some.mpr fun s hs => (entry_after hs).2 rfl
  exact {
    nodup_ids := hkeyed.nodup_ids_list now
    get_iff := fun id s => hkeyed.get_eq_ok_iff_mem_list hempty s
    contains_iff := fun id => contains_eq_true_iff
    count_eq := count_eq_length _ now
    listByUsername_eq := listByUsername_eq_filter _ now
    countByUsername_eq := countByUsername_eq_length _ now
    sessionsByUser_eq := fun username => by
      rw [find?_sessionsByUser]
      split_ifs with hzero
      · exact hzero.symm
      · rfl
    sessionsByUser_ne_zero := fun username => by
      rw [find?_sessionsByUser]
      split_ifs with hzero
      · exact (Option.some_ne_none 0).symm
      · exact fun h => hzero (Option.some.inj h)
    totalSessions_eq := by
      rw [statistics_eq_of, Statistics.totalSessions_of, count_eq_length]
    sum_sessionsByUser := by
      rw [statistics_eq_of, Statistics.sum_sessionsByUser_of, count_eq_length] }

end Registry

end GatewayAgent
