import GatewayAgent.Proofs.Dictionary
import GatewayAgent.Session.Registry
import Mathlib.Algebra.BigOperators.Group.List.Basic
import Mathlib.Algebra.Ring.Nat
import Mathlib.Data.List.Induction

/-!
# Totals in closed form

The totals are gathered session by session. In closed form they are a length, two sums cut at the
largest count, and a number of occurrences for each user; none of these depends on the order of
the sessions (`Statistics.same_of_perm`). So a registry tells the same totals in whichever order its
entries come, and its byte totals are exact as far as they can be held
(`Registry.statistics_in_any_order`).
-/

namespace GatewayAgent

/-- The largest count of bytes. -/
def largestCount : Nat := Nat.pow 2 64 - 1

/-- A sum stays at the largest count once it would pass it. -/
theorem toNat_saturatingAdd (a b : UInt64) :
    (saturatingAdd a b).toNat = min (a.toNat + b.toNat) largestCount := by
  have hlt : min (a.toNat + b.toNat) (Nat.pow 2 64 - 1) < UInt64.size :=
    Nat.lt_of_le_of_lt (Nat.min_le_right _ _) (by decide)
  rw [saturatingAdd, UInt64.toNat_ofNat_of_lt' hlt]
  rfl

namespace Statistics

/-- The totals over a list of sessions. -/
def of (l : List Session) : Statistics := l.foldl Statistics.count {}

/-- One more session is counted on top of the others. -/
theorem of_snoc (l : List Session) (s : Session) : of (l ++ [s]) = (of l).count s := by
  rw [of, List.foldl_append]
  rfl

/-- The number of sessions is how many are listed. -/
theorem totalSessions_of (l : List Session) : (of l).totalSessions = l.length := by
  induction l using List.reverseRecOn with
  | nil => rfl
  | append_singleton l s ih =>
    rw [of_snoc, List.length_append, ← ih]
    rfl

/-- A total that adds up one count of each session is their sum, as far as it can be held. -/
theorem toNat_of_saturatingAdd {total : Statistics → UInt64} {amount : Session → UInt64}
    (hnil : total {} = 0)
    (hcount : ∀ t s, total (t.count s) = saturatingAdd (total t) (amount s)) (l : List Session) :
    (total (of l)).toNat = min (l.map fun s => (amount s).toNat).sum largestCount := by
  induction l using List.reverseRecOn with
  | nil =>
    change (total {}).toNat = _
    rw [hnil]
    rfl
  | append_singleton l s ih =>
    rw [of_snoc, hcount, toNat_saturatingAdd, ih, List.map_append, List.sum_append,
      List.map_singleton, List.sum_singleton]
    -- A sum that was cut before is cut after one more count too.
    omega

/-- The octets received are added up, but not beyond the largest count. -/
theorem totalBytesIn_of (l : List Session) :
    (of l).totalBytesIn.toNat = min (l.map (·.bytesIn.toNat)).sum largestCount :=
  toNat_of_saturatingAdd rfl (fun _ _ => rfl) l

/-- The octets sent are added up, but not beyond the largest count. -/
theorem totalBytesOut_of (l : List Session) :
    (of l).totalBytesOut.toNat = min (l.map (·.bytesOut.toNat)).sum largestCount :=
  toNat_of_saturatingAdd rfl (fun _ _ => rfl) l

/-- A user has a number if it has a session, and then it is the number of its sessions. -/
theorem find?_sessionsByUser_of (l : List Session) (username : String) :
    (of l).sessionsByUser.find? username =
      if l.countP (·.username = username) = 0 then none
      else some (l.countP (·.username = username)) := by
  induction l using List.reverseRecOn with
  | nil => rfl
  | append_singleton l s ih =>
    rw [of_snoc, count, Dictionary.find?_insert, List.countP_append, List.countP_singleton]
    by_cases h : s.username = username
    · subst h
      rw [if_pos rfl, ih]
      split_ifs <;> simp_all
    · rw [if_neg (Ne.symm h), ih]
      simp [h]

/-- The numbers of the users add up to the number of sessions. -/
theorem sum_sessionsByUser_of (l : List Session) : (of l).sessionsByUser.values.sum = l.length := by
  induction l using List.reverseRecOn with
  | nil => rfl
  | append_singleton l s ih =>
    -- The user of the new session counts one more than before.
    have hsum := Dictionary.sum_entries_insert Prod.snd (of l).sessionsByUser s.username
      (((of l).sessionsByUser.find? s.username).getD 0 + 1)
    rw [Option.map_id'] at hsum
    rw [of_snoc, List.length_append, List.length_singleton, ← ih]
    change (List.map Prod.snd _).sum = (List.map Prod.snd _).sum + 1
    exact Nat.add_right_cancel (hsum.trans (Nat.add_right_comm _ 1 _).symm)

/-! ### The order of the sessions -/

/-- Two totals that nothing tells apart but the order in which their users are listed. -/
structure Same (t u : Statistics) : Prop where
  totalSessions : t.totalSessions = u.totalSessions
  totalBytesIn : t.totalBytesIn = u.totalBytesIn
  totalBytesOut : t.totalBytesOut = u.totalBytesOut
  sessionsByUser (username : String) :
    t.sessionsByUser.find? username = u.sessionsByUser.find? username

/-- The order of the sessions makes no difference. -/
theorem same_of_perm {l l' : List Session} (h : l.Perm l') : (of l).Same (of l') where
  totalSessions := by rw [totalSessions_of, totalSessions_of, h.length_eq]
  totalBytesIn := by
    rw [← UInt64.toNat_inj, totalBytesIn_of, totalBytesIn_of, (h.map _).sum_eq]
  totalBytesOut := by
    rw [← UInt64.toNat_inj, totalBytesOut_of, totalBytesOut_of, (h.map _).sum_eq]
  sessionsByUser username := by
    rw [find?_sessionsByUser_of, find?_sessionsByUser_of, h.countP_eq]

/-- The totals at `now` over entries that come in the order `order`, live or not. -/
def gathered (order : List Session) (now : Instant) : Statistics :=
  of (order.filter fun s => !s.isExpiredAt now)

end Statistics

namespace Registry

/-- The statistics are taken from what is listed. -/
theorem statistics_eq_of (r : Registry) (now : Instant) : r.statistics now = .of (r.list now) := rfl

/-- **The totals are exact, whatever the order of the entries.** In every order they are those that
the registry tells, so any two orders give the same; the bytes are the sums over the live sessions
as long as these can be held, and the largest count otherwise. -/
theorem statistics_in_any_order (r : Registry) (now : Instant) {order order' : List Session}
    (h : order.Perm r.sessions.values) (h' : order'.Perm r.sessions.values) :
    (Statistics.gathered order now).Same (r.statistics now) ∧
      (Statistics.gathered order now).Same (Statistics.gathered order' now) ∧
      (Statistics.gathered order now).totalBytesIn.toNat =
        min (2 ^ 64 - 1) ((r.list now).map (·.bytesIn.toNat)).sum ∧
      (Statistics.gathered order now).totalBytesOut.toNat =
        min (2 ^ 64 - 1) ((r.list now).map (·.bytesOut.toNat)).sum := by
  have hlive : (order.filter fun s => !s.isExpiredAt now).Perm (r.list now) := h.filter _
  refine ⟨Statistics.same_of_perm hlive,
    Statistics.same_of_perm ((h.trans h'.symm).filter _), ?_, ?_⟩
  · rw [Statistics.gathered, Statistics.totalBytesIn_of, (hlive.map _).sum_eq, Nat.min_comm]
    rfl
  · rw [Statistics.gathered, Statistics.totalBytesOut_of, (hlive.map _).sum_eq, Nat.min_comm]
    rfl

/-- Two sessions that are live at 3, whose bytes cannot be held together, and one that is not. -/
def crowded : Registry :=
  (((Registry.new (some ⟨5⟩)).put
    { id := "s1", username := "alice", bytesIn := 0xFFFFFFFFFFFFFFFF, bytesOut := 1 }).put
    { id := "s2", username := "bob", expiresAt := some ⟨2⟩, bytesIn := 9 }).put
    { id := "s3", username := "alice", expiresAt := some ⟨3⟩, bytesIn := 7, bytesOut := 2 }

/-- From the last entry to the first, the bytes stop at the largest count just the same. -/
theorem statistics_crowded_reversed :
    (Statistics.gathered crowded.sessions.values.reverse ⟨3⟩).Same (crowded.statistics ⟨3⟩) ∧
      (Statistics.gathered crowded.sessions.values.reverse ⟨3⟩).totalBytesIn.toNat = 2 ^ 64 - 1 ∧
      (Statistics.gathered crowded.sessions.values.reverse ⟨3⟩).totalBytesOut.toNat = 3 := by
  obtain ⟨hsame, -, hbytesIn, hbytesOut⟩ := crowded.statistics_in_any_order ⟨3⟩
    (List.reverse_perm crowded.sessions.values) (List.Perm.refl crowded.sessions.values)
  exact ⟨hsame, hbytesIn.trans (by decide), hbytesOut.trans (by decide)⟩

end Registry

end GatewayAgent
