import GatewayAgent.Data.Dictionary
import Mathlib.Algebra.GroupWithZero.Nat
import Mathlib.Data.List.Nodup

/-!
# The view of a dictionary

A dictionary is known by its look-ups: `mem_entries_iff` reads membership off `find?`, and two
dictionaries with the same look-ups have the same entries up to order
(`entries_perm_of_find?_eq`). Everything that does not depend on the order of the entries can
therefore be proved through `find?`; `find?_filter` completes the laws of the operations.

What is counted over the values or summed up over the entries changes by one entry at a time:
`countP_values_insert` and `sum_entries_insert`.
-/

namespace GatewayAgent

namespace Dictionary

variable {κ α : Type} [DecidableEq κ]

/-! ### Look-up and membership -/

/-- In a list without repeated keys an entry is what its key finds. -/
private theorem mem_iff_find?_of_nodup {es : List (κ × α)} (h : (es.map Prod.fst).Nodup)
    {k : κ} {v : α} :
    (k, v) ∈ es ↔ (es.find? fun e => e.1 = k).map Prod.snd = some v := by
  induction es with
  | nil => simp
  | cons e es ih =>
    rw [List.map_cons, List.nodup_cons] at h
    by_cases he : e.1 = k
    · -- The key does not occur again, so its entry is the first one.
      subst he
      have hnot : (e.1, v) ∉ es := fun hm => h.1 (List.mem_map.mpr ⟨_, hm, rfl⟩)
      simp only [List.mem_cons, hnot, or_false, List.find?_cons, decide_true, Option.map_some,
        Option.some.injEq]
      exact ⟨fun hv => by rw [← hv], fun hv => by rw [← hv]⟩
    · have hne : (k, v) ≠ e := fun hv => he (by rw [← hv])
      rw [List.mem_cons, or_iff_right hne, ih h.2, List.find?_cons]
      simp [he]

theorem mem_entries_iff {d : Dictionary κ α} {k : κ} {v : α} :
    (k, v) ∈ d.entries ↔ d.find? k = some v :=
  mem_iff_find?_of_nodup d.keys_nodup

theorem mem_values_iff {d : Dictionary κ α} {v : α} :
    v ∈ d.values ↔ ∃ k, d.find? k = some v := by
  rw [values, List.mem_map]
  constructor
  · rintro ⟨e, he, rfl⟩
    exact ⟨e.1, mem_entries_iff.mp he⟩
  · rintro ⟨k, hk⟩
    exact ⟨(k, v), mem_entries_iff.mpr hk, rfl⟩

theorem entries_nodup (d : Dictionary κ α) : d.entries.Nodup :=
  List.Nodup.of_map _ d.keys_nodup

theorem contains_iff {d : Dictionary κ α} {k : κ} : d.contains k ↔ ∃ v, d.find? k = some v :=
  Option.isSome_iff_exists

theorem find?_filter (d : Dictionary κ α) (p : κ → α → Bool) (k : κ) :
    (d.filter p).find? k = (d.find? k).filter (p k) := by
  refine Option.ext fun v => ?_
  rw [Option.filter_eq_some_iff, ← mem_entries_iff, ← mem_entries_iff, filter, List.mem_filter]

/-! ### Order -/

/-- The look-ups determine the entries up to their order. -/
theorem entries_perm_of_find?_eq {d d' : Dictionary κ α} (h : ∀ k, d.find? k = d'.find? k) :
    d.entries.Perm d'.entries := by
  refine (List.perm_ext_iff_of_nodup d.entries_nodup d'.entries_nodup).mpr fun e => ?_
  rw [show e = (e.1, e.2) from rfl, mem_entries_iff, mem_entries_iff, h]

theorem values_perm_of_find?_eq {d d' : Dictionary κ α} (h : ∀ k, d.find? k = d'.find? k) :
    d.values.Perm d'.values :=
  (entries_perm_of_find?_eq h).map _

/-! ### Counting -/

private theorem countP_insertEntry (p : α → Bool) (k : κ) (v : α) (es : List (κ × α)) :
    ((insertEntry k v es).map Prod.snd).countP p +
        ((es.find? fun e => e.1 = k).map Prod.snd).toList.countP p =
      (es.map Prod.snd).countP p + [v].countP p := by
  induction es with
  | nil => simp [insertEntry]
  | cons e es ih =>
    by_cases he : e.1 = k
    · -- The first entry makes room for the new one.
      rw [insertEntry, if_pos he, List.find?_cons_of_pos (by simpa using he)]
      simp only [List.map_cons, Option.map_some, Option.toList_some, List.countP_cons,
        List.countP_nil]
      omega
    · rw [insertEntry, if_neg he, List.find?_cons_of_neg (by simpa using he)]
      rw [List.map_cons, List.map_cons, List.countP_cons, List.countP_cons]
      omega

/-- An insertion counts the new value and no longer counts the one that it replaces. -/
theorem countP_values_insert (p : α → Bool) (d : Dictionary κ α) (k : κ) (v : α) :
    (d.insert k v).values.countP p + (d.find? k).toList.countP p =
      d.values.countP p + [v].countP p :=
  countP_insertEntry p k v d.entries

/-- Dictionaries that differ under one key only differ in size by what they have there. -/
theorem size_add_of_find?_eq [Inhabited α] {d d' : Dictionary κ α} {k : κ}
    (h : ∀ k', k' ≠ k → d'.find? k' = d.find? k') :
    d'.size + (d.find? k).toList.length = d.size + (d'.find? k).toList.length := by
  -- With the same value under the key, both have the same entries.
  have hperm : (d'.insert k default).values.Perm (d.insert k default).values := by
    refine values_perm_of_find?_eq fun k' => ?_
    rw [find?_insert, find?_insert]
    split_ifs with hk
    · rfl
    · exact h k' hk
  have hsize := hperm.length_eq
  have hd := countP_values_insert (fun _ => true) d k default
  have hd' := countP_values_insert (fun _ => true) d' k default
  simp only [List.countP_true, values, List.length_map, List.length_singleton] at hd hd' hsize
  rw [size, size]
  omega

private theorem sum_insertEntry (f : κ × α → Nat) (k : κ) (v : α) (es : List (κ × α)) :
    ((insertEntry k v es).map f).sum +
        (((es.find? fun e => e.1 = k).map Prod.snd).map fun old => f (k, old)).getD 0 =
      (es.map f).sum + f (k, v) := by
  induction es with
  | nil => simp [insertEntry]
  | cons e es ih =>
    obtain ⟨k', w⟩ := e
    by_cases he : k' = k
    · subst he
      rw [insertEntry, if_pos rfl, List.find?_cons_of_pos (by simp)]
      simp only [List.map_cons, List.sum_cons, Option.map_some, Option.getD_some]
      omega
    · rw [insertEntry, if_neg he, List.find?_cons_of_neg (by simpa using he)]
      simp only [List.map_cons, List.sum_cons]
      omega

/-- An insertion adds the new entry to a sum and takes out the one that it replaces. -/
theorem sum_entries_insert (f : κ × α → Nat) (d : Dictionary κ α) (k : κ) (v : α) :
    ((d.insert k v).entries.map f).sum + ((d.find? k).map fun old => f (k, old)).getD 0 =
      (d.entries.map f).sum + f (k, v) :=
  sum_insertEntry f k v d.entries

/-! ### Insertion and removal -/

theorem eq_of_entries_eq {d d' : Dictionary κ α} (h : d.entries = d'.entries) : d = d' := by
  cases d
  cases d'
  cases h
  rfl

private theorem insertEntry_insertEntry (k : κ) (v w : α) (es : List (κ × α)) :
    insertEntry k w (insertEntry k v es) = insertEntry k w es := by
  induction es with
  | nil => simp [insertEntry]
  | cons e es ih =>
    by_cases he : e.1 = k
    · simp [insertEntry, he]
    · simp [insertEntry, he, ih]

/-- Of two insertions under one key the later one stays. -/
@[simp]
theorem insert_insert (d : Dictionary κ α) (k : κ) (v w : α) :
    (d.insert k v).insert k w = d.insert k w :=
  eq_of_entries_eq (insertEntry_insertEntry k v w d.entries)

/-- Where there is nothing under a key, its removal changes nothing. -/
theorem erase_of_find?_eq_none {d : Dictionary κ α} {k : κ} (h : d.find? k = none) :
    d.erase k = d := by
  refine eq_of_entries_eq (List.filter_eq_self.mpr fun e he => decide_eq_true fun hk => ?_)
  rw [← hk, mem_entries_iff.mp he] at h
  exact Option.some_ne_none _ h

end Dictionary

end GatewayAgent
