/-!
# Dictionaries

A finite map that remembers the order in which its keys first appeared. No key occurs twice,
which is part of the type. The view of a dictionary is `find?`; the order of `entries` matters
only where entries are listed.

Main statements: `find?_insert` and `find?_erase`, what the operations do to the view.
-/

namespace GatewayAgent

variable {κ α : Type} [DecidableEq κ]

/-- Puts `v` under `k`, in the place of the entry that is there or else at the end. -/
def insertEntry (k : κ) (v : α) : List (κ × α) → List (κ × α)
  | [] => [(k, v)]
  | e :: r => if e.1 = k then (k, v) :: r else e :: insertEntry k v r

theorem keys_insertEntry (k : κ) (v : α) (es : List (κ × α)) :
    (insertEntry k v es).map Prod.fst =
      if k ∈ es.map Prod.fst then es.map Prod.fst else es.map Prod.fst ++ [k] := by
  induction es with
  | nil => simp [insertEntry]
  | cons e r ih =>
    by_cases h : e.1 = k
    · simp [insertEntry, h]
    · have h' : ¬k = e.1 := fun hk => h hk.symm
      simp only [insertEntry, if_neg h, List.map_cons, ih, List.mem_cons, h', false_or]
      split <;> rfl

theorem nodup_keys_insertEntry {k : κ} {v : α} {es : List (κ × α)}
    (h : (es.map Prod.fst).Nodup) : ((insertEntry k v es).map Prod.fst).Nodup := by
  rw [keys_insertEntry]
  split
  · exact h
  · next hk =>
    simpa [List.nodup_append, h] using fun a x hx ha => hk (by simpa [← ha] using ⟨x, hx⟩)

omit [DecidableEq κ] in
theorem nodup_keys_filter {p : κ × α → Bool} {es : List (κ × α)}
    (h : (es.map Prod.fst).Nodup) : ((es.filter p).map Prod.fst).Nodup :=
  h.sublist (List.Sublist.map _ List.filter_sublist)

/-- A finite map from keys to values. -/
structure Dictionary (κ α : Type) [DecidableEq κ] where
  /-- The entries, in the order in which their keys first appeared. -/
  entries : List (κ × α) := []
  /-- No key occurs twice. -/
  keys_nodup : (entries.map Prod.fst).Nodup := by simp

namespace Dictionary

/-- The dictionary without entries. -/
def empty : Dictionary κ α where
  entries := []

instance : EmptyCollection (Dictionary κ α) := ⟨empty⟩

instance : Inhabited (Dictionary κ α) := ⟨empty⟩

/-- The value under a key. -/
def find? (d : Dictionary κ α) (k : κ) : Option α :=
  (d.entries.find? fun e => e.1 = k).map Prod.snd

/-- Whether there is a value under a key. -/
def contains (d : Dictionary κ α) (k : κ) : Bool := (d.find? k).isSome

/-- The keys, in order of first appearance. -/
def keys (d : Dictionary κ α) : List κ := d.entries.map Prod.fst

/-- The values, in order of first appearance of their keys. -/
def values (d : Dictionary κ α) : List α := d.entries.map Prod.snd

/-- The number of entries. -/
def size (d : Dictionary κ α) : Nat := d.entries.length

/-- Puts `v` under `k`, replacing what was there. -/
def insert (d : Dictionary κ α) (k : κ) (v : α) : Dictionary κ α where
  entries := insertEntry k v d.entries
  keys_nodup := nodup_keys_insertEntry d.keys_nodup

/-- Keeps the entries that satisfy `p`. -/
def filter (d : Dictionary κ α) (p : κ → α → Bool) : Dictionary κ α where
  entries := d.entries.filter fun e => p e.1 e.2
  keys_nodup := nodup_keys_filter d.keys_nodup

/-- Removes the value under a key. -/
def erase (d : Dictionary κ α) (k : κ) : Dictionary κ α := d.filter fun k' _ => k' ≠ k

/-- The dictionary of a list of entries, where a later entry replaces an earlier one. -/
def ofList (es : List (κ × α)) : Dictionary κ α :=
  es.foldl (fun d e => d.insert e.1 e.2) empty

theorem find?_insertEntry (k k' : κ) (v : α) (es : List (κ × α)) :
    ((insertEntry k v es).find? fun e => e.1 = k').map Prod.snd =
      if k' = k then some v else (es.find? fun e => e.1 = k').map Prod.snd := by
  induction es with
  | nil => by_cases h : k' = k <;> simp [insertEntry, h, eq_comm]
  | cons e r ih =>
    by_cases he : e.1 = k
    · by_cases h : k' = k
      · simp [insertEntry, he, h]
      · have h' : ¬k = k' := fun hk => h hk.symm
        simp [insertEntry, he, h, h']
    · by_cases h : k' = k
      · subst h
        simpa [insertEntry, he, List.find?_cons] using ih
      · by_cases hk : e.1 = k'
        · subst hk
          simp [insertEntry, he]
        · simpa [insertEntry, he, h, hk, List.find?_cons] using ih

theorem find?_insert (d : Dictionary κ α) (k k' : κ) (v : α) :
    (d.insert k v).find? k' = if k' = k then some v else d.find? k' :=
  find?_insertEntry k k' v d.entries

theorem find?_erase (d : Dictionary κ α) (k k' : κ) :
    (d.erase k).find? k' = if k' = k then none else d.find? k' := by
  simp only [erase, filter, find?, List.find?_filter]
  by_cases h : k' = k
  · subst h
    simp
  · rw [if_neg h]
    congr 2
    funext e
    by_cases he : e.1 = k' <;> simp [he, h]

end Dictionary

end GatewayAgent
