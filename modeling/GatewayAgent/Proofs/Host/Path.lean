import GatewayAgent.Host.Path
import Mathlib.Data.List.Basic
import Mathlib.Data.List.Induction

/-!
# The last name of a path

A path is a *stem*, which is empty or ends with a slash, and a name without a slash behind it
(`exists_stem_append`). A suffix to the path is a suffix to that name, and so is the name that is
joined to a directory (`join_eq_stem_append`). Where the path leads depends on the stem by its parts
only, to which the name adds one more (`names_append`).
-/

namespace GatewayAgent.Path

/-! ### Segments -/

theorem segments_ne_nil (cs : List Char) : segments cs ≠ [] := by
  cases cs with
  | nil => simp [segments]
  | cons c cs =>
    rw [segments]
    split
    · simp
    · split <;> simp

/-- A character opens a new segment if it is a slash, and else belongs to the first. -/
theorem segments_cons {cs s : List Char} {ss : List (List Char)} (h : segments cs = s :: ss)
    (c : Char) : segments (c :: cs) = if c = '/' then [] :: s :: ss else (c :: s) :: ss := by
  rw [segments, h]

/-- Without a slash there is one segment. -/
theorem segments_of_not_mem {cs : List Char} (h : '/' ∉ cs) : segments cs = [cs] := by
  induction cs with
  | nil => rfl
  | cons c cs ih =>
    rw [List.mem_cons, not_or] at h
    rw [segments_cons (ih h.2), if_neg (Ne.symm h.1)]

/-- A slash separates the segments before it from those behind it. -/
theorem segments_append_slash (a b : List Char) :
    segments (a ++ '/' :: b) = segments a ++ segments b := by
  induction a with
  | nil =>
    obtain ⟨s, ss, h⟩ := List.exists_cons_of_ne_nil (segments_ne_nil b)
    rw [List.nil_append, segments_cons h, if_pos rfl, h]
    rfl
  | cons c a ih =>
    obtain ⟨s, ss, h⟩ := List.exists_cons_of_ne_nil (segments_ne_nil a)
    rw [h, List.cons_append] at ih
    rw [List.cons_append, segments_cons ih, segments_cons h]
    split <;> rfl

/-! ### Stems and names -/

/-- The path is empty or ends with a slash. -/
def IsStem (p : String) : Prop := p = "" ∨ endsWithSlash p = true

/-- The text can stand between two slashes as a part of a path. -/
structure IsName (name : String) : Prop where
  ne_empty : name ≠ ""
  no_slash : '/' ∉ name.toList

/-- The text names an entry of a directory, and not the directory itself or the one above. -/
structure IsEntry (name : String) : Prop extends IsName name where
  ne_here : name ≠ "."
  ne_above : name ≠ ".."

/-- The parts of a path that are not empty. -/
def names (p : String) : List String := (parts p).filter (· ≠ "")

variable {stem name : String}

theorem IsName.toList_ne_nil (h : IsName name) : name.toList ≠ [] :=
  fun hnil => h.ne_empty (String.toList_eq_nil_iff.mp hnil)

theorem IsName.append_suffix (h : IsName name) {suffix : String} (hsuffix : '/' ∉ suffix.toList) :
    IsName (name ++ suffix) := by
  refine ⟨fun heq => h.ne_empty ?_, ?_⟩
  · rw [← String.toList_eq_nil_iff, String.toList_append, List.append_eq_nil_iff] at heq
    exact String.toList_eq_nil_iff.mp heq.1
  · rw [String.toList_append, List.mem_append, not_or]
    exact ⟨h.no_slash, hsuffix⟩

/-- With a suffix of two characters or more, a name is too long for a special name. -/
theorem IsName.isEntry_append (h : IsName name) {suffix : String} (hsuffix : '/' ∉ suffix.toList)
    (hlength : 2 ≤ suffix.toList.length) : IsEntry (name ++ suffix) := by
  have hlong : ∀ special : String, special.toList.length ≤ 2 → name ++ suffix ≠ special := by
    rintro special hshort rfl
    have hpos := List.length_pos_iff.mpr h.toList_ne_nil
    rw [String.toList_append, List.length_append] at hshort
    omega
  exact ⟨h.append_suffix hsuffix, hlong "." (by decide), hlong ".." (by decide)⟩

/-- A suffix of three characters or more makes an entry of anything without a slash. -/
theorem isEntry_append {rest suffix : String} (hrest : '/' ∉ rest.toList)
    (hsuffix : '/' ∉ suffix.toList) (hlength : 3 ≤ suffix.toList.length) :
    IsEntry (rest ++ suffix) := by
  have hlong : ∀ special : String, special.toList.length ≤ 2 → rest ++ suffix ≠ special := by
    rintro special hshort rfl
    rw [String.toList_append, List.length_append] at hshort
    omega
  refine ⟨⟨hlong "" (by decide), ?_⟩, hlong "." (by decide), hlong ".." (by decide)⟩
  rw [String.toList_append, List.mem_append, not_or]
  exact ⟨hrest, hsuffix⟩

/-- A stem that is not empty ends with a slash. -/
theorem IsStem.exists_eq_append_slash (h : IsStem stem) (hne : stem ≠ "") :
    ∃ cs, stem.toList = cs ++ ['/'] := by
  have hlast : stem.toList.getLast? = some '/' := by
    simpa [endsWithSlash] using h.resolve_left hne
  obtain ⟨cs, hcs⟩ := List.getLast?_eq_some_iff.mp hlast
  exact ⟨cs, hcs⟩

/-- A name is one more part. -/
theorem names_append (hstem : IsStem stem) (hname : IsName name) :
    names (stem ++ name) = names stem ++ [name] := by
  have hparts : parts name = [name] := by
    rw [parts, segments_of_not_mem hname.no_slash, List.map_singleton, String.ofList_toList]
  by_cases hempty : stem = ""
  · subst hempty
    rw [String.empty_append, names, hparts]
    simp [names, parts, segments, hname.ne_empty]
  · obtain ⟨cs, hcs⟩ := hstem.exists_eq_append_slash hempty
    have hstem : parts stem = (segments cs).map String.ofList ++ [""] := by
      rw [parts, hcs, segments_append_slash, List.map_append]
      rfl
    have happend : parts (stem ++ name) = (segments cs).map String.ofList ++ [name] := by
      rw [parts, String.toList_append, hcs, List.append_assoc, List.singleton_append,
        segments_append_slash, List.map_append, ← parts, hparts]
    rw [names, names, hstem, happend, List.filter_append, List.filter_append]
    simp [hname.ne_empty]

/-- Whether a path is absolute shows in its stem. -/
theorem isAbsolute_append (hname : IsName name) : isAbsolute (stem ++ name) = isAbsolute stem := by
  rw [isAbsolute, isAbsolute, String.toList_append]
  cases hcs : stem.toList with
  | cons c cs => rfl
  | nil =>
    -- The name itself does not begin with a slash.
    have hhead : name.toList.head? ≠ some '/' := fun h =>
      hname.no_slash (List.mem_of_mem_head? h)
    simp [hhead]

theorem endsWithSlash_append (hname : IsName name) : endsWithSlash (stem ++ name) = false := by
  have hlast : (stem.toList ++ name.toList).getLast? ≠ some '/' := by
    rw [List.getLast?_append_of_ne_nil _ hname.toList_ne_nil]
    exact fun h => hname.no_slash (List.mem_of_getLast? h)
  rw [endsWithSlash, String.toList_append]
  exact decide_eq_false hlast

theorem append_ne_empty (hname : IsName name) : stem ++ name ≠ "" := by
  rw [Ne, ← String.toList_eq_nil_iff, String.toList_append, List.append_eq_nil_iff]
  exact fun h => hname.toList_ne_nil h.2

/-- A path is a stem and a rest without a slash, which may be empty. -/
theorem exists_stem_append_rest (p : String) :
    ∃ stem rest, p = stem ++ rest ∧ IsStem stem ∧ '/' ∉ rest.toList := by
  have hsplit : ∀ cs : List Char, ∃ a b, cs = a ++ b ∧ '/' ∉ b ∧
      (a = [] ∨ a.getLast? = some '/') := by
    intro cs
    induction cs using List.reverseRecOn with
    | nil => exact ⟨[], [], rfl, List.not_mem_nil, .inl rfl⟩
    | append_singleton cs c ih =>
      by_cases hc : c = '/'
      · exact ⟨cs ++ [c], [], by simp, List.not_mem_nil, .inr (by simp [hc])⟩
      · obtain ⟨a, b, rfl, hb, ha⟩ := ih
        exact ⟨a, b ++ [c], by simp, by simp [hb, Ne.symm hc], ha⟩
  obtain ⟨a, b, hab, hb, ha⟩ := hsplit p.toList
  have hp : p = String.ofList a ++ String.ofList b := by
    rw [← String.ofList_append, ← hab, String.ofList_toList]
  have hstem : IsStem (String.ofList a) := by
    rcases ha with rfl | ha
    · exact .inl rfl
    · exact .inr (by simp [endsWithSlash, ha])
  exact ⟨_, _, hp, hstem, by simpa using hb⟩

/-- A path that is not empty and does not end with a slash ends with a name. -/
theorem exists_stem_append {p : String} (hne : p ≠ "") (hslash : endsWithSlash p = false) :
    ∃ stem name, p = stem ++ name ∧ IsStem stem ∧ IsName name := by
  obtain ⟨stem, name, hp, hstem, hname⟩ := exists_stem_append_rest p
  refine ⟨stem, name, hp, hstem, fun hempty => ?_, hname⟩
  -- Without a name, the path would be its stem.
  rw [hempty, String.append_empty] at hp
  rw [← hp] at hstem
  rcases hstem with h | h
  · exact hne h
  · rw [hslash] at h
    exact Bool.false_ne_true h

/-! ### Joining -/

/-- What a name is appended to when it is joined to a directory. -/
def asStem (dir : String) : String :=
  if dir.isEmpty || endsWithSlash dir then dir else dir ++ "/"

/-- A directory with a slash at its end is a stem. -/
theorem isStem_asStem (dir : String) : IsStem (asStem dir) := by
  rw [asStem]
  split_ifs with h
  · simpa [IsStem] using h
  · exact .inr (by simp [endsWithSlash])

/-- To join a name is to put it behind the stem of the directory. -/
theorem join_eq_stem_append (dir : String) (hname : IsName name) :
    join dir name = asStem dir ++ name := by
  have habsolute : isAbsolute ("" ++ name) = isAbsolute "" := isAbsolute_append hname
  rw [String.empty_append] at habsolute
  have hempty_relative : isAbsolute "" = false := by decide
  rw [join, asStem, habsolute, hempty_relative, Bool.false_or]
  by_cases hempty : dir.isEmpty = true
  · rw [if_pos hempty, if_pos (by simp [hempty]), String.isEmpty_iff.mp hempty,
      String.empty_append]
  · by_cases hslash : endsWithSlash dir = true
    · rw [if_neg hempty, if_pos hslash, if_pos (by simp [hslash])]
    · rw [if_neg hempty, if_neg hslash, if_neg (by simp [hempty, hslash])]

end GatewayAgent.Path
