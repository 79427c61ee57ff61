import GatewayAgent.Host.FileSystem
import GatewayAgent.Proofs.Dictionary
import GatewayAgent.Proofs.Host.Path
import Mathlib.Data.Set.Basic
import Mathlib.Logic.Function.Basic

/-!
# What requests do to a file system

A file system is known by what is at its places. A request that succeeds changes one place, or two
for a rename: it makes `Edit`s. `Writable` says when a file can be written at a path, and then what
`openTruncated`, `copy` and `rename` leave behind is known (`openTruncated_of_writable`,
`copy_of_writable`, `rename_of_file`).

Where a path leads depends on the directories only. So as long as the same directories are there
(`SameOutside`), a path leads to the same place.
-/

namespace GatewayAgent.FileSystem

variable {fs fs' fs'' : FileSystem} {place : Location} {path : String}

/-! ### Edits -/

/-- One place has changed, and nothing else. -/
structure Edit (fs : FileSystem) (place : Location) (n : Option FileNode) (fs' : FileSystem) :
    Prop where
  workingDirectory_eq : fs'.workingDirectory = fs.workingDirectory
  node?_eq : fs'.node? = Function.update fs.node? place n

/-- What is not a directory is not the root. -/
theorem ne_nil_of_node? (h : fs.node? place ≠ some .directory) : place ≠ [] := by
  rintro rfl
  exact h rfl

/-- A file is not the root. -/
theorem ne_nil_of_file {content : Bytes} {mode : Nat}
    (h : fs.node? place = some (.file content mode)) : place ≠ [] := by
  rintro rfl
  simp [node?] at h

/-- Everywhere but at the root, what is there is what is on record. -/
theorem node?_of_ne_nil (h : place ≠ []) : fs.node? place = fs.nodes.find? place :=
  if_neg (by simpa using h)

/-- To put something at a place changes that place only. -/
theorem edit_put (h : place ≠ []) (n : FileNode) : fs.Edit place (some n) (fs.put place n) := by
  refine ⟨rfl, funext fun p => ?_⟩
  -- The root is a directory whatever the nodes are, so it is looked at apart.
  by_cases hp : p = []
  · subst hp
    rw [Function.update_of_ne (Ne.symm h)]
    rfl
  · rw [node?_of_ne_nil hp, put, Dictionary.find?_insert, Function.update_apply,
      node?_of_ne_nil hp]

/-- To take away what is at a place changes that place only. -/
theorem edit_drop (h : place ≠ []) : fs.Edit place none (fs.drop place) := by
  refine ⟨rfl, funext fun p => ?_⟩
  by_cases hp : p = []
  · subst hp
    rw [Function.update_of_ne (Ne.symm h)]
    rfl
  · rw [node?_of_ne_nil hp, drop, Dictionary.find?_erase, Function.update_apply,
      node?_of_ne_nil hp]

namespace Edit

variable {n n' : Option FileNode}

/-- The place of a change has what was put there. -/
theorem node?_self (h : fs.Edit place n fs') : fs'.node? place = n := by
  rw [h.node?_eq, Function.update_self]

/-- All other places have what they had. -/
theorem node?_of_ne (h : fs.Edit place n fs') {p : Location} (hp : p ≠ place) :
    fs'.node? p = fs.node? p := by
  rw [h.node?_eq, Function.update_of_ne hp]

/-- Of two edits of one place the second counts. -/
theorem trans (h : fs.Edit place n fs') (h' : fs'.Edit place n' fs'') : fs.Edit place n' fs'' :=
  ⟨h'.workingDirectory_eq.trans h.workingDirectory_eq, by
    rw [h'.node?_eq, h.node?_eq, Function.update_idem]⟩

end Edit

/-! ### The same directories -/

/-- The file systems have the same directories, and differ at most at some places. -/
structure SameOutside (places : Set Location) (fs fs' : FileSystem) : Prop where
  workingDirectory_eq : fs'.workingDirectory = fs.workingDirectory
  node?_eq : ∀ p ∉ places, fs'.node? p = fs.node? p
  directory_iff : ∀ p, fs'.node? p = some .directory ↔ fs.node? p = some .directory

namespace SameOutside

variable {places : Set Location}

theorem refl (places : Set Location) (fs : FileSystem) : fs.SameOutside places fs :=
  ⟨rfl, fun _ _ => rfl, fun _ => Iff.rfl⟩

theorem symm (h : fs.SameOutside places fs') : fs'.SameOutside places fs :=
  ⟨h.workingDirectory_eq.symm, fun p hp => (h.node?_eq p hp).symm,
    fun p => (h.directory_iff p).symm⟩

theorem trans (h : fs.SameOutside places fs') (h' : fs'.SameOutside places fs'') :
    fs.SameOutside places fs'' :=
  ⟨h'.workingDirectory_eq.trans h.workingDirectory_eq,
    fun p hp => (h'.node?_eq p hp).trans (h.node?_eq p hp),
    fun p => (h'.directory_iff p).trans (h.directory_iff p)⟩

/-- An edit that neither makes a directory nor takes one away. -/
theorem of_edit {n : Option FileNode} (h : fs.Edit place n fs') (hmem : place ∈ places)
    (hold : fs.node? place ≠ some .directory) (hnew : n ≠ some .directory) :
    fs.SameOutside places fs' := by
  refine ⟨h.workingDirectory_eq, fun p hp => h.node?_of_ne fun heq => hp (heq ▸ hmem), fun p => ?_⟩
  by_cases hp : p = place
  · subst hp
    rw [h.node?_self]
    exact iff_of_false hnew hold
  · rw [h.node?_of_ne hp]

end SameOutside

/-! ### Where a path leads -/

/-- Why a path is refused whatever is there. -/
def pathFault? (path : String) : Option SystemError :=
  if path.toList.contains '\x00' then some .nulInPath
  else if path.isEmpty then some .notFound
  else if longestPath < path.utf8ByteSize then some .nameTooLong
  else none

/-- A path is faulty by itself if it has a NUL, is empty or is too long. -/
theorem pathFault?_eq_none_iff :
    pathFault? path = none ↔
      '\x00' ∉ path.toList ∧ path ≠ "" ∧ path.utf8ByteSize ≤ longestPath := by
  simp only [pathFault?, List.contains_iff_mem, String.isEmpty_iff]
  split_ifs with hnul hempty hlong
  · simp [hnul]
  · simp [hempty]
  · simp [hlong]
  · simp [hnul, hempty, Nat.not_lt.mp hlong]

/-- The place that a path starts from. -/
def startOf (fs : FileSystem) (path : String) : Location :=
  if Path.isAbsolute path then [] else fs.workingDirectory

/-- A path that is not faulty leads where the walk along its names ends. -/
theorem locate_eq_walk (h : pathFault? path = none) :
    fs.locate path = fs.walk (fs.startOf path) (Path.names path) := by
  rw [pathFault?] at h
  split_ifs at h with hnul hempty hlong
  rw [locate, if_neg hnul, if_neg hempty, if_neg hlong]
  rfl

/-- A faulty path leads nowhere. -/
theorem locate_eq_error {e : SystemError} (h : pathFault? path = some e) :
    fs.locate path = .error e := by
  rw [pathFault?] at h
  rw [locate]
  split_ifs at h ⊢ <;> rw [Option.some.inj h]

/-- One step of a walk, from a directory. -/
theorem walk_cons (h : fs.node? place = some .directory) (name : String) (rest : List String) :
    fs.walk place (name :: rest) =
      if name = "." then fs.walk place rest
      else if name = ".." then fs.walk place.dropLast rest
      else if longestName < name.utf8ByteSize then .error .nameTooLong
      else fs.walk (place ++ [name]) rest := by
  rw [walk, h]

/-- A walk goes on only from a directory. -/
theorem directory_of_walk_cons {name : String} {rest : List String} {q : Location}
    (h : fs.walk place (name :: rest) = .ok q) : fs.node? place = some .directory := by
  rw [walk] at h
  split at h
  · simp at h
  · simp at h
  · assumption

/-- A walk along more names goes on where the walk along the first ones ends. -/
theorem walk_append (fs : FileSystem) (place : Location) (names more : List String) :
    fs.walk place (names ++ more) = (fs.walk place names).bind fun q => fs.walk q more := by
  induction names generalizing place with
  | nil => rfl
  | cons name names ih =>
    rw [List.cons_append, walk, walk]
    split
    · rfl
    · rfl
    · split_ifs
      · exact ih place
      · exact ih place.dropLast
      · rfl
      · exact ih (place ++ [name])

/-- Where the directories are still there, a walk still leads to its place. -/
theorem walk_eq_ok_of_directory
    (h : ∀ p, fs.node? p = some .directory → fs'.node? p = some .directory)
    {names : List String} {q : Location} (hwalk : fs.walk place names = .ok q) :
    fs'.walk place names = .ok q := by
  induction names generalizing place with
  | nil => exact hwalk
  | cons name names ih =>
    have hdir := directory_of_walk_cons hwalk
    rw [walk_cons hdir] at hwalk
    rw [walk_cons (h place hdir)]
    split_ifs at hwalk ⊢ <;> exact ih hwalk

/-- Where a path starts depends on the working directory only. -/
theorem startOf_eq (h : fs'.workingDirectory = fs.workingDirectory) (path : String) :
    fs'.startOf path = fs.startOf path := by
  rw [startOf, startOf, h]

/-- With more directories, a path that led to a place leads there still. -/
theorem locate_eq_ok_of_directory (hstart : fs'.workingDirectory = fs.workingDirectory)
    (h : ∀ p, fs.node? p = some .directory → fs'.node? p = some .directory)
    (hlocate : fs.locate path = .ok place) : fs'.locate path = .ok place := by
  cases hfault : pathFault? path with
  | some e =>
    rw [locate_eq_error hfault] at hlocate
    simp at hlocate
  | none =>
    rw [locate_eq_walk hfault] at hlocate
    rw [locate_eq_walk hfault, startOf_eq hstart]
    exact walk_eq_ok_of_directory h hlocate

/-- A walk goes the same way as long as the same directories are there. -/
theorem SameOutside.walk_eq_ok {places : Set Location} (h : fs.SameOutside places fs')
    {names : List String} {q : Location} (hwalk : fs.walk place names = .ok q) :
    fs'.walk place names = .ok q :=
  walk_eq_ok_of_directory (fun p => (h.directory_iff p).mpr) hwalk

/-- A path leads to the same place as long as the same directories are there. -/
theorem SameOutside.locate_eq_ok {places : Set Location} (h : fs.SameOutside places fs')
    (hlocate : fs.locate path = .ok place) : fs'.locate path = .ok place :=
  locate_eq_ok_of_directory h.workingDirectory_eq (fun p => (h.directory_iff p).mpr) hlocate

/-- A path with a name at its end leads to where that name leads from its stem. -/
theorem locate_append {stem name : String} (hstem : Path.IsStem stem) (hname : Path.IsName name)
    (h : pathFault? (stem ++ name) = none) :
    fs.locate (stem ++ name) =
      (fs.walk (fs.startOf stem) (Path.names stem)).bind fun base => fs.walk base [name] := by
  rw [locate_eq_walk h, Path.names_append hstem hname, walk_append, startOf, startOf,
    Path.isAbsolute_append hname]

/-- A single name leads from a directory to an entry of it, to the directory itself or to the one
above. -/
theorem of_walk_singleton {base : Location} {name : String}
    (h : fs.walk base [name] = .ok place) :
    fs.node? base = some .directory ∧
      (place = base ++ [name] ∨ name = "." ∧ place = base ∨
        name = ".." ∧ place = base.dropLast) := by
  have hdir := directory_of_walk_cons h
  rw [walk_cons hdir] at h
  refine ⟨hdir, ?_⟩
  split_ifs at h with hhere habove
  · exact .inr (.inl ⟨hhere, (Except.ok.inj h).symm⟩)
  · exact .inr (.inr ⟨habove, (Except.ok.inj h).symm⟩)
  · exact .inl (Except.ok.inj h).symm

/-- The walk along one entry of a directory ends at that entry. -/
theorem walk_entry {base : Location} {name : String} (hname : Path.IsEntry name)
    (hdir : fs.node? base = some .directory) (hshort : name.utf8ByteSize ≤ longestName) :
    fs.walk base [name] = .ok (base ++ [name]) := by
  rw [walk_cons hdir, if_neg hname.ne_here, if_neg hname.ne_above, if_neg (Nat.not_lt.mpr hshort)]
  rfl

section Entries

variable {stem name name' : String} {place' : Location}

/-- Below a stem, an entry has a place of its own. -/
theorem exists_base_of_locate (hstem : Path.IsStem stem) (hname : Path.IsName name)
    (h : fs.locate (stem ++ name) = .ok place) :
    ∃ base, fs.walk (fs.startOf stem) (Path.names stem) = .ok base ∧
      fs.walk base [name] = .ok place := by
  cases hfault : pathFault? (stem ++ name) with
  | some e =>
    rw [locate_eq_error hfault] at h
    simp at h
  | none =>
    rw [locate_append hstem hname hfault] at h
    cases hwalk : fs.walk (fs.startOf stem) (Path.names stem) with
    | error e => simp [hwalk, Except.bind] at h
    | ok base =>
      rw [hwalk] at h
      exact ⟨base, rfl, h⟩

/-- Different names below one stem lead to different places, unless one is special. -/
theorem locate_ne (hstem : Path.IsStem stem) (hname : Path.IsName name)
    (hname' : Path.IsEntry name') (hne : name ≠ name') (h : fs.locate (stem ++ name) = .ok place)
    (h' : fs.locate (stem ++ name') = .ok place') : place ≠ place' := by
  obtain ⟨base, hbase, hplace⟩ := exists_base_of_locate hstem hname h
  obtain ⟨base', hbase', hplace'⟩ := exists_base_of_locate hstem hname'.toIsName h'
  obtain rfl : base = base' := Except.ok.inj (hbase.symm.trans hbase')
  have heq : place' = base ++ [name'] := by
    rcases (of_walk_singleton hplace').2 with h | ⟨h, -⟩ | ⟨h, -⟩
    · exact h
    · exact absurd h hname'.ne_here
    · exact absurd h hname'.ne_above
  rw [heq]
  rcases (of_walk_singleton hplace).2 with rfl | ⟨-, rfl⟩ | ⟨-, rfl⟩
  · exact fun h => hne (by simpa using h)
  · exact fun h => by simpa using congrArg List.length h
  · -- The directory above has the shorter place.
    intro h
    have hlength := congrArg List.length h
    rw [List.length_dropLast, List.length_append, List.length_singleton] at hlength
    omega

end Entries

/-! ### Requests -/

/-- A file can be written at the place that a path leads to. -/
structure Writable (fs : FileSystem) (path : String) (place : Location) : Prop where
  locate_eq : fs.locate path = .ok place
  no_slash : Path.endsWithSlash path = false
  not_directory : fs.node? place ≠ some .directory

/-- A file that can be written stays so as long as the same directories are there. -/
theorem SameOutside.writable {places : Set Location} (h : fs.SameOutside places fs')
    (hpath : fs.Writable path place) : fs'.Writable path place :=
  ⟨h.locate_eq_ok hpath.locate_eq, hpath.no_slash, fun hdir =>
    hpath.not_directory ((h.directory_iff place).mp hdir)⟩

/-- What is at the place that a path leads to is what is found there. -/
theorem find_of_locate {n : FileNode} (hlocate : fs.locate path = .ok place)
    (hslash : Path.endsWithSlash path = false) (hnode : fs.node? place = some n) :
    fs.find path = .ok (place, n) := by
  rw [find, hlocate]
  cases n with
  | file content mode => simp [bind, Except.bind, hnode, hslash]
  | directory => simp [bind, Except.bind, hnode]

/-- Where a path leads to a place with nothing at it, nothing is found. -/
theorem find_of_node?_eq_none (hlocate : fs.locate path = .ok place)
    (hnode : fs.node? place = none) : fs.find path = .error .notFound := by
  rw [find, hlocate]
  simp [bind, Except.bind, hnode]

/-- What a path leads to is at its place. -/
theorem of_find_eq_ok {n : FileNode} (h : fs.find path = .ok (place, n)) :
    fs.locate path = .ok place ∧ fs.node? place = some n := by
  rw [find] at h
  cases hlocate : fs.locate path with
  | error e => simp [hlocate, bind, Except.bind] at h
  | ok p =>
    cases hnode : fs.node? p with
    | none => simp [hlocate, hnode, bind, Except.bind] at h
    | some m =>
      cases m with
      | directory =>
        obtain ⟨rfl, rfl⟩ : p = place ∧ .directory = n := by
          simpa [hlocate, hnode, bind, Except.bind] using h
        exact ⟨rfl, hnode⟩
      | file content mode =>
        simp only [hlocate, hnode, bind, Except.bind] at h
        split_ifs at h
        obtain ⟨rfl, rfl⟩ : p = place ∧ .file content mode = n := by simpa using h
        exact ⟨rfl, hnode⟩

/-- Where a path leads nowhere, nothing is found. -/
theorem find_of_locate_eq_error {e : SystemError} (h : fs.locate path = .error e) :
    fs.find path = .error e := by
  rw [find, h]
  rfl

/-- With a faulty path nothing is found. -/
theorem find_eq_error {e : SystemError} (h : pathFault? path = some e) :
    fs.find path = .error e :=
  find_of_locate_eq_error (locate_eq_error h)

/-- A path that leads past the places that differ finds what it found. -/
theorem SameOutside.find_eq {places : Set Location} (h : fs.SameOutside places fs')
    (hlocate : fs.locate path = .ok place) (hplace : place ∉ places) :
    fs'.find path = fs.find path := by
  rw [find, find, hlocate, h.locate_eq_ok hlocate]
  simp only [bind, Except.bind, h.node?_eq place hplace]

/-- An entry of a directory that is still there is what it was, if its place does not differ. -/
theorem SameOutside.find_sibling_eq {places : Set Location} {stem name name' : String}
    (h : fs.SameOutside places fs') (hstem : Path.IsStem stem) (hname : Path.IsName name)
    (hname' : Path.IsName name') (hlocate : fs.locate (stem ++ name) = .ok place)
    (hplaces : ∀ q, fs.locate (stem ++ name') = .ok q → q ∉ places) :
    fs'.find (stem ++ name') = fs.find (stem ++ name') := by
  obtain ⟨base, hbase, hwalk⟩ := exists_base_of_locate hstem hname hlocate
  have hdir := directory_of_walk_cons hwalk
  cases hfault : pathFault? (stem ++ name') with
  | some e => rw [find_eq_error hfault, find_eq_error hfault]
  | none =>
    -- The last name is looked up in a directory that is the same in both.
    have hlast : fs'.walk base [name'] = fs.walk base [name'] := by
      rw [walk_cons ((h.directory_iff base).mpr hdir), walk_cons hdir]
      rfl
    have hlocate' : fs'.locate (stem ++ name') = fs.locate (stem ++ name') := by
      rw [locate_append hstem hname' hfault, locate_append hstem hname' hfault,
        startOf_eq h.workingDirectory_eq, hbase, h.walk_eq_ok hbase]
      exact hlast
    cases hq : fs.locate (stem ++ name') with
    | error e => rw [find_of_locate_eq_error hq, find_of_locate_eq_error (hlocate'.trans hq)]
    | ok q => exact h.find_eq hq (hplaces q hq)

/-- Where no place differs, every path finds what it found. -/
theorem SameOutside.find_eq_of_empty (h : fs.SameOutside ∅ fs') (path : String) :
    fs'.find path = fs.find path := by
  have hnode : fs'.node? = fs.node? := funext fun p => h.node?_eq p (Set.notMem_empty p)
  have hwalk : ∀ (place : Location) (names : List String),
      fs'.walk place names = fs.walk place names := by
    intro place names
    induction names generalizing place with
    | nil => rfl
    | cons name names ih => rw [walk, walk, hnode, ih, ih, ih]
  have hlocate : fs'.locate path = fs.locate path := by
    simp only [locate, hwalk, h.workingDirectory_eq]
  rw [find, find, hlocate, hnode]

/-- What can be found differs if what is there does. -/
theorem node?_eq_of_find_eq (hpath : fs.Writable path place) (hpath' : fs'.Writable path place)
    (h : fs'.find path = fs.find path) : fs'.node? place = fs.node? place := by
  cases hnode : fs.node? place with
  | none =>
    rw [find_of_node?_eq_none hpath.locate_eq hnode] at h
    cases hnode' : fs'.node? place with
    | none => rfl
    | some n =>
      rw [find_of_locate hpath'.locate_eq hpath'.no_slash hnode'] at h
      simp at h
  | some n =>
    rw [find_of_locate hpath.locate_eq hpath.no_slash hnode] at h
    exact (of_find_eq_ok h).2

/-- What is found as a file can be written. -/
theorem writable_of_find {content : Bytes} {mode : Nat}
    (h : fs.find path = .ok (place, .file content mode)) : fs.Writable path place := by
  obtain ⟨hlocate, hnode⟩ := of_find_eq_ok h
  refine ⟨hlocate, ?_, by simp [hnode]⟩
  rw [find, hlocate] at h
  cases hslash : Path.endsWithSlash path with
  | false => rfl
  | true => simp [bind, Except.bind, hnode, hslash] at h

/-- Where a file can be written, reading gives the content of the file that is there. -/
theorem read_of_writable (h : fs.Writable path place) :
    fs.read path =
      match fs.node? place with
      | some (.file content _) => .ok content
      | _ => .error .notFound := by
  rw [read]
  cases hnode : fs.node? place with
  | none =>
    rw [find_of_node?_eq_none h.locate_eq hnode]
    rfl
  | some n =>
    cases n with
    | directory => exact absurd hnode h.not_directory
    | file content mode =>
      rw [find_of_locate h.locate_eq h.no_slash hnode]
      rfl

/-- Whether something is at a path is whether something is at its place. -/
theorem tryExists_of_locate (hlocate : fs.locate path = .ok place)
    (hslash : Path.endsWithSlash path = false) :
    fs.tryExists path = .ok (fs.node? place).isSome := by
  rw [tryExists]
  cases hnode : fs.node? place with
  | none =>
    rw [find_of_node?_eq_none hlocate hnode]
    rfl
  | some n =>
    rw [find_of_locate hlocate hslash hnode]
    rfl

/-- The permissions of a file when it has been opened: an old file keeps its own. -/
def openedMode (fs : FileSystem) (place : Location) (mode : Nat) : Nat :=
  match fs.node? place with
  | some (.file _ old) => old
  | _ => mode &&& (0o777 ^^^ fs.umask)

/-- A file that can be written is opened: it is empty then, with the mode that it had or is
given. -/
theorem openTruncated_of_writable (h : fs.Writable path place) (mode : Nat) :
    ∃ fs', fs.openTruncated path mode = .ok (fs', place) ∧
      fs.Edit place (some (.file [] (fs.openedMode place mode))) fs' := by
  have hplace := ne_nil_of_node? h.not_directory
  rw [openedMode]
  cases hnode : fs.node? place with
  | none =>
    refine ⟨_, ?_, edit_put hplace _⟩
    simp [openTruncated, h.locate_eq, h.no_slash, hnode, bind, Except.bind]
  | some n =>
    cases n with
    | directory => exact absurd hnode h.not_directory
    | file content old =>
      refine ⟨_, ?_, edit_put hplace _⟩
      simp [openTruncated, h.locate_eq, h.no_slash, hnode, bind, Except.bind]

/-- What has been opened can be written. -/
theorem writable_of_openTruncated {mode : Nat} (h : fs.openTruncated path mode = .ok (fs', place)) :
    fs.Writable path place := by
  rw [openTruncated] at h
  cases hlocate : fs.locate path with
  | error e => simp [hlocate, bind, Except.bind] at h
  | ok p =>
    cases hslash : Path.endsWithSlash path with
    | true => simp [hlocate, hslash, bind, Except.bind] at h
    | false =>
      simp only [hlocate, hslash, bind, Except.bind, Bool.false_eq_true, if_false] at h
      split at h
      · simp at h
      · next hnode =>
        obtain ⟨-, rfl⟩ := Prod.mk.inj (Except.ok.inj h)
        exact ⟨hlocate, hslash, by simp [hnode]⟩
      · next hnode =>
        obtain ⟨-, rfl⟩ := Prod.mk.inj (Except.ok.inj h)
        exact ⟨hlocate, hslash, by simp [hnode]⟩

/-- What is opened is empty then, with the mode that it had or is given; nothing else changes. -/
theorem edit_of_openTruncated {mode : Nat} (h : fs.openTruncated path mode = .ok (fs', place)) :
    fs.Edit place (some (.file [] (fs.openedMode place mode))) fs' := by
  obtain ⟨fs₁, hopen, hedit⟩ := openTruncated_of_writable (writable_of_openTruncated h) mode
  obtain ⟨rfl, -⟩ := Prod.mk.inj (Except.ok.inj (h.symm.trans hopen))
  exact hedit

/-- New content for an open file changes that file only, and keeps its mode. -/
theorem edit_setContent {content : Bytes} {mode : Nat}
    (h : fs.node? place = some (.file content mode)) (content' : Bytes) :
    fs.Edit place (some (.file content' mode)) (fs.setContent place content') := by
  rw [setContent, h]
  exact edit_put (ne_nil_of_file h) _

/-- A new mode for a file changes that file only, and keeps its content. -/
theorem edit_setMode {content : Bytes} {mode : Nat}
    (h : fs.node? place = some (.file content mode)) (mode' : Nat) :
    fs.Edit place (some (.file content mode')) (fs.setMode place mode') := by
  rw [setMode, h]
  exact edit_put (ne_nil_of_file h) _

/-- A copy puts a file with the content and the permissions of the source at the place. -/
theorem copy_of_writable {source : String} {p : Location} {content : Bytes} {mode : Nat}
    (hsource : fs.find source = .ok (p, .file content mode)) (h : fs.Writable path place) :
    ∃ fs', fs.copy source path = .ok fs' ∧ fs.Edit place (some (.file content mode)) fs' := by
  obtain ⟨fs₁, hopen, hedit⟩ := openTruncated_of_writable h mode
  have hcontent := hedit.trans (edit_setContent hedit.node?_self content)
  refine ⟨_, ?_, hcontent.trans (edit_setMode hcontent.node?_self mode)⟩
  rw [copy, hsource]
  simp only [bind, Except.bind, hopen]

/-- A copy has found a file and put it where it can write. -/
theorem of_copy {source : String} (h : fs.copy source path = .ok fs') :
    ∃ p content mode place, fs.find source = .ok (p, .file content mode) ∧
      fs.Writable path place ∧ fs.Edit place (some (.file content mode)) fs' := by
  have hcopy := h
  rw [copy] at h
  cases hfind : fs.find source with
  | error e => simp [hfind, bind, Except.bind] at h
  | ok found =>
    obtain ⟨p, n⟩ := found
    cases n with
    | directory => simp [hfind, bind, Except.bind] at h
    | file content mode =>
      cases hopen : fs.openTruncated path mode with
      | error e => simp [hfind, hopen, bind, Except.bind] at h
      | ok result =>
        have hplace := writable_of_openTruncated hopen
        obtain ⟨fs₁, hcopy', hedit⟩ := copy_of_writable hfind hplace
        obtain rfl : fs' = fs₁ := Except.ok.inj (hcopy.symm.trans hcopy')
        exact ⟨p, content, mode, _, rfl, hplace, hedit⟩

/-- A rename takes a file away from its place, and puts it at the other. -/
theorem rename_of_file {source : String} {old : Location} {content : Bytes} {mode : Nat}
    (hsource : fs.find source = .ok (old, .file content mode))
    (hlocate : fs.locate path = .ok place) (hplace : fs.node? place ≠ some .directory) :
    ∃ fs₁ fs', fs.rename source path = .ok fs' ∧ fs.Edit old none fs₁ ∧
      fs₁.Edit place (some (.file content mode)) fs' := by
  have hold : old ≠ [] := ne_nil_of_file (of_find_eq_ok hsource).2
  refine ⟨_, _, ?_, edit_drop hold, edit_put (ne_nil_of_node? hplace) _⟩
  rw [rename, hsource]
  simp only [bind, Except.bind, hlocate]

/-- A rename has found what it moves, and replaces no directory. -/
theorem of_rename {source : String} (h : fs.rename source path = .ok fs') :
    ∃ old n new, fs.find source = .ok (old, n) ∧ fs.locate path = .ok new ∧
      fs.node? new ≠ some .directory := by
  rw [rename] at h
  cases hfind : fs.find source with
  | error e => simp [hfind, bind, Except.bind] at h
  | ok found =>
    cases hlocate : fs.locate path with
    | error e => simp [hfind, hlocate, bind, Except.bind] at h
    | ok new =>
      refine ⟨found.1, found.2, new, rfl, rfl, fun hdir => ?_⟩
      simp [hfind, hlocate, hdir, bind, Except.bind] at h

end GatewayAgent.FileSystem
