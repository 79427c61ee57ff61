import GatewayAgent.Proofs.ControlPlane.Effect
import GatewayAgent.Proofs.UserConfig.Writer

/-!
# The files of different users

All users have their files in one directory, and so have the backups and the staging files of their
updates. An update of one user leaves the file of another alone, whatever is in the directory and
whatever comes of the update, unless the other has the name of the first with `.bak` or `.tmp`
behind it: then the one's backup or staging file is the other's file.
`other_file_untouched_iff` says that these two names are the only exceptions, and that they are
exceptions.
-/

namespace GatewayAgent

/-! ### Names of files -/

/-- The text can be the name of a file in a directory. -/
structure IsFileName (name : String) : Prop extends Path.IsEntry name where
  no_nul : '\x00' ∉ name.toList
  short : name.utf8ByteSize ≤ FileSystem.longestName

variable {u v name p : String}

/-- A username that is accepted is a file name, and short enough to be given a suffix. -/
theorem isFileName_of_safeUsername (h : SafeUsername name = true) :
    IsFileName name ∧ name.utf8ByteSize ≤ longestUsername := by
  simp only [SafeUsername, Bool.and_eq_true, Bool.not_eq_true', String.isEmpty_eq_false_iff,
    decide_eq_true_eq, List.all_eq_true] at h
  obtain ⟨⟨⟨hne, hshort⟩, hdot⟩, hchars⟩ := h
  have hmem : ∀ c : Char, UsernameChar c = false → c ∉ name.toList := fun c hc hin =>
    Bool.false_ne_true (hc.symm.trans (hchars c hin))
  refine ⟨⟨⟨⟨hne, hmem '/' (by decide)⟩, ?_, ?_⟩, hmem '\x00' (by decide),
    hshort.trans (by decide)⟩, hshort⟩
  · rintro rfl
    exact hdot (by decide)
  · rintro rfl
    exact hdot (by decide)

/-- A suffix makes a file name of a file name, if the result is not too long. -/
theorem IsFileName.append (h : IsFileName name) {suffix : String} (hslash : '/' ∉ suffix.toList)
    (hnul : '\x00' ∉ suffix.toList) (hlength : 2 ≤ suffix.toList.length)
    (hshort : name.utf8ByteSize + suffix.utf8ByteSize ≤ FileSystem.longestName) :
    IsFileName (name ++ suffix) := by
  refine ⟨h.toIsName.isEntry_append hslash hlength, ?_, ?_⟩
  · rw [String.toList_append, List.mem_append, not_or]
    exact ⟨h.no_nul, hnul⟩
  · rwa [String.utf8ByteSize_append]

/-- The backup and the staging file of a user can have their names, too. -/
theorem isFileName_of_mem_writePaths (hu : SafeUsername u = true) (hp : p ∈ writePaths u) :
    IsFileName p := by
  obtain ⟨hname, hshort⟩ := isFileName_of_safeUsername hu
  have hsuffix : u.utf8ByteSize + 4 ≤ FileSystem.longestName := by
    rw [longestUsername] at hshort
    rw [FileSystem.longestName]
    omega
  simp only [writePaths, List.mem_cons, List.not_mem_nil, or_false] at hp
  rcases hp with rfl | rfl | rfl
  · exact hname
  · exact hname.append (by decide) (by decide) (by decide) hsuffix
  · exact hname.append (by decide) (by decide) (by decide) hsuffix

/-- The paths of a write below a stem are those of its name. -/
theorem writePaths_append (stem name : String) :
    writePaths (stem ++ name) = (writePaths name).map (stem ++ ·) := by
  simp [writePaths, backupPath, stagingPath, String.append_assoc]

/-- To give a suffix to a joined path is to join the name with its suffix. -/
theorem join_append {dir suffix : String} (hname : Path.IsName name)
    (happend : Path.IsName (name ++ suffix)) :
    Path.join dir name ++ suffix = Path.join dir (name ++ suffix) := by
  rw [Path.join_eq_stem_append dir hname, Path.join_eq_stem_append dir happend,
    String.append_assoc]

/-! ### A write leaves other files alone -/

/-- A file of another name is as it was, whatever comes of a write. -/
theorem find_writeUserConfig (hu : SafeUsername u = true) (hv : SafeUsername v = true)
    (hne : v ∉ writePaths u) (fs : FileSystem) (dir : String) (update : UserUpdate) :
    (writeUserConfig fs (Path.join dir u) update).1.find (Path.join dir v) =
      fs.find (Path.join dir v) := by
  have hname := (isFileName_of_safeUsername hu).1
  have hname' := (isFileName_of_safeUsername hv).1
  have hsame := sameOutside_writeUserConfig fs (Path.join dir u) update
  rw [Path.join_eq_stem_append dir hname.toIsName] at hsame ⊢
  rw [Path.join_eq_stem_append dir hname'.toIsName]
  have hstem := Path.isStem_asStem dir
  generalize Path.asStem dir = stem at hsame hstem ⊢
  rcases Set.eq_empty_or_nonempty (writePlaces fs (stem ++ u)) with hempty | ⟨place, p, hp, hplace⟩
  · rw [hempty] at hsame
    exact hsame.find_eq_of_empty _
  -- A write that leads anywhere leads into a directory, and so does the path of the other file.
  rw [writePaths_append, List.mem_map] at hp
  obtain ⟨entry, hentry, rfl⟩ := hp
  obtain ⟨base, hbase, hwalk⟩ := FileSystem.exists_base_of_locate hstem
    (isFileName_of_mem_writePaths hu hentry).toIsName hplace
  cases hfault : FileSystem.pathFault? (stem ++ v) with
  | some e => rw [FileSystem.find_eq_error hfault, FileSystem.find_eq_error hfault]
  | none =>
    have hlocate : fs.locate (stem ++ v) = .ok (base ++ [v]) := by
      rw [FileSystem.locate_append hstem hname'.toIsName hfault, hbase]
      exact FileSystem.walk_entry hname'.toIsEntry (FileSystem.of_walk_singleton hwalk).1
        hname'.short
    refine hsame.find_eq hlocate ?_
    rintro ⟨q, hq, hlocate'⟩
    rw [writePaths_append, List.mem_map] at hq
    obtain ⟨entry', hentry', rfl⟩ := hq
    exact FileSystem.locate_ne hstem hname'.toIsName
      (isFileName_of_mem_writePaths hu hentry').toIsEntry (fun heq => hne (heq ▸ hentry'))
      hlocate hlocate' rfl

/-! ### A call does to the files what its write does -/

/-- What follows a command leaves the files alone. -/
theorem files_afterReload (username path : String) (result : CommandResult) (s : AgentState) :
    (afterReload username path result s).1.files = s.files := by
  cases result with
  | ok o =>
    rw [afterReload]
    split <;> rfl
  | error e => rfl

/-- What follows the write of a file leaves the files alone. -/
theorem files_perform_afterWrite (s : AgentState) (now : Instant) (username path : String)
    (reload : Bool) (executor : Executor) (deadline : Option Duration) :
    ((afterWrite s now username path reload).perform executor deadline).state.files = s.files := by
  rw [afterWrite]
  split
  · exact Turn.perform_waiting (files_afterReload username path) executor deadline
  · rfl

/-- Of the files, an update changes what the write of the user's file does. -/
theorem files_updateUserRoutes {plane : ControlPlane} {dir : String}
    (hdir : plane.userConfigDir = some dir) (hu : SafeUsername u = true) (executor : Executor)
    (s : AgentState) (now : Instant) (deadline : Option Duration)
    (routes dnsServers : List String) (reload : Bool) (params : Dictionary String String) :
    (plane.serve executor s now deadline
        (.updateUserRoutes u routes dnsServers reload params)).state.files =
      (writeUserConfig s.files (Path.join dir u) ⟨u, routes, dnsServers, params⟩).1 := by
  have hne : u ≠ "" := (isFileName_of_safeUsername hu).1.ne_empty
  change ((plane.updateUserRoutes s now ⟨u, routes, dnsServers, params⟩ reload).perform executor
    deadline).state.files = _
  rw [ControlPlane.updateUserRoutes, if_neg hne, hu]
  simp only [hdir, Bool.not_true, Bool.false_eq_true, if_false, writeUserFile]
  split
  · next files e hwrite =>
    rw [hwrite]
    rfl
  · next files hwrite =>
    rw [hwrite]
    exact files_perform_afterWrite { s with files } now u _ reload executor deadline

/-! ### The two exceptions -/

/-- A directory with a file of a user, and with a staging file that was left behind. -/
def leftBehind (u : String) : FileSystem :=
  ((({} : FileSystem).put ["users"] .directory).put ["users", u] (.file [] 0)).put
    ["users", stagingPath u] (.file [] 0)

/-- The files that an earlier write has left behind are its staging file and its target. -/
theorem node?_leftBehind (u name : String) :
    (leftBehind u).node? ["users", name] =
      if name = stagingPath u ∨ name = u then some (.file [] 0) else none := by
  rw [FileSystem.node?_of_ne_nil (List.cons_ne_nil _ _), leftBehind]
  simp only [FileSystem.put, Dictionary.find?_insert, List.cons.injEq, true_and, and_true,
    List.cons_ne_nil, if_false]
  by_cases hstaging : name = stagingPath u
  · rw [if_pos hstaging, if_pos (.inl hstaging)]
  · simp only [hstaging, false_or, if_false]
    rfl

/-- Any file can be written in the directory of the users. -/
theorem writable_leftBehind (u : String) (hname : IsFileName name) :
    (leftBehind u).Writable (Path.join "users" name) ["users", name] := by
  have hjoin : Path.join "users" name = "users/" ++ name :=
    Path.join_eq_stem_append "users" hname.toIsName
  have hfault : FileSystem.pathFault? ("users/" ++ name) = none := by
    refine FileSystem.pathFault?_eq_none_iff.mpr ⟨?_, Path.append_ne_empty hname.toIsName, ?_⟩
    · rw [String.toList_append, List.mem_append, not_or]
      exact ⟨by decide, hname.no_nul⟩
    · have hshort := hname.short
      have hstem : "users/".utf8ByteSize = 6 := by decide
      rw [FileSystem.longestName] at hshort
      rw [String.utf8ByteSize_append, FileSystem.longestPath]
      omega
  have hdir : (leftBehind u).node? ["users"] = some .directory := by
    simp [leftBehind, FileSystem.node?, FileSystem.put, Dictionary.find?_insert]
  rw [hjoin]
  refine ⟨?_, Path.endsWithSlash_append hname.toIsName, ?_⟩
  · rw [FileSystem.locate_append (.inr (by decide)) hname.toIsName hfault]
    exact FileSystem.walk_entry hname.toIsEntry hdir hname.short
  · rw [node?_leftBehind]
    split_ifs <;> simp

/-- Nothing is in the way of a write where an earlier one has left its files behind. -/
theorem ready_leftBehind (hu : SafeUsername u = true) :
    Ready (leftBehind u) (Path.join "users" u) ["users", u] ["users", backupPath u]
      ["users", stagingPath u] := by
  have hname : ∀ p ∈ writePaths u, IsFileName p := fun p hp => isFileName_of_mem_writePaths hu hp
  have htarget : IsFileName u := hname u (by simp [writePaths])
  have hbackup : IsFileName (backupPath u) := hname _ (by simp [writePaths])
  have hstaging : IsFileName (stagingPath u) := hname _ (by simp [writePaths])
  refine ⟨writable_leftBehind u htarget, ?_, ?_⟩
  · rw [backupPath, join_append htarget.toIsName hbackup.toIsName]
    exact writable_leftBehind u hbackup
  · rw [stagingPath, join_append htarget.toIsName hstaging.toIsName]
    exact writable_leftBehind u hstaging

/-- An update there makes a backup and takes the staging file away. -/
theorem node?_update_leftBehind (hu : SafeUsername u = true) :
    ∃ fs, (writeUserConfig (leftBehind u) (Path.join "users" u) ⟨u, [], [], .empty⟩).1 = fs ∧
      fs.node? ["users", backupPath u] = some (.file [] 0) ∧
      fs.node? ["users", stagingPath u] = none := by
  obtain ⟨text, hrender⟩ : ∃ text, (UserUpdate.mk u [] [] .empty).render = .ok text := by
    simp [UserUpdate.render, UserUpdate.lines, UserUpdate.sortedDirectives, Dictionary.empty,
      bind, Except.bind, pure, Except.pure, Except.map]
  obtain ⟨fs, kept, hwrite, -, hbackup, hstaging⟩ :=
    writeUserConfig_of_ready (ready_leftBehind hu) hrender
  rw [node?_leftBehind, if_pos (.inr rfl)] at hbackup
  exact ⟨fs, by rw [hwrite], hbackup, hstaging⟩

/-- **The files of other users.** Whatever is in the directory and whatever comes of the updates,
the file of another user stays as it is, exactly if it does not have the name of the user's backup
or of the user's staging file. -/
theorem other_file_untouched_iff (hu : SafeUsername u = true) (hv : SafeUsername v = true)
    (hne : u ≠ v) :
    (∀ (plane : ControlPlane) (dir : String), plane.userConfigDir = some dir →
      ∀ (executor : Executor) (s : AgentState) (now : Instant) (deadline : Option Duration)
        (routes dnsServers : List String) (reload : Bool) (params : Dictionary String String),
        (plane.serve executor s now deadline
            (.updateUserRoutes u routes dnsServers reload params)).state.files.find
          (Path.join dir v) = s.files.find (Path.join dir v)) ↔
      v ≠ backupPath u ∧ v ≠ stagingPath u := by
  constructor
  · intro h
    obtain ⟨fs, hfs, hbackup, hstaging⟩ := node?_update_leftBehind hu
    have hnode : fs.node? ["users", v] = (leftBehind u).node? ["users", v] := by
      have hpath := writable_leftBehind u (isFileName_of_safeUsername hv).1
      have hsame := sameOutside_writeUserConfig (leftBehind u) (Path.join "users" u)
        ⟨u, [], [], .empty⟩
      have hfind := h { userConfigDir := some "users" } "users" rfl (fun _ _ => .never)
        { files := leftBehind u } ⟨0⟩ none [] [] false .empty
      rw [files_updateUserRoutes rfl hu, hfs] at hfind
      rw [hfs] at hsame
      exact FileSystem.node?_eq_of_find_eq hpath (hsame.writable hpath) hfind
    rw [node?_leftBehind] at hnode
    constructor
    · -- There was no backup, and now there is one.
      rintro rfl
      have hother : backupPath u ≠ stagingPath u := by
        simpa using (ready_leftBehind hu).ne.2.2
      rw [hbackup] at hnode
      simp [hother, Ne.symm hne] at hnode
    · -- The staging file that was left behind is gone.
      rintro rfl
      rw [hstaging, if_pos (.inl rfl)] at hnode
      exact Option.some_ne_none _ hnode.symm
  · rintro ⟨hbackup, hstaging⟩ plane dir hdir executor s now deadline routes dnsServers reload
      params
    have hpaths : v ∉ writePaths u := by simp [writePaths, Ne.symm hne, hbackup, hstaging]
    rw [files_updateUserRoutes hdir hu]
    exact find_writeUserConfig hu hv hpaths s.files dir _

/-- No update of `alice` touches the file of `bob`. -/
theorem file_of_bob_untouched :
    SafeUsername "alice" = true ∧ SafeUsername "bob" = true ∧ "alice" ≠ "bob" ∧
      ∀ (plane : ControlPlane) (dir : String), plane.userConfigDir = some dir →
        ∀ (executor : Executor) (s : AgentState) (now : Instant) (deadline : Option Duration)
          (routes dnsServers : List String) (reload : Bool) (params : Dictionary String String),
          (plane.serve executor s now deadline
              (.updateUserRoutes "alice" routes dnsServers reload params)).state.files.find
            (Path.join dir "bob") = s.files.find (Path.join dir "bob") :=
  have halice : SafeUsername "alice" = true := by decide
  have hbob : SafeUsername "bob" = true := by decide
  have hne : "alice" ≠ "bob" := by decide
  ⟨halice, hbob, hne,
    (other_file_untouched_iff halice hbob hne).mpr ⟨by decide, by decide⟩⟩

/-- A directory with the files of two users, of whom one has the name of the other's backup. -/
def neighbours : FileSystem where
  nodes := .ofList [(["users"], .directory),
    (["users", "alice"], .file (Text.encode "route = 10.0.0.0/8\n") 0),
    (["users", "alice.bak"], .file (Text.encode "route = 172.16.0.0/12\n") 0)]

/-- Both users can have files, and the update of the one makes the file of the other the backup. -/
theorem file_of_neighbour_overwritten :
    SafeUsername "alice" = true ∧ SafeUsername "alice.bak" = true ∧ "alice" ≠ "alice.bak" ∧
      neighbours.read "users/alice.bak" = .ok (Text.encode "route = 172.16.0.0/12\n") ∧
      (({ userConfigDir := some "users" } : ControlPlane).serve (fun _ _ => .never)
          { files := neighbours } ⟨0⟩ none
          (.updateUserRoutes "alice" ["192.168.0.0/16"] [] false .empty)).state.files.read
        "users/alice.bak" = .ok (Text.encode "route = 10.0.0.0/8\n") := by
  decide +kernel

end GatewayAgent
