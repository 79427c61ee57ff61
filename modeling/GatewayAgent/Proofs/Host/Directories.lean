import GatewayAgent.Proofs.Host.FileSystem

/-!
# Making directories

A request for a directory makes it, and the missing ones above it, where there was nothing. So the
file system only grows (`GrownOutside`): a path that led to a place still leads there
(`GrownOutside.locate_eq_ok`), and every file is what it was.
-/

namespace GatewayAgent.FileSystem

variable {fs fs' fs'' : FileSystem} {place : Location} {path : String}

/-- The directories are still there, and outside some places there is at most a directory where
there was nothing. -/
structure GrownOutside (places : Set Location) (fs fs' : FileSystem) : Prop where
  workingDirectory_eq : fs'.workingDirectory = fs.workingDirectory
  directory : ∀ p, fs.node? p = some .directory → fs'.node? p = some .directory
  node?_eq : ∀ p ∉ places, fs'.node? p = fs.node? p ∨
    fs.node? p = none ∧ fs'.node? p = some .directory

namespace GrownOutside

variable {places places' : Set Location}

theorem refl (places : Set Location) (fs : FileSystem) : fs.GrownOutside places fs :=
  ⟨rfl, fun _ => id, fun _ _ => .inl rfl⟩

theorem mono (h : fs.GrownOutside places fs') (hsubset : places ⊆ places') :
    fs.GrownOutside places' fs' :=
  ⟨h.workingDirectory_eq, h.directory, fun p hp => h.node?_eq p fun hmem => hp (hsubset hmem)⟩

theorem trans (h : fs.GrownOutside places fs') (h' : fs'.GrownOutside places fs'') :
    fs.GrownOutside places fs'' := by
  refine ⟨h'.workingDirectory_eq.trans h.workingDirectory_eq,
    fun p hp => h'.directory p (h.directory p hp), fun p hp => ?_⟩
  rcases h.node?_eq p hp with heq | ⟨hnone, hmade⟩
  · rw [← heq]
    exact h'.node?_eq p hp
  · exact .inr ⟨hnone, h'.directory p hmade⟩

/-- An edit of a place where there is no directory. -/
theorem of_edit {n : Option FileNode} (h : fs.Edit place n fs') (hmem : place ∈ places)
    (hold : fs.node? place ≠ some .directory) : fs.GrownOutside places fs' := by
  refine ⟨h.workingDirectory_eq, fun p hp => ?_, fun p hp => .inl ?_⟩
  · have hne : p ≠ place := fun heq => hold (heq ▸ hp)
    rw [h.node?_of_ne hne, hp]
  · exact h.node?_of_ne fun heq => hp (heq ▸ hmem)

theorem locate_eq_ok (h : fs.GrownOutside places fs') (hlocate : fs.locate path = .ok place) :
    fs'.locate path = .ok place :=
  locate_eq_ok_of_directory h.workingDirectory_eq h.directory hlocate

/-- A file outside the places is what it was, and no other file is there. -/
theorem file_iff (h : fs.GrownOutside places fs') (hplace : place ∉ places) {content : Bytes}
    {mode : Nat} :
    fs'.node? place = some (.file content mode) ↔ fs.node? place = some (.file content mode) := by
  rcases h.node?_eq place hplace with heq | ⟨hnone, hmade⟩
  · rw [heq]
  · rw [hnone, hmade]
    simp

end GrownOutside

theorem grownOutside_of_makeDirectory (h : fs.makeDirectory path = .ok fs') :
    fs.GrownOutside ∅ fs' := by
  rw [makeDirectory] at h
  cases hlocate : fs.locate path with
  | error e => simp [hlocate, bind, Except.bind] at h
  | ok place =>
    cases hnode : fs.node? place with
    | some n => simp [hlocate, hnode, bind, Except.bind] at h
    | none =>
      obtain rfl : fs.put place .directory = fs' := by
        simpa [hlocate, hnode, bind, Except.bind] using h
      have hold : fs.node? place ≠ some .directory := by simp [hnode]
      have hedit : fs.Edit place (some .directory) (fs.put place .directory) :=
        edit_put (ne_nil_of_node? hold) _
      refine ⟨hedit.workingDirectory_eq, fun p hp => ?_, fun p _ => ?_⟩
      · have hne : p ≠ place := fun heq => by simp [← heq, hp] at hnode
        rw [hedit.node?_of_ne hne, hp]
      · by_cases hp : p = place
        · subst hp
          exact .inr ⟨hnode, hedit.node?_self⟩
        · exact .inl (hedit.node?_of_ne hp)

/-- Whatever comes of a request for a directory with those above it. -/
theorem grownOutside_makeDirectories (fs : FileSystem) (depth : Nat) (path : String) :
    fs.GrownOutside ∅ (fs.makeDirectories depth path).1 := by
  induction depth generalizing fs path with
  | zero => exact .refl _ fs
  | succ depth ih =>
    rw [makeDirectories]
    split
    · exact .refl _ fs
    split
    · next hmade => exact grownOutside_of_makeDirectory hmade
    split
    · exact .refl _ fs
    split
    · exact .refl _ fs
    · next above _ =>
      -- The ones above are made first, and then the directory itself is tried again.
      have habove := ih fs above
      split
      · next heq =>
        rw [heq] at habove
        exact habove
      · next heq =>
        rw [heq] at habove
        split
        · next hmade => exact habove.trans (grownOutside_of_makeDirectory hmade)
        · exact habove

end GatewayAgent.FileSystem
