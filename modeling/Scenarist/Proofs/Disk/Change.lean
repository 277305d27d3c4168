/-
**What changes a disk.** Writing a file changes what is at one location and no folder. Making
folders puts folders where nothing is, and nothing else (`makeFolders_induct`); so it keeps what is
there and brings no file (`grows_makeFolders`).
-/

import Scenarist.Proofs.Disk.Walk

namespace Scenarist.Disk

/-! ### Writing -/

/-- The one disk is the other with these bytes in the file at a location. -/
structure Writes (disk after : Disk) (location : Location) (bytes : List UInt8) : Prop where
  notFolder : disk.node? location ≠ some .folder
  here : after.node? location = some (.file bytes)
  elsewhere : ∀ other, other ≠ location → after.node? other = disk.node? other
  work : after.work = disk.work

theorem writes_put {disk : Disk} {location : Location}
    (notFolder : disk.node? location ≠ some .folder) (bytes : List UInt8) :
    disk.Writes (disk.put location (.file bytes)) location bytes where
  notFolder := notFolder
  here := by
    apply node?_put_self
    rintro rfl
    exact notFolder disk.node?_root
  elsewhere other different := node?_put_other disk different _
  work := work_put disk location _

/-- **Writing changes no folder.** -/
theorem Writes.sameFolders {disk after : Disk} {location : Location} {bytes : List UInt8}
    (writes : disk.Writes after location bytes) : disk.SameFolders after := by
  have folder (other : Location) :
      disk.node? other = some .folder ↔ after.node? other = some .folder := by
    by_cases same : other = location
    · subst same
      rw [writes.here]
      exact iff_of_false writes.notFolder (by simp)
    · rw [writes.elsewhere other same]
  exact ⟨⟨writes.work, fun other => (folder other).mp⟩,
    ⟨writes.work.symm, fun other => (folder other).mpr⟩⟩

/-- **A file is written where its path can be walked and no folder is.** -/
theorem write_eq_ok {disk after : Disk} {path : Path} {bytes : List UInt8} :
    disk.write path bytes = .ok after ↔
      ∃ location, disk.locate path = .ok location ∧ disk.node? location ≠ some .folder ∧
        disk.put location (.file bytes) = after := by
  rw [write]
  cases found : disk.locate path with
  | error e => exact iff_of_false (by simp [bind, Except.bind]) (by simp)
  | ok location =>
    simp only [bind, Except.bind]
    cases there : disk.node? location with
    | none => simp [there, pure, Except.pure]
    | some node => cases node <;> simp [there, pure, Except.pure]

/-- Can a file be written at the path? -/
def Writable (disk : Disk) (path : Path) : Prop :=
  ∃ location, disk.locate path = .ok location ∧ disk.node? location ≠ some .folder

/-- Whether a file can be written depends on the folders alone. -/
theorem Writable.of_sameFolders {disk other : Disk} (same : disk.SameFolders other) {path : Path}
    (writable : disk.Writable path) : other.Writable path := by
  obtain ⟨location, found, notFolder⟩ := writable
  exact ⟨location, locate_of_foldersIn same.forth found,
    fun there => notFolder (same.back.folder location there)⟩

/-- A file that is written stands at the destination of its path. -/
theorem write_writes {disk after : Disk} {path : Path} {bytes : List UInt8}
    (written : disk.write path bytes = .ok after) :
    disk.Writable path ∧ disk.Writes after (disk.destination path) bytes := by
  obtain ⟨location, found, notFolder, rfl⟩ := write_eq_ok.mp written
  refine ⟨⟨location, found, notFolder⟩, ?_⟩
  rw [← locate_eq found]
  exact writes_put notFolder bytes

theorem Writable.write {disk : Disk} {path : Path} (writable : disk.Writable path)
    (bytes : List UInt8) : ∃ after, disk.write path bytes = .ok after := by
  obtain ⟨location, found, notFolder⟩ := writable
  exact ⟨_, write_eq_ok.mpr ⟨location, found, notFolder, rfl⟩⟩

/-! ### Making folders -/

/-- The one disk is the other with more folders. -/
structure Grows (disk after : Disk) : Prop where
  work : after.work = disk.work
  nodes : ∀ location, after.node? location = disk.node? location ∨
    disk.node? location = none ∧ after.node? location = some .folder

theorem Grows.refl (disk : Disk) : disk.Grows disk := ⟨rfl, fun _ => Or.inl rfl⟩

theorem Grows.trans {disk middle after : Disk} (one : disk.Grows middle)
    (two : middle.Grows after) : disk.Grows after where
  work := two.work.trans one.work
  nodes location := by
    rcases one.nodes location with kept | ⟨absent, made⟩
    · rw [← kept]
      exact two.nodes location
    · rcases two.nodes location with kept | ⟨gone, -⟩
      · exact Or.inr ⟨absent, kept.trans made⟩
      · rw [made] at gone
        cases gone

theorem Grows.foldersIn {disk after : Disk} (grows : disk.Grows after) : disk.FoldersIn after where
  work := grows.work
  folder location there := by
    rcases grows.nodes location with kept | ⟨absent, -⟩
    · rw [kept, there]
    · rw [absent] at there
      cases there

/-- Growing brings no file and takes none. -/
theorem Grows.file_iff {disk after : Disk} (grows : disk.Grows after) (location : Location)
    (bytes : List UInt8) :
    after.node? location = some (.file bytes) ↔ disk.node? location = some (.file bytes) := by
  rcases grows.nodes location with kept | ⟨absent, made⟩
  · rw [kept]
  · rw [absent, made]
    simp

theorem grows_put {disk : Disk} {location : Location} (absent : disk.node? location = none) :
    disk.Grows (disk.put location .folder) where
  work := work_put disk location _
  nodes other := by
    by_cases same : other = location
    · subst same
      refine Or.inr ⟨absent, node?_put_self disk ?_ _⟩
      rintro rfl
      cases absent
    · exact Or.inl (node?_put_other disk same _)

/-- A folder is made where its path can be walked and nothing is. -/
theorem makeFolder_eq_ok {disk after : Disk} {path : Path} :
    disk.makeFolder path = .ok after ↔
      ∃ location, disk.locate path = .ok location ∧ disk.node? location = none ∧
        disk.put location .folder = after := by
  rw [makeFolder]
  cases found : disk.locate path with
  | error e => exact iff_of_false (by simp [bind, Except.bind]) (by simp)
  | ok location =>
    simp only [bind, Except.bind]
    cases there : disk.node? location <;> simp [there, pure, Except.pure]

section MakeFolders

variable {P : Disk → Prop}

/-- What holds of a disk and goes on to hold when a folder is put where nothing is, on the way that
these parts lead, holds after folders were made there. -/
theorem makeFoldersUp_induct (anchor : Anchor) (parts : List Text)
    (put : ∀ (disk : Disk) (above : List Text) (location : Location), above <:+ parts → P disk →
      disk.locate ⟨anchor, above.reverse⟩ = .ok location → disk.node? location = none →
        P (disk.put location .folder))
    {disk : Disk} (holds : P disk) : P (makeFoldersUp anchor parts disk).1 := by
  induction parts generalizing disk with
  | nil =>
    rw [makeFoldersUp]
    split
    · next made =>
      obtain ⟨location, found, absent, rfl⟩ := makeFolder_eq_ok.mp made
      exact put disk [] location (List.suffix_refl _) holds found absent
    · exact holds
    · exact holds
  | cons part above ih =>
    have one {disk after : Disk} (holds : P disk)
        (made : disk.makeFolder ⟨anchor, (part :: above).reverse⟩ = .ok after) : P after := by
      obtain ⟨location, found, absent, rfl⟩ := makeFolder_eq_ok.mp made
      exact put disk (part :: above) location (List.suffix_refl _) holds found absent
    rw [makeFoldersUp]
    split
    · next made => exact one holds made
    · have aboveHolds := ih (fun disk higher location isAbove =>
        put disk higher location (isAbove.trans (List.suffix_cons _ _))) holds
      split
      · next made e same =>
        rw [same] at aboveHolds
        exact aboveHolds
      · next made same =>
        rw [same] at aboveHolds
        split
        · next last => exact one aboveHolds last
        · exact aboveHolds
        · exact aboveHolds
    · exact holds

theorem makeFolders_induct (path : Path)
    (put : ∀ (disk : Disk) (above : List Text) (location : Location), above <+: path.parts →
      P disk → disk.locate ⟨path.anchor, above⟩ = .ok location → disk.node? location = none →
        P (disk.put location .folder))
    {disk : Disk} (holds : P disk) : P (disk.makeFolders path).1 := by
  refine makeFoldersUp_induct path.anchor path.parts.reverse ?_ holds
  intro disk above location isAbove
  refine put disk above.reverse location ?_
  rwa [← List.reverse_suffix, List.reverse_reverse]

end MakeFolders

/-- **Making folders brings nothing but folders.** -/
theorem grows_makeFolders (disk : Disk) (path : Path) : disk.Grows (disk.makeFolders path).1 :=
  makeFolders_induct (P := disk.Grows) path
    (fun _ _ _ _ grows _ absent => grows.trans (grows_put absent)) (Grows.refl disk)

end Scenarist.Disk
