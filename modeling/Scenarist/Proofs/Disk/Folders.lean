/-
**Where folders are made.** Making folders brings them on the way that a path leads and nowhere else
(`makeFolders_onWay`). When it succeeds a folder is at the path, and where a folder is already
nothing is made: doing it again is doing nothing (`makeFolders_again`).
-/

import Scenarist.Proofs.Disk.Listing

namespace Scenarist.Disk

/-! ### On the way -/

/-- The location is one that the path or a path above it leads to. -/
def OnWay (disk : Disk) (path : Path) (location : Location) : Prop :=
  ∃ above, above <+: path.parts ∧ location = disk.destination ⟨path.anchor, above⟩

theorem FoldersIn.onWay {disk other : Disk} (kept : disk.FoldersIn other) {path : Path}
    {location : Location} (onWay : other.OnWay path location) : disk.OnWay path location := by
  obtain ⟨above, isAbove, rfl⟩ := onWay
  exact ⟨above, isAbove, kept.destination _⟩

/-- **Folders are made on the way to the path**, where nothing was. -/
theorem makeFolders_onWay (disk : Disk) (path : Path) (location : Location) :
    (disk.makeFolders path).1.node? location = disk.node? location ∨
      disk.node? location = none ∧ (disk.makeFolders path).1.node? location = some .folder ∧
        disk.OnWay path location := by
  have made : disk.Grows (disk.makeFolders path).1 ∧
      ∀ location, (disk.makeFolders path).1.node? location ≠ disk.node? location →
        disk.OnWay path location := by
    refine makeFolders_induct (P := fun after => disk.Grows after ∧
      ∀ location, after.node? location ≠ disk.node? location → disk.OnWay path location) path ?_
      ⟨Grows.refl disk, fun _ different => absurd rfl different⟩
    rintro middle above there isAbove ⟨grows, onWay⟩ found absent
    refine ⟨grows.trans (grows_put absent), fun location different => ?_⟩
    by_cases here : location = there
    · rw [here, locate_eq found, grows.foldersIn.destination]
      exact ⟨above, isAbove, rfl⟩
    · rw [node?_put_other middle here] at different
      exact onWay location different
  rcases made.1.nodes location with kept | ⟨absent, isFolder⟩
  · exact Or.inl kept
  · refine Or.inr ⟨absent, isFolder, made.2 location ?_⟩
    rw [absent, isFolder]
    simp

/-! ### A folder at the path -/

theorem isFolder_eq_true {disk : Disk} {path : Path} :
    disk.isFolder path = .ok true ↔ disk.look? path = .ok (some .folder) := by
  rw [isFolder]
  cases disk.look? path with
  | error e => exact iff_of_false (fun said => by cases said) (fun said => by cases said)
  | ok seen =>
    show Except.ok (decide (seen = some .folder)) = Except.ok true ↔ _
    simp

/-- A failure to make a folder is accepted only where one is. -/
theorem of_acceptFolder {disk : Disk} {path : Path} {e : Error}
    (accepted : (disk.acceptFolder path e).map (fun _ => ()) = .ok ()) :
    disk.look? path = .ok (some .folder) := by
  cases e with
  | nulInPath => cases accepted
  | refused cause refusedAt =>
    rw [acceptFolder] at accepted
    rw [← isFolder_eq_true]
    cases isHere : disk.isFolder path with
    | error e =>
      rw [isHere] at accepted
      cases accepted
    | ok answer =>
      cases answer with
      | true => rfl
      | false =>
        rw [isHere] at accepted
        cases accepted

theorem look?_of_makeFolder {disk made : Disk} {path : Path}
    (done : disk.makeFolder path = .ok made) : made.look? path = .ok (some .folder) := by
  obtain ⟨location, found, absent, rfl⟩ := makeFolder_eq_ok.mp done
  refine look?_eq_some.mpr ⟨location, locate_of_foldersIn (grows_put absent).foldersIn found, ?_⟩
  apply node?_put_self
  rintro rfl
  cases absent

theorem look?_makeFoldersUp {anchor : Anchor} {parts : List Text} {disk made : Disk}
    (done : makeFoldersUp anchor parts disk = (made, .ok ())) :
    made.look? ⟨anchor, parts.reverse⟩ = .ok (some .folder) := by
  cases parts with
  | nil =>
    rw [makeFoldersUp] at done
    split at done
    · next one =>
      cases done
      exact look?_of_makeFolder one
    · cases done
    · obtain ⟨rfl, accepted⟩ := Prod.mk.inj done
      exact of_acceptFolder accepted
  | cons part above =>
    rw [makeFoldersUp] at done
    split at done
    · next one =>
      cases done
      exact look?_of_makeFolder one
    · split at done
      · cases done
      · split at done
        · next last =>
          cases done
          exact look?_of_makeFolder last
        · cases done
        · obtain ⟨rfl, accepted⟩ := Prod.mk.inj done
          exact of_acceptFolder accepted
    · obtain ⟨rfl, accepted⟩ := Prod.mk.inj done
      exact of_acceptFolder accepted

/-- **Where folders were made a folder is.** -/
theorem look?_makeFolders {disk : Disk} {path : Path} (done : (disk.makeFolders path).2 = .ok ()) :
    (disk.makeFolders path).1.look? path = .ok (some .folder) := by
  have up : makeFoldersUp path.anchor path.parts.reverse disk =
      ((disk.makeFolders path).1, .ok ()) := Prod.ext rfl done
  have looked := look?_makeFoldersUp up
  rwa [List.reverse_reverse] at looked

/-- Where a folder is, none is made. -/
theorem makeFolders_of_folder {disk : Disk} {path : Path}
    (isFolder : disk.look? path = .ok (some .folder)) : disk.makeFolders path = (disk, .ok ()) := by
  obtain ⟨location, found, there⟩ := look?_eq_some.mp isFolder
  have refused : disk.makeFolder path = .error (.refused .fileExists path) := by
    simp only [makeFolder, found, bind, Except.bind, there]
  have accepted : (disk.acceptFolder path (.refused .fileExists path)).map (fun _ => ()) =
      .ok () := by
    rw [acceptFolder, isFolder_eq_true.mpr isFolder]
    rfl
  obtain ⟨anchor, parts⟩ := path
  rw [makeFolders]
  cases same : parts.reverse with
  | nil =>
    obtain rfl := List.reverse_eq_nil_iff.mp same
    rw [makeFoldersUp]
    simp only [refused, accepted]
  | cons part above =>
    obtain rfl : parts = (part :: above).reverse := by rw [← same, List.reverse_reverse]
    rw [makeFoldersUp]
    simp only [refused, accepted]

/-- **Making folders again makes none**, also after the disk went on to keep its folders. -/
theorem makeFolders_again {disk after : Disk} {path : Path}
    (done : (disk.makeFolders path).2 = .ok ())
    (kept : (disk.makeFolders path).1.FoldersIn after) :
    after.makeFolders path = (after, .ok ()) :=
  makeFolders_of_folder (look?_of_foldersIn kept (look?_makeFolders done))

end Scenarist.Disk
