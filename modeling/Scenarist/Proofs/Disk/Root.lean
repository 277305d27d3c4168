/-
**Every folder stands in a folder.** On such a disk a path that leads to no folder ends in a step
down (`Rooted.locate_below`), so that what can be read has a name (`isName_of_read`), and where
files stand in folders as well, a folder that is made on a path without steps up is empty
(`namesIn_makeFolders`). Making folders and writing files keep the disk so.
-/

import Scenarist.Proofs.Disk.Folders
import Scenarist.Proofs.Run.Discovery

namespace Scenarist

/-! ### Paths that texts write -/

/-- All parts of the path are parts that a text can write. -/
def Path.Written (path : Path) : Prop :=
  ∀ part ∈ path.parts, Path.isTelling part = true ∧ '/' ∉ part

instance (path : Path) : Decidable path.Written :=
  inferInstanceAs (Decidable (∀ part ∈ path.parts, Path.isTelling part = true ∧ '/' ∉ part))

theorem Path.written_ofText (t : Text) : (Path.ofText t).Written := by
  intro part member
  obtain ⟨piece, telling⟩ := List.mem_filter.mp member
  exact ⟨telling, Text.not_mem_of_mem_cut piece⟩

theorem Path.Written.child {path : Path} (written : path.Written) (t : Text) :
    (path.child t).Written := by
  have below := Path.written_ofText t
  unfold Path.child Path.join
  split
  · intro part member
    rcases List.mem_append.mp member with above | last
    · exact written part above
    · exact below part last
  · exact below

theorem Path.Written.below {path : Path} (written : path.Written) {name : Text}
    (isName : Path.IsName name) : (path.below name).Written := by
  rw [← Path.child_name isName]
  exact written.child name

/-- No part of the path leads up. -/
def Path.Straight (path : Path) : Prop := ∀ part ∈ path.parts, part ≠ ".."

namespace Disk

/-- The working folder is a folder, and every folder stands in one. -/
structure Rooted (disk : Disk) : Prop where
  work : disk.node? disk.work = some .folder
  above : ∀ location name, disk.node? (location ++ [name]) = some .folder →
    disk.node? location = some .folder

/-- Only the locations that a disk holds have to be looked at. -/
theorem Rooted.of_nodes {disk : Disk} (work : disk.node? disk.work = some .folder)
    (above : ∀ entry ∈ disk.nodes, entry.2 = .folder →
      disk.node? entry.1.dropLast = some .folder) : disk.Rooted where
  work := work
  above location name there := by
    have isFolder := above _ (mem_of_node? (by simp) there) rfl
    rwa [List.dropLast_concat] at isFolder

theorem Rooted.of_sameFolders {disk other : Disk} (rooted : disk.Rooted)
    (same : disk.SameFolders other) : other.Rooted where
  work := by
    rw [same.forth.work]
    exact same.forth.folder _ rooted.work
  above location name there :=
    same.forth.folder _ (rooted.above location name (same.back.folder _ there))

theorem Rooted.dropLast {disk : Disk} (rooted : disk.Rooted) {location : Location}
    (there : disk.node? location = some .folder) : disk.node? location.dropLast = some .folder := by
  rcases List.eq_nil_or_concat location with rfl | ⟨above, last, rfl⟩
  · exact there
  · rw [List.concat_eq_append] at there ⊢
    rw [List.dropLast_concat]
    exact rooted.above above last there

theorem Rooted.start {disk : Disk} (rooted : disk.Rooted) (path : Path) :
    disk.node? (disk.start path) = some .folder := by
  unfold Disk.start
  split
  · exact rooted.work
  · exact disk.node?_root

/-- **A path that leads to no folder ends in a step down from one.** -/
theorem Rooted.locate_below {disk : Disk} (rooted : disk.Rooted) {path : Path}
    {location : Location} (found : disk.locate path = .ok location)
    (notFolder : disk.node? location ≠ some .folder) :
    ∃ (above : List Text) (name : Text), path.parts = above ++ [name] ∧ name ≠ ".." ∧
      disk.node? (disk.destination ⟨path.anchor, above⟩) = some .folder ∧
      location = disk.destination ⟨path.anchor, above⟩ ++ [name] := by
  obtain ⟨-, -, walked⟩ := locate_eq_ok.mp found
  rcases List.eq_nil_or_concat path.parts with none | ⟨above, name, parts⟩
  · rw [none] at walked
    cases walked
    exact absurd (rooted.start path) notFolder
  · rw [List.concat_eq_append] at parts
    rw [parts, walk_append] at walked
    cases middle : disk.walk (disk.start path) above with
    | error cause =>
      rw [middle] at walked
      cases walked
    | ok here =>
      rw [middle] at walked
      obtain ⟨isFolder, -, arrived⟩ := walk_cons.mp walked
      cases arrived
      obtain rfl : here = disk.destination ⟨path.anchor, above⟩ := walk_eq middle
      by_cases up : name = ".."
      · rw [descend, if_pos up] at notFolder
        exact absurd (rooted.dropLast isFolder) notFolder
      · rw [descend, if_neg up]
        exact ⟨above, name, parts, up, isFolder, rfl⟩

theorem Rooted.put {disk : Disk} (rooted : disk.Rooted) {path : Path} {location : Location}
    (found : disk.locate path = .ok location) (absent : disk.node? location = none) :
    (disk.put location .folder).Rooted := by
  have grows := grows_put absent
  obtain ⟨above, last, -, -, isFolder, rfl⟩ :=
    rooted.locate_below found (by rw [absent]; simp)
  refine ⟨?_, fun place name there => ?_⟩
  · rw [work_put]
    exact grows.foldersIn.folder _ rooted.work
  · refine grows.foldersIn.folder _ ?_
    by_cases here : place ++ [name] = disk.destination ⟨path.anchor, above⟩ ++ [last]
    · rw [(List.append_inj' here rfl).1]
      exact isFolder
    · rw [node?_put_other disk here] at there
      exact rooted.above place name there

/-- Such a disk stays one when folders are made. -/
theorem Rooted.makeFolders {disk : Disk} (rooted : disk.Rooted) (path : Path) :
    (disk.makeFolders path).1.Rooted :=
  makeFolders_induct (P := Rooted) path (fun _ _ _ _ rooted found absent => rooted.put found absent)
    rooted

/-! ### Files in folders -/

/-- Every file stands in a folder. -/
def Housed (disk : Disk) : Prop :=
  ∀ location name bytes, disk.node? (location ++ [name]) = some (.file bytes) →
    disk.node? location = some .folder

theorem Housed.of_nodes {disk : Disk} (above : ∀ entry ∈ disk.nodes,
    disk.node? entry.1.dropLast = some .folder) : disk.Housed := by
  intro location name bytes there
  have isFolder := above _ (mem_of_node? (by simp) there)
  rwa [List.dropLast_concat] at isFolder

theorem Housed.makeFolders {disk : Disk} (housed : disk.Housed) (path : Path) :
    (disk.makeFolders path).1.Housed := by
  intro location name bytes there
  have grows := grows_makeFolders disk path
  refine grows.foldersIn.folder _ (housed location name bytes ?_)
  rcases grows.nodes (location ++ [name]) with kept | ⟨-, isFolder⟩
  · rwa [kept] at there
  · rw [isFolder] at there
    cases there

/-! ### Below a folder that was not there -/

/-- A path without a step up goes down all its parts. -/
theorem foldl_descend {parts : List Text} (straight : ∀ part ∈ parts, part ≠ "..")
    (here : Location) :
    parts.foldl descend here = here ++ parts := by
  induction parts generalizing here with
  | nil => rw [List.foldl_nil, List.append_nil]
  | cons part rest ih =>
    obtain ⟨notUp, straight⟩ := List.forall_mem_cons.mp straight
    rw [List.foldl_cons, ih straight, descend, if_neg notUp, ← List.append_cons]

theorem Rooted.of_append {disk : Disk} (rooted : disk.Rooted) {location below : Location}
    (there : disk.node? (location ++ below) = some .folder) :
    disk.node? location = some .folder := by
  induction below using List.reverseRecOn with
  | nil => rwa [List.append_nil] at there
  | append_singleton below name ih =>
    rw [← List.append_assoc] at there
    exact ih (rooted.above _ name there)

/-- A path without a step up that can be walked on one disk can be walked to a folder of another. -/
theorem Rooted.walk_straight {disk other : Disk} (rooted : disk.Rooted) {parts : List Text}
    (straight : ∀ part ∈ parts, part ≠ "..") {here location : Location}
    (there : disk.node? (here ++ parts) = some .folder)
    (walked : other.walk here parts = .ok location) : disk.walk here parts = .ok location := by
  induction parts generalizing here with
  | nil => exact walked
  | cons part rest ih =>
    obtain ⟨notUp, straight⟩ := List.forall_mem_cons.mp straight
    obtain ⟨-, fits, arrived⟩ := walk_cons.mp walked
    rw [descend, if_neg notUp] at arrived
    refine walk_cons.mpr ⟨rooted.of_append there, fits, ?_⟩
    rw [descend, if_neg notUp]
    rw [List.append_cons] at there
    exact ih straight there arrived

/-- Where a path without a step up leads to nothing, but can be walked on a disk with more folders,
nothing is below either: something there would stand in a folder. -/
theorem Rooted.node?_below {disk other : Disk} (rooted : disk.Rooted) (housed : disk.Housed)
    {path : Path} (straight : path.Straight) (absent : disk.look? path = .ok none)
    (kept : disk.FoldersIn other) {location : Location} (found : other.locate path = .ok location)
    (name : Text) : disk.node? (disk.destination path ++ [name]) = none := by
  obtain ⟨noNul, fits, walked⟩ := locate_eq_ok.mp found
  rw [kept.start] at walked
  have leads : disk.destination path = disk.start path ++ path.parts := foldl_descend straight _
  cases there : disk.node? (disk.destination path ++ [name]) with
  | none => rfl
  | some node =>
    have isFolder : disk.node? (disk.destination path) = some .folder := by
      cases node with
      | file bytes => exact housed _ _ _ there
      | folder => exact rooted.above _ _ there
    have located := locate_eq_ok.mpr
      ⟨noNul, fits, rooted.walk_straight straight (leads ▸ isFolder) walked⟩
    rw [look?_eq_some.mpr ⟨_, located, locate_eq located ▸ isFolder⟩] at absent
    cases absent

/-- The way of a path without a step up ends where the path leads. -/
theorem not_onWay_below (disk : Disk) {path : Path} (straight : path.Straight) (name : Text) :
    ¬disk.OnWay path (disk.destination path ++ [name]) := by
  rintro ⟨above, isAbove, deeper⟩
  have leads : disk.destination path = disk.start path ++ path.parts := foldl_descend straight _
  have aboveLeads : disk.destination ⟨path.anchor, above⟩ = disk.start path ++ above :=
    foldl_descend (fun part among => straight part (isAbove.subset among)) _
  rw [leads, aboveLeads] at deeper
  have length := congrArg List.length deeper
  have short := isAbove.length_le
  simp only [List.length_append, List.length_singleton] at length
  omega

/-- **A folder that was made is empty**, unless the path to it leads up again. -/
theorem namesIn_makeFolders {disk : Disk} (rooted : disk.Rooted) (housed : disk.Housed)
    {path : Path} (straight : path.Straight) (absent : disk.look? path = .ok none)
    (done : (disk.makeFolders path).2 = .ok ()) :
    (disk.makeFolders path).1.namesIn (disk.destination path) = [] := by
  obtain ⟨location, found, -⟩ := look?_eq_some.mp (look?_makeFolders done)
  have nothing := rooted.node?_below housed straight absent
    (grows_makeFolders disk path).foldersIn found
  refine List.eq_nil_iff_forall_not_mem.mpr fun name listed => ?_
  obtain ⟨node, member⟩ := mem_namesIn.mp listed
  have present : (disk.makeFolders path).1.node? (disk.destination path ++ [name]) ≠ none := by
    rw [node?_eq (by simp)]
    exact fun none => by simpa using List.lookup_eq_none_iff.mp none _ member
  rcases makeFolders_onWay disk path (disk.destination path ++ [name]) with
    kept | ⟨-, -, onWay⟩
  · rw [kept] at present
    exact present (nothing name)
  · exact not_onWay_below disk straight name onWay

/-! ### What can be read -/

/-- **What can be read has a name.** -/
theorem isName_of_read {disk : Disk} (rooted : disk.Rooted) {path : Path} (written : path.Written)
    {bytes : List UInt8} (held : disk.read path = .ok bytes) : Path.IsName path.name := by
  obtain ⟨location, found, there⟩ := read_eq_ok.mp held
  obtain ⟨above, name, parts, notUp, -, -⟩ :=
    rooted.locate_below found (by rw [there]; simp)
  have last : path.name = name := by
    rw [Path.name, parts, List.getLast?_concat]
    rfl
  have member : name ∈ path.parts := by
    rw [parts]
    exact List.mem_append_right _ List.mem_cons_self
  obtain ⟨telling, whole⟩ := written name member
  rw [Path.isTelling, Bool.and_eq_true, Bool.not_eq_true', List.isEmpty_eq_false_iff,
    bne_iff_ne] at telling
  rw [last]
  refine ⟨telling.1, telling.2, notUp, whole, fun nul => ?_⟩
  exact (locate_eq_ok.mp found).1 ((Path.nul_mem_text path).mpr ⟨name, member, nul⟩)

end Disk

end Scenarist
