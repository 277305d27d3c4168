/-
**Disks that are alike but for the contents of some files.** Such disks have the same folders and
files at the same locations, so that every path leads to the same location or is refused for the
same cause (`locate_alike`), the same questions have the same answers, and folders are made alike
(`makeFolders_alike`): only reading a file whose contents differ can tell them apart.
-/

import Scenarist.Proofs.Disk.Folders

namespace Scenarist

namespace Text

theorem le_antisymm (a b : Text) (one : le a b = true) (two : le b a = true) : a = b := by
  induction a generalizing b with
  | nil =>
    cases b with
    | nil => rfl
    | cons d b => cases two
  | cons c a ih =>
    cases b with
    | nil => cases one
    | cons d b =>
      rw [le] at one two
      by_cases same : c = d
      · subst same
        rw [if_pos rfl] at one two
        rw [ih b one two]
      · rw [if_neg same, decide_eq_true_eq] at one
        rw [if_neg (Ne.symm same), decide_eq_true_eq] at two
        exact absurd (Nat.lt_trans one two) (Nat.lt_irrefl _)

end Text

namespace Disk

/-- The disks hold the same but for the contents of the files at these locations. -/
structure Alike (differs : Location → Prop) (disk other : Disk) : Prop where
  work : other.work = disk.work
  same : ∀ location, ¬differs location → other.node? location = disk.node? location
  files : ∀ location, differs location → ∃ bytes others,
    disk.node? location = some (.file bytes) ∧ other.node? location = some (.file others)

section Alike

variable {differs : Location → Prop} {disk other : Disk}

/-! ### What is where -/

theorem Alike.isSome (alike : Alike differs disk other) (location : Location) :
    (other.node? location).isSome = (disk.node? location).isSome := by
  by_cases differ : differs location
  · obtain ⟨bytes, others, here, there⟩ := alike.files location differ
    rw [here, there]
    rfl
  · rw [alike.same location differ]

theorem Alike.anyFile (alike : Alike differs disk other) (location : Location) :
    (other.node? location).any Node.isFile = (disk.node? location).any Node.isFile := by
  by_cases differ : differs location
  · obtain ⟨bytes, others, here, there⟩ := alike.files location differ
    rw [here, there]
    rfl
  · rw [alike.same location differ]

theorem Alike.folder_iff (alike : Alike differs disk other) (location : Location) :
    other.node? location = some .folder ↔ disk.node? location = some .folder := by
  by_cases differ : differs location
  · obtain ⟨bytes, others, here, there⟩ := alike.files location differ
    rw [here, there]
    exact iff_of_false (by simp) (by simp)
  · rw [alike.same location differ]

/-- **Disks that are alike have the same folders.** -/
theorem Alike.sameFolders (alike : Alike differs disk other) : disk.SameFolders other :=
  ⟨⟨alike.work, fun location => (alike.folder_iff location).mpr⟩,
    ⟨alike.work.symm, fun location => (alike.folder_iff location).mp⟩⟩

/-! ### Where paths lead -/

theorem walk_alike (alike : Alike differs disk other) (here : Location) (parts : List Text) :
    other.walk here parts = disk.walk here parts := by
  induction parts generalizing here with
  | nil => rfl
  | cons part rest ih =>
    rw [walk, walk]
    by_cases differ : differs here
    · obtain ⟨bytes, others, held, heldThere⟩ := alike.files here differ
      rw [held, heldThere]
    · rw [alike.same here differ, ih, ih]

/-- **Paths lead to the same locations**, or are refused for the same cause. -/
theorem locate_alike (alike : Alike differs disk other) (path : Path) :
    other.locate path = disk.locate path := by
  rw [locate_start, locate_start, alike.sameFolders.forth.start, walk_alike alike]

theorem look_alike (alike : Alike differs disk other) {path : Path}
    (same : ¬differs (disk.destination path)) : other.look path = disk.look path := by
  rw [look, look, locate_alike alike]
  cases found : disk.locate path with
  | error e => rfl
  | ok location =>
    rw [← locate_eq found] at same
    simp only [bind, Except.bind, alike.same location same]

theorem look?_alike (alike : Alike differs disk other) {path : Path}
    (same : ¬differs (disk.destination path)) : other.look? path = disk.look? path := by
  rw [look?, look?, look_alike alike same]

/-- What is read elsewhere is the same, also why it cannot be read. -/
theorem read_alike (alike : Alike differs disk other) {path : Path}
    (same : ¬differs (disk.destination path)) : other.read path = disk.read path := by
  rw [read, read, look_alike alike same]

/-- Something is at a path on both disks, or nothing is, or the path is refused on both. -/
theorem look?_cases (alike : Alike differs disk other) (path : Path) :
    (∃ node nodeThere, disk.look? path = .ok (some node) ∧
        other.look? path = .ok (some nodeThere)) ∨
      disk.look? path = .ok none ∧ other.look? path = .ok none ∨
      ∃ e, disk.look? path = .error e ∧ other.look? path = .error e := by
  by_cases differ : differs (disk.destination path)
  · cases found : disk.locate path with
    | ok location =>
      obtain ⟨bytes, others, here, there⟩ := alike.files _ differ
      rw [← locate_eq found] at here there
      exact Or.inl ⟨_, _, look?_eq_some.mpr ⟨location, found, here⟩,
        look?_eq_some.mpr ⟨location, (locate_alike alike path).trans found, there⟩⟩
    | error cause =>
      have same : other.look? path = disk.look? path := by
        rw [look?, look?, look, look, locate_alike alike, found]
        rfl
      rw [same]
      rcases disk.look? path with e | none | node
      · exact Or.inr (Or.inr ⟨e, rfl, rfl⟩)
      · exact Or.inr (Or.inl ⟨rfl, rfl⟩)
      · exact Or.inl ⟨node, node, rfl, rfl⟩
  · rw [look?_alike alike differ]
    rcases disk.look? path with e | none | node
    · exact Or.inr (Or.inr ⟨e, rfl, rfl⟩)
    · exact Or.inr (Or.inl ⟨rfl, rfl⟩)
    · exact Or.inl ⟨node, node, rfl, rfl⟩

theorem isFile_alike (alike : Alike differs disk other) (path : Path) :
    other.isFile path = disk.isFile path := by
  rw [isFile, isFile]
  cases found : disk.locate path with
  | ok location =>
    rw [look?_of_located found, look?_of_located ((locate_alike alike path).trans found)]
    exact congrArg Except.ok (alike.anyFile location)
  | error e =>
    rw [look?, look?, look, look, locate_alike alike, found]
    rfl

theorem isFolder_alike (alike : Alike differs disk other) (path : Path) :
    other.isFolder path = disk.isFolder path := by
  rw [isFolder, isFolder]
  cases found : disk.locate path with
  | ok location =>
    rw [look?_of_located found, look?_of_located ((locate_alike alike path).trans found)]
    exact congrArg Except.ok (decide_eq_decide.mpr (alike.folder_iff location))
  | error e =>
    rw [look?, look?, look, look, locate_alike alike, found]
    rfl

/-- The names in a folder are those at which something is. -/
theorem mem_namesIn_iff {disk : Disk} {folder : Location} {name : Text} :
    name ∈ disk.namesIn folder ↔ (disk.node? (folder ++ [name])).isSome = true := by
  rw [mem_namesIn]
  constructor
  · rintro ⟨node, member⟩
    rw [node?_eq (by simp), Option.isSome_iff_ne_none]
    intro absent
    rw [List.lookup_eq_none_iff] at absent
    exact bne_iff_ne.mp (absent _ member) rfl
  · intro there
    obtain ⟨node, found⟩ := Option.isSome_iff_exists.mp there
    exact ⟨node, mem_of_node? (by simp) found⟩

/-- The same names are in a folder. -/
theorem namesIn_alike (alike : Alike differs disk other) (canonical : disk.Canonical)
    (canonicalThere : other.Canonical) (folder : Location) :
    other.namesIn folder = disk.namesIn folder := by
  have perm : (other.namesIn folder).Perm (disk.namesIn folder) := by
    rw [List.perm_ext_iff_of_nodup (canonicalThere.nodup_namesIn folder)
      (canonical.nodup_namesIn folder)]
    intro name
    rw [mem_namesIn_iff, mem_namesIn_iff, alike.isSome]
  exact perm.eq_of_pairwise (fun a b _ _ => Text.le_antisymm a b) (sorted_namesIn other folder)
    (sorted_namesIn disk folder)

/-! ### Making folders -/

theorem Alike.put (alike : Alike differs disk other) {location : Location}
    (absent : disk.node? location = none) :
    Alike differs (disk.put location .folder) (other.put location .folder) where
  work := by rw [work_put, work_put, alike.work]
  same place same := by
    by_cases here : place = location
    · subst here
      have below : place ≠ [] := by
        rintro rfl
        cases absent
      rw [node?_put_self _ below, node?_put_self _ below]
    · rw [node?_put_other _ here, node?_put_other _ here, alike.same place same]
  files place differ := by
    obtain ⟨bytes, others, held, heldThere⟩ := alike.files place differ
    have elsewhere : place ≠ location := by
      rintro rfl
      rw [absent] at held
      cases held
    exact ⟨bytes, others, by rw [node?_put_other _ elsewhere, held],
      by rw [node?_put_other _ elsewhere, heldThere]⟩

/-- A folder is made on both or refused on both for the same cause. -/
theorem makeFolder_alike (alike : Alike differs disk other) (path : Path) :
    (∃ e, disk.makeFolder path = .error e ∧ other.makeFolder path = .error e) ∨
      ∃ made madeThere, disk.makeFolder path = .ok made ∧ other.makeFolder path = .ok madeThere ∧
        Alike differs made madeThere := by
  rw [makeFolder, makeFolder, locate_alike alike]
  cases disk.locate path with
  | error e => exact Or.inl ⟨e, rfl, rfl⟩
  | ok location =>
    simp only [bind, Except.bind]
    have there := alike.isSome location
    cases held : disk.node? location with
    | none =>
      rw [held, Option.isSome_none, Option.isSome_eq_false_iff, Option.isNone_iff_eq_none] at there
      rw [there]
      exact Or.inr ⟨_, _, rfl, rfl, alike.put held⟩
    | some node =>
      rw [held, Option.isSome_some] at there
      obtain ⟨nodeThere, heldThere⟩ := Option.isSome_iff_exists.mp there
      rw [heldThere]
      exact Or.inl ⟨_, rfl, rfl⟩

theorem acceptFolder_alike (alike : Alike differs disk other) (path : Path) (e : Error) :
    (other.acceptFolder path e).map (fun _ => ()) =
      (disk.acceptFolder path e).map fun _ => () := by
  cases e with
  | nulInPath => rfl
  | refused cause refusedAt =>
    rw [acceptFolder, acceptFolder, isFolder_alike alike]
    cases disk.isFolder path with
    | error e => rfl
    | ok answer => cases answer <;> rfl

/-- The folder at a path made, or what is done `otherwise` where no way leads to it. -/
def makeFolderOr (disk : Disk) (path : Path) (otherwise : Disk × Except Error Unit) :
    Disk × Except Error Unit :=
  match disk.makeFolder path with
  | .ok made => (made, .ok ())
  | .error (.refused .notFound _) => otherwise
  | .error e => (disk, (disk.acceptFolder path e).map fun _ => ())

theorem makeFoldersUp_nil (anchor : Anchor) (disk : Disk) :
    makeFoldersUp anchor [] disk =
      disk.makeFolderOr ⟨anchor, []⟩ (disk, .error (.refused .notFound ⟨anchor, []⟩)) := rfl

/-- Where no way leads to the last folder, the ones above it are made first. -/
theorem makeFoldersUp_cons (anchor : Anchor) (part : Text) (above : List Text) (disk : Disk) :
    makeFoldersUp anchor (part :: above) disk =
      disk.makeFolderOr ⟨anchor, (part :: above).reverse⟩
        (match makeFoldersUp anchor above disk with
        | (made, .error e) => (made, .error e)
        | (made, .ok ()) => made.makeFolderOr ⟨anchor, (part :: above).reverse⟩
            (made, .error (.refused .notFound ⟨anchor, (part :: above).reverse⟩))) := rfl

/-- The outcomes are the same, and the disks are alike. -/
def MadeAlike (differs : Location → Prop) (here there : Disk × Except Error Unit) : Prop :=
  there.2 = here.2 ∧ Alike differs here.1 there.1

theorem makeFolderOr_alike (alike : Alike differs disk other) (path : Path)
    {otherwise otherwiseThere : Disk × Except Error Unit}
    (same : MadeAlike differs otherwise otherwiseThere) :
    MadeAlike differs (disk.makeFolderOr path otherwise)
      (other.makeFolderOr path otherwiseThere) := by
  rw [makeFolderOr, makeFolderOr]
  rcases makeFolder_alike alike path with ⟨e, refused, refusedThere⟩ |
    ⟨made, madeThere, done, doneThere, madeAlike⟩
  · have accepted := acceptFolder_alike alike path e
    rw [refused, refusedThere]
    split
    · next ok => cases ok
    · exact same
    · next other =>
      cases other
      exact ⟨accepted, alike⟩
  · rw [done, doneThere]
    exact ⟨rfl, madeAlike⟩

theorem makeFoldersUp_alike (alike : Alike differs disk other) (anchor : Anchor)
    (parts : List Text) :
    MadeAlike differs (makeFoldersUp anchor parts disk) (makeFoldersUp anchor parts other) := by
  induction parts generalizing disk other with
  | nil =>
    rw [makeFoldersUp_nil, makeFoldersUp_nil]
    exact makeFolderOr_alike alike _ ⟨rfl, alike⟩
  | cons part above ih =>
    rw [makeFoldersUp_cons, makeFoldersUp_cons]
    refine makeFolderOr_alike alike _ ?_
    have both := ih alike
    rcases here : makeFoldersUp anchor above disk with ⟨made, result⟩
    rcases there : makeFoldersUp anchor above other with ⟨madeThere, resultThere⟩
    rw [here, there] at both
    obtain ⟨rfl, aboveAlike⟩ := both
    dsimp only at aboveAlike ⊢
    cases resultThere with
    | error e => exact ⟨rfl, aboveAlike⟩
    | ok done => exact makeFolderOr_alike aboveAlike _ ⟨rfl, aboveAlike⟩

/-- **Folders are made alike.** -/
theorem makeFolders_alike (alike : Alike differs disk other) (path : Path) :
    MadeAlike differs (disk.makeFolders path) (other.makeFolders path) :=
  makeFoldersUp_alike alike path.anchor path.parts.reverse

end Alike

end Disk

end Scenarist
