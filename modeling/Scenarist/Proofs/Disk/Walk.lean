/-
**Where paths lead.** Without links a path has one destination, whatever the disk holds: every part
is one step down and two dots are one step up (`destination`). Walking a path refuses where a folder
is missing on the way, and where it does not refuse it arrives at the destination (`locate_eq`).
Whether it refuses depends on the folders alone, so a disk that keeps the folders keeps the
locations (`locate_of_foldersIn`).
-/

import Mathlib.Data.List.Nodup
import Scenarist.Disk.Tree

namespace Scenarist.Disk

/-! ### Nodes -/

theorem node?_eq {location : Location} (below : location ≠ []) (disk : Disk) :
    disk.node? location = disk.nodes.lookup location := by
  unfold node?
  rw [if_neg (by rwa [List.isEmpty_iff])]

theorem node?_root (disk : Disk) : disk.node? [] = some .folder := rfl

/-- What is at a location is among the nodes. -/
theorem mem_of_node? {disk : Disk} {location : Location} {node : Node} (below : location ≠ [])
    (found : disk.node? location = some node) : (location, node) ∈ disk.nodes := by
  rw [node?_eq below, List.lookup_eq_some_iff] at found
  obtain ⟨before, after, whole, -⟩ := found
  rw [whole]
  exact List.mem_append_right _ List.mem_cons_self

theorem lookup_map_replace (nodes : List (Location × Node)) (location other : Location)
    (node : Node) :
    (nodes.map fun entry => if entry.1 = location then (location, node) else entry).lookup other =
      if other = location then (nodes.lookup location).map fun _ => node
      else nodes.lookup other := by
  induction nodes with
  | nil => simp
  | cons entry nodes ih =>
    obtain ⟨here, content⟩ := entry
    rw [List.map_cons]
    by_cases same : here = location
    · subst same
      by_cases asked : other = here
      · simp [asked]
      · simp [asked, ih, List.lookup_cons, beq_false_of_ne asked]
    · by_cases asked : other = location
      · subst asked
        simp [same, ih, List.lookup_cons, beq_false_of_ne (Ne.symm same)]
      · simp [same, asked, ih, List.lookup_cons]

/-- What was put at a location is there. -/
theorem node?_put_self (disk : Disk) {location : Location} (below : location ≠ []) (node : Node) :
    (disk.put location node).node? location = some node := by
  rw [node?_eq below, put]
  split
  · next there =>
    obtain ⟨old, found⟩ := Option.isSome_iff_exists.mp there
    rw [lookup_map_replace, if_pos rfl, found]
    rfl
  · next absent =>
    rw [Option.not_isSome_iff_eq_none] at absent
    rw [List.lookup_append, absent]
    simp

/-- Everywhere else the disk is as it was. -/
theorem node?_put_other (disk : Disk) {location other : Location} (different : other ≠ location)
    (node : Node) : (disk.put location node).node? other = disk.node? other := by
  by_cases top : other = []
  · rw [top]
    rfl
  rw [node?_eq top, node?_eq top, put]
  split
  · rw [lookup_map_replace, if_neg different]
  · rw [List.lookup_append]
    simp [List.lookup_cons, beq_false_of_ne different]

@[simp] theorem work_put (disk : Disk) (location : Location) (node : Node) :
    (disk.put location node).work = disk.work := by
  unfold put
  split <;> rfl

/-! ### Destinations -/

/-- One step along a path. -/
def descend (here : Location) (part : Text) : Location :=
  if part = ".." then here.dropLast else here ++ [part]

/-- Where a path starts. -/
def start (disk : Disk) (path : Path) : Location :=
  if path.anchor = .here then disk.work else []

/-- Where a path leads, whether or not anything is there. -/
def destination (disk : Disk) (path : Path) : Location :=
  path.parts.foldl descend (disk.start path)

/-- A step can be made from a folder, up or to a name that is not too long. -/
theorem walk_cons {disk : Disk} {here location : Location} {part : Text} {rest : List Text} :
    disk.walk here (part :: rest) = .ok location ↔
      disk.node? here = some .folder ∧
      (part = ".." ∨ (Utf8.encode part).length ≤ nameLimit) ∧
      disk.walk (descend here part) rest = .ok location := by
  rw [walk, descend]
  cases there : disk.node? here with
  | none => simp
  | some node =>
    cases node with
    | file bytes => simp
    | folder =>
      by_cases up : part = ".."
      · simp [up]
      · simp only [up, true_and, false_or]
        by_cases long : nameLimit < (Utf8.encode part).length
        · rw [if_pos long]
          simp [Nat.not_le.mpr long]
        · rw [if_neg long]
          simp [Nat.le_of_not_lt long]

theorem walk_eq {disk : Disk} {here location : Location} {parts : List Text}
    (found : disk.walk here parts = .ok location) : location = parts.foldl descend here := by
  induction parts generalizing here with
  | nil => cases found; rfl
  | cons part rest ih => exact ih (walk_cons.mp found).2.2

theorem walk_append (disk : Disk) (here : Location) (first second : List Text) :
    disk.walk here (first ++ second) =
      (disk.walk here first).bind fun middle => disk.walk middle second := by
  induction first generalizing here with
  | nil => rfl
  | cons part rest ih =>
    rw [List.cons_append, walk, walk]
    split
    · rfl
    · rfl
    · split
      · exact ih _
      · split
        · rfl
        · exact ih _

theorem locate_start (disk : Disk) (path : Path) : disk.locate path =
    if path.text.contains '\x00' then .error .nulInPath
    else if pathLimit < (Utf8.encode path.text).length then .error (.refused .nameTooLong path)
    else (disk.walk (disk.start path) path.parts).mapError (.refused · path) := rfl

/-- A path is located when it is no longer than a path may be and can be walked. -/
theorem locate_eq_ok {disk : Disk} {path : Path} {location : Location} :
    disk.locate path = .ok location ↔
      '\x00' ∉ path.text ∧ (Utf8.encode path.text).length ≤ pathLimit ∧
      disk.walk (disk.start path) path.parts = .ok location := by
  rw [locate_start]
  by_cases nul : '\x00' ∈ path.text
  · simp [nul]
  · by_cases long : pathLimit < (Utf8.encode path.text).length
    · simp [nul, long, Nat.not_le.mpr long]
    · have fits := Nat.le_of_not_lt long
      cases walked : disk.walk (disk.start path) path.parts with
      | error cause => simp [nul, long, Except.mapError]
      | ok there => simp [nul, long, fits, Except.mapError]

/-- **A path that can be walked leads to its destination.** -/
theorem locate_eq {disk : Disk} {path : Path} {location : Location}
    (found : disk.locate path = .ok location) : location = disk.destination path :=
  walk_eq (locate_eq_ok.mp found).2.2

/-! ### Disks that keep folders -/

/-- Every folder of one disk is a folder of the other. -/
structure FoldersIn (disk other : Disk) : Prop where
  work : other.work = disk.work
  folder : ∀ location, disk.node? location = some .folder → other.node? location = some .folder

theorem FoldersIn.trans {disk other third : Disk} (one : disk.FoldersIn other)
    (two : other.FoldersIn third) : disk.FoldersIn third where
  work := two.work.trans one.work
  folder location there := two.folder location (one.folder location there)

theorem walk_of_foldersIn {disk other : Disk} (kept : disk.FoldersIn other)
    {here location : Location} {parts : List Text} (found : disk.walk here parts = .ok location) :
    other.walk here parts = .ok location := by
  induction parts generalizing here with
  | nil => exact found
  | cons part rest ih =>
    obtain ⟨folder, fits, walked⟩ := walk_cons.mp found
    exact walk_cons.mpr ⟨kept.folder here folder, fits, ih walked⟩

/-- Two disks with the same folders. -/
structure SameFolders (disk other : Disk) : Prop where
  forth : disk.FoldersIn other
  back : other.FoldersIn disk

theorem SameFolders.refl (disk : Disk) : disk.SameFolders disk :=
  ⟨⟨rfl, fun _ there => there⟩, ⟨rfl, fun _ there => there⟩⟩

theorem SameFolders.symm {disk other : Disk} (same : disk.SameFolders other) :
    other.SameFolders disk := ⟨same.back, same.forth⟩

theorem SameFolders.trans {disk other third : Disk} (one : disk.SameFolders other)
    (two : other.SameFolders third) : disk.SameFolders third :=
  ⟨one.forth.trans two.forth, two.back.trans one.back⟩

theorem FoldersIn.start {disk other : Disk} (kept : disk.FoldersIn other) (path : Path) :
    other.start path = disk.start path := by
  rw [Disk.start, Disk.start, kept.work]

theorem FoldersIn.destination {disk other : Disk} (kept : disk.FoldersIn other) (path : Path) :
    other.destination path = disk.destination path := by
  rw [Disk.destination, Disk.destination, kept.start]

/-- **A disk that keeps the folders keeps the locations.** -/
theorem locate_of_foldersIn {disk other : Disk} (kept : disk.FoldersIn other) {path : Path}
    {location : Location} (found : disk.locate path = .ok location) :
    other.locate path = .ok location := by
  obtain ⟨noNul, fits, walked⟩ := locate_eq_ok.mp found
  refine locate_eq_ok.mpr ⟨noNul, fits, ?_⟩
  rw [kept.start]
  exact walk_of_foldersIn kept walked

/-- Where no folder is, a path cannot go on, however long its parts are. -/
theorem walk_cons_of_not_folder {disk : Disk} {here : Location}
    (absent : disk.node? here ≠ some .folder) (part : Text) (rest : List Text) :
    ∃ cause, cause ≠ .nameTooLong ∧ disk.walk here (part :: rest) = .error cause := by
  rw [walk]
  cases there : disk.node? here with
  | none => exact ⟨.notFound, by decide, rfl⟩
  | some node =>
    cases node with
    | file bytes => exact ⟨.notFolder, by decide, rfl⟩
    | folder => exact absurd there absent

/-- On disks with the same folders a path is walked alike, up to what is said of a folder that is
missing on the way. -/
theorem walk_congr {disk other : Disk} (same : disk.SameFolders other) (here : Location)
    (parts : List Text) :
    other.walk here parts = disk.walk here parts ∨
      ∃ one two, one ≠ .nameTooLong ∧ two ≠ .nameTooLong ∧
        disk.walk here parts = .error one ∧ other.walk here parts = .error two := by
  induction parts generalizing here with
  | nil => exact Or.inl rfl
  | cons part rest ih =>
    by_cases folder : disk.node? here = some .folder
    · have folderThere := same.forth.folder here folder
      rw [walk, walk, folder, folderThere]
      simp only
      split
      · exact ih _
      · split
        · exact Or.inl rfl
        · exact ih _
    · have absent : other.node? here ≠ some .folder :=
        fun there => folder (same.back.folder here there)
      obtain ⟨one, short, refused⟩ := walk_cons_of_not_folder folder part rest
      obtain ⟨two, shortThere, refusedThere⟩ := walk_cons_of_not_folder absent part rest
      exact Or.inr ⟨one, two, short, shortThere, refused, refusedThere⟩

theorem locate_congr {disk other : Disk} (same : disk.SameFolders other) (path : Path) :
    other.locate path = disk.locate path ∨
      ∃ one two, one ≠ .nameTooLong ∧ two ≠ .nameTooLong ∧
        disk.locate path = .error (.refused one path) ∧
        other.locate path = .error (.refused two path) := by
  rw [locate_start, locate_start]
  by_cases nul : path.text.contains '\x00' = true
  · rw [if_pos nul, if_pos nul]
    exact Or.inl rfl
  by_cases long : pathLimit < (Utf8.encode path.text).length
  · rw [if_neg nul, if_neg nul, if_pos long, if_pos long]
    exact Or.inl rfl
  rw [if_neg nul, if_neg nul, if_neg long, if_neg long, same.forth.start]
  rcases walk_congr same (disk.start path) path.parts with
    walked | ⟨one, two, short, shortThere, refused, refusedThere⟩
  · exact Or.inl (by rw [walked])
  · exact Or.inr ⟨one, two, short, shortThere, by rw [refused]; rfl, by rw [refusedThere]; rfl⟩

/-! ### Looking -/

theorem look?_of_located {disk : Disk} {path : Path} {location : Location}
    (found : disk.locate path = .ok location) : disk.look? path = .ok (disk.node? location) := by
  rw [look?, look, found]
  simp only [bind, Except.bind]
  cases disk.node? location <;> rfl

/-- Nothing is where a path cannot be walked. -/
theorem look?_of_refused {disk : Disk} {path : Path} {cause : Cause} (short : cause ≠ .nameTooLong)
    (refused : disk.locate path = .error (.refused cause path)) : disk.look? path = .ok none := by
  rw [look?, look, refused]
  cases cause <;> first | rfl | exact absurd rfl short

/-- Something is at a path where the path can be walked and it is there. -/
theorem look?_eq_some {disk : Disk} {path : Path} {node : Node} :
    disk.look? path = .ok (some node) ↔
      ∃ location, disk.locate path = .ok location ∧ disk.node? location = some node := by
  cases found : disk.locate path with
  | ok location =>
    rw [look?_of_located found]
    simp
  | error e =>
    rw [look?, look, found]
    refine iff_of_false (fun seen => ?_) (by simp)
    cases e with
    | nulInPath => cases seen
    | refused cause path => cases cause <;> cases seen

/-- **What is at a path depends on the folders and on what is at its destination**, nothing else. -/
theorem look?_congr {disk other : Disk} (same : disk.SameFolders other) {path : Path}
    (content : other.node? (disk.destination path) = disk.node? (disk.destination path)) :
    other.look? path = disk.look? path := by
  rcases locate_congr same path with located | ⟨one, two, short, shortThere, refused, refusedThere⟩
  · cases found : disk.locate path with
    | ok location =>
      rw [look?_of_located found, look?_of_located (located.trans found), locate_eq found, content]
    | error e =>
      rw [look?, look?, look, look, located, found]
      rfl
  · rw [look?_of_refused short refused, look?_of_refused shortThere refusedThere]

/-- A disk that keeps the folders keeps them at their paths. -/
theorem look?_of_foldersIn {disk other : Disk} (kept : disk.FoldersIn other) {path : Path}
    (isFolder : disk.look? path = .ok (some .folder)) : other.look? path = .ok (some .folder) := by
  obtain ⟨location, found, there⟩ := look?_eq_some.mp isFolder
  exact look?_eq_some.mpr ⟨location, locate_of_foldersIn kept found, kept.folder location there⟩

/-! ### Reading -/

/-- **A file is read where its path can be walked and it is there.** -/
theorem read_eq_ok {disk : Disk} {path : Path} {bytes : List UInt8} :
    disk.read path = .ok bytes ↔
      ∃ location, disk.locate path = .ok location ∧
        disk.node? location = some (.file bytes) := by
  rw [read, look]
  cases found : disk.locate path with
  | error e => exact iff_of_false (by simp [bind, Except.bind]) (by simp)
  | ok location =>
    cases there : disk.node? location with
    | none => simp [there, bind, Except.bind]
    | some node => cases node <;> simp [there, bind, Except.bind, pure, Except.pure]

/-- What is read depends on the folders and on what is at the destination. -/
theorem read_of_sameFolders {disk other : Disk} (same : disk.SameFolders other) {path : Path}
    (content : other.node? (disk.destination path) = disk.node? (disk.destination path))
    {bytes : List UInt8} (held : disk.read path = .ok bytes) : other.read path = .ok bytes := by
  obtain ⟨location, found, there⟩ := read_eq_ok.mp held
  rw [← locate_eq found, there] at content
  exact read_eq_ok.mpr ⟨location, locate_of_foldersIn same.forth found, content⟩

end Scenarist.Disk
