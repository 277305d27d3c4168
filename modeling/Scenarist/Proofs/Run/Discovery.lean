/-
**What a run finds.** A document is a file in the features folder whose name ends with the
extension; where the features folder can be searched, all of them are found, in the order of their
names and each once (`discover_eq_ok`).
-/

import Scenarist.Proofs.Disk.Listing
import Scenarist.Run.Report

namespace Scenarist

/-! ### Paths of documents -/

theorem Path.name_below (path : Path) (name : Text) : (path.below name).name = name := by
  simp [Path.below, Path.name]

/-- A character that is not of the mark is in a row of texts when it is in one of them. -/
theorem Text.mem_joined {mark : Text} {c : Char} (unmarked : c ∉ mark) (parts : List Text) :
    c ∈ Text.joined mark parts ↔ ∃ part ∈ parts, c ∈ part := by
  induction parts with
  | nil => simp [Text.joined]
  | cons part parts ih =>
    cases parts with
    | nil => simp [Text.joined]
    | cons next parts =>
      rw [Text.joined, List.mem_append, List.mem_append, ih]
      · simp [unmarked]
      · simp

/-- A path has a NUL in it when one of its parts has. -/
theorem Path.nul_mem_text (path : Path) :
    '\x00' ∈ path.text ↔ ∃ part ∈ path.parts, '\x00' ∈ part := by
  have whole : '\x00' ∈ path.anchor.text ++ Text.joined ['/'] path.parts ↔
      ∃ part ∈ path.parts, '\x00' ∈ part := by
    rw [List.mem_append, Text.mem_joined (by decide)]
    cases path.anchor <;> simp [Anchor.text]
  rw [← whole]
  unfold Path.text
  split
  · next empty =>
    rw [empty]
    decide
  · rfl

namespace Disk

/-- **Where a folder is, what is in it can be located**, unless its name or path is too long. -/
theorem locate_below {disk : Disk} {path : Path} {name : Text}
    (isFolder : disk.look? path = .ok (some .folder)) (notUp : name ≠ "..")
    (noNul : '\x00' ∉ name) :
    disk.locate (path.below name) = .ok (disk.destination path ++ [name]) ∨
      disk.locate (path.below name) = .error (.refused .nameTooLong (path.below name)) := by
  obtain ⟨folder, found, there⟩ := look?_eq_some.mp isFolder
  obtain ⟨noNulAbove, -, walked⟩ := locate_eq_ok.mp found
  have noNulBelow : ¬(path.below name).text.contains '\x00' = true := by
    rw [List.contains_iff_mem, Path.nul_mem_text]
    rintro ⟨part, member, inside⟩
    rcases List.mem_append.mp member with above | last
    · exact noNulAbove ((Path.nul_mem_text path).mpr ⟨part, above, inside⟩)
    · exact noNul (List.mem_singleton.mp last ▸ inside)
  have below : disk.walk (disk.start (path.below name)) (path.below name).parts =
      disk.walk folder [name] := by
    show disk.walk (disk.start path) (path.parts ++ [name]) = _
    rw [walk_append, walked]
    rfl
  rw [locate_start, if_neg noNulBelow, below, walk, there, ← locate_eq found]
  simp only [if_neg notUp]
  split
  · exact Or.inr rfl
  · split
    · exact Or.inr rfl
    · exact Or.inl rfl

theorem look?_below {disk : Disk} {path : Path} {name : Text} {seen : Option Node}
    (isFolder : disk.look? path = .ok (some .folder)) (notUp : name ≠ "..") (noNul : '\x00' ∉ name)
    (looked : disk.look? (path.below name) = .ok seen) :
    disk.locate (path.below name) = .ok (disk.destination path ++ [name]) ∧
      seen = disk.node? (disk.destination path ++ [name]) := by
  rcases locate_below isFolder notUp noNul with located | refused
  · rw [look?_of_located located] at looked
    exact ⟨located, (Except.ok.inj looked).symm⟩
  · rw [look?, look, refused] at looked
    cases looked

/-- A file of this name stands in the folder that a path leads to. -/
def HasFile (disk : Disk) (folder : Path) (name : Text) : Prop :=
  disk.look? folder = .ok (some .folder) ∧
    ∃ bytes, disk.node? (disk.destination folder ++ [name]) = some (.file bytes)

/-- Growing brings no file to a folder that was there. -/
theorem Grows.hasFile_iff {disk after : Disk} (grows : disk.Grows after) {folder : Path}
    (isFolder : disk.look? folder = .ok (some .folder)) (name : Text) :
    after.HasFile folder name ↔ disk.HasFile folder name := by
  have isFolderAfter := look?_of_foldersIn grows.foldersIn isFolder
  unfold HasFile
  rw [grows.foldersIn.destination]
  simp only [isFolder, isFolderAfter, grows.file_iff]

end Disk

/-! ### Searching the features folder -/

/-- Where every question is answered, what is kept is what the answer was yes for. -/
theorem filterM_eq_ok {ε α : Type} {ask : α → Except ε Bool} {items kept : List α}
    (filtered : items.filterM ask = .ok kept) :
    (∀ item ∈ items, ∃ answer, ask item = .ok answer) ∧
      kept = items.filter fun item => (ask item).toOption.getD false := by
  have run (items done kept : List α) (filtered : List.filterAuxM ask items done = .ok kept) :
      (∀ item ∈ items, ∃ answer, ask item = .ok answer) ∧
        kept = (items.filter fun item => (ask item).toOption.getD false).reverse ++ done := by
    induction items generalizing done with
    | nil =>
      cases filtered
      exact ⟨fun _ member => absurd member List.not_mem_nil, rfl⟩
    | cons item items ih =>
      rw [List.filterAuxM] at filtered
      cases asked : ask item with
      | error e =>
        rw [asked] at filtered
        cases filtered
      | ok answer =>
        rw [asked] at filtered
        obtain ⟨answered, rest⟩ := ih _ filtered
        refine ⟨?_, ?_⟩
        · intro other member
          rcases List.mem_cons.mp member with rfl | member
          · exact ⟨answer, asked⟩
          · exact answered other member
        · rw [rest]
          cases answer <;> simp [asked, Except.toOption]
  rw [List.filterM] at filtered
  cases done : List.filterAuxM ask items [] with
  | error e =>
    rw [done] at filtered
    cases filtered
  | ok reversed =>
    rw [done] at filtered
    obtain ⟨answered, whole⟩ := run items [] reversed done
    refine ⟨answered, ?_⟩
    cases filtered
    rw [whole, List.append_nil, List.reverse_reverse]

/-- Items are filtered alike where the questions about them have the same answers. -/
theorem filterM_congr {ε α : Type} {ask other : α → Except ε Bool} {items : List α}
    (same : ∀ item ∈ items, ask item = other item) : items.filterM ask = items.filterM other := by
  have run (items done : List α) (same : ∀ item ∈ items, ask item = other item) :
      List.filterAuxM ask items done = List.filterAuxM other items done := by
    induction items generalizing done with
    | nil => rfl
    | cons item items ih =>
      rw [List.filterAuxM, List.filterAuxM, same item List.mem_cons_self]
      exact bind_congr fun _ => ih _ fun later member => same later (List.mem_cons_of_mem _ member)
  rw [List.filterM, List.filterM, run items [] same]

namespace RunSettings

variable (settings : RunSettings) (disk : Disk)

theorem isDocument_eq_ok {name : Text} {answer : Bool} :
    settings.isDocument disk name = .ok answer ↔
      ∃ seen, disk.look? (settings.features.below name) = .ok seen ∧
        answer = (seen.any Node.isFile && Text.endsWith name settings.extension) := by
  rw [isDocument, Disk.isFile]
  cases disk.look? (settings.features.below name) with
  | error e => exact iff_of_false (fun said => by cases said) (by simp)
  | ok seen =>
    show Except.ok _ = Except.ok answer ↔ _
    simp [eq_comm]

/-- What is taken for a document is a file with the extension. -/
theorem of_isDocument {name : Text} (notUp : name ≠ "..")
    (said : settings.isDocument disk name = .ok true) :
    disk.locate (settings.features.below name) =
        .ok (disk.destination settings.features ++ [name]) ∧
      (∃ bytes, disk.node? (disk.destination settings.features ++ [name]) = some (.file bytes)) ∧
      Text.endsWith name settings.extension = true := by
  obtain ⟨seen, looked, answer⟩ := (isDocument_eq_ok settings disk).mp said
  obtain ⟨isFile, extended⟩ := Bool.and_eq_true_iff.mp answer.symm
  obtain ⟨node, rfl⟩ : ∃ node, seen = some node := by
    cases seen with
    | none => cases isFile
    | some node => exact ⟨node, rfl⟩
  obtain ⟨location, found, there⟩ := Disk.look?_eq_some.mp looked
  rw [Disk.locate_eq found, Disk.destination_below notUp] at there
  refine ⟨by rw [found, Disk.locate_eq found, Disk.destination_below notUp], ?_, extended⟩
  cases node with
  | file bytes => exact ⟨bytes, there⟩
  | folder => cases isFile

/-- A name in the features folder is taken for a document exactly when a file with the extension
stands there, provided that the question is answered at all. -/
theorem isDocument_iff {name : Text} (notUp : name ≠ "..")
    (named : disk.HasFile settings.features name → Path.IsName name)
    (isFolder : disk.look? settings.features = .ok (some .folder))
    (answered : ∃ answer, settings.isDocument disk name = .ok answer) :
    settings.isDocument disk name = .ok true ↔
      disk.HasFile settings.features name ∧ Text.endsWith name settings.extension = true := by
  constructor
  · intro said
    obtain ⟨-, isFile, extended⟩ := of_isDocument settings disk notUp said
    exact ⟨⟨isFolder, isFile⟩, extended⟩
  · rintro ⟨hasFile, extended⟩
    obtain ⟨answer, said⟩ := answered
    obtain ⟨seen, looked, rfl⟩ := (isDocument_eq_ok settings disk).mp said
    obtain ⟨-, rfl⟩ := Disk.look?_below isFolder notUp (named hasFile).noNul looked
    obtain ⟨-, bytes, there⟩ := hasFile
    rw [said, there, extended]
    rfl

/-- The names are those of all documents, in order and each once, and the documents can be
located. -/
structure Found (settings : RunSettings) (disk : Disk) (names : List Text) : Prop where
  once : names.Nodup
  ordered : names.Pairwise fun a b => Text.le a b = true
  mem : ∀ name, name ∈ names ↔
    disk.HasFile settings.features name ∧ Text.endsWith name settings.extension = true
  located : ∀ name ∈ names, disk.locate (settings.features.below name) =
    .ok (disk.destination settings.features ++ [name])

/-- Nothing is found where no features folder is. -/
theorem found_nil (absent : disk.look? settings.features ≠ .ok (some .folder)) :
    settings.Found disk [] where
  once := List.nodup_nil
  ordered := .nil
  mem name := iff_of_false List.not_mem_nil fun hasFile => absent hasFile.1.1
  located := by simp

/-- What is kept of the names in the features folder is found. -/
theorem found_filterM {names : List Text} (canonical : disk.Canonical)
    (named : ∀ name, disk.HasFile settings.features name → Path.IsName name)
    (isFolder : disk.look? settings.features = .ok (some .folder))
    (filtered : (disk.namesIn (disk.destination settings.features)).filterM
      (settings.isDocument disk) = .ok names) : settings.Found disk names := by
  obtain ⟨answered, whole⟩ := filterM_eq_ok filtered
  have notUp (name : Text) (listed : name ∈ disk.namesIn (disk.destination settings.features)) :
      name ≠ ".." := canonical.notUp_of_mem_namesIn listed
  have kept (name : Text) : name ∈ names ↔
      name ∈ disk.namesIn (disk.destination settings.features) ∧
        settings.isDocument disk name = .ok true := by
    rw [whole, List.mem_filter]
    refine and_congr_right fun listed => ?_
    obtain ⟨answer, asked⟩ := answered name listed
    rw [asked]
    cases answer <;> simp [Except.toOption]
  constructor
  · rw [whole]
    exact (canonical.nodup_namesIn _).filter _
  · rw [whole]
    exact (Disk.sorted_namesIn disk _).filter _
  · intro name
    rw [kept]
    constructor
    · rintro ⟨listed, said⟩
      exact (isDocument_iff settings disk (notUp name listed) (named name) isFolder
        (answered name listed)).mp said
    · rintro ⟨hasFile, extended⟩
      obtain ⟨bytes, there⟩ := hasFile.2
      have listed : name ∈ disk.namesIn (disk.destination settings.features) :=
        Disk.mem_namesIn.mpr ⟨_, Disk.mem_of_node? (by simp) there⟩
      exact ⟨listed, (isDocument_iff settings disk (notUp name listed) (named name) isFolder
        (answered name listed)).mpr ⟨hasFile, extended⟩⟩
  · intro name member
    obtain ⟨listed, said⟩ := (kept name).mp member
    exact (of_isDocument settings disk (notUp name listed) said).1

/-- **The search finds every document, in the order of their names and each once.** -/
theorem discover_eq_ok {documents : List Path} (canonical : disk.Canonical)
    (named : ∀ name, disk.HasFile settings.features name → Path.IsName name)
    (discovered : settings.discover disk = .ok documents) :
    ∃ names, documents = names.map settings.features.below ∧ settings.Found disk names := by
  cases looked : disk.look? settings.features with
  | error e =>
    rw [discover, Disk.isFolder, looked] at discovered
    cases discovered
  | ok seen =>
    by_cases isFolder : seen = some .folder
    · subst isFolder
      obtain ⟨folder, found, -⟩ := Disk.look?_eq_some.mp looked
      have isHere : disk.isFolder settings.features = .ok true := by
        rw [Disk.isFolder, looked]
        rfl
      rw [discover, isHere, found, Disk.locate_eq found] at discovered
      cases filtered : (disk.namesIn (disk.destination settings.features)).filterM
          (settings.isDocument disk) with
      | error e =>
        simp only [bind, Except.bind, if_true, filtered] at discovered
        cases discovered
      | ok names =>
        simp only [bind, Except.bind, if_true, filtered] at discovered
        cases discovered
        exact ⟨names, rfl, found_filterM settings disk canonical named looked filtered⟩
    · have isElsewhere : disk.isFolder settings.features = .ok false := by
        rw [Disk.isFolder, looked]
        exact congrArg Except.ok (decide_eq_false isFolder)
      rw [discover, isElsewhere] at discovered
      cases discovered
      refine ⟨[], rfl, found_nil settings disk ?_⟩
      rw [looked]
      exact fun there => isFolder (Except.ok.inj there)

/-- What is found can be read. -/
theorem Found.exists_bytes {settings : RunSettings} {disk : Disk} {names : List Text}
    (found : settings.Found disk names) :
    ∃ bytes : Path → List UInt8, ∀ document ∈ names.map settings.features.below,
      disk.read document = .ok (bytes document) := by
  refine ⟨fun document => (disk.read document).toOption.getD [], ?_⟩
  intro document isDocument
  obtain ⟨name, member, rfl⟩ := List.mem_map.mp isDocument
  obtain ⟨-, bytes, there⟩ := ((found.mem name).mp member).1
  have held := Disk.read_eq_ok.mpr ⟨_, found.located name member, there⟩
  show disk.read (settings.features.below name) =
    .ok ((disk.read (settings.features.below name)).toOption.getD [])
  rw [held]
  rfl

end RunSettings

end Scenarist
