/-
**Running again.** A run that went through left what it would write: where no module is written over
a document, the documents yield the same again, and what stands at their outputs is what the first
run left there (`handleAll_again`). The modules stand outside the features folder, so that the same
documents are found (`discover_again`). The one thing that a first run can bring to light is a
features folder that was there already, behind a folder that it made on the way; apart from that, a
second run reports the same and leaves everything as it is (`run_again`).
-/

import Scenarist.Proofs.Run.Containment

namespace Scenarist.RunSettings

variable {settings : RunSettings}

/-! ### What stands at a location in the end -/

/-- What stands at a location after the yields of documents were settled, where `before` stood. -/
def leftAt (settings : RunSettings) (yields : Path → Yield) (disk : Disk) (location : Location)
    (documents : List Path) (before : Option Node) : Option Node :=
  documents.foldl (fun before document =>
    if location = disk.destination (settings.outputPath document) then
      (yields document).left before
    else before) before

section LeftAt

variable {yields : Path → Yield} {disk : Disk} {location : Location}

/-- What stands there is what stood there, or it does not depend on it. -/
theorem leftAt_cases (documents : List Path) :
    (∀ before, settings.leftAt yields disk location documents before = before) ∨
      ∃ node, ∀ before, settings.leftAt yields disk location documents before = node := by
  induction documents with
  | nil => exact Or.inl fun _ => rfl
  | cons document documents ih =>
    rcases ih with kept | ⟨node, fixed⟩
    · have first (before : Option Node) :
          settings.leftAt yields disk location (document :: documents) before =
            if location = disk.destination (settings.outputPath document) then
              (yields document).left before
            else before := kept _
      by_cases here : location = disk.destination (settings.outputPath document)
      · cases written : (yields document).written with
        | none => exact Or.inl fun before => by rw [first, if_pos here, Yield.left, written]
        | some code =>
          exact Or.inr ⟨some (.file code), fun before => by
            rw [first, if_pos here, Yield.left, written]⟩
      · exact Or.inl fun before => by rw [first, if_neg here]
    · exact Or.inr ⟨node, fun before => fixed _⟩

/-- **Settling the yields again leaves what was left.** -/
theorem leftAt_leftAt (documents : List Path) (before : Option Node) :
    settings.leftAt yields disk location documents
        (settings.leftAt yields disk location documents before) =
      settings.leftAt yields disk location documents before := by
  rcases @leftAt_cases settings yields disk location documents with kept | ⟨node, fixed⟩
  · rw [kept]
  · rw [fixed, fixed]

theorem leftAt_of_sameFolders {after : Disk} (same : disk.SameFolders after)
    (documents : List Path) (before : Option Node) :
    settings.leftAt yields after location documents before =
      settings.leftAt yields disk location documents before := by
  unfold leftAt
  simp only [same.forth.destination]

/-- Where no module goes, what stood there stands. -/
theorem leftAt_elsewhere {documents : List Path} (before : Option Node)
    (elsewhere : ∀ document ∈ documents,
      location ≠ disk.destination (settings.outputPath document)) :
    settings.leftAt yields disk location documents before = before := by
  induction documents generalizing before with
  | nil => rfl
  | cons document documents ih =>
    rw [leftAt, List.foldl_cons, if_neg (elsewhere document List.mem_cons_self)]
    exact ih before fun other member => elsewhere other (List.mem_cons_of_mem _ member)

end LeftAt

/-! ### Documents one after another -/

section Documents

variable {bytes : Path → List UInt8} {documents : List Path} {disk : Disk}

/-- The documents hold these bytes, and no module is written over one of them. -/
structure Intact (settings : RunSettings) (bytes : Path → List UInt8) (documents : List Path)
    (disk : Disk) : Prop where
  held : ∀ document ∈ documents, disk.read document = .ok (bytes document)
  sources : ∀ document ∈ documents, ∀ other ∈ documents,
    disk.destination document ≠ disk.destination (settings.outputPath other)

/-- Documents stay intact where what stands at them stays. -/
theorem Intact.of_sameFolders {other : Disk} (intact : settings.Intact bytes documents disk)
    (same : disk.SameFolders other)
    (kept : ∀ document ∈ documents,
      other.node? (disk.destination document) = disk.node? (disk.destination document)) :
    settings.Intact bytes documents other where
  held document member :=
    Disk.read_of_sameFolders same (kept document member) (intact.held document member)
  sources document member later among := by
    rw [same.forth.destination, same.forth.destination]
    exact intact.sources document member later among

/-- The other documents stay intact when one of them is settled. -/
theorem Intact.tail {document : Path} {middle : Disk}
    (intact : settings.Intact bytes (document :: documents) disk)
    (settles : (settings.yieldOf document (bytes document)).Settles (settings.outputPath document)
      disk middle) : settings.Intact bytes documents middle :=
  have others : settings.Intact bytes documents disk :=
    ⟨fun other member => intact.held other (List.mem_cons_of_mem _ member),
      fun other member later among => intact.sources other (List.mem_cons_of_mem _ member) later
        (List.mem_cons_of_mem _ among)⟩
  others.of_sameFolders settles.sameFolders fun other member => settles.elsewhere _
    (intact.sources other (List.mem_cons_of_mem _ member) document List.mem_cons_self)

/-- The one disk is the other after documents that hold these bytes were handled: what they yield
could be written and is left. -/
structure Leaves (settings : RunSettings) (bytes : Path → List UInt8) (documents : List Path)
    (disk after : Disk) : Prop where
  writable : ∀ document ∈ documents,
    (settings.yieldOf document (bytes document)).written ≠ none →
      disk.Writable (settings.outputPath document)
  sameFolders : disk.SameFolders after
  left : ∀ location, after.node? location =
    settings.leftAt (fun document => settings.yieldOf document (bytes document)) disk location
      documents (disk.node? location)

/-- **Documents that are intact leave what their bytes yield.** -/
theorem handleAll_leaves {after : Disk} {report : Report}
    (intact : settings.Intact bytes documents disk)
    (handled : settings.handleAll documents disk = (.ok report, after)) :
    report = documents.map (fun document => (settings.yieldOf document (bytes document)).outcome) ∧
      settings.Leaves bytes documents disk after := by
  induction documents generalizing disk report with
  | nil =>
    cases handled
    exact ⟨rfl, by simp, .refl _, fun _ => rfl⟩
  | cons document documents ih =>
    rw [handleAll, handle, intact.held document List.mem_cons_self] at handled
    dsimp only at handled
    rcases settled : (settings.yieldOf document (bytes document)).settle
      (settings.outputPath document) disk with ⟨result, middle⟩
    rw [settled] at handled
    cases result with
    | error fault => cases handled
    | ok outcome =>
      obtain ⟨rfl, settles⟩ := Yield.settle_ok settled
      dsimp only at handled
      rcases others : settings.handleAll documents middle with ⟨rest, last⟩
      rw [others] at handled
      cases rest with
      | error fault => cases handled
      | ok rest =>
        cases handled
        obtain ⟨rfl, leaves⟩ := ih (intact.tail settles) others
        refine ⟨rfl, ?_, settles.sameFolders.trans leaves.sameFolders, fun location => ?_⟩
        · intro other member written
          rcases List.mem_cons.mp member with rfl | member
          · exact settles.writable written
          · exact (leaves.writable other member written).of_sameFolders settles.sameFolders.symm
        · rw [leaves.left, leftAt_of_sameFolders settles.sameFolders, leftAt, leftAt,
            List.foldl_cons]
          congr 1
          split
          · next here => rw [here, settles.here]
          · next elsewhere => exact settles.elsewhere location elsewhere

/-- Documents that are intact are handled when what they yield can be written. -/
theorem handleAll_of_writable (intact : settings.Intact bytes documents disk)
    (writable : ∀ document ∈ documents,
      (settings.yieldOf document (bytes document)).written ≠ none →
        disk.Writable (settings.outputPath document)) :
    ∃ report after, settings.handleAll documents disk = (.ok report, after) := by
  induction documents generalizing disk with
  | nil => exact ⟨[], disk, rfl⟩
  | cons document documents ih =>
    obtain ⟨middle, settled⟩ := Yield.settle_of_writable (writable document List.mem_cons_self)
    have settles := (Yield.settle_ok settled).2
    obtain ⟨rest, last, others⟩ := ih (intact.tail settles) fun other member written =>
      (writable other (List.mem_cons_of_mem _ member) written).of_sameFolders settles.sameFolders
    rw [handleAll, handle, intact.held document List.mem_cons_self]
    dsimp only
    rw [settled]
    dsimp only
    rw [others]
    exact ⟨_, last, rfl⟩

/-- **Handling documents again is reporting the same and changing nothing.** -/
theorem handleAll_again {after : Disk} {report : Report}
    (intact : settings.Intact bytes documents disk)
    (handled : settings.handleAll documents disk = (.ok report, after)) :
    ∃ again, settings.handleAll documents after = (.ok report, again) ∧
      ∀ location, again.node? location = after.node? location := by
  obtain ⟨rfl, leaves⟩ := handleAll_leaves intact handled
  have intactAfter : settings.Intact bytes documents after :=
    intact.of_sameFolders leaves.sameFolders fun document member => by
      rw [leaves.left, leftAt_elsewhere _ (intact.sources document member)]
  obtain ⟨report, again, handledAgain⟩ := handleAll_of_writable intactAfter
    fun document member written =>
      (leaves.writable document member written).of_sameFolders leaves.sameFolders
  obtain ⟨rfl, leavesAgain⟩ := handleAll_leaves intactAfter handledAgain
  refine ⟨again, handledAgain, fun location => ?_⟩
  rw [leavesAgain.left, leftAt_of_sameFolders leaves.sameFolders, leaves.left, leftAt_leftAt]

/-- A document that cannot be read changes nothing. -/
theorem handle_unread (settings : RunSettings) {document : Path} {e : Disk.Error}
    (unread : disk.read document = .error e) :
    (settings.handle document disk).2 = disk := by
  rw [handle, unread]
  cases e <;> rfl

/-- Modules that go elsewhere leave the names in a folder. -/
theorem namesIn_handleAll {after : Disk} {result : Except RunFault Report} {folder : Location}
    (elsewhere : ∀ document ∈ documents,
      (disk.destination (settings.outputPath document)).dropLast ≠ folder)
    (handled : settings.handleAll documents disk = (result, after)) :
    after.namesIn folder = disk.namesIn folder := by
  induction documents generalizing disk result with
  | nil =>
    cases handled
    rfl
  | cons document documents ih =>
    rw [handleAll] at handled
    rcases first : settings.handle document disk with ⟨outcome?, middle⟩
    have names : middle.namesIn folder = disk.namesIn folder := by
      rcases handle_puts first with rfl | ⟨output, code, wrote, -, rfl⟩
      · rfl
      · refine disk.namesIn_put ?_ _
        rw [wrote.isOutput]
        exact elsewhere document List.mem_cons_self
    rw [first] at handled
    cases outcome? with
    | error fault =>
      cases handled
      exact names
    | ok outcome =>
      dsimp only at handled
      rcases others : settings.handleAll documents middle with ⟨rest, last⟩
      rw [others] at handled
      cases handled
      rw [← names]
      refine ih (fun other member => ?_) others
      rw [(handle_changes first).1.forth.destination]
      exact elsewhere other (List.mem_cons_of_mem _ member)

end Documents

/-! ### The documents of a run -/

/-- Where the features folder is, the documents are those among the names in it. -/
theorem discover_of_folder {disk : Disk}
    (isFolder : disk.look? settings.features = .ok (some .folder)) :
    settings.discover disk =
      ((disk.namesIn (disk.destination settings.features)).filterM
        (settings.isDocument disk)).map (·.map settings.features.below) := by
  obtain ⟨folder, found, -⟩ := Disk.look?_eq_some.mp isFolder
  rw [discover, Disk.isFolder_eq_true.mpr isFolder, found, Disk.locate_eq found]
  simp only [bind, Except.bind, if_true]
  cases (disk.namesIn (disk.destination settings.features)).filterM (settings.isDocument disk) <;>
    rfl

/-- What is found is found in the features folder. -/
theorem isFolder_of_discover {disk : Disk} {documents : List Path}
    (discovered : settings.discover disk = .ok documents) (found : documents ≠ []) :
    disk.look? settings.features = .ok (some .folder) := by
  rw [← Disk.isFolder_eq_true]
  rw [discover] at discovered
  cases isFolder : disk.isFolder settings.features with
  | error e =>
    rw [isFolder] at discovered
    cases discovered
  | ok answer =>
    cases answer with
    | true => rfl
    | false =>
      rw [isFolder] at discovered
      cases discovered
      exact absurd rfl found

/-- **The same documents are found** where the names in the features folder and what they name are
the same. -/
theorem discover_again {disk after : Disk} (canonical : disk.Canonical)
    (same : disk.SameFolders after)
    (isFolder : disk.look? settings.features = .ok (some .folder))
    (names : after.namesIn (disk.destination settings.features) =
      disk.namesIn (disk.destination settings.features))
    (kept : ∀ name, after.node? (disk.destination settings.features ++ [name]) =
      disk.node? (disk.destination settings.features ++ [name])) :
    settings.discover after = settings.discover disk := by
  have isFolderAfter := Disk.look?_of_foldersIn same.forth isFolder
  rw [discover_of_folder isFolder, discover_of_folder isFolderAfter, same.forth.destination, names]
  congr 1
  refine filterM_congr fun name listed => ?_
  rw [isDocument, isDocument, Disk.isFile, Disk.isFile, Disk.look?_congr same]
  rw [Disk.destination_below (canonical.notUp_of_mem_namesIn listed)]
  exact kept name

/-- Nothing is found in a features folder without documents. -/
theorem discover_nil {disk : Disk} (isFolder : disk.look? settings.features = .ok (some .folder))
    (clear : ∀ name ∈ disk.namesIn (disk.destination settings.features),
      settings.isDocument disk name = .ok false) : settings.discover disk = .ok [] := by
  have none : (disk.namesIn (disk.destination settings.features)).filterM
      (settings.isDocument disk) = .ok [] := by
    rw [filterM_congr clear]
    generalize disk.namesIn (disk.destination settings.features) = names
    have run (names done : List Text) : List.filterAuxM (m := Except Disk.Error)
        (fun _ => .ok false) names done = .ok done := by
      induction names generalizing done with
      | nil => rfl
      | cons name names ih => exact ih done
    rw [List.filterM, run]
    rfl
  rw [discover_of_folder isFolder, none]
  rfl

/-! ### Runs -/

theorem gather_selected {selector : Option Text} (selects : selector.getD [] ≠ []) (disk : Disk) :
    settings.gather selector disk = (.ok [settings.resolve (selector.getD [])], disk) := by
  match selector with
  | none => exact absurd rfl selects
  | some [] => exact absurd rfl selects
  | some (c :: name) => rfl

theorem gather_all {selector : Option Text} (selectsNone : selector.getD [] = []) (disk : Disk) :
    settings.gather selector disk = settings.gather none disk := by
  match selector with
  | none => rfl
  | some [] => rfl
  | some (c :: name) => cases selectsNone

/-- Where the output folder is, a run comes to what becomes of the documents it collects. -/
theorem runOn_of_gather {selector : Option Text} {disk gathered : Disk} {documents : List Path}
    (made : disk.makeFolders settings.output = (disk, .ok ()))
    (gather : settings.gather selector disk = (.ok documents, gathered)) :
    settings.runOn selector disk = settings.handleAll documents gathered := by
  refine settings.runOn_eq (congrArg Prod.snd made) ?_
  rwa [prepared, made]

/-- The documents of a run over all of them are those found in the features folder. -/
theorem gather_of_folder {disk : Disk} {documents : List Path}
    (isFolder : disk.look? settings.features = .ok (some .folder))
    (discovered : settings.discover disk = .ok documents) :
    settings.gather none disk = (.ok documents, disk) := by
  unfold gather
  dsimp only
  rw [isFolder, discovered]
  rfl

/-- The result of a run again on a disk. -/
def RunsAgain (settings : RunSettings) (selector : Option Text) (disk : Disk) (report : Report) :
    Prop :=
  ∃ again, settings.runOn selector disk = (.ok report, again) ∧
    ∀ location, again.node? location = disk.node? location

section Again

variable {selector : Option Text} {disk after : Disk} {report : Report}

/-- A run over one document goes again. -/
theorem runsAgain_selected (rooted : disk.Rooted) (written : settings.features.Written)
    (selects : selector.getD [] ≠ [])
    (apart : ∀ file, disk.destination (settings.resolve (selector.getD [])) ≠
      disk.destination settings.output ++ [file])
    (made : after.makeFolders settings.output = (after, .ok ()))
    (handled : settings.handleAll [settings.resolve (selector.getD [])] disk = (.ok report, after)) :
    settings.RunsAgain selector after report := by
  generalize chosen : settings.resolve (selector.getD []) = document at apart handled
  have gather : settings.gather selector after = (.ok [document], after) := by
    rw [gather_selected selects, chosen]
  unfold RunsAgain
  rw [runOn_of_gather made gather]
  cases held : disk.read document with
  | error e =>
    -- a document that cannot be read leaves the disk alone, so that it is the same run
    obtain rfl : after = disk := by
      have same := settings.handle_unread held
      rw [handleAll_one] at handled
      rcases first : settings.handle document disk with ⟨result, middle⟩
      rw [first] at handled same
      cases result with
      | error fault => cases handled
      | ok outcome =>
        cases handled
        exact same
    exact ⟨after, handled, fun _ => rfl⟩
  | ok bytes =>
    have isName : Path.IsName document.name :=
      Disk.isName_of_read rooted (chosen ▸ written.child _) held
    have intact : settings.Intact (fun _ => bytes) [document] disk := by
      constructor
      · intro other isOne
        rwa [List.mem_singleton.mp isOne]
      · intro one isOne other isOther
        rw [List.mem_singleton.mp isOne, List.mem_singleton.mp isOther,
          settings.destination_output isName]
        exact apart _
    exact handleAll_again intact handled

/-- A run over documents that are found goes again: no module goes into the features folder. -/
theorem runsAgain_found {documents : List Path} (canonical : disk.Canonical)
    (named : ∀ name, disk.HasFile settings.features name → Path.IsName name)
    (different : disk.destination settings.features ≠ disk.destination settings.output)
    (made : after.makeFolders settings.output = (after, .ok ()))
    (isFolder : disk.look? settings.features = .ok (some .folder))
    (discovered : settings.discover disk = .ok documents)
    (handled : settings.handleAll documents disk = (.ok report, after)) :
    settings.RunsAgain none after report := by
  obtain ⟨names, rfl, isFound⟩ := discover_eq_ok settings disk canonical named discovered
  obtain ⟨bytes, held⟩ := isFound.exists_bytes
  have isName {name : Text} (member : name ∈ names) : Path.IsName name :=
    named name ((isFound.mem name).mp member).1
  have output {document : Path} (member : document ∈ names.map settings.features.below) :
      ∃ file, disk.destination (settings.outputPath document) =
        disk.destination settings.output ++ [file] := by
    obtain ⟨name, among, rfl⟩ := List.mem_map.mp member
    exact ⟨_, settings.destination_output (by rw [Path.name_below]; exact isName among) disk⟩
  have elsewhere (name : Text) {document : Path}
      (member : document ∈ names.map settings.features.below) :
      disk.destination settings.features ++ [name] ≠
        disk.destination (settings.outputPath document) := by
    obtain ⟨file, isOutput⟩ := output member
    rw [isOutput]
    exact fun same => different (List.append_inj_left' same rfl)
  have intact : settings.Intact bytes (names.map settings.features.below) disk := by
    refine ⟨held, fun document member other among => ?_⟩
    obtain ⟨name, isListed, rfl⟩ := List.mem_map.mp member
    rw [Disk.destination_below (isName isListed).notUp]
    exact elsewhere name among
  have leaves := (handleAll_leaves intact handled).2
  have foundAgain : settings.discover after = .ok (names.map settings.features.below) := by
    rw [discover_again canonical leaves.sameFolders isFolder, discovered]
    · refine namesIn_handleAll (fun document member => ?_) handled
      obtain ⟨file, isOutput⟩ := output member
      rw [isOutput, List.dropLast_concat]
      exact different.symm
    · intro name
      rw [leaves.left, leftAt_elsewhere _ fun document member => elsewhere name member]
  unfold RunsAgain
  rw [runOn_of_gather made (gather_of_folder
    (Disk.look?_of_foldersIn leaves.sameFolders.forth isFolder) foundAgain)]
  exact handleAll_again intact handled

/-- A features folder that was made holds no document, unless the path to it leads up again. -/
theorem noDocument_of_made (rooted : disk.Rooted) (housed : disk.Housed)
    (straight : settings.features.Straight) (absent : disk.look? settings.features = .ok none)
    (folders : disk.makeFolders settings.features = (after, .ok ())) :
    ∀ name ∈ after.namesIn (after.destination settings.features),
      settings.isDocument after name = .ok false := by
  have empty :=
    Disk.namesIn_makeFolders rooted housed straight absent (congrArg Prod.snd folders)
  have leads := (Disk.grows_makeFolders disk settings.features).foldersIn.destination
  rw [folders] at empty leads
  rw [leads, empty]
  exact fun name member => absurd member List.not_mem_nil

/-- **A run over all documents goes again**, unless it brought some to light. -/
theorem runsAgain_all {gathered : Disk} {documents : List Path} (canonical : disk.Canonical)
    (rooted : disk.Rooted) (housed : disk.Housed)
    (named : ∀ name, disk.HasFile settings.features name → Path.IsName name)
    (different : disk.destination settings.features ≠ disk.destination settings.output)
    (clear : ¬settings.features.Straight → disk.look? settings.features = .ok none →
      ∀ name ∈ after.namesIn (after.destination settings.features),
        settings.isDocument after name = .ok false)
    (made : after.makeFolders settings.output = (after, .ok ()))
    (gather : settings.gather none disk = (.ok documents, gathered))
    (handled : settings.handleAll documents gathered = (.ok report, after)) :
    settings.RunsAgain none after report := by
  have collected := gather
  unfold RunSettings.gather at collected
  split at collected
  · next selects => cases selects
  split at collected
  · cases collected
  · next node seen =>
    cases discovered : settings.discover disk with
    | error e =>
      rw [discovered] at collected
      cases collected
    | ok found =>
      rw [discovered] at collected
      obtain ⟨isFound, rfl⟩ := Prod.mk.inj collected
      obtain rfl : found = documents := Except.ok.inj isFound
      by_cases none : found = []
      · subst none
        cases handled
        exact ⟨disk, runOn_of_gather made gather, fun _ => rfl⟩
      · exact runsAgain_found canonical named different made
          (isFolder_of_discover discovered none) discovered handled
  · next absent =>
    split at collected
    · cases collected
    · next there folders =>
      cases collected
      cases handled
      have isFolder := Disk.look?_makeFolders (congrArg Prod.snd folders)
      rw [folders] at isFolder
      have noDocument : ∀ name ∈ after.namesIn (after.destination settings.features),
          settings.isDocument after name = .ok false := by
        by_cases straight : settings.features.Straight
        · exact noDocument_of_made rooted housed straight absent folders
        · exact clear straight absent
      exact ⟨_, runOn_of_gather made
        (gather_of_folder isFolder (discover_nil isFolder noDocument)), fun _ => rfl⟩

end Again

/-- **A run that went through goes again.** On the disk that it left, it reports the same and leaves
everything as it is. The document selected may not stand where modules go; the features and the
output folder are different. A features folder that the run had to make is empty, unless the path
to it leads up again, so that the folder may have been there already behind a missing one; such a
folder holds no document. -/
theorem run_again {selector : Option Text} {world after : World} {report : Report}
    (named : world.disk.WellNamed) (rooted : world.disk.Rooted) (housed : world.disk.Housed)
    (written : settings.features.Written)
    (different :
      world.disk.destination settings.features ≠ world.disk.destination settings.output)
    (apart : selector.getD [] ≠ [] → ∀ file,
      world.disk.destination (settings.resolve (selector.getD [])) ≠
        world.disk.destination settings.output ++ [file])
    (clear : selector.getD [] = [] → ¬settings.features.Straight →
      (settings.prepared world.disk).look? settings.features = .ok none →
        ∀ name ∈ after.disk.namesIn (after.disk.destination settings.features),
          settings.isDocument after.disk name = .ok false)
    (performed : (settings.run selector).perform world = (.ok report, after)) :
    ∀ start : World, start.disk = after.disk →
      ∃ again, (settings.run selector).perform start = (.ok report, again) ∧
        ∀ location, again.disk.node? location = after.disk.node? location := by
  have grows := grows_prepared settings world.disk
  have destination := grows.foldersIn.destination
  have ran := (effect_run settings selector world).symm.trans (Act.effect_of_perform performed)
  obtain ⟨folders, documents, gathered, gather, handled⟩ := settings.of_runOn ran
  have made : after.disk.makeFolders settings.output = (after.disk, .ok ()) :=
    Disk.makeFolders_again folders
      ((grows_gather gather).foldersIn.trans (handleAll_changes handled).1.forth)
  have again : settings.RunsAgain selector after.disk report := by
    by_cases selects : selector.getD [] = []
    · have all : settings.RunsAgain none after.disk report :=
        runsAgain_all (named.canonical.makeFolders settings.output)
          (rooted.makeFolders settings.output) (housed.makeFolders settings.output)
          (fun name hasFile => isName_of_hasFile named grows hasFile)
          (by rwa [← destination, ← destination] at different) (clear selects) made
          ((gather_all selects _).symm.trans gather) handled
      unfold RunsAgain runOn at all ⊢
      simpa only [gather_all selects] using all
    · rw [gather_selected selects] at gather
      cases gather
      have apart := apart selects
      rw [← destination, ← destination] at apart
      exact runsAgain_selected (rooted.makeFolders settings.output) written selects apart made
        handled
  obtain ⟨last, runs, same⟩ := again
  intro start there
  obtain ⟨ended, performedAgain, rfl⟩ := Act.perform_of_effect
    ((effect_run settings selector start).trans (there ▸ runs))
  exact ⟨ended, performedAgain, same⟩

/-- A run over a document and one that is not UTF-8 goes again. -/
theorem run_again_sample : ∃ report after,
    (sample.run none).perform sampleWorld = (.ok report, after) ∧
      report.map Outcome.status = [.generated, .failed] ∧
      ∀ start : World, start.disk = after.disk →
        ∃ again, (sample.run none).perform start = (.ok report, again) ∧
          ∀ location, again.disk.node? location = after.disk.node? location := by
  obtain ⟨report, after, performed, statuses⟩ := perform_sample
  refine ⟨report, after, performed, statuses, run_again wellNamed_sample
    (.of_nodes (by decide +kernel) (by decide +kernel)) (.of_nodes (by decide +kernel))
    (by decide +kernel) (by decide +kernel) (fun selects => absurd rfl selects)
    (fun _ roundabout => absurd ?_ roundabout) performed⟩
  unfold Path.Straight
  decide +kernel

/-- Documents in `f`, on a way over `x`. -/
def roundabout : RunSettings := { sample with features := ⟨.here, ["x", "..", "f"]⟩ }

/-- A document, and no folder `x`. -/
def roundaboutWorld : World where
  disk :=
    { nodes := [(["f"], .folder),
        (["f", "a.x"], .file (Utf8.encode "Feature: A\nScenario: S\nWhen I wait"))] }

/-- The world with the folders that a run makes first. -/
def roundaboutMade : World where
  disk :=
    { nodes := [(["f"], .folder),
        (["f", "a.x"], .file (Utf8.encode "Feature: A\nScenario: S\nWhen I wait")),
        (["o"], .folder), (["x"], .folder)] }

/-- The folder in the way made, the document is found. -/
theorem gather_roundabout : roundabout.gather none roundaboutMade.disk =
    (.ok [⟨.here, ["x", "..", "f", "a.x"]⟩], roundaboutMade.disk) := by
  have isFolder : roundaboutMade.disk.look? roundabout.features = .ok (some .folder) := by
    decide +kernel
  have leads : roundaboutMade.disk.destination roundabout.features = (["f"] : Location) := by
    decide +kernel
  have listed : roundaboutMade.disk.namesIn ["f"] = (["a.x"] : List Text) :=
    List.mergeSort_of_pairwise (by decide +kernel)
  refine gather_of_folder isFolder ?_
  rw [discover_of_folder isFolder, leads, listed]
  rfl

/-- **A second run can find what the first one did not**: the first one does not find the features
folder, makes a folder on the way to it and looks no further. -/
theorem run_again_roundabout : ∃ after report again,
    roundaboutWorld.disk.destination roundabout.features ≠
        roundaboutWorld.disk.destination roundabout.output ∧
      (roundabout.run none).perform roundaboutWorld = (.ok [], after) ∧
      (roundabout.run none).perform after = (.ok report, again) ∧
      report.map Outcome.status = [.generated] := by
  obtain ⟨after, performed, there⟩ : ∃ after,
      (roundabout.run none).perform roundaboutWorld = (.ok [], after) ∧
        after.disk = roundaboutMade.disk :=
    Act.perform_of_effect ((effect_run roundabout none roundaboutWorld).trans rfl)
  have made : roundaboutMade.disk.makeFolders roundabout.output = (roundaboutMade.disk, .ok ()) :=
    rfl
  obtain ⟨report, last, ran, statuses⟩ : ∃ report last,
      roundabout.runOn none roundaboutMade.disk = (.ok report, last) ∧
        report.map Outcome.status = [.generated] := by
    rw [runOn_of_gather made gather_roundabout]
    exact ⟨_, _, rfl, rfl⟩
  obtain ⟨again, performedAgain, -⟩ := Act.perform_of_effect
    ((effect_run roundabout none after).trans (there ▸ ran))
  exact ⟨after, report, again, by decide +kernel, performed, performedAgain, statuses⟩

end Scenarist.RunSettings
