/-
**What spoilt documents change.** Where the contents of some files in the features folder are
replaced by bytes that are not UTF-8 or say too little, a run that went through still goes through:
the same documents are found, those that are spoilt are not generated, and all others have the
results and modules that they had (`runOn_spoilt`).
-/

import Scenarist.Proofs.Disk.Alike
import Scenarist.Proofs.Run.Rerun

namespace Scenarist

/-- The bytes are not UTF-8, or what they say is no complete feature. -/
def Document.Unfit (bytes : List UInt8) : Prop :=
  ∀ text, Utf8.decode bytes = .ok text →
    (Feature.ofDocument (Text.unifyBreaks text)).isComplete = false

/-- Unfit bytes yield no module. -/
theorem RunSettings.yieldOf_unfit (settings : RunSettings) (document : Path) {bytes : List UInt8}
    (unfit : Document.Unfit bytes) :
    (settings.yieldOf document bytes).outcome.status ≠ .generated ∧
      (settings.yieldOf document bytes).outcome.output = none ∧
      (settings.yieldOf document bytes).written = none := by
  unfold yieldOf
  cases decoded : Utf8.decode bytes with
  | error e => exact ⟨by simp, rfl, rfl⟩
  | ok text =>
    simp only [unfit text decoded, Bool.false_eq_true, if_false]
    exact ⟨by simp, trivial, trivial⟩

namespace Disk

variable {differs : Location → Prop} {disk other : Disk}

/-- What can be read on a disk can be read on one that is alike. -/
theorem readable_alike (alike : Alike differs disk other) {path : Path} {bytes : List UInt8}
    (held : disk.read path = .ok bytes) :
    ∃ others, other.read path = .ok others ∧
      (differs (disk.destination path) →
        other.node? (disk.destination path) = some (.file others)) ∧
      (¬differs (disk.destination path) → others = bytes) := by
  by_cases differ : differs (disk.destination path)
  · obtain ⟨location, found, -⟩ := read_eq_ok.mp held
    obtain ⟨-, others, -, there⟩ := alike.files _ differ
    refine ⟨others, read_eq_ok.mpr ⟨location, (locate_alike alike path).trans found, ?_⟩,
      fun _ => there, fun same => absurd differ same⟩
    rw [locate_eq found, there]
  · exact ⟨bytes, (read_alike alike differ).trans held, fun different => absurd different differ,
      fun _ => rfl⟩

/-- What cannot be read on a disk cannot be read on one that is alike, for the same reason. -/
theorem unreadable_alike (alike : Alike differs disk other) {path : Path} {e : Error}
    (unread : disk.read path = .error e) : other.read path = .error e := by
  by_cases differ : differs (disk.destination path)
  · cases found : disk.locate path with
    | ok location =>
      obtain ⟨bytes, -, here, -⟩ := alike.files _ differ
      rw [← locate_eq found] at here
      rw [read_eq_ok.mpr ⟨location, found, here⟩] at unread
      cases unread
    | error cause =>
      rw [read, look, found] at unread
      rw [read, look, locate_alike alike, found]
      exact unread
  · exact (read_alike alike differ).trans unread

end Disk

namespace RunSettings

variable {settings : RunSettings}

/-! ### The documents of a run -/

/-- The same documents are found on disks that are alike. -/
theorem discover_alike {differs : Location → Prop} {disk other : Disk}
    (alike : Disk.Alike differs disk other) (canonical : disk.Canonical)
    (canonicalThere : other.Canonical) : settings.discover other = settings.discover disk := by
  unfold discover
  rw [Disk.isFolder_alike alike, Disk.locate_alike alike]
  refine bind_congr fun isFolder => ?_
  split
  · refine bind_congr fun folder => ?_
    rw [Disk.namesIn_alike alike canonical canonicalThere]
    refine congrArg (· >>= _) (filterM_congr fun name _ => ?_)
    rw [isDocument, isDocument, Disk.isFile_alike alike]
  · rfl

/-- The same documents are collected on disks that are alike, and the disks stay alike. -/
theorem gather_alike {differs : Location → Prop} {disk other : Disk}
    (alike : Disk.Alike differs disk other) (canonical : disk.Canonical)
    (canonicalThere : other.Canonical) (selector : Option Text) :
    (settings.gather selector other).1 = (settings.gather selector disk).1 ∧
      Disk.Alike differs (settings.gather selector disk).2 (settings.gather selector other).2 := by
  by_cases selects : selector.getD [] = []
  · rw [gather_all selects, gather_all selects]
    unfold gather
    dsimp only
    rcases Disk.look?_cases alike settings.features with
      ⟨node, nodeThere, seen, seenThere⟩ | ⟨absent, absentThere⟩ | ⟨e, refused, refusedThere⟩
    · rw [seen, seenThere, discover_alike alike canonical canonicalThere]
      exact ⟨rfl, alike⟩
    · rw [absent, absentThere]
      dsimp only
      have made := Disk.makeFolders_alike alike settings.features
      rcases here : disk.makeFolders settings.features with ⟨folders, outcome⟩
      rcases there : other.makeFolders settings.features with ⟨foldersThere, outcomeThere⟩
      rw [here, there] at made
      obtain ⟨rfl, foldersAlike⟩ := made
      cases outcomeThere with
      | error e => exact ⟨rfl, foldersAlike⟩
      | ok done => exact ⟨rfl, foldersAlike⟩
    · rw [refused, refusedThere]
      exact ⟨rfl, alike⟩
  · rw [gather_selected selects, gather_selected selects]
    exact ⟨rfl, alike⟩

/-! ### Batches -/

/-- One document that is settled is a batch. -/
theorem Batch.one {yields : Path → Yield} {document : Path} {disk after : Disk}
    (settles : (yields document).Settles (settings.outputPath document) disk after) :
    settings.Batch yields [document] disk after where
  writable other isOne := by
    rw [List.mem_singleton.mp isOne]
    exact settles.writable
  sameFolders := settles.sameFolders
  here other isOne := by
    rw [List.mem_singleton.mp isOne]
    exact settles.here
  elsewhere location apart := settles.elsewhere location (apart document List.mem_cons_self)

/-- Documents that are apart and handled are a batch. -/
theorem handleAll_batch {bytes : Path → List UInt8} {documents : List Path} {disk after : Disk}
    {report : Report} (held : ∀ document ∈ documents, disk.read document = .ok (bytes document))
    (apart : settings.Apart disk documents)
    (handled : settings.handleAll documents disk = (.ok report, after)) :
    report = documents.map (fun document => (settings.yieldOf document (bytes document)).outcome) ∧
      settings.Batch (fun document => settings.yieldOf document (bytes document)) documents disk
        after := by
  obtain ⟨last, performed, rfl⟩ := Act.perform_of_effect
    ((settings.effect_mapM_process documents { disk := disk }).trans handled)
  exact perform_documents held apart performed

/-- What became of a document where the contents at these locations are spoilt: it is not generated
if it is one of them, and else it is as it was. -/
structure Withstands (spoilt : Location → Prop) (disk : Disk) (outcome there : Outcome) : Prop where
  source : there.source = outcome.source
  same : ¬spoilt (disk.destination outcome.source) → there = outcome
  spoilt : spoilt (disk.destination outcome.source) → there.status ≠ .generated ∧
    there.output = none

/-- What a run left where the contents at these locations are spoilt: all other documents have their
results and modules, and nothing else is written. -/
structure Withstood (spoilt : Location → Prop) (disk after other afterThere : Disk)
    (report reportThere : Report) : Prop where
  outcomes : List.Forall₂ (Withstands spoilt disk) report reportThere
  modules : ∀ outcome ∈ reportThere, ∀ path, outcome.output = some path →
    ∃ code, after.read path = .ok code ∧ afterThere.read path = .ok code
  elsewhere : ∀ location, (∀ outcome ∈ reportThere, ∀ path, outcome.output = some path →
    location ≠ other.destination path) → afterThere.node? location = other.node? location ∨
      other.node? location = none ∧ afterThere.node? location = some .folder

section Batches

variable {spoilt : Location → Prop} {disk after other afterThere : Disk} {documents : List Path}
  {bytes bytesThere : Path → List UInt8}

/-- **Batches of the same documents**, some of them spoilt. -/
theorem Batch.withstood
    (fit : ∀ document ∈ documents, ¬spoilt (disk.destination document) →
      bytesThere document = bytes document)
    (unfit : ∀ document ∈ documents, spoilt (disk.destination document) →
      Document.Unfit (bytesThere document))
    (batch : settings.Batch (fun document => settings.yieldOf document (bytes document)) documents
      disk after)
    (batchThere : settings.Batch (fun document => settings.yieldOf document (bytesThere document))
      documents other afterThere) :
    Withstood spoilt disk after other afterThere
      (documents.map fun document => (settings.yieldOf document (bytes document)).outcome)
      (documents.map fun document => (settings.yieldOf document (bytesThere document)).outcome) where
  outcomes := by
    rw [List.forall₂_map_left_iff, List.forall₂_map_right_iff, List.forall₂_same]
    intro document member
    have source := settings.source_yieldOf document (bytes document)
    refine ⟨(settings.source_yieldOf document _).trans source.symm, fun apart => ?_,
      fun isSpoilt => ?_⟩
    · rw [source] at apart
      rw [fit document member apart]
    · rw [source] at isSpoilt
      have yields := settings.yieldOf_unfit document (unfit document member isSpoilt)
      exact ⟨yields.1, yields.2.1⟩
  modules outcome isOutcome path hasOutput := by
    obtain ⟨document, member, rfl⟩ := List.mem_map.mp isOutcome
    rcases settings.yieldOf_cases document (bytesThere document) with
      ⟨text, -, same⟩ | ⟨-, -, none, -⟩
    · rw [same] at hasOutput
      obtain rfl : settings.outputPath document = path := Option.some.inj hasOutput
      have written := congrArg Yield.written same
      have kept : bytesThere document = bytes document := by
        refine fit document member fun isSpoilt => ?_
        rw [(settings.yieldOf_unfit document (unfit document member isSpoilt)).2.2] at written
        cases written
      refine ⟨_, batch.read_output member ?_, batchThere.read_output member written⟩
      rw [← kept]
      exact written
    · rw [none] at hasOutput
      cases hasOutput
  elsewhere location apart := by
    by_cases isOutput : ∃ document ∈ documents,
        location = other.destination (settings.outputPath document)
    · obtain ⟨document, member, rfl⟩ := isOutput
      refine Or.inl ((batchThere.here document member).trans ?_)
      rcases settings.yieldOf_cases document (bytesThere document) with
        ⟨text, -, same⟩ | ⟨-, -, -, unwritten⟩
      · refine absurd rfl (apart _ (List.mem_map_of_mem member) (settings.outputPath document) ?_)
        rw [same]
        rfl
      · rw [Yield.left, unwritten]
    · exact Or.inl (batchThere.elsewhere location fun document member same =>
        isOutput ⟨document, member, same⟩)

/-- The disk may have been one with fewer folders. -/
theorem Withstood.of_grows {report reportThere : Report} {start startThere : Disk}
    (withstood : Withstood spoilt disk after other afterThere report reportThere)
    (same : ∀ path, start.destination path = disk.destination path)
    (grows : startThere.Grows other) :
    Withstood spoilt start after startThere afterThere report reportThere where
  outcomes := by
    refine withstood.outcomes.imp fun outcome there withstands => ?_
    refine ⟨withstands.source, ?_, ?_⟩
    · rw [same]
      exact withstands.same
    · rw [same]
      exact withstands.spoilt
  modules := withstood.modules
  elsewhere location apart := by
    have kept := withstood.elsewhere location fun outcome member path hasOutput => by
      rw [grows.foldersIn.destination]
      exact apart outcome member path hasOutput
    rcases kept with kept | ⟨absent, made⟩
    · rw [kept]
      exact grows.nodes location
    · rcases grows.nodes location with same | ⟨none, -⟩
      · exact Or.inr ⟨same.symm.trans absent, made⟩
      · exact Or.inr ⟨none, made⟩

end Batches

/-! ### Runs -/

section Runs

variable {spoilt : Location → Prop} {disk other after : Disk} {report : Report}

/-- The other disk is the one with the contents of some files replaced by unfit bytes. -/
structure Spoils (spoilt : Location → Prop) (disk other : Disk) : Prop where
  alike : Disk.Alike spoilt disk other
  unfit : ∀ location bytes, spoilt location → other.node? location = some (.file bytes) →
    Document.Unfit bytes

/-- Folders that are made do not change what is spoilt. -/
theorem Spoils.of_grows {made madeThere : Disk} (spoils : Spoils spoilt disk other)
    (grows : other.Grows madeThere) (alike : Disk.Alike spoilt made madeThere) :
    Spoils spoilt made madeThere where
  alike := alike
  unfit location bytes isSpoilt held :=
    spoils.unfit location bytes isSpoilt ((grows.file_iff location bytes).mp held)

/-- What is written for a document that was not spoilt. -/
theorem Spoils.fit {document : Path} {bytes others : List UInt8}
    (spoils : Spoils spoilt disk other)
    (there : spoilt (disk.destination document) →
      other.node? (disk.destination document) = some (.file others))
    (same : ¬spoilt (disk.destination document) → others = bytes)
    (written : (settings.yieldOf document others).written ≠ none) : others = bytes := by
  refine same fun isSpoilt => written ?_
  exact (settings.yieldOf_unfit document (spoils.unfit _ _ isSpoilt (there isSpoilt))).2.2

/-- A document that is settled is settled as well where its contents are spoilt. -/
theorem Spoils.settle {document : Path} {bytes others : List UInt8}
    (spoils : Spoils spoilt disk other)
    (there : spoilt (disk.destination document) →
      other.node? (disk.destination document) = some (.file others))
    (same : ¬spoilt (disk.destination document) → others = bytes)
    (settles : (settings.yieldOf document bytes).Settles (settings.outputPath document) disk after) :
    ∃ afterThere, (settings.yieldOf document others).settle (settings.outputPath document) other =
        (.ok (settings.yieldOf document others).outcome, afterThere) ∧
      (settings.yieldOf document others).Settles (settings.outputPath document) other
        afterThere := by
  have writable (written : (settings.yieldOf document others).written ≠ none) :
      other.Writable (settings.outputPath document) := by
    rw [spoils.fit there same written] at written
    exact (settles.writable written).of_sameFolders spoils.alike.sameFolders
  obtain ⟨afterThere, settledThere⟩ := Yield.settle_of_writable writable
  exact ⟨afterThere, settledThere, (Yield.settle_ok settledThere).2⟩

/-- **One document withstands**, whether or not it can be read. -/
theorem withstood_one {document : Path} (spoils : Spoils spoilt disk other)
    (handled : settings.handleAll [document] disk = (.ok report, after)) :
    ∃ reportThere afterThere, settings.handleAll [document] other = (.ok reportThere, afterThere) ∧
      Withstood spoilt disk after other afterThere report reportThere := by
  cases held : disk.read document with
  | error e =>
    have unread := Disk.unreadable_alike spoils.alike held
    rw [handleAll_one, handle, held] at handled
    rw [handleAll_one, handle, unread]
    cases e with
    | nulInPath => cases handled
    | refused cause path =>
      cases handled
      refine ⟨_, _, rfl, .cons ⟨rfl, fun _ => rfl, fun _ => ⟨by simp, rfl⟩⟩ .nil, ?_, ?_⟩
      · intro outcome isOne path hasOutput
        rw [List.mem_singleton.mp isOne] at hasOutput
        cases hasOutput
      · exact fun _ _ => Or.inl rfl
  | ok bytes =>
    obtain ⟨others, heldThere, there, same⟩ := Disk.readable_alike spoils.alike held
    rw [handleAll_one, handle, held] at handled
    dsimp only at handled
    rcases settled : (settings.yieldOf document bytes).settle (settings.outputPath document) disk with
      ⟨result, middle⟩
    rw [settled] at handled
    cases result with
    | error fault => cases handled
    | ok outcome =>
      cases handled
      obtain ⟨rfl, settles⟩ := Yield.settle_ok settled
      obtain ⟨afterThere, settledThere, settlesThere⟩ := spoils.settle there same settles
      rw [handleAll_one, handle, heldThere]
      dsimp only
      rw [settledThere]
      refine ⟨_, afterThere, rfl, ?_⟩
      have fit : ∀ one ∈ [document], ¬spoilt (disk.destination one) → others = bytes := by
        intro one isOne
        rw [List.mem_singleton.mp isOne]
        exact same
      have unfit : ∀ one ∈ [document], spoilt (disk.destination one) → Document.Unfit others := by
        intro one isOne isSpoilt
        rw [List.mem_singleton.mp isOne] at isSpoilt
        exact spoils.unfit _ _ isSpoilt (there isSpoilt)
      have batch : settings.Batch (fun one => settings.yieldOf one bytes) [document] disk middle :=
        Batch.one settles
      have batchThere : settings.Batch (fun one => settings.yieldOf one others) [document] other
          afterThere := Batch.one settlesThere
      exact Batch.withstood fit unfit batch batchThere

/-- **Documents that are apart withstand.** -/
theorem withstood_all {documents : List Path} {bytes : Path → List UInt8}
    (spoils : Spoils spoilt disk other)
    (held : ∀ document ∈ documents, disk.read document = .ok (bytes document))
    (apart : settings.Apart disk documents)
    (handled : settings.handleAll documents disk = (.ok report, after)) :
    ∃ reportThere afterThere, settings.handleAll documents other = (.ok reportThere, afterThere) ∧
      Withstood spoilt disk after other afterThere report reportThere := by
  obtain ⟨rfl, batch⟩ := handleAll_batch held apart handled
  have apartThere := apart.of_sameFolders spoils.alike.sameFolders
  have readThere : ∀ document, ∃ others, document ∈ documents →
      other.read document = .ok others ∧
        (spoilt (disk.destination document) →
          other.node? (disk.destination document) = some (.file others)) ∧
        (¬spoilt (disk.destination document) → others = bytes document) := by
    intro document
    by_cases member : document ∈ documents
    · obtain ⟨others, facts⟩ := Disk.readable_alike spoils.alike (held document member)
      exact ⟨others, fun _ => facts⟩
    · exact ⟨[], fun among => absurd among member⟩
  choose bytesThere facts using readThere
  have heldThere : ∀ document ∈ documents, other.read document = .ok (bytesThere document) :=
    fun document member => (facts document member).1
  obtain ⟨reportThere, afterThere, handledThere⟩ := handleAll_of_writable
    (⟨heldThere, apartThere.sources⟩ : settings.Intact bytesThere documents other)
    fun document member written => by
      have same := spoils.fit (facts document member).2.1 (facts document member).2.2 written
      rw [same] at written
      exact (batch.writable document member written).of_sameFolders spoils.alike.sameFolders
  obtain ⟨rfl, batchThere⟩ := handleAll_batch heldThere apartThere handledThere
  exact ⟨_, afterThere, handledThere, Batch.withstood
    (fun document member => (facts document member).2.2)
    (fun document member isSpoilt =>
      spoils.unfit _ _ isSpoilt ((facts document member).2.1 isSpoilt)) batch batchThere⟩

/-- The documents of a run over all of them can be read and are apart. -/
theorem apart_of_gather {gathered : Disk} {documents : List Path} (canonical : disk.Canonical)
    (named : ∀ name, disk.HasFile settings.features name → Path.IsName name)
    (extended : settings.extension ≠ [])
    (different : disk.destination settings.features ≠ disk.destination settings.output)
    (gather : settings.gather none disk = (.ok documents, gathered)) :
    ∃ bytes : Path → List UInt8,
      (∀ document ∈ documents, gathered.read document = .ok (bytes document)) ∧
        settings.Apart gathered documents := by
  have nothing (disk : Disk) : ∃ bytes : Path → List UInt8,
      (∀ document ∈ [], disk.read document = .ok (bytes document)) ∧ settings.Apart disk [] :=
    ⟨fun _ => [], by simp, by simp, List.nodup_nil⟩
  unfold RunSettings.gather at gather
  split at gather
  · next selects => cases selects
  split at gather
  · cases gather
  · cases discovered : settings.discover disk with
    | error e =>
      rw [discovered] at gather
      cases gather
    | ok found =>
      rw [discovered] at gather
      cases gather
      obtain ⟨names, rfl, isFound⟩ := discover_eq_ok settings _ canonical named discovered
      obtain ⟨bytes, held⟩ := isFound.exists_bytes
      exact ⟨bytes, held, isFound.apart extended different named⟩
  · split at gather
    · cases gather
    · cases gather
      exact nothing _

/-- **A run withstands spoilt documents**: it goes through, the spoilt ones are not generated, all
others have their results and modules, and nothing else is written. -/
theorem runOn_spoilt {selector : Option Text} (named : disk.WellNamed)
    (namedThere : other.WellNamed) (extended : settings.extension ≠ [])
    (different : disk.destination settings.features ≠ disk.destination settings.output)
    (spoils : Spoils spoilt disk other)
    (ran : settings.runOn selector disk = (.ok report, after)) :
    ∃ reportThere afterThere, settings.runOn selector other = (.ok reportThere, afterThere) ∧
      Withstood spoilt disk after other afterThere report reportThere := by
  have grows := grows_prepared settings disk
  have destination := grows.foldersIn.destination
  obtain ⟨folders, documents, gathered, gather, handled⟩ := settings.of_runOn ran
  have canonical : (settings.prepared disk).Canonical := named.canonical.makeFolders _
  have made := Disk.makeFolders_alike spoils.alike settings.output
  have both := @gather_alike settings spoilt _ _ made.2 canonical
    (namedThere.canonical.makeFolders settings.output) selector
  rcases gatherThere : settings.gather selector (settings.prepared other) with
    ⟨documentsThere, gatheredThere⟩
  have here : settings.gather selector (disk.makeFolders settings.output).1 =
    (.ok documents, gathered) := gather
  have there : settings.gather selector (other.makeFolders settings.output).1 =
    (documentsThere, gatheredThere) := gatherThere
  rw [here, there] at both
  obtain ⟨rfl, gatherAlike⟩ := both
  have growsThere := (grows_prepared settings other).trans (grows_gather gatherThere)
  have spoilsThere : Spoils spoilt gathered gatheredThere := spoils.of_grows growsThere gatherAlike
  rw [settings.runOn_eq (made.1.trans folders) gatherThere]
  have withstands : ∃ reportThere afterThere,
      settings.handleAll documents gatheredThere = (.ok reportThere, afterThere) ∧
        Withstood spoilt gathered after gatheredThere afterThere report reportThere := by
    by_cases selects : selector.getD [] = []
    · obtain ⟨bytes, held, apart⟩ := apart_of_gather canonical
        (fun name hasFile => isName_of_hasFile named grows hasFile) extended
        (by rwa [destination, destination]) ((gather_all selects _).symm.trans gather)
      exact withstood_all spoilsThere held apart handled
    · have selected := gather
      rw [gather_selected selects] at selected
      obtain rfl := Except.ok.inj (Prod.mk.inj selected).1
      exact withstood_one spoilsThere handled
  obtain ⟨reportThere, afterThere, handledThere, withstood⟩ := withstands
  exact ⟨reportThere, afterThere, handledThere, withstood.of_grows
    (fun path => ((grows.trans (grows_gather gather)).foldersIn.destination path).symm) growsThere⟩

end Runs

end RunSettings

end Scenarist
