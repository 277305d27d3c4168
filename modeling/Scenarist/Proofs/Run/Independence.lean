/-
**A run is as many runs as it has documents.** The documents that a run over all of them finds are
apart, so each has the result and the module of a run over it alone (`run_over_all`): one that
cannot be read or says too little changes nothing for the others.
-/

import Scenarist.Proofs.Run.Frame
import Scenarist.Proofs.Run.Output

namespace Scenarist.RunSettings

variable {settings : RunSettings}

/-- The files of a disk have names, also when folders are made. -/
theorem isName_of_hasFile {disk after : Disk} (named : disk.WellNamed) (grows : disk.Grows after)
    {folder : Path} {name : Text} (hasFile : after.HasFile folder name) : Path.IsName name := by
  obtain ⟨-, bytes, there⟩ := hasFile
  have held := Disk.mem_of_node? (by simp) ((grows.file_iff _ _).mp there)
  exact named.names _ (List.mem_cons_of_mem _ (List.mem_map_of_mem held)) name
    (List.mem_append_right _ List.mem_cons_self)

/-- What a run made of the document with a name: a result of its own, with its module in place, and
both are those of a run over this document alone. -/
structure Independent (settings : RunSettings) (world after : World) (name : Text)
    (outcome : Outcome) : Prop where
  source : outcome.source = settings.features.below name
  generated : outcome.status = .generated → ∃ bytes text code,
    world.disk.node? (world.disk.destination settings.features ++ [name]) = some (.file bytes) ∧
    Utf8.decode bytes = .ok text ∧
    settings.target.emit (Feature.ofDocument (Text.unifyBreaks text)) = .ok code ∧
    outcome.output = some (settings.outputPath outcome.source) ∧
    after.disk.read (settings.outputPath outcome.source) = .ok (Utf8.encode code)
  notGenerated : outcome.status ≠ .generated → outcome.output = none
  alone : ∃ alone, (settings.run (some name)).perform world = (.ok [outcome], alone) ∧
    alone.disk.look? (settings.outputPath outcome.source) =
      after.disk.look? (settings.outputPath outcome.source)

/-- The bytes of a document on the prepared disk are those it had before. -/
theorem node?_of_read {disk : Disk} {name : Text} (isName : Path.IsName name)
    {bytes : List UInt8}
    (held : (settings.prepared disk).read (settings.features.below name) = .ok bytes) :
    disk.node? (disk.destination settings.features ++ [name]) = some (.file bytes) := by
  have grows := grows_prepared settings disk
  obtain ⟨location, found, there⟩ := Disk.read_eq_ok.mp held
  rw [Disk.locate_eq found, Disk.destination_below isName.notUp,
    grows.foldersIn.destination] at there
  exact (grows.file_iff _ _).mp there

/-- **A document of a batch fares as it does alone.** -/
theorem Batch.independent {world after : World} {names : List Text} {bytes : Path → List UInt8}
    (made : (world.disk.makeFolders settings.output).2 = .ok ())
    (named : ∀ name ∈ names, Path.IsName name)
    (held : ∀ document ∈ names.map settings.features.below,
      (settings.prepared world.disk).read document = .ok (bytes document))
    (batch : settings.Batch (fun document => settings.yieldOf document (bytes document))
      (names.map settings.features.below) (settings.prepared world.disk) after.disk)
    {name : Text} (member : name ∈ names) :
    settings.Independent world after name
      (settings.yieldOf (settings.features.below name)
        (bytes (settings.features.below name))).outcome := by
  have isName := named name member
  have among : settings.features.below name ∈ names.map settings.features.below :=
    List.mem_map_of_mem member
  have heldHere := held _ among
  have resolved : settings.resolve name = settings.features.below name :=
    Path.child_name isName settings.features
  have source := settings.source_yieldOf (settings.features.below name)
    (bytes (settings.features.below name))
  obtain ⟨alone, performed, settles⟩ := perform_run_one isName.nonempty made
    (resolved.symm ▸ heldHere) (resolved.symm ▸ batch.writable _ among)
  rw [resolved] at performed settles
  refine ⟨source, ?_, ?_, alone, performed, ?_⟩
  · intro isGenerated
    rcases settings.yieldOf_cases (settings.features.below name)
      (bytes (settings.features.below name)) with ⟨text, decoded, same⟩ | ⟨-, other, -⟩
    · refine ⟨_, text, _, node?_of_read isName heldHere, decoded, Target.emit_eq _ _, ?_, ?_⟩
      · rw [same]
        rfl
      · rw [source]
        exact batch.read_output among (congrArg Yield.written same)
    · exact absurd isGenerated other
  · intro notGenerated
    rcases settings.yieldOf_cases (settings.features.below name)
      (bytes (settings.features.below name)) with ⟨text, -, same⟩ | ⟨-, -, none, -⟩
    · rw [same] at notGenerated
      exact absurd rfl notGenerated
    · exact none
  · rw [source]
    refine Disk.look?_congr (batch.sameFolders.symm.trans settles.sameFolders) ?_
    rw [batch.sameFolders.forth.destination, settles.here, batch.here _ among]

/-- Every document is generated, skipped or failed. -/
theorem count_add_count (report : Report) :
    report.count .generated + report.count .skipped + report.count .failed = report.length := by
  induction report with
  | nil => rfl
  | cons outcome report ih =>
    obtain ⟨source, status, output, scenarios, error⟩ := outcome
    unfold Report.count at ih ⊢
    cases status <;> simp <;> omega

/-- The documents that a run over all of them finds, and what becomes of them. -/
theorem of_perform_run_none {world after : World} {report : Report} (named : world.disk.WellNamed)
    (extended : settings.extension ≠ [])
    (different :
      world.disk.destination settings.features ≠ world.disk.destination settings.output)
    (performed : (settings.run none).perform world = (.ok report, after)) :
    ∃ (names : List Text) (bytes : Path → List UInt8),
      settings.Found (settings.prepared world.disk) names ∧
      settings.Apart (settings.prepared world.disk) (names.map settings.features.below) ∧
      report = (names.map settings.features.below).map
        (fun document => (settings.yieldOf document (bytes document)).outcome) ∧
      ∀ name ∈ names, settings.Independent world after name
        (settings.yieldOf (settings.features.below name)
          (bytes (settings.features.below name))).outcome := by
  have grows := grows_prepared settings world.disk
  obtain ⟨made, documents, middle, start, last, collected, atStart, processed, atEnd⟩ :=
    of_perform_run performed
  have hasName (name : Text) (hasFile :
      (settings.prepared world.disk).HasFile settings.features name) : Path.IsName name :=
    isName_of_hasFile named grows hasFile
  obtain ⟨names, rfl, isFound, kept⟩ := of_perform_collect
    (named.canonical.makeFolders settings.output) hasName collected
  have found : settings.Found (settings.prepared world.disk) names := isFound
  have apart := found.apart extended
    (by rwa [grows.foldersIn.destination, grows.foldersIn.destination]) hasName
  obtain ⟨bytes, held⟩ := found.exists_bytes
  refine ⟨names, bytes, found, apart, ?_⟩
  by_cases some : names = []
  · subst some
    cases processed
    exact ⟨rfl, fun name member => absurd member List.not_mem_nil⟩
  · have startDisk : start.disk = settings.prepared world.disk := atStart.trans (kept some)
    rw [← startDisk] at held apart
    obtain ⟨rfl, batch⟩ := perform_documents held apart processed
    rw [startDisk, ← atEnd] at batch
    rw [startDisk] at held
    exact ⟨rfl, fun name member => batch.independent made
      (fun other among => hasName other ((found.mem other).mp among).1) held member⟩

/-- **A run over all documents is a run over each of them.** There is one result for each file of
the features folder with the extension, in the order of their names; the outputs are different; and
every document has the result and the module that it has alone, whatever the others yield. -/
theorem run_over_all {world after : World} {report : Report} (named : world.disk.WellNamed)
    (extended : settings.extension ≠ [])
    (different :
      world.disk.destination settings.features ≠ world.disk.destination settings.output)
    (performed : (settings.run none).perform world = (.ok report, after)) :
    ∃ names : List Text,
      report.map Outcome.source = names.map settings.features.below ∧
      names.Nodup ∧ (names.Pairwise fun a b => Text.le a b = true) ∧
      (∀ name, name ∈ names ↔
        (settings.prepared world.disk).HasFile settings.features name ∧
          Text.endsWith name settings.extension = true) ∧
      (world.disk.look? settings.features = .ok (some .folder) → ∀ name,
        (settings.prepared world.disk).HasFile settings.features name ↔
          world.disk.HasFile settings.features name) ∧
      report.count .generated + report.count .skipped + report.count .failed = report.length ∧
      (report.filterMap Outcome.output).Nodup ∧
      List.Forall₂ (settings.Independent world after) names report := by
  obtain ⟨names, bytes, found, apart, rfl, independent⟩ :=
    of_perform_run_none named extended different performed
  refine ⟨names, ?_, found.once, found.ordered, found.mem,
    fun isFolder name => (grows_prepared settings world.disk).hasFile_iff isFolder name,
    count_add_count _, apart.nodup_outputs bytes, ?_⟩
  · rw [List.map_map, List.map_map]
    exact List.map_congr_left fun name _ => settings.source_yieldOf _ _
  · rw [List.map_map, List.forall₂_map_right_iff, List.forall₂_same]
    exact independent

/-- Documents in `f`, modules in `o`. -/
def sample : RunSettings where
  base := ⟨.here, []⟩
  features := ⟨.here, ["f"]⟩
  output := ⟨.here, ["o"]⟩
  extension := ".x"
  target := .playwrightJs
  logLevel := "INFO"

/-- A document and one that is not UTF-8. -/
def sampleWorld : World where
  disk :=
    { nodes := [(["f"], .folder),
        (["f", "a.x"], .file (Utf8.encode "Feature: A\nScenario: S\nWhen I wait")),
        (["f", "b.x"], .file [0xFF])] }

theorem discover_sample : sample.discover (sample.prepared sampleWorld.disk) =
    .ok [⟨.here, ["f", "a.x"]⟩, ⟨.here, ["f", "b.x"]⟩] := by
  have listed : (sample.prepared sampleWorld.disk).namesIn ["f"] = ["a.x", "b.x"] :=
    List.mergeSort_of_pairwise (by decide +kernel)
  have isFolder : (sample.prepared sampleWorld.disk).isFolder sample.features = .ok true := by
    decide +kernel
  have located : (sample.prepared sampleWorld.disk).locate sample.features = .ok ["f"] := by
    decide +kernel
  simp only [discover, isFolder, located, bind, Except.bind, if_true, listed]
  rfl

theorem collect_sample : (sample.collect none).perform
      { sampleWorld with disk := sample.prepared sampleWorld.disk } =
    (.ok [⟨.here, ["f", "a.x"]⟩, ⟨.here, ["f", "b.x"]⟩],
      { sampleWorld with disk := sample.prepared sampleWorld.disk }) := by
  have looked : (sample.prepared sampleWorld.disk).look? sample.features = .ok (some .folder) := by
    decide +kernel
  unfold collect
  dsimp only
  rw [Act.perform_bind, Act.perform_ask]
  simp only [looked, Except.mapError, Option.isSome_some, if_true]
  rw [Act.perform_ask, discover_sample]
  rfl

theorem perform_sample : ∃ report after,
    (sample.run none).perform sampleWorld = (.ok report, after) ∧
    report.map Outcome.status = [.generated, .failed] := by
  have folders : (Act.makeFolders RunFault.disk sample.output).perform sampleWorld =
      (.ok (), { sampleWorld with disk := sample.prepared sampleWorld.disk }) := by
    rw [Act.perform_makeFolders]
    rfl
  rw [run, Act.perform_bind_ok folders, Act.perform_bind_ok collect_sample]
  exact ⟨_, _, rfl, rfl⟩

theorem wellNamed_sample : sampleWorld.disk.WellNamed where
  unique := by decide +kernel
  names := by decide +kernel

/-- A document beside one that is not UTF-8 is generated as it is alone. -/
theorem run_over_all_sample : ∃ report after names,
    (sample.run none).perform sampleWorld = (.ok report, after) ∧
      report.map Outcome.status = [.generated, .failed] ∧
      report.map Outcome.source = names.map sample.features.below ∧
      List.Forall₂ (sample.Independent sampleWorld after) names report := by
  obtain ⟨report, after, performed, statuses⟩ := perform_sample
  obtain ⟨names, sources, -, -, -, -, -, -, independent⟩ :=
    run_over_all wellNamed_sample (by decide +kernel) (by decide +kernel) performed
  exact ⟨report, after, names, performed, statuses, sources, independent⟩

end Scenarist.RunSettings
