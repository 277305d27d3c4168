/-
**How the command ends.** Where the settings cannot be loaded or resolved, or the level is unknown,
the command fails and leaves the disk as it is, since nothing is made before (`prepare_indifferent`).
Otherwise it ends as the run does, and documents that cannot be read or say too little do not make
it fail: a command that succeeds still does so when they are spoilt (`invoke_exit`).
-/

import Scenarist.CommandLine.Command
import Scenarist.Proofs.Run.Consulting
import Scenarist.Proofs.Run.Resolving
import Scenarist.Proofs.Run.Spoilt

namespace Scenarist.CommandLine

open Act

variable {home : Path} {options : Options} {arguments : List Text} {world after : World}
  {disk other : Disk}

/-! ### Before the run -/

theorem setLevel_indifferent (name : Text) : (setLevel name).Indifferent disk other := by
  unfold setLevel
  split
  · exact indifferent_modify (fun _ => rfl) fun _ => rfl
  · exact indifferent_throw _

/-- **Before the run nothing is changed**, and only the files of the settings are looked at. -/
theorem prepare_indifferent
    (same : ∀ path ∈ options.consulted home, other.look path = disk.look path) :
    (prepare home options).Indifferent disk other := by
  have loaded : (Configuration.load (options.source home)).Indifferent disk other :=
    Configuration.load_indifferent (same _ (by simp [Options.consulted]))
      (same _ (by simp [Options.consulted])) (same _ (by simp [Options.consulted]))
  unfold prepare
  refine (loaded.adapt Failure.load).bind fun settings => ?_
  split
  · exact indifferent_throw _
  · exact ((setLevel_indifferent _).adapt Failure.level).bind fun _ => indifferent_pure _

theorem disk_of_prepare {result : Except Failure RunSettings}
    (performed : (prepare home options).perform world = (result, after)) :
    after.disk = world.disk := by
  have same : (prepare home options).Indifferent world.disk world.disk :=
    prepare_indifferent fun _ _ => rfl
  obtain ⟨result, last, here, kept, -⟩ := same world rfl
  rw [performed] at here
  cases here
  exact kept

theorem prepare_there {result : Except Failure RunSettings}
    (same : ∀ path ∈ options.consulted home, other.look path = world.disk.look path)
    (performed : (prepare home options).perform world = (result, after)) :
    (prepare home options).perform { world with disk := other } =
      (result, { after with disk := other }) := by
  obtain ⟨result, last, here, -, there⟩ := prepare_indifferent same world rfl
  rw [performed] at here
  cases here
  exact there

/-- The settings of a run were resolved. -/
theorem extended_of_prepare {settings : RunSettings}
    (performed : (prepare home options).perform world = (.ok settings, after)) :
    settings.extension ≠ [] := by
  unfold prepare at performed
  obtain ⟨loaded, middle, -, performed⟩ := of_perform_bind performed
  split at performed
  · cases performed
  · next resolved =>
    obtain ⟨⟨⟩, last, -, performed⟩ := of_perform_bind performed
    cases performed
    exact (Configuration.resolve_eq_ok.mp resolved).extended

/-! ### The run -/

/-- Behind the settings, carrying out the command is running. -/
theorem effect_execute {settings : RunSettings}
    (performed : (prepare home options).perform world = (.ok settings, after)) :
    (execute home options).effect world =
      ((settings.runOn options.document after.disk).1.mapError Failure.run,
        (settings.runOn options.document after.disk).2) := by
  unfold execute
  rw [effect_bind, performed]
  dsimp only
  rw [effect_bind, perform_note]
  dsimp only
  generalize starting : World.note after _ = start
  have there : start.disk = after.disk := by rw [← starting, World.disk_note]
  rw [effect, perform_adapt, ← there, ← settings.effect_run]
  rfl

theorem execute_of_failed {failure : Failure}
    (performed : (prepare home options).perform world = (.error failure, after)) :
    (execute home options).perform world = (.error failure, after) := by
  unfold execute
  rw [perform_bind, performed]

/-! ### The command -/

/-- The arguments ask for a run with these options, and no completion is asked for. -/
structure Asks (arguments : List Text) (world : World) (options : Options) : Prop where
  noRequest : Completion.request? world.env = none
  parsed : parse arguments = .ok (.run options)

theorem invoke_ok {report : Report} (asks : Asks arguments world options)
    (executed : (execute home options).perform world = (.ok report, after)) :
    invoke home arguments world = ({ exitCode := 0 }, after) := by
  unfold invoke carryOut
  rw [asks.noRequest, asks.parsed]
  dsimp only
  rw [executed]

theorem invoke_error {failure : Failure} (asks : Asks arguments world options)
    (executed : (execute home options).perform world = (.error failure, after)) :
    (invoke home arguments world).1.exitCode = 1 ∧
      (invoke home arguments world).2.disk = after.disk := by
  unfold invoke carryOut
  rw [asks.noRequest, asks.parsed]
  dsimp only
  rw [executed]
  dsimp only
  split
  · exact ⟨rfl, World.disk_note _ _⟩
  · exact ⟨rfl, rfl⟩

/-- The command succeeds when the run goes through. -/
theorem of_exitCode (asks : Asks arguments world options)
    (succeeds : (invoke home arguments world).1.exitCode = 0) :
    ∃ report after, (execute home options).perform world = (.ok report, after) := by
  rcases executed : (execute home options).perform world with ⟨result, after⟩
  cases result with
  | ok report => exact ⟨report, after, rfl⟩
  | error failure =>
    rw [(invoke_error asks executed).1] at succeeds
    cases succeeds

/-- What does not ask for a run does nothing on the disk. -/
theorem invoke_aside (home : Path) (aside : ∀ options, ¬Asks arguments world options)
    (other : Disk) : invoke home arguments { world with disk := other } =
      ((invoke home arguments world).1, { world with disk := other }) := by
  unfold invoke
  cases requested : Completion.request? world.env with
  | some request => rfl
  | none =>
    unfold carryOut
    cases parsed : parse arguments with
    | error fault => rfl
    | ok order =>
      cases order with
      | help => rfl
      | run options => exact absurd ⟨requested, parsed⟩ (aside options)

/-- Without settings the command fails, and the disk is left as it is. -/
theorem invoke_failed {failure : Failure} (asks : Asks arguments world options)
    (performed : (prepare home options).perform world = (.error failure, after)) :
    (invoke home arguments world).1.exitCode = 1 ∧
      (invoke home arguments world).2.disk = world.disk := by
  obtain ⟨exit, left⟩ := invoke_error asks (execute_of_failed performed)
  exact ⟨exit, left.trans (disk_of_prepare performed)⟩

/-- A run that goes through, seen from the command. -/
theorem runOn_of_execute {settings : RunSettings} {ready : World} {report : Report}
    (performed : (prepare home options).perform world = (.ok settings, ready))
    (executed : (execute home options).perform world = (.ok report, after)) :
    settings.runOn options.document world.disk = (.ok report, after.disk) := by
  have effect := (effect_execute performed).symm.trans (effect_of_perform executed)
  rw [disk_of_prepare performed] at effect
  rcases ran : settings.runOn options.document world.disk with ⟨result, left⟩
  rw [ran] at effect
  cases result with
  | error fault => cases effect
  | ok done =>
    cases effect
    rfl

/-- A run that goes through lets the command go through. -/
theorem execute_of_runOn {settings : RunSettings} {ready : World} {report : Report} {left : Disk}
    (performed : (prepare home options).perform world = (.ok settings, ready))
    (ran : settings.runOn options.document world.disk = (.ok report, left)) :
    ∃ after, (execute home options).perform world = (.ok report, after) ∧ after.disk = left := by
  have effect := effect_execute performed
  rw [disk_of_prepare performed, ran] at effect
  exact perform_of_effect effect

/-- **A command that succeeds still succeeds when documents are spoilt.** -/
theorem invoke_spoilt {settings : RunSettings} {ready : World} {spoilt : Location → Prop}
    (asks : Asks arguments world options)
    (performed : (prepare home options).perform world = (.ok settings, ready))
    (succeeds : (invoke home arguments world).1.exitCode = 0) (named : world.disk.WellNamed)
    (namedThere : other.WellNamed)
    (different :
      world.disk.destination settings.features ≠ world.disk.destination settings.output)
    (spoils : RunSettings.Spoils spoilt world.disk other)
    (apart : ∀ path ∈ options.consulted home, ¬spoilt (world.disk.destination path)) :
    (invoke home arguments { world with disk := other }).1.exitCode = 0 ∧
      ∃ report reportThere, ((execute home options).perform world).1 = .ok report ∧
        ((execute home options).perform { world with disk := other }).1 = .ok reportThere ∧
        RunSettings.Withstood spoilt world.disk (invoke home arguments world).2.disk other
          (invoke home arguments { world with disk := other }).2.disk report reportThere := by
  obtain ⟨report, after, executed⟩ := of_exitCode asks succeeds
  obtain ⟨reportThere, left, ranThere, withstood⟩ := RunSettings.runOn_spoilt named namedThere
    (extended_of_prepare performed) different spoils (runOn_of_execute performed executed)
  have performedThere := prepare_there
    (fun path member => Disk.look_alike spoils.alike (apart path member)) performed
  obtain ⟨afterThere, executedThere, rfl⟩ := execute_of_runOn performedThere ranThere
  have asksThere : Asks arguments { world with disk := other } options :=
    ⟨asks.noRequest, asks.parsed⟩
  rw [invoke_ok asks executed, invoke_ok asksThere executedThere, executed, executedThere]
  exact ⟨rfl, report, reportThere, rfl, rfl, withstood⟩

/-- **Exit codes.** Without settings the command fails and leaves the disk as it is. With them, a
command that succeeds still succeeds when the contents of files, other than those of the settings,
are replaced by bytes that are not UTF-8 or that describe no complete feature when they are read;
these are not generated, and nothing is written for them, while all other documents have their
results and modules. Without a run the disk plays no part. -/
theorem invoke_exit (home : Path) (arguments : List Text) (world : World) :
    (∀ options failure after, Asks arguments world options →
      (prepare home options).perform world = (.error failure, after) →
        (invoke home arguments world).1.exitCode = 1 ∧
          (invoke home arguments world).2.disk = world.disk) ∧
    (∀ options settings ready spoilt other, Asks arguments world options →
      (prepare home options).perform world = (.ok settings, ready) →
      (invoke home arguments world).1.exitCode = 0 →
      world.disk.WellNamed → other.WellNamed →
      world.disk.destination settings.features ≠ world.disk.destination settings.output →
      RunSettings.Spoils spoilt world.disk other →
      (∀ path ∈ options.consulted home, ¬spoilt (world.disk.destination path)) →
        (invoke home arguments { world with disk := other }).1.exitCode = 0 ∧
        ∃ report reportThere, ((execute home options).perform world).1 = .ok report ∧
          ((execute home options).perform { world with disk := other }).1 = .ok reportThere ∧
          RunSettings.Withstood spoilt world.disk (invoke home arguments world).2.disk other
            (invoke home arguments { world with disk := other }).2.disk report reportThere) ∧
    ((∀ options, ¬Asks arguments world options) → ∀ other,
      invoke home arguments { world with disk := other } =
        ((invoke home arguments world).1, { world with disk := other })) := by
  refine ⟨fun options failure after asks performed => invoke_failed asks performed, ?_,
    invoke_aside home⟩
  intro options settings ready spoilt other asks performed succeeds named namedThere different
    spoils apart
  exact invoke_spoilt asks performed succeeds named namedThere different spoils apart

/-- A document that is complete. -/
def completeBytes : List UInt8 := Utf8.encode "Feature: A\nScenario: S"

/-- A world with two documents and no files of settings; the second one is complete. -/
def folderOf (bytes : List UInt8) : World where
  disk :=
    { nodes := [([("features" : Text)], .folder),
        ([("features" : Text), "a.feature"], .file bytes),
        ([("features" : Text), "b.feature"], .file completeBytes)] }

/-- No document selected, and nothing else said. -/
def allDocuments : Options where
  document := none
  config := none
  env := none
  target := none

theorem wellNamed_folderOf (bytes : List UInt8) : (folderOf bytes).disk.WellNamed where
  unique := by
    show [[("features" : Text)], [("features" : Text), "a.feature"],
      [("features" : Text), "b.feature"]].Nodup
    decide
  names := by
    show ∀ location ∈ [[], [("features" : Text)], [("features" : Text), "a.feature"],
      [("features" : Text), "b.feature"]], ∀ name ∈ location, Path.IsName name
    decide

/-- Replacing the contents by unfit bytes spoils the first document. -/
theorem spoils_folderOf (bytes : List UInt8) {others : List UInt8} (unfit : Document.Unfit others) :
    RunSettings.Spoils (· = [("features" : Text), "a.feature"]) (folderOf bytes).disk
      (folderOf others).disk where
  alike :=
    { work := rfl
      same := fun location different => by
        have apart : (location == [("features" : Text), "a.feature"]) = false :=
          beq_false_of_ne different
        simp only [folderOf, Disk.node?, List.lookup_cons, apart]
      files := fun location isDocument => ⟨bytes, others, by rw [isDocument]; rfl,
        by rw [isDocument]; rfl⟩ }
  unfit location bytes isDocument held := by
    rw [isDocument] at held
    cases held
    exact unfit

/-- Both documents are found, whatever the first one holds. -/
theorem runOn_folderOf (bytes : List UInt8) :
    (RunSettings.ofBase ⟨.here, []⟩).runOn none (folderOf bytes).disk =
      (RunSettings.ofBase ⟨.here, []⟩).handleAll
        [⟨.here, ["features", "a.feature"]⟩, ⟨.here, ["features", "b.feature"]⟩]
        ((RunSettings.ofBase ⟨.here, []⟩).prepared (folderOf bytes).disk) := by
  refine RunSettings.runOn_eq _ rfl (RunSettings.gather_of_folder rfl ?_)
  have sorted : (["a.feature", "b.feature"] : List Text).Pairwise
      fun a b => Text.le a b = true := by
    decide
  have listed : ((RunSettings.ofBase ⟨.here, []⟩).prepared (folderOf bytes).disk).namesIn
      ["features"] = (["a.feature", "b.feature"] : List Text) :=
    List.mergeSort_of_pairwise sorted
  have leads : ((RunSettings.ofBase ⟨.here, []⟩).prepared (folderOf bytes).disk).destination
      (RunSettings.ofBase ⟨.here, []⟩).features = (["features"] : Location) := rfl
  rw [RunSettings.discover_of_folder rfl, leads, listed]
  rfl

/-- Both documents are generated. -/
theorem runOn_complete : ∃ report last,
    (RunSettings.ofBase ⟨.here, []⟩).runOn none (folderOf completeBytes).disk = (.ok report, last) ∧
      report.map Outcome.status = [.generated, .generated] := by
  rw [runOn_folderOf]
  exact ⟨_, _, rfl, rfl⟩

/-- The first document cannot be read, and the second one is generated. -/
theorem runOn_spoilt : ∃ report last,
    (RunSettings.ofBase ⟨.here, []⟩).runOn none (folderOf [0xFF]).disk = (.ok report, last) ∧
      report.map Outcome.status = [.failed, .generated] ∧
      report.map Outcome.output = [none, some ⟨.here, ["tests", "b.spec.js"]⟩] := by
  rw [runOn_folderOf]
  exact ⟨_, _, rfl, rfl, rfl⟩

/-- One of two documents is replaced by bytes that are not UTF-8: the command ends as it did, and
the other document has its module. -/
theorem invoke_exit_sample :
    (invoke ⟨.here, []⟩ [] (folderOf completeBytes)).1.exitCode = 0 ∧
      (invoke ⟨.here, []⟩ [] (folderOf [0xFF])).1.exitCode = 0 ∧
      ∃ report reportThere,
        ((execute ⟨.here, []⟩ allDocuments).perform (folderOf completeBytes)).1 = .ok report ∧
        ((execute ⟨.here, []⟩ allDocuments).perform (folderOf [0xFF])).1 = .ok reportThere ∧
        report.map Outcome.status = [.generated, .generated] ∧
        reportThere.map Outcome.status = [.failed, .generated] ∧
        RunSettings.Withstood (· = [("features" : Text), "a.feature"])
          (folderOf completeBytes).disk
          (invoke ⟨.here, []⟩ [] (folderOf completeBytes)).2.disk (folderOf [0xFF]).disk
          (invoke ⟨.here, []⟩ [] (folderOf [0xFF])).2.disk report reportThere ∧
        ∃ code, (invoke ⟨.here, []⟩ [] (folderOf completeBytes)).2.disk.read
            ⟨.here, ["tests", "b.spec.js"]⟩ = .ok code ∧
          (invoke ⟨.here, []⟩ [] (folderOf [0xFF])).2.disk.read
            ⟨.here, ["tests", "b.spec.js"]⟩ = .ok code := by
  have asks : Asks [] (folderOf completeBytes) allDocuments := ⟨rfl, by decide +kernel⟩
  have different : (folderOf completeBytes).disk.destination
        (RunSettings.ofBase ⟨.here, []⟩).features ≠
      (folderOf completeBytes).disk.destination (RunSettings.ofBase ⟨.here, []⟩).output := by
    decide +kernel
  have apart : ∀ path ∈ allDocuments.consulted ⟨.here, []⟩,
      ¬(folderOf completeBytes).disk.destination path = [("features" : Text), "a.feature"] := by
    decide +kernel
  have unfit : Document.Unfit [0xFF] := fun text decoded => by cases decoded
  have spoils := spoils_folderOf completeBytes unfit
  -- The settings are the same on both disks.
  obtain ⟨ready, prepared⟩ : ∃ ready, (prepare ⟨.here, []⟩ allDocuments).perform
      (folderOf completeBytes) = (.ok (RunSettings.ofBase ⟨.here, []⟩), ready) := by
    have computed : ((prepare ⟨.here, []⟩ allDocuments).perform (folderOf completeBytes)).1 =
        .ok (RunSettings.ofBase ⟨.here, []⟩) := by
      decide +kernel
    exact ⟨_, Prod.ext computed rfl⟩
  have preparedThere := prepare_there
    (fun path member => Disk.look_alike spoils.alike (apart path member)) prepared
  obtain ⟨report, _, ran, statuses⟩ := runOn_complete
  obtain ⟨after, executed, -⟩ := execute_of_runOn prepared ran
  have succeeds : (invoke ⟨.here, []⟩ [] (folderOf completeBytes)).1.exitCode = 0 := by
    rw [invoke_ok asks executed]
  obtain ⟨reportThere, _, ranThere, statusesThere, outputs⟩ := runOn_spoilt
  obtain ⟨afterThere, executedThere, -⟩ := execute_of_runOn preparedThere ranThere
  obtain ⟨succeedsThere, _, _, performed, performedThere, withstood⟩ :=
    (invoke_exit ⟨.here, []⟩ [] (folderOf completeBytes)).2.1 allDocuments
      (RunSettings.ofBase ⟨.here, []⟩) ready (· = [("features" : Text), "a.feature"])
      (folderOf [0xFF]).disk asks prepared succeeds (wellNamed_folderOf _) (wellNamed_folderOf _)
      different spoils apart
  obtain rfl := Except.ok.inj ((congrArg Prod.fst executed).symm.trans performed)
  obtain rfl := Except.ok.inj ((congrArg Prod.fst executedThere).symm.trans performedThere)
  have hasOutput : some ⟨.here, ["tests", "b.spec.js"]⟩ ∈ reportThere.map Outcome.output := by
    rw [outputs]
    exact List.mem_cons_of_mem _ List.mem_cons_self
  obtain ⟨outcome, member, output⟩ := List.mem_map.mp hasOutput
  exact ⟨succeeds, succeedsThere, report, reportThere, performed, performedThere, statuses,
    statusesThere, withstood, withstood.modules outcome member _ output⟩

/-- A world with one document and no files of settings. -/
def worldOf (bytes : List UInt8) : World where
  disk :=
    { nodes := [([("features" : Text)], .folder),
        ([("features" : Text), "a.feature"], .file bytes)] }

/-- The document selected, and nothing else said. -/
def oneDocument : Options where
  document := some "a.feature"
  config := none
  env := none
  target := none

/-- **A text is taken as it is read**, with its line breaks unified: one that describes no complete
feature as it stands is generated nonetheless. -/
theorem invoke_lone_return :
    (Feature.ofDocument "Feature: A\rScenario: S").isComplete = false ∧
      (invoke ⟨.here, []⟩ ["a.feature"] (worldOf completeBytes)).1.exitCode = 0 ∧
      ((execute ⟨.here, []⟩ oneDocument).perform
          (worldOf (Utf8.encode "Feature: A\rScenario: S"))).1.map (·.map Outcome.status) =
        .ok [.generated] := by
  decide +kernel

end Scenarist.CommandLine
