/-
**What a run may change.** Handling a document writes its module or does nothing (`handle_puts`), so
that documents one after another change the outputs of those that yield a module and nothing else
(`handleAll_changes`). Around them a run only makes folders. A run changes no other location,
whether it ends well or not, and removes nothing (`run_contained`).
-/

import Scenarist.Proofs.Disk.Root
import Scenarist.Proofs.Run.Effect
import Scenarist.Proofs.Run.Independence

namespace Scenarist.RunSettings

variable {settings : RunSettings}

/-! ### Documents -/

/-- A module that was written for a document that held these bytes on the disk. -/
structure Wrote (settings : RunSettings) (document : Path) (disk : Disk) (location : Location)
    (code : List UInt8) : Prop where
  held : ∃ bytes, disk.read document = .ok bytes ∧
    (settings.yieldOf document bytes).written = some code
  isOutput : location = disk.destination (settings.outputPath document)

/-- **Handling a document writes its module or changes nothing.** -/
theorem handle_puts {document : Path} {disk after : Disk} {result : Except RunFault Outcome}
    (handled : settings.handle document disk = (result, after)) :
    after = disk ∨ ∃ location code, settings.Wrote document disk location code ∧
      disk.node? location ≠ some .folder ∧ after = disk.put location (.file code) := by
  unfold handle at handled
  split at handled
  · next bytes held =>
    cases written : (settings.yieldOf document bytes).written with
    | none =>
      rw [Yield.settle, written] at handled
      cases handled
      exact Or.inl rfl
    | some code =>
      rw [Yield.settle, written] at handled
      dsimp only at handled
      cases wrote : disk.write (settings.outputPath document) code with
      | error e =>
        rw [wrote] at handled
        cases handled
        exact Or.inl rfl
      | ok done =>
        rw [wrote] at handled
        cases handled
        obtain ⟨location, found, notFolder, rfl⟩ := Disk.write_eq_ok.mp wrote
        exact Or.inr ⟨location, code, ⟨⟨bytes, held, written⟩, Disk.locate_eq found⟩, notFolder, rfl⟩
  · cases handled
    exact Or.inl rfl
  · cases handled
    exact Or.inl rfl

theorem handle_changes {document : Path} {disk after : Disk} {result : Except RunFault Outcome}
    (handled : settings.handle document disk = (result, after)) :
    disk.SameFolders after ∧ ∀ location, after.node? location = disk.node? location ∨
      ∃ code, settings.Wrote document disk location code ∧
        after.node? location = some (.file code) := by
  rcases handle_puts handled with rfl | ⟨output, code, wrote, notFolder, rfl⟩
  · exact ⟨.refl _, fun _ => Or.inl rfl⟩
  · have writes := Disk.writes_put notFolder code
    refine ⟨writes.sameFolders, fun location => ?_⟩
    by_cases here : location = output
    · subst here
      exact Or.inr ⟨code, wrote, writes.here⟩
    · exact Or.inl (writes.elsewhere location here)

/-- A document that is not generated changes nothing. -/
theorem handle_not_generated {document : Path} {disk after : Disk} {outcome : Outcome}
    (handled : settings.handle document disk = (.ok outcome, after))
    (notGenerated : outcome.status ≠ .generated) : after = disk := by
  unfold handle at handled
  split at handled
  · next bytes held =>
    obtain ⟨rfl, -⟩ := Yield.settle_ok handled
    rcases settings.yieldOf_cases document bytes with ⟨text, -, same⟩ | ⟨-, -, -, unwritten⟩
    · rw [same] at notGenerated
      exact absurd rfl notGenerated
    · rw [Yield.settle, unwritten] at handled
      cases handled
      rfl
  · cases handled
  · cases handled
    rfl

/-- **Documents one after another change the outputs of those that are reached and yield a
module.** -/
theorem handleAll_changes {documents : List Path} {disk after : Disk}
    {result : Except RunFault Report} (handled : settings.handleAll documents disk = (result, after)) :
    disk.SameFolders after ∧ ∀ location, after.node? location = disk.node? location ∨
      ∃ before document rest report middle code, documents = before ++ document :: rest ∧
        settings.handleAll before disk = (.ok report, middle) ∧
        settings.Wrote document middle location code ∧
        after.node? location = some (.file code) := by
  induction documents generalizing disk result with
  | nil =>
    cases handled
    exact ⟨.refl _, fun _ => Or.inl rfl⟩
  | cons document documents ih =>
    rw [handleAll] at handled
    rcases first : settings.handle document disk with ⟨outcome?, middle⟩
    obtain ⟨sameFolders, changes⟩ := handle_changes first
    have here (location : Location) (kept : after.node? location = middle.node? location) :
        after.node? location = disk.node? location ∨
          ∃ code, settings.Wrote document disk location code ∧
            after.node? location = some (.file code) := by
      rw [kept]
      exact changes location
    rw [first] at handled
    cases outcome? with
    | error fault =>
      cases handled
      refine ⟨sameFolders, fun location => (here location rfl).imp_right ?_⟩
      rintro ⟨code, wrote, there⟩
      exact ⟨[], document, documents, [], disk, code, rfl, rfl, wrote, there⟩
    | ok outcome =>
      rcases others : settings.handleAll documents middle with ⟨report?, last⟩
      dsimp only at handled
      rw [others] at handled
      cases handled
      obtain ⟨sameFoldersLater, later⟩ := ih others
      refine ⟨sameFolders.trans sameFoldersLater, fun location => ?_⟩
      rcases later location with kept |
        ⟨before, other, rest, report, reached, code, rfl, processed, wrote, there⟩
      · refine (here location kept).imp_right ?_
        rintro ⟨code, wrote, there⟩
        exact ⟨[], document, documents, [], disk, code, rfl, rfl, wrote, there⟩
      · refine Or.inr ⟨document :: before, other, rest, outcome :: report, reached, code, rfl, ?_,
          wrote, there⟩
        rw [handleAll, first]
        dsimp only
        rw [processed]
        rfl

/-! ### The documents of a run -/

/-- Collecting documents makes the features folder or nothing. -/
theorem gather_changes {selector : Option Text} {disk after : Disk}
    {result : Except RunFault (List Path)}
    (gathered : settings.gather selector disk = (result, after)) :
    after = disk ∨ after = (disk.makeFolders settings.features).1 := by
  unfold gather at gathered
  split at gathered
  · cases gathered
    exact Or.inl rfl
  · split at gathered
    · cases gathered
      exact Or.inl rfl
    · cases gathered
      exact Or.inl rfl
    · split at gathered
      · next same =>
        cases gathered
        exact Or.inr (congrArg Prod.fst same).symm
      · next same =>
        cases gathered
        exact Or.inr (congrArg Prod.fst same).symm

/-- Collecting documents brings nothing but folders. -/
theorem grows_gather {selector : Option Text} {disk after : Disk}
    {result : Except RunFault (List Path)}
    (gathered : settings.gather selector disk = (result, after)) : disk.Grows after := by
  rcases gather_changes gathered with rfl | rfl
  · exact .refl _
  · exact disk.grows_makeFolders _

theorem rooted_gather {selector : Option Text} {disk after : Disk}
    {result : Except RunFault (List Path)} (rooted : disk.Rooted)
    (gathered : settings.gather selector disk = (result, after)) : after.Rooted := by
  rcases gather_changes gathered with rfl | rfl
  · exact rooted
  · exact rooted.makeFolders _

/-- The paths of documents are paths that texts write. -/
theorem written_of_gather {selector : Option Text} {disk after : Disk} {documents : List Path}
    (canonical : disk.Canonical)
    (named : ∀ name, disk.HasFile settings.features name → Path.IsName name)
    (written : settings.features.Written)
    (gathered : settings.gather selector disk = (.ok documents, after)) :
    ∀ document ∈ documents, document.Written := by
  unfold gather at gathered
  split at gathered
  · cases gathered
    intro document isOne
    rw [List.mem_singleton.mp isOne]
    exact written.child _
  · split at gathered
    · cases gathered
    · cases discovered : settings.discover disk with
      | error e =>
        rw [discovered] at gathered
        cases gathered
      | ok found =>
        rw [discovered] at gathered
        cases gathered
        obtain ⟨names, rfl, isFound⟩ :=
          discover_eq_ok settings disk canonical named discovered
        intro document isDocument
        obtain ⟨name, member, rfl⟩ := List.mem_map.mp isDocument
        exact written.below (named name ((isFound.mem name).mp member).1)
    · split at gathered
      · cases gathered
      · cases gathered
        exact fun _ member => absurd member List.not_mem_nil

/-! ### What a run touches -/

/-- A document yields a module when it can be read and describes a complete feature. -/
theorem written_iff {document : Path} {disk : Disk} {code : List UInt8} :
    (∃ bytes, disk.read document = .ok bytes ∧
      (settings.yieldOf document bytes).written = some code) ↔
    ∃ feature text, Document.featureAt disk document = .ok feature ∧
      feature.isComplete = true ∧ settings.target.emit feature = .ok text ∧
      Utf8.encode text = code := by
  cases held : disk.read document with
  | error e =>
    have unread : Document.featureAt disk document = .error (.disk e) := by
      unfold Document.featureAt Document.textAt
      rw [held]
      rfl
    rw [unread]
    simp
  | ok bytes =>
    rw [featureAt_of_read held]
    simp only [Except.ok.injEq, exists_eq_left', yieldOf]
    cases Utf8.decode bytes with
    | error e => simp
    | ok text =>
      by_cases complete : (Feature.ofDocument (Text.unifyBreaks text)).isComplete = true
      · simp [complete, Target.emit_eq]
      · simp [complete]

/-- A run comes to the document behind the ones before it, in this world. -/
structure Reaches (settings : RunSettings) (selector : Option Text) (world : World)
    (before : List Path) (document : Path) (middle : World) : Prop where
  made : (world.disk.makeFolders settings.output).2 = .ok ()
  collected : ∃ rest gathered report,
    (settings.collect selector).perform { world with disk := settings.prepared world.disk } =
        (.ok (before ++ document :: rest), gathered) ∧
      (before.mapM settings.process).perform gathered = (.ok report, middle)

/-- What a run may do to a location: it makes a folder on the way to its own folders where nothing
is, or it writes a module next to the others, for a document that was read and is complete. -/
inductive Touches (settings : RunSettings) (selector : Option Text) (world after : World)
    (location : Location) : Prop
  | folder (path : Path) (own : path = settings.output ∨ path = settings.features)
    (onWay : world.disk.OnWay path location) (absent : world.disk.node? location = none)
    (made : after.disk.node? location = some .folder)
  | module (before : List Path) (document : Path) (middle : World) (feature : Feature)
    (code : Text) (reached : settings.Reaches selector world before document middle)
    (parsed : Document.featureAt middle.disk document = .ok feature)
    (complete : feature.isComplete = true) (emitted : settings.target.emit feature = .ok code)
    (notFolder : world.disk.node? location ≠ some .folder)
    (isOutput : location = world.disk.destination settings.output ++
      [settings.target.fileFor settings.extension document])
    (wrote : after.disk.node? location = some (.file (Utf8.encode code)))

/-- What is touched is not removed. -/
theorem Touches.node?_ne_none {selector : Option Text} {world after : World} {location : Location}
    (touches : settings.Touches selector world after location) :
    after.disk.node? location ≠ none := by
  cases touches with
  | folder path own onWay absent made => simp [made]
  | module before document middle feature code reached parsed complete emitted notFolder isOutput
      wrote => simp [wrote]

/-- A run that comes to a document is, seen from the disk, what becomes of the documents before it
and then of this one and the rest. -/
theorem Reaches.runOn {selector : Option Text} {world middle : World} {before : List Path}
    {document : Path} (reached : settings.Reaches selector world before document middle) :
    ∃ rest gathered report, settings.gather selector (settings.prepared world.disk) =
        (.ok (before ++ document :: rest), gathered) ∧
      settings.handleAll before gathered = (.ok report, middle.disk) ∧
      settings.runOn selector world.disk =
        settings.handleAll (before ++ document :: rest) gathered := by
  obtain ⟨made, rest, gathered, report, collected, processed⟩ := reached
  have gather := Act.effect_of_perform collected
  rw [effect_collect] at gather
  have handled := Act.effect_of_perform processed
  rw [effect_mapM_process] at handled
  exact ⟨rest, gathered.disk, report, gather, handled, settings.runOn_eq made gather⟩

/-- The documents before one of them are reached. -/
theorem reaches_of_gather {selector : Option Text} {world : World} {before rest : List Path}
    {document : Path} {gathered middle : Disk} {report : Report}
    (made : (world.disk.makeFolders settings.output).2 = .ok ())
    (gather : settings.gather selector (settings.prepared world.disk) =
      (.ok (before ++ document :: rest), gathered))
    (handled : settings.handleAll before gathered = (.ok report, middle)) :
    ∃ there, settings.Reaches selector world before document there ∧ there.disk = middle := by
  obtain ⟨collected, performed, rfl⟩ := Act.perform_of_effect
    ((effect_collect settings selector
      { world with disk := settings.prepared world.disk }).trans gather)
  obtain ⟨there, processed, same⟩ := Act.perform_of_effect
    ((effect_mapM_process settings before collected).trans handled)
  exact ⟨there, ⟨made, rest, collected, report, performed, processed⟩, same⟩

/-- What is touched for a document that is handled is the output of its module. -/
theorem touches_of_wrote {selector : Option Text} {world after : World} {before rest : List Path}
    {document : Path} {gathered middle : Disk} {report : Report} {location : Location}
    {code : List UInt8} (named : world.disk.WellNamed) (rooted : world.disk.Rooted)
    (written : settings.features.Written)
    (made : (world.disk.makeFolders settings.output).2 = .ok ())
    (gather : settings.gather selector (settings.prepared world.disk) =
      (.ok (before ++ document :: rest), gathered))
    (handled : settings.handleAll before gathered = (.ok report, middle))
    (wrote : settings.Wrote document middle location code)
    (notFolder : world.disk.node? location ≠ some .folder)
    (there : after.disk.node? location = some (.file code)) :
    settings.Touches selector world after location := by
  have grows := grows_prepared settings world.disk
  have rootedPrepared : (settings.prepared world.disk).Rooted := rooted.makeFolders settings.output
  have sameFolders := (handleAll_changes handled).1
  obtain ⟨reached, reaches, rfl⟩ := reaches_of_gather made gather handled
  obtain ⟨feature, text, parsed, complete, emitted, rfl⟩ := written_iff.mp wrote.held
  have isName : Path.IsName document.name := by
    obtain ⟨bytes, held, -⟩ := wrote.held
    exact Disk.isName_of_read ((rooted_gather rootedPrepared gather).of_sameFolders sameFolders)
      (written_of_gather (named.canonical.makeFolders _)
        (fun name hasFile => isName_of_hasFile named grows hasFile) written gather document
        (List.mem_append_right _ List.mem_cons_self)) held
  refine .module before document reached feature text reaches parsed complete emitted notFolder
    ?_ there
  rw [wrote.isOutput, sameFolders.forth.destination, (grows_gather gather).foldersIn.destination,
    grows.foldersIn.destination, settings.destination_output isName]

/-- Making one of a run's own folders touches nothing but the way to it. -/
theorem touches_of_makeFolders {selector : Option Text} {world after : World} {disk : Disk}
    {path : Path} {location : Location} (grows : world.disk.Grows disk)
    (own : path = settings.output ∨ path = settings.features)
    (kept : after.disk.node? location = (disk.makeFolders path).1.node? location) :
    after.disk.node? location = disk.node? location ∨
      settings.Touches selector world after location := by
  rcases disk.makeFolders_onWay path location with untouched | ⟨absent, made, onWay⟩
  · exact Or.inl (kept.trans untouched)
  · refine Or.inr (.folder path own (grows.foldersIn.onWay onWay) ?_ (kept.trans made))
    rcases grows.nodes location with same | ⟨none, -⟩
    · exact same.symm.trans absent
    · exact none

/-- Collecting documents touches nothing else. -/
theorem touches_of_gather {selector : Option Text} {world after : World} {gathered : Disk}
    {documents : Except RunFault (List Path)} {location : Location}
    (gather : settings.gather selector (settings.prepared world.disk) = (documents, gathered))
    (kept : after.disk.node? location = gathered.node? location) :
    after.disk.node? location = world.disk.node? location ∨
      settings.Touches selector world after location := by
  have prepared (kept : after.disk.node? location =
      (settings.prepared world.disk).node? location) :
      after.disk.node? location = world.disk.node? location ∨
        settings.Touches selector world after location :=
    touches_of_makeFolders (.refl _) (Or.inl rfl) kept
  rcases gather_changes gather with rfl | rfl
  · exact prepared kept
  · rcases touches_of_makeFolders (grows_prepared settings world.disk) (Or.inr rfl) kept with
      kept | touches
    · exact prepared kept
    · exact Or.inr touches

/-- **A run touches what it may and nothing else**, seen from the disk. -/
theorem touches_of_runOn {selector : Option Text} {world after : World}
    {result : Except RunFault Report} (named : world.disk.WellNamed) (rooted : world.disk.Rooted)
    (written : settings.features.Written)
    (ran : settings.runOn selector world.disk = (result, after.disk)) (location : Location) :
    after.disk.node? location = world.disk.node? location ∨
      settings.Touches selector world after location := by
  unfold runOn at ran
  split at ran
  · next made e same =>
    cases ran
    exact touches_of_makeFolders (.refl _) (Or.inl rfl)
      (congrArg (·.1.node? location) same).symm
  · next made same =>
    obtain rfl : settings.prepared world.disk = made := congrArg Prod.fst same
    split at ran
    · next gather =>
      cases ran
      exact touches_of_gather gather rfl
    · next documents gathered gather =>
      obtain ⟨sameFolders, changes⟩ := handleAll_changes ran
      rcases changes location with kept |
        ⟨before, document, rest, report, middle, code, rfl, handled, wrote, there⟩
      · exact touches_of_gather gather kept
      · refine Or.inr (touches_of_wrote named rooted written (congrArg Prod.snd same) gather
          handled wrote (fun isFolder => ?_) there)
        have grows := (grows_prepared settings world.disk).trans (grows_gather gather)
        have stays := sameFolders.forth.folder location (grows.foldersIn.folder location isFolder)
        rw [there] at stays
        cases stays

/-- **What a run changes.** Whether it returns or fails, a run changes a location only by making a
folder on the way to its own folders or by writing a module into its output folder for a document
that it read and found complete. It removes nothing. A document that is not generated changes
nothing; and where the module of one cannot be written, the run fails with the reason and leaves
what the documents before it left. -/
theorem run_contained {selector : Option Text} {world after : World}
    {result : Except RunFault Report} (named : world.disk.WellNamed) (rooted : world.disk.Rooted)
    (written : settings.features.Written)
    (performed : (settings.run selector).perform world = (result, after)) :
    (∀ location, after.disk.node? location = world.disk.node? location ∨
      settings.Touches selector world after location) ∧
    (∀ location, world.disk.node? location ≠ none → after.disk.node? location ≠ none) ∧
    (∀ document start last outcome,
      (settings.process document).perform start = (.ok outcome, last) →
        outcome.status ≠ .generated → last.disk = start.disk) ∧
    (∀ before document middle feature code e,
      settings.Reaches selector world before document middle →
        Document.featureAt middle.disk document = .ok feature → feature.isComplete = true →
        settings.target.emit feature = .ok code →
        middle.disk.write (settings.outputPath document) (Utf8.encode code) = .error e →
          result = .error (.disk e) ∧ after.disk = middle.disk) := by
  have ran := (effect_run settings selector world).symm.trans (Act.effect_of_perform performed)
  have touches := touches_of_runOn named rooted written ran
  refine ⟨touches, fun location there => ?_, ?_, ?_⟩
  · rcases touches location with same | touched
    · rwa [same]
    · exact touched.node?_ne_none
  · intro document start last outcome processed notGenerated
    have handled := Act.effect_of_perform processed
    rw [effect_process_handle] at handled
    exact handle_not_generated handled notGenerated
  · intro before document middle feature code e reached parsed complete emitted refused
    obtain ⟨rest, gathered, report, -, handled, same⟩ := reached.runOn
    obtain ⟨bytes, held, yields⟩ := written_iff.mpr ⟨feature, code, parsed, complete, emitted, rfl⟩
    have fails : settings.handle document middle.disk = (.error (.disk e), middle.disk) := by
      rw [handle, held]
      dsimp only
      rw [Yield.settle, yields]
      dsimp only
      rw [refused]
    rw [ran, handleAll_append, handled] at same
    dsimp only at same
    rw [handleAll, fails] at same
    exact Prod.mk.inj same

/-- A complete document, with a folder where its module would go. -/
def blockedWorld : World where
  disk :=
    { nodes := [(["f"], .folder), (["o"], .folder), (["o", "a.spec.js"], .folder),
        (["f", "a.x"], .file (Utf8.encode "Feature: A\nScenario: S\nWhen I wait"))] }

/-- Where a folder is in the way of a module, the run fails and leaves everything as it was. -/
theorem run_contained_blocked : ∃ e after,
    (sample.run (some "a.x")).perform blockedWorld = (.error (.disk e), after) ∧
      after.disk = blockedWorld.disk ∧
      ∀ location, after.disk.node? location = blockedWorld.disk.node? location ∨
        sample.Touches (some "a.x") blockedWorld after location := by
  have prepared : { blockedWorld with disk := sample.prepared blockedWorld.disk } = blockedWorld := by
    have same : sample.prepared blockedWorld.disk = blockedWorld.disk := by decide +kernel
    rw [same]
  have reached : sample.Reaches (some "a.x") blockedWorld [] ⟨.here, ["f", "a.x"]⟩ blockedWorld :=
    ⟨by decide +kernel, [], blockedWorld, [], by rw [prepared]; rfl, rfl⟩
  have performed : (sample.run (some "a.x")).perform blockedWorld =
      (((sample.run (some "a.x")).perform blockedWorld).1,
        ((sample.run (some "a.x")).perform blockedWorld).2) := rfl
  obtain ⟨touches, -, -, refusal⟩ := run_contained ⟨by decide +kernel, by decide +kernel⟩
    (.of_nodes (by decide +kernel) (by decide +kernel)) (by decide +kernel) performed
  obtain ⟨failed, same⟩ := refusal [] ⟨.here, ["f", "a.x"]⟩ blockedWorld
    (Feature.ofDocument "Feature: A\nScenario: S\nWhen I wait") _ _ reached rfl
    (by decide +kernel) (Target.emit_eq _ _) rfl
  exact ⟨_, _, Prod.ext failed rfl, same, touches⟩

end Scenarist.RunSettings
