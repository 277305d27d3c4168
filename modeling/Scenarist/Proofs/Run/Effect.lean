/-
**A run seen from the disk.** What a run reports and leaves on the disk depends on the disk alone,
not on the environment, the settings loaded or the log. So a run is a function of the disk
(`effect_run`), put together from one for the collection of its documents (`effect_collect`) and one
for what becomes of each of them (`effect_process_handle`, `effect_mapM_process`).
-/

import Scenarist.Proofs.Run.Frame

namespace Scenarist

namespace Act

variable {ε α β : Type}

theorem effect_bind (act : Act ε α) (next : α → Act ε β) (world : World) :
    (act >>= next).effect world =
      match act.perform world with
      | (.ok value, after) => (next value).effect after
      | (.error e, after) => (.error e, after.disk) := by
  rw [effect, perform_bind]
  rcases act.perform world with ⟨result, after⟩
  cases result <;> rfl

/-- What is performed has its effect. -/
theorem effect_of_perform {act : Act ε α} {world after : World} {result : Except ε α}
    (performed : act.perform world = (result, after)) : act.effect world = (result, after.disk) := by
  rw [effect, performed]

/-- What has an effect is performed. -/
theorem perform_of_effect {act : Act ε α} {world : World} {result : Except ε α} {disk : Disk}
    (has : act.effect world = (result, disk)) :
    ∃ after, act.perform world = (result, after) ∧ after.disk = disk := by
  obtain ⟨rfl, rfl⟩ := Prod.mk.inj has
  exact ⟨_, rfl, rfl⟩

end Act

namespace RunSettings

variable (settings : RunSettings)

/-! ### One document -/

/-- What becomes of a document on a disk, and the disk after it: a path with a NUL in it ends the
run, a document that cannot be read fails, and any other settles what its bytes yield. -/
def handle (document : Path) (disk : Disk) : Except RunFault Outcome × Disk :=
  match disk.read document with
  | .ok bytes => (settings.yieldOf document bytes).settle (settings.outputPath document) disk
  | .error .nulInPath => (.error (.disk .nulInPath), disk)
  | .error e => (.ok { source := document, status := .failed, error := some e.message }, disk)

/-- **Processing a document is handling it** on the disk as it is. -/
theorem effect_process_handle (document : Path) (world : World) :
    (settings.process document).effect world = settings.handle document world.disk := by
  rw [handle]
  cases held : world.disk.read document with
  | ok bytes => exact effect_process settings held
  | error e =>
    have unread : Document.featureAt world.disk document = .error (.disk e) := by
      unfold Document.featureAt Document.textAt
      rw [held]
      rfl
    rw [process, Act.effect_bind, Act.perform_attempt, perform_parse, unread]
    cases e with
    | nulInPath => rfl
    | refused cause path =>
      dsimp only
      rw [Act.effect_bind, Act.perform_note]
      exact Prod.ext rfl (World.disk_note _ _)

/-! ### Documents one after another -/

/-- What becomes of documents one after another, up to the first one that ends the run. -/
def handleAll : List Path → Disk → Except RunFault Report × Disk
  | [], disk => (.ok [], disk)
  | document :: documents, disk =>
    match settings.handle document disk with
    | (.error fault, after) => (.error fault, after)
    | (.ok outcome, after) =>
      ((handleAll documents after).1.map (outcome :: ·), (handleAll documents after).2)

theorem handleAll_one (document : Path) (disk : Disk) :
    settings.handleAll [document] disk =
      ((settings.handle document disk).1.map ([·]), (settings.handle document disk).2) := by
  rw [handleAll]
  rcases settings.handle document disk with ⟨result, after⟩
  cases result <;> rfl

theorem effect_mapM_process (documents : List Path) (world : World) :
    (documents.mapM settings.process).effect world =
      settings.handleAll documents world.disk := by
  induction documents generalizing world with
  | nil => rfl
  | cons document documents ih =>
    rw [List.mapM_cons, Act.effect_bind, handleAll, ← settings.effect_process_handle document world,
      Act.effect]
    rcases (settings.process document).perform world with ⟨result, middle⟩
    cases result with
    | error fault => rfl
    | ok outcome =>
      dsimp only
      rw [Act.effect_bind, ← ih middle, Act.effect]
      rcases (documents.mapM settings.process).perform middle with ⟨others, last⟩
      cases others <;> rfl

/-- Documents are handled up to one of them, then the rest on the disk that is left. -/
theorem handleAll_append (before documents : List Path) (disk : Disk) :
    settings.handleAll (before ++ documents) disk =
      match settings.handleAll before disk with
      | (.error fault, after) => (.error fault, after)
      | (.ok report, after) =>
        ((settings.handleAll documents after).1.map (report ++ ·),
          (settings.handleAll documents after).2) := by
  induction before generalizing disk with
  | nil =>
    rw [List.nil_append]
    simp only [handleAll]
    rcases settings.handleAll documents disk with ⟨result, after⟩
    cases result <;> rfl
  | cons document before ih =>
    rw [List.cons_append, handleAll, handleAll]
    rcases settings.handle document disk with ⟨result, middle⟩
    cases result with
    | error fault => rfl
    | ok outcome =>
      dsimp only
      rw [ih]
      rcases settings.handleAll before middle with ⟨result, after⟩
      cases result with
      | error fault => rfl
      | ok report =>
        dsimp only [Except.map]
        rcases settings.handleAll documents after with ⟨result, last⟩
        cases result <;> rfl

/-! ### The documents of a run -/

/-- The documents of a run, and the disk on which they are processed. -/
def gather (selector : Option Text) (disk : Disk) : Except RunFault (List Path) × Disk :=
  match selector with
  | some (c :: name) => (.ok [settings.resolve (c :: name)], disk)
  | _ =>
    match disk.look? settings.features with
    | .error e => (.error (.disk e), disk)
    | .ok (some _) => ((settings.discover disk).mapError .disk, disk)
    | .ok none =>
      match disk.makeFolders settings.features with
      | (made, .error e) => (.error (.disk e), made)
      | (made, .ok ()) => (.ok [], made)

theorem effect_collect (selector : Option Text) (world : World) :
    (settings.collect selector).effect world = settings.gather selector world.disk := by
  have all : (settings.collect none).effect world = settings.gather none world.disk := by
    unfold collect gather
    dsimp only
    rw [Act.effect_bind, Act.perform_ask]
    cases world.disk.look? settings.features with
    | error e => rfl
    | ok seen =>
      cases seen with
      | some node =>
        dsimp only [Except.mapError]
        rw [Option.isSome_some, if_pos rfl, Act.effect, Act.perform_ask]
        rfl
      | none =>
        dsimp only [Except.mapError]
        rw [Option.isSome_none, if_neg Bool.false_ne_true, Act.effect_bind, Act.perform_note]
        dsimp only
        rw [Act.effect_bind, Act.perform_makeFolders, World.disk_note]
        rcases world.disk.makeFolders settings.features with ⟨made, outcome⟩
        cases outcome <;> rfl
  cases selector with
  | none => exact all
  | some text =>
    cases text with
    | nil => exact all
    | cons c name => rfl

/-- What a run reports and leaves on a disk. -/
def runOn (selector : Option Text) (disk : Disk) : Except RunFault Report × Disk :=
  match disk.makeFolders settings.output with
  | (made, .error e) => (.error (.disk e), made)
  | (made, .ok ()) =>
    match settings.gather selector made with
    | (.error fault, gathered) => (.error fault, gathered)
    | (.ok documents, gathered) => settings.handleAll documents gathered

/-- With the output folder made, a run comes to what becomes of the documents it collects. -/
theorem runOn_eq {selector : Option Text} {disk gathered : Disk} {documents : List Path}
    (made : (disk.makeFolders settings.output).2 = .ok ())
    (gather : settings.gather selector (settings.prepared disk) = (.ok documents, gathered)) :
    settings.runOn selector disk = settings.handleAll documents gathered := by
  have folders : disk.makeFolders settings.output = (settings.prepared disk, .ok ()) :=
    Prod.ext rfl made
  rw [runOn, folders]
  dsimp only
  rw [gather]

/-- A run that goes through made its folder and collected and handled its documents. -/
theorem of_runOn {selector : Option Text} {disk after : Disk} {report : Report}
    (ran : settings.runOn selector disk = (.ok report, after)) :
    (disk.makeFolders settings.output).2 = .ok () ∧ ∃ documents gathered,
      settings.gather selector (settings.prepared disk) = (.ok documents, gathered) ∧
        settings.handleAll documents gathered = (.ok report, after) := by
  rw [runOn] at ran
  rcases folders : disk.makeFolders settings.output with ⟨prepared, outcome⟩
  obtain rfl : settings.prepared disk = prepared := congrArg Prod.fst folders
  rw [folders] at ran
  cases outcome with
  | error e => cases ran
  | ok done =>
    dsimp only at ran
    rcases gather : settings.gather selector (settings.prepared disk) with ⟨documents?, gathered⟩
    rw [gather] at ran
    cases documents? with
    | error fault => cases ran
    | ok documents => exact ⟨rfl, documents, gathered, rfl, ran⟩

/-- **What a run does depends on the disk alone.** -/
theorem effect_run (selector : Option Text) (world : World) :
    (settings.run selector).effect world = settings.runOn selector world.disk := by
  unfold run runOn
  rw [Act.effect_bind, Act.perform_makeFolders]
  rcases world.disk.makeFolders settings.output with ⟨made, outcome⟩
  cases outcome with
  | error e => rfl
  | ok done =>
    dsimp only [Except.mapError]
    have collected := settings.effect_collect selector { world with disk := made }
    rw [Act.effect] at collected
    rw [← collected, Act.effect_bind]
    rcases (settings.collect selector).perform { world with disk := made } with ⟨result, middle⟩
    cases result with
    | error fault => rfl
    | ok documents =>
      cases documents with
      | nil =>
        obtain ⟨noted, none, same⟩ := perform_noteNone settings middle
        dsimp only
        rw [Act.effect_bind, none]
        exact Prod.ext rfl same
      | cons document documents =>
        dsimp only
        rw [Act.effect_bind, Act.perform_note]
        dsimp only
        generalize starting : World.note middle _ = start
        have there : start.disk = middle.disk := by rw [← starting, World.disk_note]
        rw [Act.effect_bind, ← there, ← settings.effect_mapM_process, Act.effect]
        rcases ((document :: documents).mapM settings.process).perform start with ⟨result, last⟩
        cases result with
        | error fault => rfl
        | ok report =>
          dsimp only
          obtain ⟨noted, summary, same⟩ := perform_noteSummary settings report last
          rw [Act.effect_bind, summary]
          exact Prod.ext rfl same

end RunSettings

end Scenarist
