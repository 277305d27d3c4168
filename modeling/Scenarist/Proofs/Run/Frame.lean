/-
**What stands around the documents of a run.** A run makes its output folder, collects its documents
and makes of them what it makes of them one after another; all else that it does is to log
(`of_perform_run`).
-/

import Scenarist.Proofs.Run.Discovery
import Scenarist.Proofs.Run.Yield

namespace Scenarist.RunSettings

variable {settings : RunSettings}

/-- The disk on which documents are looked for: the output folder is there. -/
def prepared (settings : RunSettings) (disk : Disk) : Disk :=
  (disk.makeFolders settings.output).1

theorem grows_prepared (settings : RunSettings) (disk : Disk) :
    disk.Grows (settings.prepared disk) := Disk.grows_makeFolders disk settings.output

theorem perform_noteNone (settings : RunSettings) (world : World) :
    ∃ after, settings.noteNone.perform world = (.ok (), after) ∧ after.disk = world.disk :=
  ⟨_, rfl, by rw [World.disk_note, World.disk_note]⟩

theorem perform_noteSummary (settings : RunSettings) (report : Report) (world : World) :
    ∃ after, (settings.noteSummary report).perform world = (.ok (), after) ∧
      after.disk = world.disk := by
  rw [noteSummary, Act.perform_bind_ok (Act.perform_note _ _ _ world)]
  split
  · exact ⟨_, rfl, by rw [World.disk_note, World.disk_note]⟩
  · exact ⟨_, rfl, by rw [World.disk_note]⟩

/-- Behind the output folder and the search, a run is what it makes of its documents. -/
theorem of_perform_run {selector : Option Text} {world after : World} {report : Report}
    (performed : (settings.run selector).perform world = (.ok report, after)) :
    (world.disk.makeFolders settings.output).2 = .ok () ∧
      ∃ documents middle start last,
        (settings.collect selector).perform { world with disk := settings.prepared world.disk } =
          (.ok documents, middle) ∧
        start.disk = middle.disk ∧
        (documents.mapM settings.process).perform start = (.ok report, last) ∧
        after.disk = last.disk := by
  rw [run] at performed
  obtain ⟨⟨⟩, first, made, performed⟩ := Act.of_perform_bind performed
  obtain ⟨documents, middle, collected, performed⟩ := Act.of_perform_bind performed
  rw [Act.perform_makeFolders] at made
  cases outcome : (world.disk.makeFolders settings.output).2 with
  | error e =>
    rw [outcome] at made
    cases made
  | ok done =>
    rw [outcome] at made
    cases made
    refine ⟨rfl, documents, middle, ?_⟩
    cases documents with
    | nil =>
      obtain ⟨noted, none, same⟩ := perform_noteNone settings middle
      rw [Act.perform_bind_ok none] at performed
      cases performed
      exact ⟨middle, middle, collected, rfl, rfl, same⟩
    | cons document documents =>
      rw [Act.perform_bind_ok (Act.perform_note _ _ _ middle)] at performed
      obtain ⟨outcomes, last, processed, performed⟩ := Act.of_perform_bind performed
      obtain ⟨noted, summary, same⟩ := perform_noteSummary settings outcomes last
      rw [Act.perform_bind_ok summary] at performed
      cases performed
      exact ⟨_, last, collected, World.disk_note _ _, processed, same⟩

/-- A run over all documents makes something of those that are found on the prepared disk. -/
theorem of_perform_collect {world middle : World} {documents : List Path}
    (canonical : world.disk.Canonical)
    (named : ∀ name, world.disk.HasFile settings.features name → Path.IsName name)
    (collected : (settings.collect none).perform world = (.ok documents, middle)) :
    ∃ names, documents = names.map settings.features.below ∧ settings.Found world.disk names ∧
      (names ≠ [] → middle.disk = world.disk) := by
  unfold collect at collected
  obtain ⟨seen, first, asked, collected⟩ := Act.of_perform_bind collected
  rw [Act.perform_ask] at asked
  cases looked : world.disk.look? settings.features with
  | error e =>
    rw [looked] at asked
    cases asked
  | ok node =>
    rw [looked] at asked
    cases asked
    cases seen with
    | none =>
      rw [Option.isSome_none, if_neg Bool.false_ne_true] at collected
      obtain ⟨_, _, noted, collected⟩ := Act.of_perform_bind collected
      obtain ⟨_, _, made, collected⟩ := Act.of_perform_bind collected
      cases collected
      refine ⟨[], rfl, found_nil settings world.disk ?_, fun some => absurd rfl some⟩
      rw [looked]
      exact fun same => by cases same
    | some node =>
      rw [Option.isSome_some, if_pos rfl, Act.perform_ask] at collected
      cases discovered : settings.discover world.disk with
      | error e =>
        rw [discovered] at collected
        cases collected
      | ok found =>
        rw [discovered] at collected
        cases collected
        obtain ⟨names, rfl, isFound⟩ :=
          discover_eq_ok settings world.disk canonical named discovered
        exact ⟨names, rfl, isFound, fun _ => rfl⟩

/-- A run over one document that can be read settles what it yields. -/
theorem perform_run_one {name : Text} (nonempty : name ≠ []) {world : World} {bytes : List UInt8}
    (made : (world.disk.makeFolders settings.output).2 = .ok ())
    (held : (settings.prepared world.disk).read (settings.resolve name) = .ok bytes)
    (writable : (settings.yieldOf (settings.resolve name) bytes).written ≠ none →
      (settings.prepared world.disk).Writable (settings.outputPath (settings.resolve name))) :
    ∃ alone, (settings.run (some name)).perform world =
        (.ok [(settings.yieldOf (settings.resolve name) bytes).outcome], alone) ∧
      (settings.yieldOf (settings.resolve name) bytes).Settles
        (settings.outputPath (settings.resolve name)) (settings.prepared world.disk)
        alone.disk := by
  obtain ⟨c, rest, rfl⟩ : ∃ c rest, name = c :: rest := List.exists_cons_of_ne_nil nonempty
  have folders : (Act.makeFolders RunFault.disk settings.output).perform world =
      (.ok (), { world with disk := settings.prepared world.disk }) := by
    rw [Act.perform_makeFolders, made]
    rfl
  rw [run, Act.perform_bind_ok folders]
  unfold collect
  rw [Act.perform_bind_ok (Act.perform_pure _ _)]
  dsimp only
  rw [Act.perform_bind_ok (Act.perform_note _ _ _ _), List.mapM_cons, List.mapM_nil]
  generalize starting : World.note _ _ = start
  have there : start.disk = settings.prepared world.disk := by
    rw [← starting, World.disk_note]
  rw [← there] at held writable ⊢
  obtain ⟨last, processed, settles⟩ := perform_process held writable
  obtain ⟨noted, summary, same⟩ := perform_noteSummary settings
    [(settings.yieldOf (settings.resolve (c :: rest)) bytes).outcome] last
  have one : (do
      let outcome ← settings.process (settings.resolve (c :: rest))
      let others ← pure []
      pure (outcome :: others)).perform start =
        (.ok [(settings.yieldOf (settings.resolve (c :: rest)) bytes).outcome], last) := by
    rw [Act.perform_bind_ok processed]
    rfl
  rw [Act.perform_bind_ok one, Act.perform_bind_ok summary]
  exact ⟨noted, rfl, same ▸ settles⟩

end Scenarist.RunSettings
