/-
**Documents one after another.** As long as no module is written over a document and no two
documents have one module (`Apart`), every document is read as it was at the start and its module
stands at the end, whatever the others yield (`perform_documents`).
-/

import Scenarist.Proofs.Run.Yield

namespace Scenarist.RunSettings

variable {settings : RunSettings}

/-- No module is written over a document, and no two documents have one module. -/
structure Apart (settings : RunSettings) (disk : Disk) (documents : List Path) : Prop where
  sources : ∀ document ∈ documents, ∀ other ∈ documents,
    disk.destination document ≠ disk.destination (settings.outputPath other)
  outputs : (documents.map fun document =>
    disk.destination (settings.outputPath document)).Nodup

/-- The one disk is the other after the yields of the documents are settled. -/
structure Batch (settings : RunSettings) (yields : Path → Yield) (documents : List Path)
    (disk after : Disk) : Prop where
  writable : ∀ document ∈ documents, (yields document).written ≠ none →
    disk.Writable (settings.outputPath document)
  sameFolders : disk.SameFolders after
  here : ∀ document ∈ documents,
    after.node? (disk.destination (settings.outputPath document)) =
      (yields document).left (disk.node? (disk.destination (settings.outputPath document)))
  elsewhere : ∀ location, (∀ document ∈ documents,
    location ≠ disk.destination (settings.outputPath document)) →
      after.node? location = disk.node? location

theorem Batch.nil (yields : Path → Yield) (disk : Disk) : settings.Batch yields [] disk disk where
  writable := by simp
  sameFolders := .refl disk
  here := by simp
  elsewhere _ _ := rfl

/-- What documents are apart on a disk are apart where the folders are the same. -/
theorem Apart.of_sameFolders {disk other : Disk} (same : disk.SameFolders other)
    {documents : List Path} (apart : settings.Apart disk documents) :
    settings.Apart other documents where
  sources one isOne later isLater := by
    rw [same.forth.destination, same.forth.destination]
    exact apart.sources one isOne later isLater
  outputs := by
    simpa only [same.forth.destination] using apart.outputs

/-- Documents stay apart without the first of them, when folders stay. -/
theorem Apart.tail {disk middle : Disk} (same : disk.SameFolders middle) {document : Path}
    {documents : List Path} (apart : settings.Apart disk (document :: documents)) :
    settings.Apart middle documents :=
  have others : settings.Apart disk documents :=
    ⟨fun one isOne other isOther => apart.sources one (List.mem_cons_of_mem _ isOne) other
        (List.mem_cons_of_mem _ isOther), (List.nodup_cons.mp apart.outputs).2⟩
  others.of_sameFolders same

/-- A batch begins with one document and goes on with the others. -/
theorem Batch.cons {yields : Path → Yield} {document : Path} {documents : List Path}
    {disk middle after : Disk} (apart : settings.Apart disk (document :: documents))
    (one : (yields document).Settles (settings.outputPath document) disk middle)
    (rest : settings.Batch yields documents middle after) :
    settings.Batch yields (document :: documents) disk after := by
  have destination := one.sameFolders.forth.destination
  have outputs := apart.outputs
  rw [List.map_cons, List.nodup_cons] at outputs
  have different {other : Path} (member : other ∈ documents) :
      disk.destination (settings.outputPath other) ≠
        disk.destination (settings.outputPath document) := fun same =>
    outputs.1 (List.mem_map.mpr ⟨other, member, same⟩)
  refine ⟨?_, one.sameFolders.trans rest.sameFolders, ?_, ?_⟩
  · intro other member written
    rcases List.mem_cons.mp member with rfl | member
    · exact one.writable written
    · exact (rest.writable other member written).of_sameFolders one.sameFolders.symm
  · intro other member
    rcases List.mem_cons.mp member with rfl | member
    · rw [rest.elsewhere, one.here]
      intro later among
      rw [destination]
      exact (different among).symm
    · have there := rest.here other member
      rwa [destination, one.elsewhere _ (different member)] at there
  · intro location apartFrom
    rw [rest.elsewhere, one.elsewhere]
    · exact apartFrom document List.mem_cons_self
    · intro other member
      rw [destination]
      exact apartFrom other (List.mem_cons_of_mem _ member)

/-- **Documents that are apart yield what their bytes at the start come to**, one after another. -/
theorem perform_documents {bytes : Path → List UInt8} {documents : List Path} {world after : World}
    {report : Report}
    (held : ∀ document ∈ documents, world.disk.read document = .ok (bytes document))
    (apart : settings.Apart world.disk documents)
    (performed : (documents.mapM settings.process).perform world = (.ok report, after)) :
    report = documents.map (fun document => (settings.yieldOf document (bytes document)).outcome) ∧
      settings.Batch (fun document => settings.yieldOf document (bytes document)) documents
        world.disk after.disk := by
  induction documents generalizing world report with
  | nil =>
    cases performed
    exact ⟨rfl, Batch.nil _ _⟩
  | cons document documents ih =>
    rw [List.mapM_cons] at performed
    obtain ⟨outcome, middle, processed, performed⟩ := Act.of_perform_bind performed
    obtain ⟨outcomes, last, others, performed⟩ := Act.of_perform_bind performed
    cases performed
    have effect := effect_process settings (held document List.mem_cons_self)
    rw [Act.effect, processed] at effect
    obtain ⟨rfl, settles⟩ := Yield.settle_ok effect.symm
    have heldStill : ∀ other ∈ documents, middle.disk.read other = .ok (bytes other) := by
      intro other member
      refine Disk.read_of_sameFolders settles.sameFolders ?_
        (held other (List.mem_cons_of_mem _ member))
      exact settles.elsewhere _
        (apart.sources other (List.mem_cons_of_mem _ member) document List.mem_cons_self)
    obtain ⟨rfl, batch⟩ := ih heldStill (apart.tail settles.sameFolders) others
    exact ⟨rfl, batch.cons apart settles⟩

/-- What is written for a document is read at its output. -/
theorem Batch.read_output {yields : Path → Yield} {documents : List Path} {disk after : Disk}
    (batch : settings.Batch yields documents disk after) {document : Path}
    (member : document ∈ documents) {code : List UInt8}
    (written : (yields document).written = some code) :
    after.read (settings.outputPath document) = .ok code := by
  obtain ⟨location, found, -⟩ := batch.writable document member (by simp [written])
  have here := batch.here document member
  rw [Yield.left, written, ← Disk.locate_eq found] at here
  exact Disk.read_eq_ok.mpr
    ⟨location, Disk.locate_of_foldersIn batch.sameFolders.forth found, here⟩

/-- Documents with modules of their own have outputs of their own. -/
theorem Apart.nodup_outputs {disk : Disk} {documents : List Path}
    (apart : settings.Apart disk documents) (bytes : Path → List UInt8) :
    ((documents.map fun document => (settings.yieldOf document (bytes document)).outcome).filterMap
      Outcome.output).Nodup := by
  have output {document path : Path} (has : path ∈
      (settings.yieldOf document (bytes document)).outcome.output) :
      path = settings.outputPath document := by
    rcases settings.yieldOf_cases document (bytes document) with ⟨text, -, same⟩ | ⟨-, -, none, -⟩
    · rw [same] at has
      exact (Option.some.inj has).symm
    · rw [none] at has
      cases has
  rw [List.filterMap_map]
  refine List.Pairwise.filterMap _ ?_ (List.pairwise_map.mp apart.outputs)
  rintro one other different path hasOne otherPath hasOther rfl
  exact different (by rw [← output hasOne, ← output hasOther])

end Scenarist.RunSettings
