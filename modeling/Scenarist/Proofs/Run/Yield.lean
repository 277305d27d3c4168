/-
**What a document yields depends on its bytes alone.** The bytes settle whether the document fails,
is skipped or yields a module, and which (`RunSettings.yieldOf`). Processing a document whose bytes
can be read comes down to settling its yield on the disk (`effect_process`): the module is written,
or nothing is touched.
-/

import Scenarist.Proofs.Disk.Change
import Scenarist.Proofs.Run.Perform
import Scenarist.Proofs.Script.Interpreted
import Scenarist.Run.Report

namespace Scenarist

/-- The outcome of an action and the disk after it. -/
def Act.effect {ε α : Type} (act : Act ε α) (world : World) : Except ε α × Disk :=
  ((act.perform world).1, (act.perform world).2.disk)

/-- What a document comes to: its result, and what is written for it. -/
structure Yield where
  outcome : Outcome
  written : Option (List UInt8)

/-- The result of a document whose module was written. -/
def RunSettings.generatedOutcome (settings : RunSettings) (document : Path) (feature : Feature) :
    Outcome where
  source := document
  status := .generated
  output := some (settings.outputPath document)
  scenarios := feature.scenarios.length

/-- What the document at a path yields when it holds these bytes. -/
def RunSettings.yieldOf (settings : RunSettings) (document : Path) (bytes : List UInt8) : Yield :=
  match Utf8.decode bytes with
  | .error e => ⟨{ source := document, status := .failed, error := some e.message }, none⟩
  | .ok text =>
    let feature := Feature.ofDocument (Text.unifyBreaks text)
    if feature.isComplete then
      ⟨settings.generatedOutcome document feature,
        some (Utf8.encode (settings.target.code feature))⟩
    else ⟨{ source := document, status := .skipped }, none⟩

/-- A document yields the module of its text, or it is not generated and nothing is written. -/
theorem RunSettings.yieldOf_cases (settings : RunSettings) (document : Path)
    (bytes : List UInt8) :
    (∃ text, Utf8.decode bytes = .ok text ∧
      settings.yieldOf document bytes =
        ⟨settings.generatedOutcome document (Feature.ofDocument (Text.unifyBreaks text)),
          some (Utf8.encode
            (settings.target.code (Feature.ofDocument (Text.unifyBreaks text))))⟩) ∨
    ((settings.yieldOf document bytes).outcome.source = document ∧
      (settings.yieldOf document bytes).outcome.status ≠ .generated ∧
      (settings.yieldOf document bytes).outcome.output = none ∧
      (settings.yieldOf document bytes).written = none) := by
  unfold yieldOf
  cases Utf8.decode bytes with
  | error e => exact Or.inr ⟨rfl, by simp, rfl, rfl⟩
  | ok text =>
    by_cases complete : (Feature.ofDocument (Text.unifyBreaks text)).isComplete = true
    · exact Or.inl ⟨text, rfl, if_pos complete⟩
    · simp only [if_neg complete]
      exact Or.inr ⟨trivial, by simp, trivial, trivial⟩

theorem RunSettings.source_yieldOf (settings : RunSettings) (document : Path)
    (bytes : List UInt8) : (settings.yieldOf document bytes).outcome.source = document := by
  rcases settings.yieldOf_cases document bytes with ⟨text, -, same⟩ | ⟨source, -⟩
  · rw [same]
    rfl
  · exact source

/-- Settles a yield on a disk: what is to be written is written to the path. -/
def Yield.settle (yield : Yield) (output : Path) (disk : Disk) : Except RunFault Outcome × Disk :=
  match yield.written with
  | none => (.ok yield.outcome, disk)
  | some code =>
    match disk.write output code with
    | .ok after => (.ok yield.outcome, after)
    | .error e => (.error (.disk e), disk)

/-! ### Processing one document -/

section Process

variable (settings : RunSettings) {document : Path} {bytes : List UInt8} {world : World}

theorem featureAt_of_read {disk : Disk} (held : disk.read document = .ok bytes) :
    Document.featureAt disk document =
      match Utf8.decode bytes with
      | .error e => .error (.text e)
      | .ok text => .ok (Feature.ofDocument (Text.unifyBreaks text)) := by
  unfold Document.featureAt Document.textAt
  rw [held]
  cases decoded : Utf8.decode bytes <;>
    simp only [decoded, Except.mapError, bind, Except.bind, pure, Except.pure]

theorem perform_parse (document : Path) (world : World) :
    (RunSettings.parse document).perform world =
      match Document.featureAt world.disk document with
      | .error fault => (.error fault, world)
      | .ok feature => (.ok feature, world.note ⟨.documents, Log.Level.debug,
          "Parsed " ++ document.text ++ ": " ++ Text.ofNat feature.scenarios.length ++
            " scenario(s)"⟩) := by
  rw [RunSettings.parse, Act.perform_bind_ok (Act.perform_get world)]
  cases Document.featureAt world.disk document <;> rfl

/-- Generating writes the module of the feature. -/
theorem effect_generate (document : Path) (feature : Feature) (world : World) :
    (settings.generate document feature).effect world =
      match world.disk.write (settings.outputPath document)
        (Utf8.encode (settings.target.code feature)) with
      | .ok after => (.ok (settings.generatedOutcome document feature), after)
      | .error e => (.error (.disk e), world.disk) := by
  rw [Act.effect, RunSettings.generate, Act.perform_bind_ok (Act.perform_noteAll _ world),
    Target.emit_eq]
  simp only [Act.perform_bind, Act.perform_change, World.disk_foldl_note]
  cases world.disk.write (settings.outputPath document)
    (Utf8.encode (settings.target.code feature)) with
  | error e => simp
  | ok after =>
    simp only [Act.perform_note, Act.perform_pure, World.disk_note]
    rfl

/-- **Processing a document settles what its bytes yield.** -/
theorem effect_process (held : world.disk.read document = .ok bytes) :
    (settings.process document).effect world =
      (settings.yieldOf document bytes).settle (settings.outputPath document) world.disk := by
  rw [Act.effect, RunSettings.process, Act.perform_bind_ok (Act.perform_attempt _ world),
    perform_parse, featureAt_of_read held, RunSettings.yieldOf]
  cases Utf8.decode bytes with
  | error e =>
    simp only [Act.perform_bind, Act.perform_note, Act.perform_pure, World.disk_note]
    rfl
  | ok text =>
    simp only
    split
    · refine (effect_generate settings document _ _).trans ?_
      rw [World.disk_note]
      rfl
    · simp only [Act.perform_bind, Act.perform_note, Act.perform_pure, World.disk_note]
      rfl

end Process

/-! ### Settling a yield -/

/-- What stands at the output of a yield after it is settled, where `before` stood. -/
def Yield.left (yield : Yield) (before : Option Node) : Option Node :=
  match yield.written with
  | none => before
  | some code => some (.file code)

/-- The one disk is the other after a yield is settled: what is to be written can be and is, and
nothing else changes. -/
structure Yield.Settles (yield : Yield) (output : Path) (disk after : Disk) : Prop where
  writable : yield.written ≠ none → disk.Writable output
  sameFolders : disk.SameFolders after
  here : after.node? (disk.destination output) =
    yield.left (disk.node? (disk.destination output))
  elsewhere : ∀ location, location ≠ disk.destination output →
    after.node? location = disk.node? location

theorem Yield.settle_ok {yield : Yield} {output : Path} {disk after : Disk} {outcome : Outcome}
    (settled : yield.settle output disk = (.ok outcome, after)) :
    outcome = yield.outcome ∧ yield.Settles output disk after := by
  obtain ⟨result, written⟩ := yield
  cases written with
  | none =>
    cases settled
    exact ⟨rfl, fun absent => absurd rfl absent, .refl _, rfl, fun _ _ => rfl⟩
  | some code =>
    rw [settle] at settled
    simp only at settled
    cases wrote : disk.write output code with
    | error e =>
      rw [wrote] at settled
      cases settled
    | ok done =>
      rw [wrote] at settled
      cases settled
      obtain ⟨writable, writes⟩ := Disk.write_writes wrote
      exact ⟨rfl, fun _ => writable, writes.sameFolders, writes.here, writes.elsewhere⟩

/-- **What can be written is settled.** -/
theorem Yield.settle_of_writable {yield : Yield} {output : Path} {disk : Disk}
    (writable : yield.written ≠ none → disk.Writable output) :
    ∃ after, yield.settle output disk = (.ok yield.outcome, after) := by
  obtain ⟨result, written⟩ := yield
  cases written with
  | none => exact ⟨disk, rfl⟩
  | some code =>
    obtain ⟨after, wrote⟩ := (writable (Option.some_ne_none code)).write code
    refine ⟨after, ?_⟩
    rw [settle]
    simp only [wrote]

namespace RunSettings

/-- A document that can be read is processed when what it yields can be written. -/
theorem perform_process {settings : RunSettings} {document : Path} {bytes : List UInt8}
    {world : World}
    (held : world.disk.read document = .ok bytes)
    (writable : (settings.yieldOf document bytes).written ≠ none →
      world.disk.Writable (settings.outputPath document)) :
    ∃ after, (settings.process document).perform world =
        (.ok (settings.yieldOf document bytes).outcome, after) ∧
      (settings.yieldOf document bytes).Settles (settings.outputPath document) world.disk
        after.disk := by
  obtain ⟨settled, settling⟩ := Yield.settle_of_writable writable
  have effect := effect_process settings held
  rw [settling] at effect
  have outcome : ((settings.process document).perform world).1 =
      .ok (settings.yieldOf document bytes).outcome := congrArg Prod.fst effect
  have disk : ((settings.process document).perform world).2.disk = settled :=
    congrArg Prod.snd effect
  refine ⟨((settings.process document).perform world).2, Prod.ext outcome rfl, ?_⟩
  rw [disk]
  exact (Yield.settle_ok settling).2

end RunSettings

end Scenarist
