/-
**Where modules go.** A document that is found gives its module its stem, so that documents with
different names have different modules. The modules go into the output folder, where no document
is: what is found is apart (`Found.apart`).
-/

import Scenarist.Proofs.Run.Batch
import Scenarist.Proofs.Run.Discovery

namespace Scenarist

/-! ### The files of modules -/

theorem Path.documentStem_append {extension : Text} (extended : extension ≠ []) (stem : Text) :
    Path.documentStem extension (stem ++ extension) = stem := by
  have nonempty : extension.isEmpty = false := List.isEmpty_eq_false_iff.mpr extended
  have ends : Text.endsWith (stem ++ extension) extension = true :=
    List.isSuffixOf_iff_suffix.mpr (List.suffix_append _ _)
  rw [Path.documentStem, nonempty, ends, List.length_append, Nat.add_sub_cancel]
  exact List.take_left

theorem Target.fileName_injective (target : Target) {stem other : Text}
    (same : target.fileName stem = target.fileName other) : stem = other := by
  rw [Target.fileName, Target.fileName] at same
  exact List.append_cancel_left (List.append_cancel_right same)

/-- A text that is cut at a mark is what stands before it, the mark and what stands after it. -/
theorem Text.cutLast?_eq_some {mark : Char} {t before after : Text}
    (cut : Text.cutLast? mark t = some (before, after)) : t = before ++ mark :: after := by
  induction t generalizing before with
  | nil => cases cut
  | cons c t ih =>
    rw [Text.cutLast?] at cut
    split at cut
    · next inside after found =>
      cases cut
      rw [ih found]
      rfl
    · split at cut
      · next here =>
        cases cut
        rw [here]
        rfl
      · cases cut

/-- The file of a module has a name when the stem holds no mark that a name may not hold. -/
theorem Target.isName_fileName (target : Target) {stem : Text} (whole : '/' ∉ stem)
    (noNul : '\x00' ∉ stem) : Path.IsName (target.fileName stem) := by
  have long : 2 < (target.fileName stem).length := by
    cases target <;> simp [Target.fileName, Target.affixes]
  have noSlash : '/' ∉ target.affixes.1 ++ target.affixes.2 := by cases target <;> decide
  have noNulAround : '\x00' ∉ target.affixes.1 ++ target.affixes.2 := by
    cases target <;> decide
  have members {c : Char} (member : c ∈ target.fileName stem) :
      c ∈ stem ∨ c ∈ target.affixes.1 ++ target.affixes.2 := by
    rw [Target.fileName, List.mem_append, List.mem_append] at member
    rw [List.mem_append]
    tauto
  refine ⟨?_, ?_, ?_, ?_, ?_⟩
  · rintro same
    rw [same] at long
    cases long
  · rintro same
    rw [same] at long
    exact absurd long (by decide)
  · rintro same
    rw [same] at long
    exact absurd long (by decide)
  · intro slash
    rcases members slash with inside | inside
    · exact whole inside
    · exact noSlash inside
  · intro nul
    rcases members nul with inside | inside
    · exact noNul inside
    · exact noNulAround inside

/-- A stem is a part of the name. -/
theorem Path.mem_of_mem_documentStem {extension name : Text} {c : Char}
    (member : c ∈ Path.documentStem extension name) : c ∈ name := by
  unfold Path.documentStem at member
  split at member
  · exact List.mem_of_mem_take member
  · unfold Path.stem at member
    split at member
    · next before ending cut =>
      split at member
      · exact member
      · rw [Text.cutLast?_eq_some cut]
        exact List.mem_append_left _ member
    · exact member

/-- The file of the module for a document with a name has one as well. -/
theorem Target.isName_fileFor (target : Target) (extension : Text) {document : Path}
    (isName : Path.IsName document.name) : Path.IsName (target.fileFor extension document) :=
  target.isName_fileName (fun slash => isName.whole (Path.mem_of_mem_documentStem slash))
    fun nul => isName.noNul (Path.mem_of_mem_documentStem nul)

/-- The module of a document goes to the output folder. -/
theorem RunSettings.outputPath_eq (settings : RunSettings) {document : Path}
    (isName : Path.IsName document.name) : settings.outputPath document =
      settings.output.below (settings.target.fileFor settings.extension document) :=
  Path.child_name (settings.target.isName_fileFor settings.extension isName) settings.output

/-- **The module of a document with a name goes one step below the output folder.** -/
theorem RunSettings.destination_output (settings : RunSettings) {document : Path}
    (isName : Path.IsName document.name) (disk : Disk) :
    disk.destination (settings.outputPath document) =
      disk.destination settings.output ++
        [settings.target.fileFor settings.extension document] := by
  rw [settings.outputPath_eq isName, Disk.destination_below
    (settings.target.isName_fileFor settings.extension isName).notUp]

namespace RunSettings

variable {settings : RunSettings}

/-- The module of a document that is found has the stem of its name. -/
theorem destination_outputPath (extended : settings.extension ≠ []) {name : Text}
    (isName : Path.IsName name) (ends : Text.endsWith name settings.extension = true)
    (disk : Disk) :
    ∃ stem, name = stem ++ settings.extension ∧
      disk.destination (settings.outputPath (settings.features.below name)) =
        disk.destination settings.output ++ [settings.target.fileName stem] := by
  obtain ⟨stem, rfl⟩ := List.isSuffixOf_iff_suffix.mp ends
  refine ⟨stem, rfl, ?_⟩
  rw [settings.destination_output (by rwa [Path.name_below]), Target.fileFor, Path.name_below,
    Path.documentStem_append extended]

theorem Found.apart {disk : Disk} {names : List Text} (found : settings.Found disk names)
    (extended : settings.extension ≠ [])
    (different : disk.destination settings.features ≠ disk.destination settings.output)
    (named : ∀ name, disk.HasFile settings.features name → Path.IsName name) :
    settings.Apart disk (names.map settings.features.below) := by
  have output {name : Text} (member : name ∈ names) := destination_outputPath extended
    (named name ((found.mem name).mp member).1) ((found.mem name).mp member).2 disk
  constructor
  · intro document isDocument other isOther
    obtain ⟨name, member, rfl⟩ := List.mem_map.mp isDocument
    obtain ⟨otherName, otherMember, rfl⟩ := List.mem_map.mp isOther
    obtain ⟨stem, -, there⟩ := output otherMember
    have notUp := (named name ((found.mem name).mp member).1).notUp
    rw [there, Disk.destination_below notUp]
    exact fun same => different (List.append_inj_left' same rfl)
  · rw [List.map_map]
    refine found.once.map_on ?_
    intro name member other otherMember same
    obtain ⟨stem, rfl, here⟩ := output member
    obtain ⟨otherStem, rfl, there⟩ := output otherMember
    have files := (here.symm.trans same).trans there
    rw [settings.target.fileName_injective
      (List.singleton_inj.mp (List.append_cancel_left files))]

end RunSettings

end Scenarist
