/-
**No module presses a key.** A line presses a key when, its indentation left aside, it starts as the
statement of such a command does (`Target.presses`). Of the lines of a module only statements start
as statements do, and no command in the place of a step presses a key (`Step.press_not_mem`), so no
line of a module does, whatever its target (`Target.lines_presses`).
-/

import Scenarist.Proofs.Script.PlaywrightJsReading
import Scenarist.Proofs.Script.PytestPlaywrightReading
import Scenarist.Proofs.Step.Shadowing

namespace Scenarist

/-- What a statement starts with that presses a key. -/
def Target.pressLead : Target → Text
  | playwrightJs => PlaywrightJs.lead .press
  | pytestPlaywright => PytestPlaywright.lead .press

/-- Does the line start, behind its indentation, as a statement that presses a key? -/
def Target.presses (target : Target) (line : Text) : Bool :=
  Text.startsWith (line.dropWhile (· = ' ')) target.pressLead

/-- That no line of a block presses a key is computed. -/
theorem Target.presses_eq_false {target : Target} {block : List Text}
    (none : block.any target.presses = false) : ∀ line ∈ block, target.presses line = false :=
  fun line member => Bool.eq_false_iff.mpr (List.any_eq_false.mp none line member)

/-- The statement of another command does not start as one that presses a key. -/
theorem Script.Dialect.startsWith_press (dialect : Dialect) {command : Command}
    (other : ∀ selector key, command ≠ .press selector key) :
    Text.startsWith (dialect.write command) (dialect.lead .press) = false := by
  refine Text.afterLead?_eq_none.mp (dialect.afterLead?_other ?_ (dialect.tail command))
  intro same
  cases command with
  | press selector key => exact other selector key rfl
  | _ => cases same

/-- No command in the place of a step presses a key. -/
theorem Step.plain_ne_press {step : Text} {command : Command}
    (member : command ∈ (Step.plain step).commands) (selector key : Text) :
    command ≠ .press selector key := by
  rintro rfl
  exact Step.press_not_mem member

/-- Without its indentation a line is the statement that is in it. -/
theorem PlaywrightJs.dropWhile_statement (command : Command) :
    (("    " : Text) ++ statement command).dropWhile (· = ' ') = statement command := by
  cases command <;> rfl

theorem PytestPlaywright.dropWhile_statement (command : Command) :
    (("        " : Text) ++ statement command).dropWhile (· = ' ') = statement command := by
  cases command <;> rfl

theorem PlaywrightJs.lines_presses (feature : Feature) :
    ∀ line ∈ lines feature.plain, Target.playwrightJs.presses line = false := by
  refine forall_mem_lines (Target.presses_eq_false rfl) (fun _ _ => rfl) (fun _ _ _ _ => rfl) ?_
    (by decide)
  intro scenario _ step _ command member
  rw [Target.presses, dropWhile_statement, statement_eq]
  exact dialect.startsWith_press (Step.plain_ne_press member)

theorem PytestPlaywright.lines_presses (feature : Feature) :
    ∀ line ∈ lines feature.plain, Target.pytestPlaywright.presses line = false := by
  refine forall_mem_lines (Target.presses_eq_false rfl) (fun _ _ => Target.presses_eq_false rfl)
    (fun _ _ _ _ => rfl) ?_
  intro scenario _ step _ command member
  rw [Target.presses, dropWhile_statement, statement_eq]
  exact dialect.startsWith_press (Step.plain_ne_press member)

/-- **No line of a module presses a key**, whatever its target. -/
theorem Target.lines_presses (target : Target) (feature : Feature) :
    ∀ line ∈ target.lines feature.plain, target.presses line = false := by
  cases target with
  | playwrightJs => exact PlaywrightJs.lines_presses feature
  | pytestPlaywright => exact PytestPlaywright.lines_presses feature

/-- The lines of a document's module are not broken, whatever its target. -/
theorem Target.unbroken_lines (target : Target) (document : Text) :
    ∀ line ∈ target.lines (Feature.ofDocument document).plain, Literal.Unbroken line := by
  have normal := Document.ofDocument_isNormal document
  cases target with
  | playwrightJs => exact PlaywrightJs.unbroken_lines normal
  | pytestPlaywright => exact PytestPlaywright.unbroken_lines normal

/-- **Pressing a key is never what comes of a step.** A step that says to press the enter key has an
intent to navigate or to fill in, and one that says to press a key has one of these or the intent to
click, so that none has the intent to press a key and no action presses one. Of the lines that the
module of a feature is laid out in none starts a statement that presses a key, whatever its target,
and neither does a line of the module of a document. -/
theorem Target.never_presses :
    (∀ step, Text.Occurs "press enter" step →
      Intent.ofStep step ∈ [.navigate, .fillEmail, .fillPassword, .fillField]) ∧
    (∀ step, Text.Occurs "press key" step →
      Intent.ofStep step ∈ [.navigate, .fillEmail, .fillPassword, .fillField, .click]) ∧
    (∀ step, Intent.ofStep step ≠ .pressKey) ∧
    (∀ step, ∀ action ∈ (Step.interpret step).actions, action.kind ≠ "press".toList) ∧
    (∀ (target : Target) (feature : Feature),
      target.emit feature =
        .ok ((target.lines feature.plain).flatMap fun line => line ++ ['\n']) ∧
      ∀ line ∈ target.lines feature.plain, target.presses line = false) ∧
    ∀ (target : Target) (document : Text), ∃ code,
      target.emit (Feature.ofDocument document) = .ok code ∧
      ∀ line ∈ Text.cut '\n' code, target.presses line = false := by
  refine ⟨fun step => Intent.ofStep_pressEnter, fun step => Intent.ofStep_pressKey,
    Intent.ofStep_ne_pressKey, fun step action member => ?_,
    fun target feature => ⟨?_, target.lines_presses feature⟩, fun target document => ?_⟩
  · obtain ⟨command, among, rfl⟩ := List.mem_map.mp member
    intro same
    cases command with
    | press selector key => exact Step.press_not_mem among
    | fill selector value field => cases field <;> cases same
    | _ => cases same
  · rw [target.emit_eq, Target.code]
  · obtain ⟨code, written, -, laidOut⟩ :=
      target.emit_lines (Feature.ofDocument document) (target.unbroken_lines document)
    refine ⟨code, written, fun line member => ?_⟩
    rw [laidOut] at member
    rcases List.mem_append.mp member with member | member
    · exact target.lines_presses _ line member
    · rw [List.mem_singleton.mp member]
      cases target <;> rfl

/-- A step that presses the enter key, in capitals and with the long s for an s. -/
theorem Target.never_presses_sample :
    Text.Occurs "press enter" "And I PREſS ENTER" ∧
      Intent.ofStep "And I PREſS ENTER" ∈
        [.navigate, .fillEmail, .fillPassword, .fillField] := by
  have occurs : Text.Occurs "press enter" "And I PREſS ENTER" :=
    ⟨"And I ", "PREſS ENTER", [], by decide +kernel, by decide +kernel⟩
  exact ⟨occurs, Target.never_presses.1 _ occurs⟩

end Scenarist
