/-
What can be read off the lines of a step, in a module of any kind: the text of its comment, and what
the statements behind it show of its actions. Lines are read one after another; where the lines of
every item of a list leave their own reading behind those before it, the lines of all items leave
the readings of all (`foldlM_flatMap`).
-/

import Scenarist.Proofs.Script.Interpreted
import Scenarist.Proofs.Script.Statement

namespace Scenarist.Script

open Literal (Unbroken comment unbroken_comment)

/-- What can be read off the lines of a step. -/
structure StepOutline where
  comment : Text
  actions : List Action
  deriving DecidableEq, Repr

/-- The step as a comment, with what statements show of its actions. -/
def StepOutline.of (step : Text) : StepOutline :=
  ⟨Literal.comment step, (Step.interpret step).actions.map Action.rendered⟩

/-- A step that no intent claims leaves the one note there is. -/
theorem eq_manualNote {intent : Intent} {step note : Text}
    (member : .manual note ∈ Step.commands intent step) : note = Step.manualNote := by
  cases intent with
  | fillField =>
    rw [Step.commands] at member
    split at member
    · rw [List.mem_singleton] at member
      cases member
    · cases member
  | unrecognized =>
    rw [Step.commands, List.mem_singleton] at member
    cases member
    rfl
  | _ => simp [Step.commands] at member

/-- The statements of a step show its actions. -/
theorem shown_of_mem {intent : Intent} {step : Text} {command : Command}
    (member : command ∈ Step.commands intent step) :
    Dialect.shown command = command.action.rendered := by
  cases command with
  | manual note =>
    rw [eq_manualNote member]
    rfl
  | _ => rfl

theorem map_shown (step : Text) :
    (Step.plain step).commands.map Dialect.shown = (StepOutline.of step).actions := by
  show _ = ((Step.commands (Intent.ofStep step) step).map Command.action).map Action.rendered
  rw [List.map_map]
  exact List.map_congr_left fun command member => shown_of_mem member

/-- No statement of a step breaks a line. -/
theorem Dialect.unbroken_statement (dialect : Dialect) {step : Text} {command : Command}
    (member : command ∈ (Step.plain step).commands) : Unbroken (dialect.write command) := by
  refine dialect.unbroken_write ?_
  rintro note rfl
  rw [eq_manualNote member]
  decide

/-! ### Lines one after another -/

section Lines

variable {σ ι β : Type} {readLine : σ → Text → Option σ} {place : List β → σ}
  {lines : ι → List Text} {reading : ι → β}

/-- The lines below a line are read from the place that it leads to. -/
theorem foldlM_line {here next : σ} {line : Text} (read : readLine here line = some next)
    (below : List Text) :
    (line :: below).foldlM readLine here = below.foldlM readLine next := by
  rw [List.foldlM_cons, read, Option.bind_eq_bind, Option.bind_some]

/-- The lines below a block are read from the place that the block leads to. -/
theorem foldlM_block {here next : σ} {block : List Text}
    (read : block.foldlM readLine here = some next) (below : List Text) :
    (block ++ below).foldlM readLine here = below.foldlM readLine next := by
  rw [List.foldlM_append, read, Option.bind_eq_bind, Option.bind_some]

/-- **The lines of all items are read as all items**, if those of each are read as that item behind
the items before it. -/
theorem foldlM_flatMap {items : List ι}
    (each : ∀ item ∈ items, ∀ done,
      (lines item).foldlM readLine (place done) = some (place (done ++ [reading item])))
    (done : List β) :
    (items.flatMap lines).foldlM readLine (place done) =
      some (place (done ++ items.map reading)) := by
  induction items generalizing done with
  | nil =>
    rw [List.map_nil, List.append_nil]
    rfl
  | cons item items ih =>
    have below := ih fun other member => each other (List.mem_cons_of_mem _ member)
    rw [List.flatMap_cons, foldlM_block (each item List.mem_cons_self done), below,
      List.append_assoc]
    rfl

end Lines

end Scenarist.Script

namespace Scenarist

open Literal (Unbroken isBreak)

/-- **Unbroken lines are all that a module is cut into.** It holds no other character that ends a
line of code or may not stand in one. -/
theorem Target.emit_lines (target : Target) (feature : Feature)
    (unbroken : ∀ line ∈ target.lines feature.plain, Unbroken line) :
    ∃ code, target.emit feature = .ok code ∧
      (∀ c ∈ code, c ≠ '\r' ∧ c ≠ '\x00' ∧ c ≠ '\u2028' ∧ c ≠ '\u2029') ∧
      Text.cut '\n' code = target.lines feature.plain ++ [[]] := by
  refine ⟨_, target.emit_eq feature, ?_, Text.cut_lines ?_⟩
  · intro c member
    obtain ⟨line, among, inside⟩ := List.mem_flatMap.mp member
    rcases List.mem_append.mp inside with inside | inside
    · have kept := unbroken line among c inside
      simp only [isBreak, Bool.or_eq_false_iff, decide_eq_false_iff_not] at kept
      obtain ⟨⟨⟨⟨-, ret⟩, nul⟩, line⟩, paragraph⟩ := kept
      exact ⟨ret, nul, line, paragraph⟩
    · rw [List.mem_singleton.mp inside]
      decide
  · intro line among feed
    exact absurd (unbroken line among _ feed) (by decide)

end Scenarist
