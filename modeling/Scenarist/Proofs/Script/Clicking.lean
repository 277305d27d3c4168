/-
**Which modules click on anything.** A statement that clicks on a button or link without a label
clicks on the first there is. A statement is that of one command only, up to the label of a field
(`Script.Dialect.write_eq_click`), so a line of a module is such a statement exactly if a step with
the intent to click leaves its click without a label (`Target.clicksAny_iff`).
-/

import Scenarist.Proofs.Script.Pressing
import Scenarist.Proofs.Step.Label

namespace Scenarist

/-- The statement that clicks on a button or link without a label. -/
def Target.clickAny : Target → Text
  | playwrightJs => "await page.click('button:has-text(\"\"), a:has-text(\"\")');"
  | pytestPlaywright => "page.click('button:has-text(\"\"), a:has-text(\"\")')"

/-- Is the line, its indentation left aside, the statement that clicks on anything? -/
def Target.clicksAny (target : Target) (line : Text) : Bool :=
  line.dropWhile (· = ' ') == target.clickAny

/-- A step of the feature has the intent to click and leaves its click without a label. -/
def Feature.ClicksAny (feature : Feature) : Prop :=
  ∃ scenario ∈ feature.scenarios, ∃ step ∈ scenario.steps,
    Intent.ofStep step = .click ∧ Step.Unlabelled step

/-- Only the statement of a click is one. -/
theorem Script.Dialect.write_eq_click (dialect : Dialect) {command : Command} {label : Text}
    (same : dialect.write command = dialect.write (.click label)) : command = .click label := by
  have read := congrArg dialect.read same
  rw [dialect.read_write, dialect.read_write] at read
  have shown : Dialect.shown command = ⟨"click", [("label", label)]⟩ := Option.some_inj.mp read
  have kind : (Dialect.shown command).kind = "click" := congrArg Action.kind shown
  cases command with
  | click other =>
    have params := List.head_eq_of_cons_eq (congrArg Action.params shown)
    exact congrArg Command.click (congrArg Prod.snd params)
  | fill selector value field => cases field <;> cases kind
  | _ => cases kind

/-- Of the commands in the place of a step the click without a label comes of a step that leaves its
click so. -/
theorem Step.click_nil_mem {step : Text} :
    .click [] ∈ (Step.plain step).commands ↔
      Intent.ofStep step = .click ∧ Step.Unlabelled step := by
  show .click [] ∈ Step.commands (Intent.ofStep step) step ↔ _
  rw [← Step.clickLabel_eq_nil]
  constructor
  · intro member
    cases intent : Intent.ofStep step with
    | click =>
      rw [intent] at member
      have same : Command.click [] = .click (Step.clickLabel step) := List.mem_singleton.mp member
      exact ⟨rfl, (Command.click.inj same).symm⟩
    | fillField =>
      rw [intent, Step.commands] at member
      split at member
      · cases List.mem_singleton.mp member
      · cases member
    | _ =>
      rw [intent] at member
      cases List.mem_singleton.mp member
  · rintro ⟨intent, empty⟩
    rw [intent]
    exact List.mem_singleton.mpr (congrArg Command.click empty.symm)

/-- A line that is computed not to click on anything does not. -/
theorem Target.of_clicksAny {target : Target} {line : Text} {P : Prop}
    (none : target.clicksAny line = false) (clicks : target.clicksAny line = true) : P :=
  absurd clicks (Bool.eq_false_iff.mp none)

/-- And neither does a line of a block of them. -/
theorem Target.of_any_clicksAny {target : Target} {block : List Text} {P : Prop}
    (none : block.any target.clicksAny = false) :
    ∀ line ∈ block, target.clicksAny line = true → P :=
  fun line member clicks => absurd clicks (List.any_eq_false.mp none line member)

/-- Every scenario of a feature has a method. -/
theorem Feature.exists_method {feature : Feature} {scenario : Scenario}
    (among : scenario ∈ feature.scenarios) : ∃ method, (scenario, method) ∈ feature.methods := by
  rw [← feature.map_fst_methods] at among
  obtain ⟨⟨_, method⟩, member, rfl⟩ := List.mem_map.mp among
  exact ⟨method, member⟩

section Lines

variable {feature : Feature} {scenario : Scenario} {step : Text} {command : Command}

namespace PlaywrightJs

theorem clicksAny_statement :
    Target.playwrightJs.clicksAny ("    " ++ statement command) = true ↔ command = .click [] := by
  have click : Target.playwrightJs.clickAny = dialect.write (.click []) := by rfl
  rw [Target.clicksAny, dropWhile_statement, beq_iff_eq, click, statement_eq]
  exact ⟨dialect.write_eq_click, congrArg _⟩

/-- The statements of a step are lines of the module. -/
theorem statement_mem_lines (among : scenario ∈ feature.scenarios) (isStep : step ∈ scenario.steps)
    (member : command ∈ (Step.plain step).commands) :
    "    " ++ statement command ∈ lines feature.plain := by
  obtain ⟨method, named⟩ := Feature.exists_method among
  refine List.mem_append_left _ (List.mem_append_right _ ?_)
  refine List.mem_flatMap.mpr ⟨_, List.mem_map.mpr ⟨_, named, rfl⟩, ?_⟩
  refine List.mem_append_left _ (List.mem_cons_of_mem _ ?_)
  refine List.mem_flatMap.mpr ⟨_, List.mem_map.mpr ⟨step, isStep, rfl⟩, ?_⟩
  exact List.mem_append_left _ (List.mem_cons_of_mem _ (List.mem_map.mpr ⟨command, member, rfl⟩))

theorem of_clicksAny : ∀ line ∈ lines feature.plain,
    Target.playwrightJs.clicksAny line = true → feature.ClicksAny := by
  refine forall_mem_lines (Target.of_any_clicksAny rfl) (fun _ _ => Target.of_clicksAny rfl)
    (fun _ _ _ _ => Target.of_clicksAny rfl) ?_ (Target.of_any_clicksAny (by decide))
  intro scenario among step isStep command member clicks
  rw [clicksAny_statement.mp clicks] at member
  exact ⟨scenario, among, step, isStep, Step.click_nil_mem.mp member⟩

end PlaywrightJs

namespace PytestPlaywright

theorem clicksAny_statement :
    Target.pytestPlaywright.clicksAny ("        " ++ statement command) = true ↔
      command = .click [] := by
  have click : Target.pytestPlaywright.clickAny = dialect.write (.click []) := by rfl
  rw [Target.clicksAny, dropWhile_statement, beq_iff_eq, click, statement_eq]
  exact ⟨dialect.write_eq_click, congrArg _⟩

/-- The statements of a step are lines of the module. -/
theorem statement_mem_lines (among : scenario ∈ feature.scenarios) (isStep : step ∈ scenario.steps)
    (member : command ∈ (Step.plain step).commands) :
    "        " ++ statement command ∈ lines feature.plain := by
  obtain ⟨method, named⟩ := Feature.exists_method among
  refine List.mem_append_right _ ?_
  refine List.mem_flatMap.mpr ⟨_, List.mem_map.mpr ⟨_, named, rfl⟩, ?_⟩
  refine List.mem_append_right _ ?_
  refine List.mem_flatMap.mpr ⟨_, List.mem_map.mpr ⟨step, isStep, rfl⟩, ?_⟩
  exact List.mem_cons_of_mem _ (List.mem_map.mpr ⟨command, member, rfl⟩)

theorem of_clicksAny : ∀ line ∈ lines feature.plain,
    Target.pytestPlaywright.clicksAny line = true → feature.ClicksAny := by
  refine forall_mem_lines (Target.of_any_clicksAny rfl) (fun _ _ => Target.of_any_clicksAny rfl)
    (fun _ _ _ _ => Target.of_clicksAny rfl) ?_
  intro scenario among step isStep command member clicks
  rw [clicksAny_statement.mp clicks] at member
  exact ⟨scenario, among, step, isStep, Step.click_nil_mem.mp member⟩

end PytestPlaywright

end Lines

/-- **A module clicks on anything exactly if a step leaves its click without a label**, whatever its
target. -/
theorem Target.clicksAny_iff (target : Target) (feature : Feature) :
    (∃ line ∈ target.lines feature.plain, target.clicksAny line = true) ↔ feature.ClicksAny := by
  constructor
  · rintro ⟨line, member, clicks⟩
    cases target with
    | playwrightJs => exact PlaywrightJs.of_clicksAny line member clicks
    | pytestPlaywright => exact PytestPlaywright.of_clicksAny line member clicks
  · rintro ⟨scenario, among, step, isStep, clicks⟩
    have member := Step.click_nil_mem.mpr clicks
    cases target with
    | playwrightJs =>
      exact ⟨_, PlaywrightJs.statement_mem_lines among isStep member,
        PlaywrightJs.clicksAny_statement.mpr rfl⟩
    | pytestPlaywright =>
      exact ⟨_, PytestPlaywright.statement_mem_lines among isStep member,
        PytestPlaywright.clicksAny_statement.mpr rfl⟩

/-- **A click names something unless its step leaves it without a label.** Whatever a step says, its
click has one label, and that is empty exactly if the step leaves the click without one
(`Step.Unlabelled`); it is the default label where the step supplies none, in that a single blank
with nothing behind it follows each word of a click. Of the lines that the module of a feature is
laid out in one clicks on anything exactly if a step does that has the intent to click, whatever the
target, and the same is true of the module of a document. -/
theorem Target.clicks_named (target : Target) (step : Text) (feature : Feature)
    (document : Text) :
    (∃ label, Step.actions .click step = [⟨"click", [("label", label)]⟩] ∧
      (label = [] ↔ Step.Unlabelled step) ∧
      ((∀ place, Step.Silent (step.drop place)) → label = "Submit".toList)) ∧
    (target.emit feature = .ok ((target.lines feature.plain).flatMap fun line => line ++ ['\n']) ∧
      ((∃ line ∈ target.lines feature.plain, target.clicksAny line = true) ↔
        feature.ClicksAny)) ∧
    ∃ code, target.emit (Feature.ofDocument document) = .ok code ∧
      ((∃ line ∈ Text.cut '\n' code, target.clicksAny line = true) ↔
        (Feature.ofDocument document).ClicksAny) := by
  refine ⟨?_, ⟨?_, target.clicksAny_iff feature⟩, ?_⟩
  · exact ⟨Step.clickLabel step, Step.actions_click_eq step, Step.clickLabel_eq_nil,
      Step.clickLabel_of_silent⟩
  · rw [target.emit_eq, Target.code]
  · obtain ⟨code, written, -, laidOut⟩ :=
      target.emit_lines (Feature.ofDocument document) (target.unbroken_lines document)
    have last : target.clicksAny [] = false := by cases target <;> rfl
    refine ⟨code, written, ?_⟩
    rw [laidOut, ← target.clicksAny_iff]
    simp [or_and_right, exists_or, last]

/-- A pair of double quotes behind a single blank supplies no label. -/
theorem Target.clicks_named_empty :
    (∀ place, Step.Silent (("When I click \"\"" : Text).drop place)) ∧
    Step.actions .click "When I click \"\"" = [⟨"click", [("label", "Submit")]⟩] := by
  have silent : ∀ place, Step.Silent (("When I click \"\"" : Text).drop place) :=
    Step.label?_eq_none.mp rfl
  obtain ⟨label, acts, -, default⟩ :=
    (Target.clicks_named .playwrightJs "When I click \"\"" ⟨[], [], []⟩ []).1
  rw [default silent] at acts
  exact ⟨silent, acts⟩

/-- Behind two blanks the pair leaves the click without a label, and the module clicks on anything;
behind an article the label is the article. -/
theorem Target.clicks_unnamed :
    Intent.ofStep "When I click  \"\"" = .click ∧
    Step.actions .click "When I click  \"\"" = [⟨"click", [("label", [])]⟩] ∧
    (∀ target : Target, target.clickAny ∈ (target.lines (Feature.plain
      ⟨"F", [], [⟨"S", ["When I click  \"\""]⟩]⟩)).map (·.dropWhile (· = ' '))) ∧
    Step.actions .click "When I click the \"\"" = [⟨"click", [("label", "the")]⟩] := by
  have clicks : Intent.ofStep "When I click  \"\"" = .click := by rfl
  have empty : Step.clickLabel "When I click  \"\"" = [] := by rfl
  have clicksAny : Feature.ClicksAny ⟨"F", [], [⟨"S", ["When I click  \"\""]⟩]⟩ :=
    ⟨_, List.mem_singleton_self _, _, List.mem_singleton_self _, clicks,
      Step.clickLabel_eq_nil.mp empty⟩
  refine ⟨clicks, ?_, fun target => ?_, by rfl⟩
  · rw [Step.actions_click_eq, empty]
  · obtain ⟨line, member, found⟩ := (target.clicksAny_iff _).mpr clicksAny
    exact List.mem_map.mpr ⟨line, member, beq_iff_eq.mp found⟩

end Scenarist
