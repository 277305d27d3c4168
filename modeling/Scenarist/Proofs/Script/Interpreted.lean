/-
**The suite of a feature is always read strictly.** The commands of a step travel as actions and are
read back as the same commands, so that no parameter is ever missing, and the module of a feature is
written from one case for each scenario, in their order.
-/

import Scenarist.Script.Module

namespace Scenarist

/-- An action that stands for a command is read strictly as that command. -/
theorem Command.command_action (command : Command) : command.action.command = .ok command := by
  cases command with
  | fill selector value field => cases field <;> rfl
  | _ => rfl

/-- Where every answer is known to be one, the answers are taken one by one. -/
theorem mapM_eq_ok {ε α β : Type} {ask : α → Except ε β} {answer : α → β} {items : List α}
    (each : ∀ item ∈ items, ask item = .ok (answer item)) :
    items.mapM ask = .ok (items.map answer) := by
  induction items with
  | nil => rfl
  | cons item items ih =>
    have below := ih fun other member => each other (List.mem_cons_of_mem _ member)
    rw [List.mapM_cons, each item List.mem_cons_self, below]
    rfl

/-- A step with the commands in its place. -/
def Step.plain (step : Text) : PlainStep := ⟨step, Step.commands (Intent.ofStep step) step⟩

theorem Step.interpret_plain (step : Text) :
    (Step.interpret step).plain = .ok (Step.plain step) := by
  have commands : (Step.interpret step).actions.mapM Action.command =
      .ok (Step.commands (Intent.ofStep step) step) := by
    have read : (Step.commands (Intent.ofStep step) step).mapM
        (fun command => command.action.command) = .ok _ :=
      mapM_eq_ok fun command _ => Command.command_action command
    rw [List.map_id'] at read
    exact (List.mapM_map ..).trans read
  rw [Block.plain, commands]
  rfl

/-- A scenario under the name of its method, with its steps interpreted. -/
def Scenario.plain (scenario : Scenario) (method : Text) : PlainCase :=
  ⟨scenario.name, method, scenario.steps.map Step.plain⟩

/-- The scenarios of a feature with the names of their methods. -/
def Feature.methods (feature : Feature) : List (Scenario × Text) :=
  feature.scenarios.zip (Naming.methods (feature.scenarios.map Scenario.name))

/-- What the module of a feature is written from. -/
def Feature.plain (feature : Feature) : PlainSuite where
  title := feature.title
  description := feature.description
  cases := feature.methods.map fun named => named.1.plain named.2

/-- The suite of a feature has a case for each scenario. -/
theorem Feature.cases_suite (feature : Feature) :
    feature.suite.cases = feature.methods.map fun named =>
      ⟨named.1.name, named.2, named.1.steps.map Step.interpret⟩ := by
  have names : feature.interpreted.map (·.1) = feature.scenarios.map Scenario.name := by
    simp [Feature.interpreted]
  simp only [Feature.suite, Suite.assemble, names, Feature.methods]
  rw [Feature.interpreted, List.zip_map_left, List.map_map]
  rfl

/-- **The suite of a feature is read strictly as what its module is written from.** -/
theorem Feature.suite_plain (feature : Feature) : feature.suite.plain = .ok feature.plain := by
  have plain : feature.suite.cases.mapM Case.plain = .ok feature.plain.cases := by
    rw [feature.cases_suite, List.mapM_map]
    apply mapM_eq_ok
    rintro ⟨scenario, method⟩ _
    have steps : (scenario.steps.map Step.interpret).mapM Block.plain =
        .ok (scenario.steps.map Step.plain) := by
      rw [List.mapM_map]
      exact mapM_eq_ok fun step _ => Step.interpret_plain step
    show Case.plain ⟨scenario.name, method, scenario.steps.map Step.interpret⟩ = _
    rw [Case.plain, steps]
    rfl
  rw [Suite.plain, plain]
  rfl

/-- The text of the module of a feature. -/
def Target.code (target : Target) (feature : Feature) : Text :=
  (target.lines feature.plain).flatMap fun line => line ++ ['\n']

/-- The module of a feature is always written. -/
theorem Target.emit_eq (target : Target) (feature : Feature) :
    target.emit feature = .ok (target.code feature) := by
  rw [Target.emit, Target.moduleText, Feature.suite_plain]
  rfl

/-- Every scenario has a method. -/
theorem Naming.length_methods (names : List Text) :
    (Naming.methods names).length = names.length := by
  have each (taken bases : List Text) : (Naming.allocate taken bases).length = bases.length := by
    induction bases generalizing taken with
    | nil => rfl
    | cons base bases ih => simp [Naming.allocate, ih]
  rw [Naming.methods, each, List.length_map]

/-- The scenarios stand in their order. -/
theorem Feature.map_fst_methods (feature : Feature) :
    feature.methods.map Prod.fst = feature.scenarios := by
  have same : (Naming.methods (feature.scenarios.map Scenario.name)).length =
      feature.scenarios.length := by
    rw [Naming.length_methods, List.length_map]
  exact List.map_fst_zip (Nat.le_of_eq same.symm)

end Scenarist
