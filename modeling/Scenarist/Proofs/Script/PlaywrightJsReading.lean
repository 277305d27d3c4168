/-
**A `playwright-js` module is read back.** The reader takes the module line by line and knows in
every place which lines may stand there; texts are read off their literals, and a line holds nothing
else. From the module of any document it recovers the title, the names of the scenarios in their
order and, for each step, its comment and what the statements show of its actions
(`PlaywrightJs.emit_playwrightJs_read`).
-/

import Scenarist.Proofs.Feature.NormalForm
import Scenarist.Proofs.Script.Outline
import Scenarist.Proofs.Script.Parameters

namespace Scenarist.PlaywrightJs

open Literal (Unbroken comment single readSingle unbroken_append unbroken_comment unbroken_single)
open Script (Dialect Form StepOutline enclosed? enclosed?_eq_some foldlM_block foldlM_flatMap
  foldlM_line map_shown)

/-! ### Statements -/

/-- What each form of statement starts with. -/
def lead : Form → Text
  | .goto => "await page.goto("
  | .fill => "await page.fill("
  | .click => "await page.click("
  | .waitForLoadState => "await page.waitForLoadState("
  | .expectText => "await expect(page).toContainText("
  | .expectVisible => "await expect(page.locator('visible=true')).toBeTruthy();"
  | .expectUrl => "await expect(page).toHaveURL(/.*/);"
  | .press => "await page.press("
  | .note => "// "

/-- No form starts like another. -/
theorem lead_apart : ∀ form ∈ Form.all, ∀ other ∈ Form.all, form ≠ other →
    Text.startsWith (lead other) (lead form) = false := by decide +kernel

theorem unbroken_lead : ∀ form ∈ Form.all, Unbroken (lead form) := by decide +kernel

/-- How the statements are laid out. -/
def dialect : Dialect where
  lead := lead
  ending := [';']
  literal := single
  readLiteral := readSingle
  reads t c rest _ := Literal.readSingle_single t (c :: rest)
  apart := lead_apart
  leadUnbroken := unbroken_lead
  endingUnbroken := Literal.unbroken_singleton.mpr rfl
  literalUnbroken := unbroken_single

theorem statement_eq (command : Command) : statement command = dialect.write command := by
  cases command with
  | goto url => exact List.append_assoc _ _ _
  | fill selector value field =>
    show _ ++ single selector ++ _ ++ single value ++ _ = _
    rw [List.append_assoc, List.append_assoc, List.append_assoc]
    rfl
  | click label => exact List.append_assoc _ _ _
  | waitForLoadState state => exact List.append_assoc _ _ _
  | expectText text => exact List.append_assoc _ _ _
  | expectVisible => rfl
  | expectUrl => rfl
  | press selector key =>
    show _ ++ single selector ++ _ ++ single key ++ _ = _
    rw [List.append_assoc, List.append_assoc, List.append_assoc]
    rfl
  | manual note => rfl

/-- **The statement of an action shows the parameters that its kind needs**, in their order. -/
theorem params_statement {action : Action} {command : Command}
    (isRead : action.command = .ok command) :
    (dialect.read (statement command)).map Action.params = some action.displayed := by
  rw [statement_eq]
  exact dialect.params_read isRead

/-! ### The reader -/

/-- What can be read off the lines of a case. -/
structure CaseOutline where
  name : Text
  steps : List StepOutline
  deriving DecidableEq, Repr

/-- What can be read off a module. -/
structure Outline where
  title : Text
  cases : List CaseOutline
  deriving DecidableEq, Repr

/-- The outline of a scenario. -/
def CaseOutline.of (scenario : Scenario) : CaseOutline :=
  ⟨scenario.name, scenario.steps.map StepOutline.of⟩

/-- The outline of a feature. -/
def Outline.of (feature : Feature) : Outline :=
  ⟨feature.title, feature.scenarios.map CaseOutline.of⟩

/-- A place between two lines of a module, with what was read before it. -/
inductive Place where
  /-- Before a case or the end. -/
  | between (cases : List CaseOutline)
  /-- In a case, before a step or the end of the case. -/
  | inCase (cases : List CaseOutline) (name : Text) (steps : List StepOutline)
  /-- In a step, before a statement or the end of the step. -/
  | inStep (cases : List CaseOutline) (name : Text) (steps : List StepOutline) (comment : Text)
      (actions : List Action)
  /-- Behind the bracket that closes a case. -/
  | afterCase (cases : List CaseOutline)
  /-- Behind the bracket that closes the module. -/
  | closed (cases : List CaseOutline)
  /-- Behind the last line feed. -/
  | ended (cases : List CaseOutline)

/-- Reads the next line. -/
def readLine : Place → Text → Option Place
  | .between cases, line =>
    if line = "\x7d);" then some (.closed cases)
    else (enclosed? readSingle "  test(" ", async (\x7b page \x7d) => \x7b" line).map fun name =>
      .inCase cases name []
  | .inCase cases name steps, line =>
    if line = "  \x7d);" then some (.afterCase (cases ++ [⟨name, steps⟩]))
    else (Text.afterLead? "    // " line).map fun comment => .inStep cases name steps comment []
  | .inStep cases name steps comment actions, line =>
    if line = [] then some (.inCase cases name (steps ++ [⟨comment, actions⟩]))
    else ((Text.afterLead? "    " line).bind dialect.read).map fun action =>
      .inStep cases name steps comment (actions ++ [action])
  | .afterCase cases, line => if line = [] then some (.between cases) else none
  | .closed cases, line => if line = [] then some (.ended cases) else none
  | .ended _, _ => none

/-- The cases that were read when a module ends here. -/
def Place.cases? : Place → Option (List CaseOutline)
  | .ended cases => some cases
  | _ => none

/-- Reads the lines of a module. -/
def readLines : List Text → Option Outline
  | first :: second :: third :: rest => do
    let title ← enclosed? readSingle "test.describe(" ", () => \x7b" third
    let place ← rest.foldlM readLine (.between [])
    let cases ← place.cases?
    if first = "import \x7b test, expect \x7d from '@playwright/test';" ∧ second = [] then
      some ⟨title, cases⟩
    else none
  | _ => none

/-- Reads a module. -/
def read (code : Text) : Option Outline := readLines (Text.cut '\n' code)

/-! ### What one line is read as -/

section Lines

variable (cases : List CaseOutline) (name : Text) (steps : List StepOutline)

theorem readLine_caseHead :
    readLine (.between cases) (caseHead name) = some (.inCase cases name []) := by
  have different : caseHead name ≠ "\x7d);" := by
    intro same
    cases same
  have found : enclosed? readSingle "  test(" ", async (\x7b page \x7d) => \x7b" (caseHead name) =
      some name := by
    show enclosed? readSingle _ _ (_ ++ single name ++ _) = _
    rw [List.append_assoc]
    exact enclosed?_eq_some (Literal.readSingle_single _ _)
  rw [readLine, if_neg different, found]
  rfl

theorem readLine_comment (comment : Text) :
    readLine (.inCase cases name steps) ("    // " ++ comment) =
      some (.inStep cases name steps comment []) := by
  have different : "    // " ++ comment ≠ "  \x7d);" := by
    intro same
    cases same
  rw [readLine, if_neg different, Text.afterLead?_append]
  rfl

theorem readLine_statement (comment : Text) (actions : List Action) (command : Command) :
    readLine (.inStep cases name steps comment actions) ("    " ++ statement command) =
      some (.inStep cases name steps comment (actions ++ [Dialect.shown command])) := by
  have nonempty : ("    " : Text) ++ statement command ≠ [] := by
    intro same
    cases same
  rw [readLine, if_neg nonempty, Text.afterLead?_append, Option.bind_some, statement_eq,
    dialect.read_write]
  rfl

end Lines

/-! ### What a run of lines is read as -/

section Runs

variable (cases : List CaseOutline) (name : Text)

theorem read_statements (steps : List StepOutline) (comment : Text) (actions : List Action)
    (commands : List Command) :
    (commands.map fun command => "    " ++ statement command).foldlM readLine
        (.inStep cases name steps comment actions) =
      some (.inStep cases name steps comment (actions ++ commands.map Dialect.shown)) := by
  rw [List.map_eq_flatMap]
  refine foldlM_flatMap ?_ actions
  intro command _ done
  exact foldlM_line (readLine_statement ..) []

theorem read_step (steps : List StepOutline) (step : Text) :
    (stepLines (Step.plain step)).foldlM readLine (.inCase cases name steps) =
      some (.inCase cases name (steps ++ [StepOutline.of step])) := by
  show (("    // " ++ comment step) :: (((Step.plain step).commands.map fun command =>
    "    " ++ statement command) ++ [[]])).foldlM readLine _ = _
  rw [foldlM_line (readLine_comment ..), foldlM_block (read_statements ..), map_shown]
  rfl

theorem read_case (scenario : Scenario) (method : Text) :
    (caseLines (scenario.plain method)).foldlM readLine (.between cases) =
      some (.between (cases ++ [CaseOutline.of scenario])) := by
  have steps (done : List StepOutline) :
      (scenario.steps.flatMap fun step => stepLines (Step.plain step)).foldlM readLine
        (.inCase cases scenario.name done) =
      some (.inCase cases scenario.name (done ++ scenario.steps.map StepOutline.of)) :=
    foldlM_flatMap (fun step _ done => read_step cases scenario.name done step) done
  show (caseHead scenario.name ::
    ((scenario.steps.map Step.plain).flatMap stepLines ++ caseEnd)).foldlM readLine _ = _
  rw [foldlM_line (readLine_caseHead ..), List.flatMap_map, foldlM_block (steps [])]
  rfl

theorem read_cases (feature : Feature) :
    (feature.plain.cases.flatMap caseLines).foldlM readLine (.between cases) =
      some (.between (cases ++ feature.scenarios.map CaseOutline.of)) := by
  have run : (feature.methods.flatMap fun named => caseLines (named.1.plain named.2)).foldlM
      readLine (.between cases) = some (.between (cases ++ feature.methods.map fun named =>
        CaseOutline.of named.1)) :=
    foldlM_flatMap (fun named _ done => read_case done named.1 named.2) cases
  have scenarios : (feature.methods.map fun named => CaseOutline.of named.1) =
      feature.scenarios.map CaseOutline.of := by
    rw [← feature.map_fst_methods, List.map_map]
    rfl
  rw [Feature.plain, List.flatMap_map, run, scenarios]

theorem readLines_lines (feature : Feature) :
    readLines (lines feature.plain ++ [[]]) = some (Outline.of feature) := by
  have titled : enclosed? readSingle "test.describe(" ", () => \x7b"
      ("test.describe(" ++ single feature.title ++ ", () => \x7b") = some feature.title := by
    rw [List.append_assoc]
    exact enclosed?_eq_some (Literal.readSingle_single _ _)
  have run : (feature.plain.cases.flatMap caseLines ++ [("\x7d);" : Text), []]).foldlM readLine
      (.between []) = some (.ended (feature.scenarios.map CaseOutline.of)) := by
    rw [foldlM_block (read_cases [] feature)]
    rfl
  have whole : lines feature.plain ++ [[]] =
      head feature.title ++ (feature.plain.cases.flatMap caseLines ++ [("\x7d);" : Text), []]) := by
    rw [lines, List.append_assoc, List.append_assoc]
    rfl
  rw [whole]
  show (enclosed? readSingle _ _ _).bind (fun title =>
    (List.foldlM readLine (.between []) (_ ++ [("\x7d);" : Text), []])).bind _) = _
  rw [titled, Option.bind_some, run]
  rfl

end Runs

/-! ### What is true of all lines -/

/-- What is true of the first lines, of what cases and steps start and end with and of the statements
of steps is true of every line of a module. -/
theorem forall_mem_lines {holds : Text → Prop} {feature : Feature}
    (first : ∀ line ∈ head feature.title, holds line)
    (cases : ∀ scenario ∈ feature.scenarios, holds (caseHead scenario.name))
    (comments : ∀ scenario ∈ feature.scenarios, ∀ step ∈ scenario.steps,
      holds ("    // " ++ comment step))
    (statements : ∀ scenario ∈ feature.scenarios, ∀ step ∈ scenario.steps,
      ∀ command ∈ (Step.plain step).commands, holds ("    " ++ statement command))
    (ends : ∀ line ∈ [] :: (caseEnd ++ [("\x7d);" : Text)]), holds line) :
    ∀ line ∈ lines feature.plain, holds line := by
  intro line member
  rcases List.mem_append.mp member with member | member
  · rcases List.mem_append.mp member with member | member
    · exact first line member
    obtain ⟨case, among, inside⟩ := List.mem_flatMap.mp member
    obtain ⟨named, isNamed, rfl⟩ := List.mem_map.mp among
    have isScenario : named.1 ∈ feature.scenarios := (List.of_mem_zip isNamed).1
    rcases List.mem_append.mp inside with inside | inside
    · rcases List.mem_cons.mp inside with rfl | inside
      · exact cases _ isScenario
      obtain ⟨step, isStep, within⟩ := List.mem_flatMap.mp inside
      obtain ⟨text, isText, rfl⟩ := List.mem_map.mp isStep
      rcases List.mem_append.mp within with within | within
      · rcases List.mem_cons.mp within with rfl | within
        · exact comments _ isScenario text isText
        · obtain ⟨command, isCommand, rfl⟩ := List.mem_map.mp within
          exact statements _ isScenario text isText command isCommand
      · rw [List.mem_singleton.mp within]
        exact ends _ List.mem_cons_self
    · exact ends line (List.mem_cons_of_mem _ (List.mem_append_left _ inside))
  · exact ends line (List.mem_cons_of_mem _ (List.mem_append_right _ member))

/-- No line is broken. -/
theorem unbroken_lines {feature : Feature} (normal : feature.IsNormal) :
    ∀ line ∈ lines feature.plain, Unbroken line := by
  refine forall_mem_lines ?_ ?_ ?_ ?_ (by decide)
  · intro line member
    rcases List.mem_cons.mp member with rfl | member
    · decide
    rcases List.mem_cons.mp member with rfl | member
    · decide
    rw [List.mem_singleton.mp member]
    exact unbroken_append.mpr ⟨unbroken_append.mpr ⟨by decide, unbroken_single _⟩, by decide⟩
  · intro scenario _
    exact unbroken_append.mpr ⟨unbroken_append.mpr ⟨by decide, unbroken_single _⟩, by decide⟩
  · intro scenario among step member
    have isLine := ((normal.scenarios scenario among).steps step member).1
    exact unbroken_append.mpr ⟨by decide, unbroken_comment isLine.1⟩
  · intro scenario _ step _ command member
    rw [statement_eq]
    exact unbroken_append.mpr ⟨by decide, dialect.unbroken_statement member⟩

/-- **The module of any document is read back.** It holds no carriage return, NUL, line separator or
paragraph separator, its line feeds end the lines that it is laid out in, and the reader recovers
the outline of the feature. -/
theorem emit_playwrightJs_read (document : Text) :
    ∃ code, Target.playwrightJs.emit (Feature.ofDocument document) = .ok code ∧
      (∀ c ∈ code, c ≠ '\r' ∧ c ≠ '\x00' ∧ c ≠ '\u2028' ∧ c ≠ '\u2029') ∧
      Text.cut '\n' code = lines (Feature.ofDocument document).plain ++ [[]] ∧
      read code = some (Outline.of (Feature.ofDocument document)) := by
  have unbroken := unbroken_lines (Document.ofDocument_isNormal document)
  obtain ⟨code, written, clean, laidOut⟩ :=
    Target.emit_lines .playwrightJs (Feature.ofDocument document) unbroken
  refine ⟨code, written, clean, laidOut, ?_⟩
  rw [read, laidOut]
  exact readLines_lines _

end Scenarist.PlaywrightJs
