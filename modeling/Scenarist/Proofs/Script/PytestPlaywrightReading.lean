/-
**A `pytest-playwright` module is read back.** Nothing stands between the steps of a case, so a
comment begins a step exactly when its text is one (`Document.isStep`): the steps of a feature are,
and the note left for a step that no intent claims is not. From the module of any document the
reader recovers the title, what the class says of itself, the methods and names of the scenarios in
their order and, for each step, its comment and what the statements show of its actions
(`PytestPlaywright.emit_pytestPlaywright_read`).
-/

import Scenarist.Proofs.Feature.NormalForm
import Scenarist.Proofs.Script.Naming
import Scenarist.Proofs.Script.Outline
import Scenarist.Proofs.Script.Parameters

namespace Scenarist.PytestPlaywright

open Literal (Unbroken isBreak comment docstring printable readQuoted unbroken_append
  unbroken_comment unbroken_docstring unbroken_printable)
open Naming (IsWords)
open Script (Dialect Form StepOutline enclosed? enclosed?_eq_some foldlM_block foldlM_flatMap
  foldlM_line map_shown)

/-! ### Statements -/

/-- What each form of statement starts with. -/
def lead : Form → Text
  | .goto => "page.goto("
  | .fill => "page.fill("
  | .click => "page.click("
  | .waitForLoadState => "page.wait_for_load_state("
  | .expectText => "expect(page.locator('body')).to_contain_text("
  | .expectVisible => "assert page.locator('visible=true')"
  | .expectUrl => "expect(page).to_have_url(re.compile(r'.*'))"
  | .press => "page.press("
  | .note => "# "

/-- No form starts like another. -/
theorem lead_apart : ∀ form ∈ Form.all, ∀ other ∈ Form.all, form ≠ other →
    Text.startsWith (lead other) (lead form) = false := by decide +kernel

theorem unbroken_lead : ∀ form ∈ Form.all, Unbroken (lead form) := by decide +kernel

/-- In an argument a literal is read back, for no quote stands behind it. -/
theorem readQuoted_argument (t : Text) (c : Char) (rest : Text) (isTail : c = ',' ∨ c = ')') :
    readQuoted (printable t ++ c :: rest) = some (t, c :: rest) := by
  apply Literal.readQuoted_printable
  rintro d ⟨⟩
  rcases isTail with rfl | rfl <;> decide

/-- How the statements are laid out. -/
def dialect : Dialect where
  lead := lead
  ending := []
  literal := printable
  readLiteral := readQuoted
  reads := readQuoted_argument
  apart := lead_apart
  leadUnbroken := unbroken_lead
  endingUnbroken := fun _ member => absurd member List.not_mem_nil
  literalUnbroken := unbroken_printable

theorem statement_eq (command : Command) : statement command = dialect.write command := by
  cases command with
  | goto url => exact List.append_assoc _ _ _
  | fill selector value field =>
    show _ ++ printable selector ++ _ ++ printable value ++ _ = _
    rw [List.append_assoc, List.append_assoc, List.append_assoc]
    rfl
  | click label => exact List.append_assoc _ _ _
  | waitForLoadState state => exact List.append_assoc _ _ _
  | expectText text => exact List.append_assoc _ _ _
  | expectVisible => rfl
  | expectUrl => rfl
  | press selector key =>
    show _ ++ printable selector ++ _ ++ printable key ++ _ = _
    rw [List.append_assoc, List.append_assoc, List.append_assoc]
    rfl
  | manual note => rfl

/-- **The statement of an action shows the parameters that its kind needs**, in their order. -/
theorem params_statement {action : Action} {command : Command}
    (isRead : action.command = .ok command) :
    (dialect.read (statement command)).map Action.params = some action.displayed := by
  rw [statement_eq]
  exact dialect.params_read isRead

/-! ### The reader -/

/-- What can be read off the lines of a case. -/
structure CaseOutline where
  method : Text
  name : Text
  steps : List StepOutline
  deriving DecidableEq, Repr

/-- What can be read off a module. -/
structure Outline where
  title : Text
  className : Text
  remark : Text
  cases : List CaseOutline
  deriving DecidableEq, Repr

/-- The outline of a scenario under the name of its method. -/
def CaseOutline.of (scenario : Scenario) (method : Text) : CaseOutline :=
  ⟨method, scenario.name, scenario.steps.map StepOutline.of⟩

/-- The outline of a feature. -/
def Outline.of (feature : Feature) : Outline where
  title := feature.title
  className := Naming.featureClass feature.title
  remark := if feature.description = [] then feature.title else feature.description
  cases := feature.methods.map fun named => CaseOutline.of named.1 named.2

/-- Changes the last item, if there is one and it can be changed. -/
def changeLast? {α : Type} (change : α → Option α) (items : List α) : Option (List α) :=
  items.getLast?.bind fun last => (change last).map fun changed => items.dropLast ++ [changed]

/-- A case with one more step. -/
def CaseOutline.addStep (comment : Text) (case : CaseOutline) : CaseOutline :=
  { case with steps := case.steps ++ [⟨comment, []⟩] }

/-- A case with one more action of its last step. -/
def CaseOutline.addAction? (action : Action) (case : CaseOutline) : Option CaseOutline :=
  (changeLast? (fun step => some { step with actions := step.actions ++ [action] }) case.steps).map
    fun steps => { case with steps := steps }

/-- A place between two lines of a module, with what was read before it. -/
inductive Place where
  /-- In the last case, or behind what the class says of itself. -/
  | body (cases : List CaseOutline)
  /-- Behind an empty line. -/
  | gap (cases : List CaseOutline)
  /-- Behind the name of a method. -/
  | named (cases : List CaseOutline) (method : Text)

/-- Reads the longest word at the start of a text. -/
def readWord (t : Text) : Option (Text × Text) :=
  some (t.takeWhile Text.isWord, t.dropWhile Text.isWord)

/-- The text of a comment that begins a step. -/
def stepComment? (line : Text) : Option Text :=
  (Text.afterLead? "# " line).filter Document.isStep

/-- Reads the next line of a case behind its blanks. -/
def readBody (line : Text) (case : CaseOutline) : Option CaseOutline :=
  match stepComment? line with
  | some comment => some (case.addStep comment)
  | none => (dialect.read line).bind fun action => case.addAction? action

/-- Reads the next line. -/
def readLine : Place → Text → Option Place
  | .body cases, line =>
    if line = [] then some (.gap cases)
    else (Text.afterLead? "        " line).bind fun rest =>
      (changeLast? (readBody rest) cases).map .body
  | .gap cases, line =>
    (enclosed? readWord "    def test_" "(self, page: Page):" line).map fun method =>
      .named cases method
  | .named cases method, line =>
    (enclosed? readQuoted "        " [] line).map fun name => .body (cases ++ [⟨method, name, []⟩])

/-- The cases that were read when a module ends here. -/
def Place.cases? : Place → Option (List CaseOutline)
  | .gap cases => some cases
  | _ => none

/-- The lines between the docstring of a module and its class. -/
def imports : List Text := ["import re", [], "from playwright.sync_api import Page, expect", [], []]

/-- Reads the lines of a module. -/
def readLines : List Text → Option Outline
  | l₁ :: l₂ :: l₃ :: l₄ :: l₅ :: l₆ :: l₇ :: l₈ :: rest => do
    let title ← enclosed? readQuoted [] [] l₁
    let className ← enclosed? readWord "class Test" ":" l₇
    let remark ← enclosed? readQuoted "    " [] l₈
    let place ← rest.foldlM readLine (.body [])
    let cases ← place.cases?
    if [l₂, l₃, l₄, l₅, l₆] = imports then some ⟨title, className, remark, cases⟩ else none
  | _ => none

/-- Reads a module. -/
def read (code : Text) : Option Outline := readLines (Text.cut '\n' code)

/-! ### What one line is read as -/

theorem changeLast?_concat {α : Type} (change : α → Option α) (items : List α) (last : α) :
    changeLast? change (items ++ [last]) = (change last).map fun changed => items ++ [changed] := by
  rw [changeLast?, List.getLast?_concat, Option.bind_some, List.dropLast_concat]

theorem readWord_append {word rest : Text} (words : IsWords word)
    (ended : ∀ c ∈ rest.head?, Text.isWord c = false) :
    readWord (word ++ rest) = some (word, rest) := by
  have stops : rest.takeWhile Text.isWord = [] ∧ rest.dropWhile Text.isWord = rest := by
    cases rest with
    | nil => exact ⟨rfl, rfl⟩
    | cons c rest =>
      have stop := ended c rfl
      exact ⟨by rw [List.takeWhile_cons, stop]; rfl, by rw [List.dropWhile_cons, stop]; rfl⟩
  rw [readWord, List.takeWhile_append_of_pos words, List.dropWhile_append_of_pos words, stops.1,
    stops.2, List.append_nil]

/-- The comment of a step begins like the step. -/
theorem isStep_comment {step : Text} (isStep : Document.isStep step = true) :
    Document.isStep (comment step) = true := by
  obtain ⟨lead, isLead, starts⟩ := List.any_eq_true.mp isStep
  obtain ⟨rest, rfl⟩ := Text.startsWith_iff.mp starts
  have same : ∀ lead ∈ Document.stepLeads, comment lead = lead := by decide
  refine List.any_eq_true.mpr ⟨lead, isLead, Text.startsWith_iff.mpr ⟨comment rest, ?_⟩⟩
  rw [comment, comment, List.flatMap_append]
  exact congrArg (· ++ _) (same lead isLead).symm

/-- **The note of a step that no intent claims begins no step**, nor does any other statement. -/
theorem stepComment?_write {intent : Intent} {step : Text} {command : Command}
    (member : command ∈ Step.commands intent step) :
    stepComment? (dialect.write command) = none := by
  unfold stepComment?
  by_cases note : Form.of command = .note
  · cases command with
    | manual note =>
      rw [Script.eq_manualNote member]
      decide
    | _ => cases note
  · have other := dialect.afterLead?_other (Ne.symm note) (dialect.tail command)
    rw [Dialect.write]
    exact (congrArg (Option.filter _) other).trans rfl

section Lines

variable (cases : List CaseOutline)

theorem enclosed?_docstring (lead t : Text) :
    enclosed? readQuoted lead [] (lead ++ docstring t) = some t := by
  have found : enclosed? readQuoted lead [] (lead ++ (docstring t ++ [])) = some t :=
    enclosed?_eq_some (Literal.readQuoted_docstring t [])
  rwa [List.append_nil] at found

theorem readLine_empty : readLine (.body cases) [] = some (.gap cases) := rfl

theorem readLine_method {method : Text} (words : IsWords method) :
    readLine (.gap cases) ("    def test_" ++ method ++ "(self, page: Page):") =
      some (.named cases method) := by
  have ended : ∀ c ∈ ("(self, page: Page):" : Text).head?, Text.isWord c = false := by
    rintro c ⟨⟩
    decide +kernel
  rw [readLine, List.append_assoc, enclosed?_eq_some (readWord_append words ended)]
  rfl

theorem readLine_name (method name : Text) :
    readLine (.named cases method) ("        " ++ docstring name) =
      some (.body (cases ++ [⟨method, name, []⟩])) := by
  rw [readLine, enclosed?_docstring]
  rfl

theorem readLine_body {line : Text} {case changed : CaseOutline}
    (reads : readBody line case = some changed) :
    readLine (.body (cases ++ [case])) ("        " ++ line) =
      some (.body (cases ++ [changed])) := by
  have nonempty : ("        " : Text) ++ line ≠ [] := by
    intro same
    cases same
  rw [readLine, if_neg nonempty, Text.afterLead?_append, Option.bind_some, changeLast?_concat,
    reads]
  rfl

theorem readBody_comment {step : Text} (isStep : Document.isStep step = true)
    (case : CaseOutline) :
    readBody ("# " ++ comment step) case = some (case.addStep (comment step)) := by
  have found : stepComment? ("# " ++ comment step) = some (comment step) := by
    rw [stepComment?, Text.afterLead?_append, Option.filter_some, if_pos (isStep_comment isStep)]
  rw [readBody, found]

theorem readBody_statement {intent : Intent} {step : Text} {command : Command}
    (member : command ∈ Step.commands intent step) (method name : Text) (steps : List StepOutline)
    (comment : Text) (actions : List Action) :
    readBody (statement command) ⟨method, name, steps ++ [⟨comment, actions⟩]⟩ =
      some ⟨method, name, steps ++ [⟨comment, actions ++ [Dialect.shown command]⟩]⟩ := by
  rw [readBody, statement_eq, stepComment?_write member, dialect.read_write]
  show (CaseOutline.addAction? _ _) = _
  rw [CaseOutline.addAction?, changeLast?_concat]
  rfl

end Lines

/-! ### What a run of lines is read as -/

section Runs

variable (cases : List CaseOutline) (method name : Text)

theorem read_statements {intent : Intent} {step : Text} (steps : List StepOutline) (comment : Text)
    (actions : List Action) :
    ((Step.commands intent step).map fun command => "        " ++ statement command).foldlM readLine
        (.body (cases ++ [⟨method, name, steps ++ [⟨comment, actions⟩]⟩])) =
      some (.body (cases ++ [⟨method, name, steps ++ [⟨comment, actions ++
        (Step.commands intent step).map Dialect.shown⟩]⟩])) := by
  have each : ∀ command ∈ Step.commands intent step, ∀ done : List Action,
      ["        " ++ statement command].foldlM readLine
        (.body (cases ++ [⟨method, name, steps ++ [⟨comment, done⟩]⟩])) =
      some (.body (cases ++ [⟨method, name, steps ++ [⟨comment, done ++
        [Dialect.shown command]⟩]⟩])) := by
    intro command member done
    exact foldlM_line
      (readLine_body cases (readBody_statement member method name steps comment done)) []
  rw [List.map_eq_flatMap]
  exact foldlM_flatMap each actions

theorem read_step (steps : List StepOutline) {step : Text} (isStep : Document.isStep step = true) :
    (stepLines (Step.plain step)).foldlM readLine (.body (cases ++ [⟨method, name, steps⟩])) =
      some (.body (cases ++ [⟨method, name, steps ++ [StepOutline.of step]⟩])) := by
  show (("        " ++ ("# " ++ comment step)) :: ((Step.commands (Intent.ofStep step) step).map
    fun command => "        " ++ statement command)).foldlM readLine _ = _
  rw [foldlM_line (readLine_body cases (readBody_comment isStep _)), CaseOutline.addStep,
    read_statements]
  exact congrArg (fun shown => some (Place.body (cases ++
    [⟨method, name, steps ++ [⟨comment step, shown⟩]⟩]))) (map_shown step)

theorem read_case {scenario : Scenario} (normal : scenario.IsNormal) {method : Text}
    (words : IsWords method) :
    (caseLines (scenario.plain method)).foldlM readLine (.body cases) =
      some (.body (cases ++ [CaseOutline.of scenario method])) := by
  have steps (done : List StepOutline) :
      (scenario.steps.flatMap fun step => stepLines (Step.plain step)).foldlM readLine
        (.body (cases ++ [⟨method, scenario.name, done⟩])) =
      some (.body (cases ++
        [⟨method, scenario.name, done ++ scenario.steps.map StepOutline.of⟩])) :=
    foldlM_flatMap (fun step member done =>
      read_step cases method scenario.name done (normal.steps step member).2) done
  show (caseHead scenario.name method ++
    (scenario.steps.map Step.plain).flatMap stepLines).foldlM readLine _ = _
  have heading : (caseHead scenario.name method).foldlM readLine (.body cases) =
      some (.body (cases ++ [⟨method, scenario.name, []⟩])) := by
    rw [caseHead, foldlM_line (readLine_empty cases), foldlM_line (readLine_method cases words),
      foldlM_line (readLine_name ..)]
    rfl
  rw [foldlM_block heading, List.flatMap_map, steps]
  rfl

theorem read_cases {feature : Feature} (normal : feature.IsNormal) :
    (feature.plain.cases.flatMap caseLines).foldlM readLine (.body cases) =
      some (.body (cases ++ feature.methods.map fun named => CaseOutline.of named.1 named.2)) := by
  rw [Feature.plain, List.flatMap_map]
  refine foldlM_flatMap ?_ cases
  intro named member done
  obtain ⟨isScenario, isMethod⟩ := List.of_mem_zip member
  exact read_case done (normal.scenarios _ isScenario) (Naming.isWords_methods _ _ isMethod)

theorem classRemark_eq (title description : Text) :
    classRemark title description = if description = [] then title else description := by
  cases description <;> rfl

theorem readLines_lines {feature : Feature} (normal : feature.IsNormal) :
    readLines (lines feature.plain ++ [[]]) = some (Outline.of feature) := by
  have titled : enclosed? readQuoted [] [] (docstring feature.title) = some feature.title :=
    enclosed?_docstring [] feature.title
  have ended : ∀ c ∈ (":" : Text).head?, Text.isWord c = false := by
    rintro c ⟨⟩
    decide +kernel
  have classed : enclosed? readWord "class Test" ":" ("class " ++ classOf feature.title ++ ":") =
      some (Naming.featureClass feature.title) := by
    show enclosed? readWord _ _ ("class Test" ++ Naming.featureClass feature.title ++ ":") = _
    rw [List.append_assoc]
    exact enclosed?_eq_some (readWord_append (Naming.isWords_featureClass _) ended)
  have run : (feature.plain.cases.flatMap caseLines ++ [[]]).foldlM readLine (.body []) =
      some (.gap (feature.methods.map fun named => CaseOutline.of named.1 named.2)) := by
    rw [foldlM_block (read_cases [] normal)]
    rfl
  rw [lines, List.append_assoc]
  show (enclosed? readQuoted _ _ (docstring feature.title)).bind (fun title =>
    (enclosed? readWord _ _ ("class " ++ classOf feature.title ++ ":")).bind fun className =>
      (enclosed? readQuoted _ _ _).bind fun remark =>
        (List.foldlM readLine (.body []) (_ ++ [[]])).bind _) = _
  rw [titled, Option.bind_some, classed, Option.bind_some, enclosed?_docstring, Option.bind_some,
    run, classRemark_eq]
  rfl

end Runs

/-! ### What is true of all lines -/

/-- What is true of the first lines, of what cases and steps start with and of the statements of steps
is true of every line of a module. -/
theorem forall_mem_lines {holds : Text → Prop} {feature : Feature}
    (first : ∀ line ∈ head feature.title feature.description, holds line)
    (cases : ∀ named ∈ feature.methods, ∀ line ∈ caseHead named.1.name named.2, holds line)
    (comments : ∀ scenario ∈ feature.scenarios, ∀ step ∈ scenario.steps,
      holds ("        # " ++ comment step))
    (statements : ∀ scenario ∈ feature.scenarios, ∀ step ∈ scenario.steps,
      ∀ command ∈ (Step.plain step).commands, holds ("        " ++ statement command)) :
    ∀ line ∈ lines feature.plain, holds line := by
  intro line member
  rcases List.mem_append.mp member with member | member
  · exact first line member
  obtain ⟨case, among, inside⟩ := List.mem_flatMap.mp member
  obtain ⟨named, isNamed, rfl⟩ := List.mem_map.mp among
  have isScenario : named.1 ∈ feature.scenarios := (List.of_mem_zip isNamed).1
  rcases List.mem_append.mp inside with inside | inside
  · exact cases named isNamed line inside
  obtain ⟨step, isStep, within⟩ := List.mem_flatMap.mp inside
  obtain ⟨text, isText, rfl⟩ := List.mem_map.mp isStep
  rcases List.mem_cons.mp within with rfl | within
  · exact comments _ isScenario text isText
  · obtain ⟨command, isCommand, rfl⟩ := List.mem_map.mp within
    exact statements _ isScenario text isText command isCommand

theorem unbroken_isWords {t : Text} (words : IsWords t) : Unbroken t := by
  intro c member
  rw [← Bool.not_eq_true]
  intro breaks
  have word := words c member
  simp only [isBreak, Bool.or_eq_true, decide_eq_true_eq] at breaks
  rcases breaks with (((rfl | rfl) | rfl) | rfl) | rfl <;> revert word <;> decide +kernel

theorem unbroken_head {feature : Feature} (normal : feature.IsNormal) :
    ∀ line ∈ head feature.title feature.description, Unbroken line := by
  have remark : '\n' ∉ classRemark feature.title feature.description := by
    rw [classRemark_eq]
    split
    · exact normal.title.1
    · exact normal.description.1
  have classed : Unbroken ("class " ++ classOf feature.title ++ ":") :=
    unbroken_append.mpr ⟨unbroken_append.mpr ⟨by decide, unbroken_append.mpr ⟨by decide,
      unbroken_isWords (Naming.isWords_featureClass _)⟩⟩, by decide⟩
  have fixed : ∀ line ∈ imports, Unbroken line := by decide
  show ∀ line ∈ docstring feature.title :: (imports ++ ["class " ++ classOf feature.title ++ ":",
    "    " ++ docstring (classRemark feature.title feature.description)]), Unbroken line
  intro line member
  rcases List.mem_cons.mp member with rfl | member
  · exact unbroken_docstring normal.title.1
  rcases List.mem_append.mp member with member | member
  · exact fixed line member
  rcases List.mem_cons.mp member with rfl | member
  · exact classed
  · rw [List.mem_singleton.mp member]
    exact unbroken_append.mpr ⟨by decide, unbroken_docstring remark⟩

/-- No line is broken. -/
theorem unbroken_lines {feature : Feature} (normal : feature.IsNormal) :
    ∀ line ∈ lines feature.plain, Unbroken line := by
  refine forall_mem_lines (unbroken_head normal) ?_ ?_ ?_
  · intro named among line member
    obtain ⟨isScenario, isMethod⟩ := List.of_mem_zip among
    have words := Naming.isWords_methods _ _ isMethod
    rcases List.mem_cons.mp member with rfl | member
    · decide
    rcases List.mem_cons.mp member with rfl | member
    · exact unbroken_append.mpr
        ⟨unbroken_append.mpr ⟨by decide, unbroken_isWords words⟩, by decide⟩
    · rw [List.mem_singleton.mp member]
      exact unbroken_append.mpr
        ⟨by decide, unbroken_docstring (normal.scenarios _ isScenario).name.1⟩
  · intro scenario among step member
    have isLine := ((normal.scenarios scenario among).steps step member).1
    exact unbroken_append.mpr ⟨by decide, unbroken_comment isLine.1⟩
  · intro scenario _ step _ command member
    rw [statement_eq]
    exact unbroken_append.mpr ⟨by decide, dialect.unbroken_statement member⟩

/-- The outline has a case for each scenario, in their order. -/
theorem Outline.names_of (feature : Feature) :
    (Outline.of feature).cases.map CaseOutline.name = feature.scenarios.map Scenario.name := by
  show (feature.methods.map _).map CaseOutline.name = _
  rw [← feature.map_fst_methods, List.map_map, List.map_map]
  rfl

/-- **The module of any document is read back.** It holds no carriage return, NUL, line separator or
paragraph separator, its line feeds end the lines that it is laid out in, and the reader recovers
the outline of the feature, which has a case for each scenario. -/
theorem emit_pytestPlaywright_read (document : Text) :
    ∃ code, Target.pytestPlaywright.emit (Feature.ofDocument document) = .ok code ∧
      (∀ c ∈ code, c ≠ '\r' ∧ c ≠ '\x00' ∧ c ≠ '\u2028' ∧ c ≠ '\u2029') ∧
      Text.cut '\n' code = lines (Feature.ofDocument document).plain ++ [[]] ∧
      read code = some (Outline.of (Feature.ofDocument document)) ∧
      (Outline.of (Feature.ofDocument document)).cases.map CaseOutline.name =
        (Feature.ofDocument document).scenarios.map Scenario.name := by
  have normal := Document.ofDocument_isNormal document
  obtain ⟨code, written, clean, laidOut⟩ :=
    Target.emit_lines .pytestPlaywright (Feature.ofDocument document) (unbroken_lines normal)
  refine ⟨code, written, clean, laidOut, ?_, Outline.names_of _⟩
  rw [read, laidOut]
  exact readLines_lines normal

end Scenarist.PytestPlaywright
