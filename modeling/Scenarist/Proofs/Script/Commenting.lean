/-
**The text of a step stays a comment, line feeds aside.** Behind a comment mark a text holds as many
line feeds as it has and no other break (`Literal.cut_comment`). So the comment on a step stands on as
many lines as the step has, of which only the first begins as a comment (`Target.commentLines`), and
these lines are lines of the module, in the order of the steps (`Target.commentLines_sublist`). Where
no step has a line feed, the comments that a reader of the target's language finds in the module are
the steps, each whole, and the notes on those that no intent claims (`Target.comments_code`).
-/

import Mathlib.Data.List.Flatten
import Scenarist.Proofs.Script.Lexis
import Scenarist.Proofs.Script.PlaywrightJsReading
import Scenarist.Proofs.Script.PytestPlaywrightReading

namespace Scenarist

open Literal (comment docstring printable single breakTable)
open Text (replacedAll)

/-! ### Texts behind a comment mark -/

namespace Literal

theorem feed_not_mem_commentChar {c : Char} (other : c ≠ '\n') : '\n' ∉ commentChar c :=
  fun member => absurd (unbroken_commentChar other '\n' member) (by decide)

/-- **A text behind a comment mark has the lines of the text.** -/
theorem cut_comment (t : Text) : Text.cut '\n' (comment t) = (Text.cut '\n' t).map comment := by
  induction t with
  | nil => rfl
  | cons c t ih =>
    by_cases feed : c = '\n'
    · subst feed
      show Text.cut '\n' ('\n' :: comment t) = _
      rw [Text.cut, Text.cut, if_pos rfl, if_pos rfl, List.map_cons, ih]
      rfl
    · obtain ⟨piece, pieces, first⟩ := List.exists_cons_of_ne_nil (Text.cut_ne_nil '\n' t)
      rw [first, List.map_cons] at ih
      show Text.cut '\n' (commentChar c ++ comment t) = _
      rw [Text.cut_prepend (feed_not_mem_commentChar feed) ih, Text.cut_cons_of_ne feed first]
      rfl

/-- The only break of a text behind a comment mark is a line feed. -/
theorem eq_feed_of_mem_comment {t : Text} {c : Char} (member : c ∈ comment t)
    (breaks : isBreak c = true) : c = '\n' := by
  obtain ⟨d, -, inside⟩ := List.mem_flatMap.mp member
  by_cases feed : d = '\n'
  · subst feed
    exact List.mem_singleton.mp inside
  · rw [unbroken_commentChar feed c inside] at breaks
    cases breaks

/-- A text behind a comment mark holds as many line feeds as the text. -/
theorem count_comment (t : Text) : (comment t).count '\n' = t.count '\n' := by
  have pieces := congrArg List.length (cut_comment t)
  rw [List.length_map, Text.length_cut, Text.length_cut] at pieces
  exact Nat.add_right_cancel pieces

theorem feed_mem_comment {t : Text} (member : '\n' ∈ t) : '\n' ∈ comment t :=
  List.mem_flatMap.mpr ⟨'\n', member, List.mem_singleton_self _⟩

end Literal

/-! ### Lines of comments -/

/-- What stands before the text of a step in its comment. -/
def Target.commentLead : Target → Text
  | playwrightJs => "    // "
  | pytestPlaywright => "        # "

/-- The lines that the comment on a step stands on: only the first one begins as a comment. -/
def Target.commentLines (target : Target) (step : Text) : List Text :=
  match Text.cut '\n' step with
  | [] => []
  | first :: more => (target.commentLead ++ comment first) :: more.map comment

theorem Target.cut_comment (target : Target) (step : Text) :
    Text.cut '\n' (target.commentLead ++ comment step) = target.commentLines step := by
  have unfed : '\n' ∉ target.commentLead := by cases target <;> decide
  obtain ⟨first, more, pieces⟩ := List.exists_cons_of_ne_nil (Text.cut_ne_nil '\n' step)
  have behind : Text.cut '\n' (comment step) = comment first :: more.map comment := by
    rw [Literal.cut_comment, pieces, List.map_cons]
  rw [Text.cut_prepend unfed behind, commentLines, pieces]

/-- **The comment on a step stands on one line more than the step has line feeds.** -/
theorem Target.length_commentLines (target : Target) (step : Text) :
    (target.commentLines step).length = step.count '\n' + 1 := by
  rw [← Text.length_cut, commentLines]
  cases Text.cut '\n' step with
  | nil => rfl
  | cons first more => rw [List.length_cons, List.length_map, List.length_cons]

theorem Target.commentLines_eq_singleton_iff {target : Target} {step : Text} :
    target.commentLines step = [target.commentLead ++ comment step] ↔ '\n' ∉ step := by
  constructor
  · intro one fed
    have size := target.length_commentLines step
    rw [one, List.length_singleton] at size
    have counted := List.count_pos_iff.mpr fed
    omega
  · intro unfed
    rw [commentLines, Text.cut_eq_singleton unfed]
    rfl

/-- No step of the feature has a line feed. -/
def Feature.IsUnfed (feature : Feature) : Prop :=
  ∀ scenario ∈ feature.scenarios, ∀ step ∈ scenario.steps, '\n' ∉ step

/-- The comments that stand for the steps of a scenario. -/
def Scenario.remarks (scenario : Scenario) : List Text := scenario.steps.flatMap Step.remarks

/-- The comments that stand for the steps of a feature. -/
def Feature.remarks (feature : Feature) : List Text := feature.scenarios.flatMap Scenario.remarks

/-- What is written for each scenario is written for each scenario with a method. -/
theorem Feature.flatMap_methods {β : Type} (feature : Feature) (write : Scenario → List β) :
    feature.scenarios.flatMap write = feature.methods.flatMap fun named => write named.1 := by
  rw [← feature.map_fst_methods, List.flatMap_map]

/-! ### Modules for the browser -/

namespace PlaywrightJs

open Script (Form Lexis)

/-- What comments and literals are told by. -/
def lexis : Lexis where
  -- the one regular expression that a module has holds no mark, and a module has no other comments
  comment := "//"
  quotes := ["'", "\"", "`"]
  marked := by decide
  quoted := by decide

theorem holds_single (t : Text) : lexis.Holds (single t) [] := by
  intro rest
  have closed := Literal.closing?_spelled (by decide) t Literal.singleChar Literal.spells_singleChar rest
  have whole : single t ++ rest = ['\''] ++ (t.flatMap Literal.singleChar ++ ['\''] ++ rest) := by
    simp [single]
  rw [whole]
  exact Lexis.commentsFrom_quoted rfl rfl closed

/-- What a statement starts with holds no comment, if it is not a note. -/
theorem holds_lead {form : Form} (other : form ≠ .note) : lexis.Holds (lead form) [] := by
  cases form with
  | note => exact absurd rfl other
  | _ => exact .string fun _ => rfl

theorem fits : dialect.Fits lexis where
  lead _ _ other := holds_lead other
  note := rfl
  argument t c rest _ := holds_single t (c :: rest)
  comma _ := rfl
  close _ := rfl
  feed _ := rfl

/-- A line with a literal in it holds no comment. -/
theorem holdsLines_single {before behind : Text} (first : lexis.Holds before [])
    (last : lexis.Holds behind []) (t : Text) :
    lexis.HoldsLines [before ++ single t ++ behind] [] :=
  Lexis.holdsLines_singleton (((first.append (holds_single t)).append last).append fits.feed)

/-- The lines of a step hold its text as a comment. -/
theorem holdsLines_stepLines {step : Text} (unfed : '\n' ∉ step) :
    lexis.HoldsLines (stepLines (Step.plain step)) (Step.remarks step) := by
  have written := fits.holdsLines_step (fun _ => rfl : lexis.Holds "    " []) unfed
  have gap : lexis.HoldsLines [[]] [] := fun _ => rfl
  have whole := written.append gap
  rw [List.append_nil] at whole
  simp only [← statement_eq] at whole
  exact whole

/-- The lines of a scenario hold its steps as comments. -/
theorem holdsLines_caseLines {scenario : Scenario} (unfed : ∀ step ∈ scenario.steps, '\n' ∉ step)
    (method : Text) : lexis.HoldsLines (caseLines (scenario.plain method)) scenario.remarks := by
  have opening : lexis.HoldsLines [caseHead scenario.name] [] :=
    holdsLines_single (.string fun _ => rfl) (.string fun _ => rfl) scenario.name
  have steps : lexis.HoldsLines ((scenario.steps.map Step.plain).flatMap stepLines)
      scenario.remarks := by
    rw [List.flatMap_map]
    exact Lexis.holdsLines_flatMap fun step member => holdsLines_stepLines (unfed step member)
  have ending : lexis.HoldsLines caseEnd [] := fun _ => rfl
  have whole := (opening.append steps).append ending
  rw [List.append_nil] at whole
  exact whole

/-- **The lines of a module hold the steps as comments**, if no step has a line feed. -/
theorem holdsLines_lines {feature : Feature} (unfed : feature.IsUnfed) :
    lexis.HoldsLines (lines feature.plain) feature.remarks := by
  have needed : lexis.Holds "import \x7b test, expect \x7d from '@playwright/test';" [] :=
    .string fun _ => rfl
  have imports : lexis.HoldsLines ["import \x7b test, expect \x7d from '@playwright/test';", []] [] :=
    Lexis.holdsLines_cons (needed.append fits.feed) (Lexis.holdsLines_singleton fits.feed)
  have title : lexis.HoldsLines ["test.describe(" ++ single feature.title ++ ", () => \x7b"] [] :=
    holdsLines_single (.string fun _ => rfl) (.string fun _ => rfl) feature.title
  have bodies : lexis.HoldsLines (feature.plain.cases.flatMap caseLines) feature.remarks := by
    rw [Feature.plain, List.flatMap_map, Feature.remarks, feature.flatMap_methods]
    refine Lexis.holdsLines_flatMap fun named member => holdsLines_caseLines ?_ named.2
    exact unfed named.1 (List.of_mem_zip member).1
  have last : lexis.HoldsLines [("\x7d);" : Text)] [] := fun _ => rfl
  have whole := ((imports.append title).append bodies).append last
  rw [List.append_nil] at whole
  exact whole

/-- The comments on the steps begin lines of the module, in the order of the steps. -/
theorem comments_sublist (feature : Feature) :
    (feature.scenarios.flatMap fun scenario =>
      scenario.steps.map fun step => "    // " ++ comment step).Sublist (lines feature.plain) := by
  rw [feature.flatMap_methods, lines, Feature.plain, List.flatMap_map]
  refine List.Sublist.trans ?_ (List.sublist_append_left _ _)
  refine List.Sublist.trans ?_ (List.sublist_append_right _ _)
  refine List.Sublist.flatMap_right _ fun named _ => ?_
  show List.Sublist _ (caseHead named.1.name ::
    ((named.1.steps.map Step.plain).flatMap stepLines ++ caseEnd))
  refine List.Sublist.trans ?_ ((List.sublist_append_left _ _).cons _)
  rw [List.flatMap_map, List.map_eq_flatMap]
  exact List.Sublist.flatMap_right _ fun step _ => (List.nil_sublist _).cons_cons _

end PlaywrightJs

/-! ### Modules for the test runner -/

namespace PytestPlaywright

open Script (Form Lexis)
open Naming (IsWords)

/-- What comments and literals are told by. -/
def lexis : Lexis where
  comment := "#"
  quotes := Literal.marks
  marked := by decide
  quoted := by decide

/-- No word holds a character that a mark begins with. -/
theorem holds_isWords {t : Text} (words : IsWords t) : lexis.Holds t [] := by
  have signs : ∀ mark ∈ lexis.comment :: lexis.quotes, mark.head? ∈ ['#', '"', '\''].map some := by
    decide
  refine Lexis.holds_unmarked fun c member mark among first => ?_
  have sign := signs mark among
  rw [Option.mem_def.mp first, List.mem_map_of_injective fun _ _ => Option.some.inj] at sign
  have other := Naming.isWord_sign sign
  rw [words c member] at other
  cases other

theorem holds_docstring (t : Text) : lexis.Holds (docstring t) [] := by
  intro rest
  have closed := Literal.closing?_spelled (by decide) t Literal.docChar Literal.spells_docChar rest
  have whole : docstring t ++ rest =
      Literal.tripleQuote ++ (t.flatMap Literal.docChar ++ Literal.tripleQuote ++ rest) := by
    rw [Literal.docstring_eq, List.append_assoc, List.append_assoc, List.append_assoc]
  rw [whole]
  exact Lexis.commentsFrom_quoted rfl rfl closed

theorem commentsFrom_printable (t : Text) (c : Char) (rest : Text) (isTail : c = ',' ∨ c = ')') :
    lexis.commentsFrom .code (printable t ++ c :: rest) = lexis.commentsFrom .code (c :: rest) := by
  have unquoted : ∀ d ∈ (c :: rest).head?, d ≠ '\'' ∧ d ≠ '"' := by
    rintro d ⟨⟩
    rcases isTail with rfl | rfl <;> decide
  have opens := Literal.find?_marks_printable t unquoted
  have isQuote := Literal.quoteFor_or t
  have noDigit : Text.hexDigit? (Literal.quoteFor t) = none := by
    rcases isQuote with same | same <;> rw [same] <;> rfl
  have closed := Literal.closing?_spelled noDigit t (Literal.printableChar (Literal.quoteFor t))
    (Literal.spells_printableChar isQuote) (c :: rest)
  have whole : printable t ++ c :: rest = [Literal.quoteFor t] ++
      (t.flatMap (Literal.printableChar (Literal.quoteFor t)) ++ [Literal.quoteFor t] ++
        c :: rest) := by
    rw [Literal.printable_append, List.append_assoc, List.append_assoc, List.cons_append]
    rfl
  rw [whole] at opens ⊢
  refine Lexis.commentsFrom_quoted ?_ opens closed
  rcases isQuote with same | same <;> rw [same] <;> rfl

/-- What a statement starts with holds no comment, if it is not a note. -/
theorem holds_lead {form : Form} (other : form ≠ .note) : lexis.Holds (lead form) [] := by
  cases form with
  | note => exact absurd rfl other
  | _ => exact .string fun _ => rfl

theorem fits : dialect.Fits lexis where
  lead _ _ other := holds_lead other
  note := rfl
  argument := commentsFrom_printable
  comma _ := rfl
  close _ := rfl
  feed _ := rfl

/-- A line with a docstring holds no comment. -/
theorem holdsLines_docstring {before : Text} (first : lexis.Holds before []) (t : Text) :
    lexis.HoldsLines [before ++ docstring t] [] :=
  Lexis.holdsLines_singleton ((first.append (holds_docstring t)).append fits.feed)

/-- A line with a name in it holds no comment. -/
theorem holdsLines_named {before behind name : Text} (first : lexis.Holds before [])
    (last : lexis.Holds behind []) (words : IsWords name) :
    lexis.HoldsLines [before ++ name ++ behind] [] :=
  Lexis.holdsLines_singleton (((first.append (holds_isWords words)).append last).append fits.feed)

/-- The lines of a step hold its text as a comment. -/
theorem holdsLines_stepLines {step : Text} (unfed : '\n' ∉ step) :
    lexis.HoldsLines (stepLines (Step.plain step)) (Step.remarks step) := by
  have written := fits.holdsLines_step (fun _ => rfl : lexis.Holds "        " []) unfed
  simp only [← statement_eq] at written
  exact written

/-- The lines of a scenario hold its steps as comments. -/
theorem holdsLines_caseLines {scenario : Scenario} (unfed : ∀ step ∈ scenario.steps, '\n' ∉ step)
    {method : Text} (words : IsWords method) :
    lexis.HoldsLines (caseLines (scenario.plain method)) scenario.remarks := by
  have gap : lexis.HoldsLines [[]] [] := fun _ => rfl
  have named : lexis.HoldsLines ["    def test_" ++ method ++ "(self, page: Page):"] [] :=
    holdsLines_named (.string fun _ => rfl) (.string fun _ => rfl) words
  have remark : lexis.HoldsLines ["        " ++ docstring scenario.name] [] :=
    holdsLines_docstring (fun _ => rfl) scenario.name
  have steps : lexis.HoldsLines ((scenario.steps.map Step.plain).flatMap stepLines)
      scenario.remarks := by
    rw [List.flatMap_map]
    exact Lexis.holdsLines_flatMap fun step member => holdsLines_stepLines (unfed step member)
  exact ((gap.append named).append remark).append steps

/-- The lines that a module starts with hold no comment. -/
theorem holdsLines_head (title description : Text) :
    lexis.HoldsLines (head title description) [] := by
  have first : lexis.HoldsLines [docstring title] [] :=
    holdsLines_docstring Lexis.holds_nil title
  have fixed : lexis.HoldsLines imports [] := fun _ => rfl
  have classed : lexis.HoldsLines ["class Test" ++ Naming.featureClass title ++ ":"] [] :=
    holdsLines_named (.string fun _ => rfl) (.string fun _ => rfl) (Naming.isWords_featureClass title)
  have remark : lexis.HoldsLines ["    " ++ docstring (classRemark title description)] [] :=
    holdsLines_docstring (fun _ => rfl) _
  exact ((first.append fixed).append classed).append remark

/-- **The lines of a module hold the steps as comments**, if no step has a line feed. -/
theorem holdsLines_lines {feature : Feature} (unfed : feature.IsUnfed) :
    lexis.HoldsLines (lines feature.plain) feature.remarks := by
  have bodies : lexis.HoldsLines (feature.plain.cases.flatMap caseLines) feature.remarks := by
    rw [Feature.plain, List.flatMap_map, Feature.remarks, feature.flatMap_methods]
    refine Lexis.holdsLines_flatMap fun named member => ?_
    obtain ⟨isScenario, isMethod⟩ := List.of_mem_zip member
    exact holdsLines_caseLines (unfed named.1 isScenario) (Naming.isWords_methods _ _ isMethod)
  exact (holdsLines_head feature.title feature.description).append bodies

/-- The comments on the steps begin lines of the module, in the order of the steps. -/
theorem comments_sublist (feature : Feature) :
    (feature.scenarios.flatMap fun scenario =>
      scenario.steps.map fun step => "        # " ++ comment step).Sublist
        (lines feature.plain) := by
  rw [feature.flatMap_methods, lines, Feature.plain, List.flatMap_map]
  refine List.Sublist.trans ?_ (List.sublist_append_right _ _)
  refine List.Sublist.flatMap_right _ fun named _ => ?_
  refine List.Sublist.trans ?_ (List.sublist_append_right (caseHead named.1.name named.2) _)
  show List.Sublist _ ((named.1.steps.map Step.plain).flatMap stepLines)
  rw [List.flatMap_map, List.map_eq_flatMap]
  exact List.Sublist.flatMap_right _ fun step _ => (List.nil_sublist _).cons_cons _

end PytestPlaywright

/-! ### Modules of either kind -/

/-- What the comments and literals of the target's language are told by. -/
def Target.lexis : Target → Script.Lexis
  | playwrightJs => PlaywrightJs.lexis
  | pytestPlaywright => PytestPlaywright.lexis

/-- **The lines of the comments are lines of the module**, in the order of the steps. -/
theorem Target.commentLines_sublist (target : Target) (feature : Feature) :
    (feature.scenarios.flatMap fun scenario =>
      scenario.steps.flatMap target.commentLines).Sublist
        (Text.cut '\n' (target.code feature)) := by
  have whole : (feature.scenarios.flatMap fun scenario =>
      scenario.steps.map fun step => target.commentLead ++ comment step).Sublist
        (target.lines feature.plain) := by
    cases target with
    | playwrightJs => exact PlaywrightJs.comments_sublist feature
    | pytestPlaywright => exact PytestPlaywright.comments_sublist feature
  have pieces := whole.flatMap (Text.cut '\n')
  simp only [List.flatMap_assoc, List.flatMap_map, target.cut_comment] at pieces
  rw [code, Text.cut_ended]
  exact pieces.trans (List.sublist_append_left _ _)

/-- **The comments of a module are its steps**, each whole, and the notes on those that no intent
claims, if no step has a line feed. A comment that is read breaks no line, so that otherwise they are
not. -/
theorem Target.comments_code {target : Target} {feature : Feature} :
    target.lexis.comments (target.code feature) = feature.remarks ↔ feature.IsUnfed := by
  constructor
  · intro same scenario among step member fed
    have remark : ' ' :: comment step ∈ feature.remarks :=
      List.mem_flatMap.mpr ⟨scenario, among, List.mem_flatMap.mpr ⟨step, member,
        List.mem_cons_self⟩⟩
    rw [← same] at remark
    have unbroken := Script.Lexis.unbroken_of_mem_comments remark
    exact absurd (unbroken '\n' (List.mem_cons_of_mem _ (Literal.feed_mem_comment fed))) (by decide)
  · intro unfed
    cases target with
    | playwrightJs => exact (PlaywrightJs.holdsLines_lines unfed).comments_eq
    | pytestPlaywright => exact (PytestPlaywright.holdsLines_lines unfed).comments_eq

/-- **Comments keep the text of a step from becoming code, line feeds aside.** Behind a comment mark a
text has no break but its own line feeds. The comment on a step stands on one line exactly if the step
has none. The module of any feature has the lines of these comments among its lines, in the order of
the steps; its comments are the steps, each whole, with the notes on those that no intent claims,
exactly if no step has a line feed. -/
theorem Target.comments_confined (target : Target) (feature : Feature) :
    (∀ t : Text, '\r' ∉ comment t ∧ '\x00' ∉ comment t ∧ '\u2028' ∉ comment t ∧
      '\u2029' ∉ comment t ∧ (comment t).count '\n' = t.count '\n' ∧
      comment t = replacedAll breakTable t) ∧
    (∀ step, target.commentLines step = [target.commentLead ++ comment step] ↔ '\n' ∉ step) ∧
    ∃ code, target.emit feature = .ok code ∧
      (feature.scenarios.flatMap fun scenario =>
        scenario.steps.flatMap target.commentLines).Sublist (Text.cut '\n' code) ∧
      (target.lexis.comments code = feature.remarks ↔
        ∀ scenario ∈ feature.scenarios, ∀ step ∈ scenario.steps, '\n' ∉ step) := by
  refine ⟨fun t => ?_, fun step => commentLines_eq_singleton_iff, target.code feature,
    target.emit_eq feature, target.commentLines_sublist feature, comments_code⟩
  have unbroken (c : Char) (breaks : Literal.isBreak c = true) (other : c ≠ '\n') : c ∉ comment t :=
    fun member => other (Literal.eq_feed_of_mem_comment member breaks)
  exact ⟨unbroken '\r' rfl (by decide), unbroken '\x00' rfl (by decide),
    unbroken '\u2028' rfl (by decide), unbroken '\u2029' rfl (by decide), Literal.count_comment t,
    Literal.comment_eq_replacedAll t⟩

/-- Carriage returns and separators stay inside the comments of a module of either kind. -/
theorem Target.comments_confined_sample :
    (∀ scenario ∈ [(⟨"S", ["Given x\rimport os", "Then I wait\u2028y("]⟩ : Scenario)],
      ∀ step ∈ scenario.steps, '\n' ∉ step) ∧
    ∀ target : Target, ∃ code,
      target.emit ⟨"F", [], [⟨"S", ["Given x\rimport os", "Then I wait\u2028y("]⟩]⟩ = .ok code ∧
      target.lexis.comments code = [" Given x\\rimport os".toList, " TODO: Implement this step".toList,
        " Then I wait\\u2028y(".toList] := by
  have unfed : ∀ scenario ∈ [(⟨"S", ["Given x\rimport os", "Then I wait\u2028y("]⟩ : Scenario)],
      ∀ step ∈ scenario.steps, '\n' ∉ step := by decide
  refine ⟨unfed, fun target => ?_⟩
  obtain ⟨-, -, code, written, -, read⟩ := target.comments_confined
    ⟨"F", [], [⟨"S", ["Given x\rimport os", "Then I wait\u2028y("]⟩]⟩
  exact ⟨code, written, (read.mpr unfed).trans rfl⟩

/-- A line feed in a step ends its comment, and what stands behind it is code. -/
theorem Target.comments_fed :
    '\n' ∈ comment "When I wait\nimport os" ∧
    ∀ target : Target, ∃ code,
      target.emit ⟨"F", [], [⟨"S", ["When I wait\nimport os"]⟩]⟩ = .ok code ∧
      "import os".toList ∈ Text.cut '\n' code ∧
      target.lexis.comments code = [" When I wait".toList] := by
  refine ⟨by decide, fun target => ⟨_, target.emit_eq _, (target.commentLines_sublist _).subset ?_, ?_⟩⟩
  · cases target <;> decide
  · cases target <;> decide +kernel

end Scenarist
