/-
The `pytest-playwright` module of a suite: one class with a method for each case, in it a comment
for each step and a statement for each command. Title, description and names stand as docstrings.
-/

import Scenarist.Script.Suite
import Scenarist.Script.Naming
import Scenarist.Literal.Basic

namespace Scenarist.PytestPlaywright

open Literal (printable comment docstring hasText)

/-- The statement of a command. -/
def statement : Command → Text
  | .goto url => "page.goto(" ++ printable url ++ ")"
  | .fill selector value _ => "page.fill(" ++ printable selector ++ ", " ++ printable value ++ ")"
  | .click label => "page.click(" ++ printable (hasText label) ++ ")"
  | .waitForLoadState state => "page.wait_for_load_state(" ++ printable state ++ ")"
  | .expectText text => "expect(page.locator('body')).to_contain_text(" ++ printable text ++ ")"
  | .expectVisible => "assert page.locator('visible=true')"
  | .expectUrl => "expect(page).to_have_url(re.compile(r'.*'))"
  | .press selector key => "page.press(" ++ printable selector ++ ", " ++ printable key ++ ")"
  | .manual note => "# " ++ comment note

/-- The lines of a step: its text as a comment and its statements. -/
def stepLines (step : PlainStep) : List Text :=
  ("        # " ++ comment step.text) :: step.commands.map (fun c => "        " ++ statement c)

/-- The lines that a case starts with. -/
def caseHead (name method : Text) : List Text :=
  [[], "    def test_" ++ method ++ "(self, page: Page):", "        " ++ docstring name]

/-- The lines of a case. -/
def caseLines (case : PlainCase) : List Text :=
  caseHead case.name case.method ++ case.steps.flatMap stepLines

/-- What the class says of itself: the description, or the title where there is none. -/
def classRemark (title description : Text) : Text :=
  if description.isEmpty then title else description

/-- The name of the class. -/
def classOf (title : Text) : Text := "Test" ++ Naming.featureClass title

/-- The lines that the module starts with. -/
def head (title description : Text) : List Text :=
  [docstring title, "import re", [], "from playwright.sync_api import Page, expect", [], [],
   "class " ++ classOf title ++ ":", "    " ++ docstring (classRemark title description)]

/-- The lines of the module. -/
def lines (suite : PlainSuite) : List Text :=
  head suite.title suite.description ++ suite.cases.flatMap caseLines

end Scenarist.PytestPlaywright
