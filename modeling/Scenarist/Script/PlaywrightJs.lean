/-
The `playwright-js` module of a suite: one `test.describe` with a `test` for each case, in it a
comment for each step and a statement for each command.
-/

import Scenarist.Script.Suite
import Scenarist.Literal.Basic

namespace Scenarist.PlaywrightJs

open Literal (single comment hasText)

/-- The statement of a command. -/
def statement : Command → Text
  | .goto url => "await page.goto(" ++ single url ++ ");"
  | .fill selector value _ => "await page.fill(" ++ single selector ++ ", " ++ single value ++ ");"
  | .click label => "await page.click(" ++ single (hasText label) ++ ");"
  | .waitForLoadState state => "await page.waitForLoadState(" ++ single state ++ ");"
  | .expectText text => "await expect(page).toContainText(" ++ single text ++ ");"
  | .expectVisible => "await expect(page.locator('visible=true')).toBeTruthy();"
  | .expectUrl => "await expect(page).toHaveURL(/.*/);"
  | .press selector key => "await page.press(" ++ single selector ++ ", " ++ single key ++ ");"
  | .manual note => "// " ++ comment note

/-- The lines of a step: its text as a comment, its statements, an empty line. -/
def stepLines (step : PlainStep) : List Text :=
  ("    // " ++ comment step.text) :: step.commands.map (fun c => "    " ++ statement c) ++ [[]]

/-- The line that a case starts with. -/
def caseHead (name : Text) : Text :=
  "  test(" ++ single name ++ ", async (\x7b page \x7d) => \x7b"

/-- The lines that a case ends with. -/
def caseEnd : List Text := ["  \x7d);", []]

/-- The lines of a case. -/
def caseLines (case : PlainCase) : List Text :=
  caseHead case.name :: case.steps.flatMap stepLines ++ caseEnd

/-- The lines that the module starts with. -/
def head (title : Text) : List Text :=
  ["import \x7b test, expect \x7d from '@playwright/test';", [],
   "test.describe(" ++ single title ++ ", () => \x7b"]

/-- The lines of the module. -/
def lines (suite : PlainSuite) : List Text :=
  head suite.title ++ suite.cases.flatMap caseLines ++ [("\x7d);" : Text)]

end Scenarist.PlaywrightJs
