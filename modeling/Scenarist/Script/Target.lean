/-
Targets: the flavours of test module that can be written, what their files are called and how the
files are run.
-/

import Scenarist.Text.Basic

namespace Scenarist

/-- The flavours of test module. -/
inductive Target where
  | playwrightJs
  | pytestPlaywright
  deriving DecidableEq, Repr

namespace Target

/-- The flavours in the order of their names. -/
def all : List Target := [playwrightJs, pytestPlaywright]

/-- The target of a run that names none. -/
def default : Target := playwrightJs

/-- The name of a target. -/
def name : Target → Text
  | playwrightJs => "playwright-js"
  | pytestPlaywright => "pytest-playwright"

/-- The target with this name. -/
def ofName? (name : Text) : Option Target := all.find? (·.name == name)

/-- The layout of a target by name. -/
def template : Target → Text
  | playwrightJs => "playwright_js.j2"
  | pytestPlaywright => "pytest_playwright.j2"

/-- What stands before and after the stem in the name of a module's file. -/
def affixes : Target → Text × Text
  | playwrightJs => ([], ".spec.js")
  | pytestPlaywright => ("test_", ".py")

/-- The file of the module for the document with this stem. -/
def fileName (target : Target) (stem : Text) : Text :=
  target.affixes.1 ++ stem ++ target.affixes.2

/-- The naming of a target's files, with the place of the stem marked. -/
def filePattern (target : Target) : Text := target.fileName "\x7bstem\x7d"

/-- How the modules are run. -/
def runHint : Target → Text
  | playwrightJs => "npx playwright test"
  | pytestPlaywright => "pytest --browser chromium"

/-- The names that a message offers. -/
def offered : Text := Text.joined ", " (all.map name)

end Target

/-- There is no target of this name. -/
structure UnknownTarget where
  name : Text
  deriving DecidableEq, Repr

/-- The wording of an unknown target. -/
def UnknownTarget.message (e : UnknownTarget) : Text :=
  "Unknown target '" ++ e.name ++ "', expected one of: " ++ Target.offered

end Scenarist
