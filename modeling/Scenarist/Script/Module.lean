/-
From a feature to the text of its test module. Every scenario becomes a case with a method name of
its own and the interpretation of its steps; the target writes the cases down. What had to be left
to be done by hand is logged.
-/

import Scenarist.Script.PlaywrightJs
import Scenarist.Script.PytestPlaywright
import Scenarist.Script.Target
import Scenarist.Log.Level

namespace Scenarist

/-- A suite of named lists of blocks; each gets a method name of its own. -/
def Suite.assemble (title description : Text) (named : List (Text × List Block)) : Suite where
  title := title
  description := description
  cases := (named.zip (Naming.methods (named.map (·.1)))).map fun (scenario, method) =>
    ⟨scenario.1, method, scenario.2⟩

/-- The scenarios of a feature with their steps interpreted. -/
def Feature.interpreted (feature : Feature) : List (Text × List Block) :=
  feature.scenarios.map fun scenario => (scenario.name, scenario.steps.map Step.interpret)

/-- The suite of a feature. -/
def Feature.suite (feature : Feature) : Suite :=
  Suite.assemble feature.title feature.description feature.interpreted

namespace Target

/-- The lines of a suite's module. -/
def lines : Target → PlainSuite → List Text
  | playwrightJs => PlaywrightJs.lines
  | pytestPlaywright => PytestPlaywright.lines

/-- The text of a suite's module: every line with a line feed after it. -/
def moduleText (target : Target) (suite : Suite) : Except MissingParam Text := do
  let plain ← suite.plain
  return (target.lines plain).flatMap fun line => line ++ ['\n']

/-- The text of a feature's module. -/
def emit (target : Target) (feature : Feature) : Except MissingParam Text :=
  target.moduleText feature.suite

end Target

/-! ### What is logged -/

/-- What is logged about a block whose step no intent claims. -/
def Block.entries (block : Block) : List Log.Entry :=
  if block.isManual then
    [⟨.steps, Log.Level.debug, "No rule matched step: " ++ block.step⟩]
  else []

/-- How many steps of a case are left to be done by hand, if any. -/
def Case.entries (case : Case) : List Log.Entry :=
  match (case.blocks.filter Block.isManual).length with
  | 0 => []
  | count + 1 =>
    [⟨.suites, Log.Level.debug, "Scenario '" ++ case.name ++ "': " ++ Text.ofNat (count + 1) ++
      " step(s) need manual implementation"⟩]

/-- What is logged about a suite whose blocks came interpreted. -/
def Suite.entries (suite : Suite) : List Log.Entry := suite.cases.flatMap Case.entries

/-- What is logged about the suite of a feature, interpretation included. -/
def Feature.entries (feature : Feature) : List Log.Entry :=
  feature.suite.cases.flatMap fun case => case.blocks.flatMap Block.entries ++ case.entries

end Scenarist
