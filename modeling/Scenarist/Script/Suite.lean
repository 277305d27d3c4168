/-
Suites: what a test module is written from. A suite has a case for each scenario of a feature, with
a method name of its own and a block for each step. Before it is written its actions are read
strictly as commands.
-/

import Scenarist.Step.Interpretation
import Scenarist.Feature.Document

namespace Scenarist

/-- A named test with its interpreted steps. -/
structure Case where
  name : Text
  method : Text
  blocks : List Block
  deriving DecidableEq, Repr

/-- The cases of a feature under its title and description. -/
structure Suite where
  title : Text
  description : Text
  cases : List Case
  deriving DecidableEq, Repr

/-- A step with the commands that its actions are. -/
structure PlainStep where
  text : Text
  commands : List Command
  deriving DecidableEq, Repr

/-- A case whose actions are all commands. -/
structure PlainCase where
  name : Text
  method : Text
  steps : List PlainStep
  deriving DecidableEq, Repr

/-- A suite whose actions are all commands. -/
structure PlainSuite where
  title : Text
  description : Text
  cases : List PlainCase
  deriving DecidableEq, Repr

/-- The block read strictly. -/
def Block.plain (block : Block) : Except MissingParam PlainStep := do
  return ⟨block.step, ← block.actions.mapM Action.command⟩

/-- The case read strictly, block by block. -/
def Case.plain (case : Case) : Except MissingParam PlainCase := do
  return ⟨case.name, case.method, ← case.blocks.mapM Block.plain⟩

/-- The suite read strictly, case by case. -/
def Suite.plain (suite : Suite) : Except MissingParam PlainSuite := do
  return ⟨suite.title, suite.description, ← suite.cases.mapM Case.plain⟩

end Scenarist
