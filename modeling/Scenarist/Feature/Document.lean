/-
Features, which are a title, a description and named scenarios with their steps, and reading them off
a scenario document. The lines of a document are stripped, blank lines and comments are skipped, and
what a line starts with says what it is. The first title wins; a step belongs to the scenario above
it; other lines describe the feature as long as it has no title.
-/

import Scenarist.Text.Basic

namespace Scenarist

/-- A named list of steps. -/
structure Scenario where
  name : Text
  steps : List Text
  deriving DecidableEq, Repr

/-- What a scenario document says. -/
structure Feature where
  title : Text
  description : Text
  scenarios : List Scenario
  deriving DecidableEq, Repr

/-- Only a feature with a title and a scenario is worth a test module. -/
def Feature.isComplete (feature : Feature) : Bool :=
  !feature.title.isEmpty && !feature.scenarios.isEmpty

/-! ### Reading -/

namespace Document

/-- What a title line starts with. -/
def titleLead : Text := "Feature:"

/-- What the first line of a scenario starts with. -/
def scenarioLead : Text := "Scenario:"

/-- What the lines of a step start with. -/
def stepLeads : List Text := ["Given ", "When ", "Then ", "And ", "But "]

/-- Is the stripped line a step? -/
def isStep (line : Text) : Bool := stepLeads.any fun lead => Text.startsWith line lead

/-- Does the stripped line say anything? -/
def isTelling (line : Text) : Bool := !line.isEmpty && !Text.startsWith line "#"

/-- The stripped lines of a document that say something. -/
def lines (document : Text) : List Text :=
  ((Text.cut '\n' document).map Text.strip).filter isTelling

/-- A feature being read: the scenario that is open takes the steps to come. -/
structure Draft where
  title : Text := []
  remarks : List Text := []
  closed : List Scenario := []
  current : Option Scenario := none
  deriving DecidableEq, Repr

/-- All scenarios of a draft, the open one last. -/
def Draft.scenarios (draft : Draft) : List Scenario := draft.closed ++ draft.current.toList

/-- Takes a line that is neither title nor scenario: a step if a scenario is open, else a remark
on a feature without a title. -/
def Draft.addBody (draft : Draft) (line : Text) : Draft :=
  match draft.current with
  | some scenario =>
    if isStep line then
      { draft with current := some { scenario with steps := scenario.steps ++ [line] } }
    else if draft.title.isEmpty then { draft with remarks := draft.remarks ++ [line] }
    else draft
  | none =>
    if draft.title.isEmpty then { draft with remarks := draft.remarks ++ [line] } else draft

/-- Takes the next line. -/
def Draft.add (draft : Draft) (line : Text) : Draft :=
  match Text.afterLead? titleLead line with
  | some rest => if draft.title.isEmpty then { draft with title := Text.strip rest } else draft
  | none =>
    match Text.afterLead? scenarioLead line with
    | some rest =>
      { draft with closed := draft.scenarios, current := some ⟨Text.strip rest, []⟩ }
    | none => draft.addBody line

/-- The feature that has been read. -/
def Draft.feature (draft : Draft) : Feature where
  title := draft.title
  description := Text.joined " " draft.remarks
  scenarios := draft.scenarios

end Document

/-- The feature that a document describes. -/
def Feature.ofDocument (document : Text) : Feature :=
  ((Document.lines document).foldl Document.Draft.add {}).feature

end Scenarist
