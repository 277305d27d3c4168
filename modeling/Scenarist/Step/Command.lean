/-
Browser commands and the loose form in which they travel. An action is a kind with named
parameters; read strictly it is a command, or the first parameter it lacks is named.
-/

import Scenarist.Text.Basic

namespace Scenarist

/-- A primitive browser command. -/
inductive Command where
  | goto (url : Text)
  | fill (selector value : Text) (field : Option Text)
  | click (label : Text)
  | waitForLoadState (state : Text)
  | expectText (text : Text)
  | expectVisible
  | expectUrl
  | press (selector key : Text)
  | manual (note : Text)
  deriving DecidableEq, Repr

/-- A kind of command with named parameters. -/
structure Action where
  kind : Text
  params : List (Text × Text)
  deriving DecidableEq, Repr

/-- An action has no parameter of this name. -/
structure MissingParam where
  name : Text
  deriving DecidableEq, Repr

/-- The wording of a missing parameter. -/
def MissingParam.message (e : MissingParam) : Text :=
  "'dict object' has no attribute " ++ ['\''] ++ e.name ++ ['\'']

/-- A command in its loose form. -/
def Command.action : Command → Action
  | .goto url => ⟨"goto", [("url", url)]⟩
  | .fill selector value none => ⟨"fill", [("selector", selector), ("value", value)]⟩
  | .fill selector value (some field) =>
    ⟨"fill", [("selector", selector), ("value", value), ("field", field)]⟩
  | .click label => ⟨"click", [("label", label)]⟩
  | .waitForLoadState state => ⟨"wait_for_load_state", [("state", state)]⟩
  | .expectText text => ⟨"expect_text", [("text", text)]⟩
  | .expectVisible => ⟨"expect_visible", []⟩
  | .expectUrl => ⟨"expect_url", []⟩
  | .press selector key => ⟨"press", [("selector", selector), ("key", key)]⟩
  | .manual note => ⟨"manual", [("note", note)]⟩

namespace Action

/-- The value of a parameter. -/
def param? (action : Action) (name : Text) : Option Text := action.params.lookup name

/-- The value of a parameter that has to be there. -/
def param (action : Action) (name : Text) : Except MissingParam Text :=
  match action.param? name with
  | some value => .ok value
  | none => .error ⟨name⟩

/-- The action read strictly. A kind that is no command's leaves its note to be done by hand. -/
def command (action : Action) : Except MissingParam Command :=
  if action.kind = "goto" then do return .goto (← action.param "url")
  else if action.kind = "fill" then do
    let selector ← action.param "selector"
    let value ← action.param "value"
    return .fill selector value (action.param? "field")
  else if action.kind = "click" then do return .click (← action.param "label")
  else if action.kind = "wait_for_load_state" then do
    return .waitForLoadState (← action.param "state")
  else if action.kind = "expect_text" then do return .expectText (← action.param "text")
  else if action.kind = "expect_visible" then .ok .expectVisible
  else if action.kind = "expect_url" then .ok .expectUrl
  else if action.kind = "press" then do
    let selector ← action.param "selector"
    let key ← action.param "key"
    return .press selector key
  else do return .manual (← action.param "note")

end Action

end Scenarist
