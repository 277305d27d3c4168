/-
What a step is meant to do. An intent claims a step by a pattern that it finds in it; the first
intent in the order of `Intent.ruled` that claims a step has it.
-/

import Scenarist.Text.Pattern

namespace Scenarist

/-- The intents of the step language. -/
inductive Intent where
  | navigate
  | fillEmail
  | fillPassword
  | fillField
  | click
  | wait
  | assertText
  | assertVisible
  | assertUrl
  | search
  | pressKey
  | unrecognized
  deriving DecidableEq, Repr

namespace Intent

/-- The intents that claim steps, in the order in which they are asked. -/
def ruled : List Intent :=
  [navigate, fillEmail, fillPassword, fillField, click, wait, assertText, assertVisible,
   assertUrl, search, pressKey]

/-- The name of an intent. -/
def label : Intent → Text
  | navigate => "navigate"
  | fillEmail => "fill_email"
  | fillPassword => "fill_password"
  | fillField => "fill_field"
  | click => "click"
  | wait => "wait"
  | assertText => "assert_text"
  | assertVisible => "assert_visible"
  | assertUrl => "assert_url"
  | search => "search"
  | pressKey => "press_key"
  | unrecognized => "unrecognized"

/-- What a navigation says before the address. -/
def navigationWords : List Text := ["am on", "navigate to", "open"]

/-- What an intent looks for in a step. -/
def pattern : Intent → Text.Pattern
  | navigate => .seq .start (.seq (.words ["Given I "]) (.words navigationWords))
  | fillEmail => .seq (.words ["enter"]) (.seq .line (.words ["email"]))
  | fillPassword => .seq (.words ["enter"]) (.seq .line (.words ["password"]))
  | fillField =>
    .either (.words ["enter"])
      (.seq (.words ["fill"]) (.seq .line (.words ["field", "box", "input"])))
  | click => .words ["click", "press"]
  | wait => .words ["wait"]
  | assertText => .words ["should see", "should contain", "contains"]
  | assertVisible => .words ["should be visible", "is visible", "appears"]
  | assertUrl => .words ["should be on", "should be at", "am on"]
  | search => .words ["search", "type"]
  | pressKey => .words ["press enter", "press key"]
  | unrecognized => .words []

/-- Does the intent claim the step? -/
def claims (intent : Intent) (step : Text) : Bool := intent.pattern.search step

/-- The intent of a step. -/
def ofStep (step : Text) : Intent := (ruled.find? (·.claims step)).getD unrecognized

/-- Every intent that claims the step, in the order in which they are asked. -/
def claimants (step : Text) : List Intent := ruled.filter (·.claims step)

end Intent

end Scenarist
