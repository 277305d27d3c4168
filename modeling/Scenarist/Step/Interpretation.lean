/-
From steps to commands. An intent takes from the step what its command needs: a quoted passage, the
address at the end of a navigation, the label of a click, the text that is to be seen. What a step
does not say is filled in with a fixed value.
-/

import Scenarist.Step.Intent
import Scenarist.Step.Command
import Scenarist.Text.Basic
import Scenarist.Literal.Basic

namespace Scenarist

/-- An interpreted step: its text, the name of its intent, and the actions in place of it. -/
structure Block where
  step : Text
  intent : Text
  actions : List Action
  deriving DecidableEq, Repr

namespace Step

/-- Where a navigation goes that names no address. -/
def defaultUrl : Text := "https://www.google.com/"

/-- The address typed where none is quoted. -/
def defaultEmail : Text := "test@example.com"

/-- The password typed where none is quoted. -/
def defaultPassword : Text := "password123"

/-- The label of a click that names none. -/
def defaultButton : Text := "Submit"

/-- The text expected where none is named. -/
def defaultText : Text := "expected text"

/-- The search term typed where none is quoted. -/
def defaultSearch : Text := "search term"

/-- The selector of an address field. -/
def emailSelector : Text := "input[type=\"email\"]"

/-- The selector of a password field. -/
def passwordSelector : Text := "input[type=\"password\"]"

/-- The selector of any text field. -/
def textSelector : Text := "input, textarea"

/-- The selector of a search field. -/
def searchSelector : Text := "input[name=\"q\"], input[type=\"search\"]"

/-- The note left for a step that no intent claims. -/
def manualNote : Text := "TODO: Implement this step"

/-- What the line after a navigation word says, if the text ends with that line. -/
def wholeLine? (rest : Text) : Option Text :=
  let after := rest.dropWhile Text.isBlank
  let line := after.takeWhile (· ≠ '\n')
  match after.dropWhile (· ≠ '\n') with
  | [] => some line
  | [_] => some line
  | _ => none

/-- What follows the first navigation word that is followed to the end of the text. -/
def destination? (step : Text) : Option Text :=
  Text.firstAt (fun here => (Text.afterOneOf? Intent.navigationWords here).bind wholeLine?) step

/-- Does the token look like an address? -/
def isUrlShaped (token : Text) : Bool := token.any fun c => c = '.' ∨ c = '/' ∨ c = ':'

/-- The address of a navigation: the first quoted passage, or the last token of the destination
if it looks like an address. -/
def url (step : Text) : Text :=
  match Literal.firstPassage? step with
  | some passage => passage
  | none =>
    match (Text.tokens ((destination? step).getD [])).getLast? with
    | some token => if isUrlShaped token then token else defaultUrl
    | none => defaultUrl

/-- What remains after one or more blanks at the start of a text, the longest run of blanks
first. -/
def afterBlanks : Text → List Text
  | [] => []
  | c :: rest => if Text.isBlank c then afterBlanks rest ++ [rest] else []

/-- The text up to the next double quote, after an opening one if there is one. The part before
the quote must not be empty. -/
def captured? (t : Text) : Option Text :=
  let upToQuote (t : Text) : Option Text :=
    match t.takeWhile (· ≠ '"') with
    | [] => none
    | part => some part
  match t with
  | '"' :: rest => (upToQuote rest).orElse fun _ => upToQuote t
  | _ => upToQuote t

/-- The label after the word of a click: blanks, perhaps an article with blanks, the label. Each
part takes as much as it can and gives back when the label would stay empty. -/
def labelAfter? (t : Text) : Option Text :=
  (afterBlanks t).findSome? fun rest =>
    let afterArticle : List Text := match Text.afterWord? "the" rest with
      | some more => afterBlanks more
      | none => []
    (afterArticle ++ [rest]).findSome? captured?

/-- The label of a click, as far as the step names one. -/
def label? (step : Text) : Option Text :=
  Text.firstAt (fun here => (Text.afterOneOf? ["click", "press"] here).bind labelAfter?) step

/-- The text to be seen, as far as the step names one. -/
def expected? (step : Text) : Option Text :=
  Text.firstAt (fun here => (Text.afterOneOf? ["see", "contain"] here).bind fun rest =>
    (afterBlanks rest).findSome? captured?) step

/-- The commands that an intent puts in the place of a step. -/
def commands (intent : Intent) (step : Text) : List Command :=
  match intent with
  | .navigate => [.goto (url step)]
  | .fillEmail => [.fill emailSelector ((Literal.firstPassage? step).getD defaultEmail) none]
  | .fillPassword =>
    [.fill passwordSelector ((Literal.firstPassage? step).getD defaultPassword) none]
  | .fillField =>
    match Literal.passages step with
    | field :: value :: _ => [.fill textSelector value (some field)]
    | _ => []
  | .click => [.click (((label? step).map Text.strip).getD defaultButton)]
  | .wait => [.waitForLoadState "networkidle"]
  | .assertText => [.expectText ((expected? step).getD defaultText)]
  | .assertVisible => [.expectVisible]
  | .assertUrl => [.expectUrl]
  | .search => [.fill searchSelector ((Literal.firstPassage? step).getD defaultSearch) none]
  | .pressKey => [.press textSelector "Enter"]
  | .unrecognized => [.manual manualNote]

/-- The actions that an intent puts in the place of a step. -/
def actions (intent : Intent) (step : Text) : List Action :=
  (commands intent step).map Command.action

/-- The interpretation of a step. -/
def interpret (step : Text) : Block :=
  let intent := Intent.ofStep step
  ⟨step, intent.label, actions intent step⟩

end Step

/-- Does the block stand for a step that no intent claims? -/
def Block.isManual (block : Block) : Bool := block.intent == Intent.unrecognized.label

end Scenarist
