/-
Completion of the command line in a shell. A variable of the environment asks for it: for the script
that a shell needs, or for the words that may stand at a place of a command line, which two other
variables give. Nothing else happens then. White space parts the words of a command line, except
between quotes and behind a backslash; a word whose quote is never closed ends with the text.
-/

import Scenarist.CommandLine.Options
import Scenarist.CommandLine.ShellScript
import Scenarist.Settings.Layer
import Scenarist.Settings.Number

namespace Scenarist.CommandLine

/-! ### The words of a command -/

/-- Does `c` part words? -/
def isWordGap (c : Char) : Bool := c = ' ' || c = '\t' || c = '\r' || c = '\n'

/-- Where in a word the next character stands. -/
inductive WordState where
  | outside
  | inside
  | quoted (quote : Char)
  /-- Behind a backslash, between quotes or not. -/
  | escaped (quote : Option Char)
  deriving DecidableEq, Repr

/-- The words of a text from a place in a word on. `back` is the word so far, last character first,
and `started` says whether there is one even if it has no characters. -/
def wordsFrom : WordState → Text → Bool → Text → List Text
  | .outside, _, _, [] => []
  | .inside, back, started, [] => if started || !back.isEmpty then [back.reverse] else []
  | _, back, _, [] => [back.reverse]
  | .outside, back, started, c :: rest =>
    if isWordGap c then wordsFrom .outside back started rest
    else if c = '\\' then wordsFrom (.escaped none) [] false rest
    else if c = '"' || c = '\'' then wordsFrom (.quoted c) [] true rest
    else wordsFrom .inside [c] false rest
  | .inside, back, started, c :: rest =>
    if isWordGap c then
      if started || !back.isEmpty then back.reverse :: wordsFrom .outside [] false rest
      else wordsFrom .outside [] false rest
    else if c = '\\' then wordsFrom (.escaped none) back started rest
    else if c = '"' || c = '\'' then wordsFrom (.quoted c) back true rest
    else wordsFrom .inside (c :: back) started rest
  | .quoted quote, back, started, c :: rest =>
    if c = quote then wordsFrom .inside back started rest
    else if c = '\\' && quote = '"' then wordsFrom (.escaped (some quote)) back started rest
    else wordsFrom (.quoted quote) (c :: back) started rest
  | .escaped none, back, started, c :: rest => wordsFrom .inside (c :: back) started rest
  | .escaped (some quote), back, started, c :: rest =>
    let back := if c = '\\' || c = quote then back else '\\' :: back
    wordsFrom (.quoted quote) (c :: back) started rest

/-- The words of a text. -/
def words (t : Text) : List Text := wordsFrom .outside [] false t

/-! ### Requests and answers -/

namespace Completion

/-- The variable with the words of the command line. -/
def wordsName : Text := "COMP_WORDS"

/-- The variable with the place in the command line. -/
def placeName : Text := "COMP_CWORD"

/-- Why nothing can be completed. -/
inductive Fault where
  | unset (name : Text)
  | place (flaw : Yaml.Flaw)
  deriving DecidableEq, Repr

/-- The wording of the reason. -/
def Fault.message : Fault → Text
  | .unset name => Literal.printable name
  | .place flaw => flaw.message

/-- A word that may stand at the place. -/
structure Suggestion where
  word : Text
  purpose : Option Text := none
  deriving DecidableEq, Repr

/-- How a suggestion is handed to a shell. -/
def Suggestion.line (shell : Shell) (suggestion : Suggestion) : Text :=
  match shell, suggestion.purpose with
  | .bash, _ => "plain," ++ suggestion.word
  | .zsh, purpose => "plain\n" ++ suggestion.word ++ "\n" ++ purpose.getD ['_']
  | .fish, some purpose => "plain," ++ suggestion.word ++ "\t" ++ purpose
  | .fish, none => "plain," ++ suggestion.word

/-- Does a word look like the start of an option? -/
def isOptionStart (word : Text) : Bool := word.head? = some '-'

/-- The options that start with a word and are not given yet. -/
def optionSuggestions (given : Given) (word : Text) : List Suggestion :=
  if word.isEmpty then []
  else Flag.all.flatMap fun flag =>
    if (given.value? flag).isSome then []
    else (flag.spellings.filter (Text.startsWith · word)).map (⟨·, some flag.purpose⟩)

/-- The targets that start with a word. -/
def targetSuggestions (word : Text) : List Suggestion :=
  ((Target.all.map Target.name).filter (Text.startsWith · word)).map (⟨·, none⟩)

/-- The words that may stand in the place of `word` behind the arguments. -/
def suggestions (arguments : List Text) (word : Text) : List Suggestion :=
  let (given, fault) := readFrom none arguments {}
  let (arguments, word) : List Text × Text :=
    if word = ['='] then (arguments, [])
    else if isOptionStart word then
      match Text.cutFirst? '=' word with
      | some (name, value) => (arguments ++ [name], value)
      | none => (arguments, word)
    else (arguments, word)
  if !arguments.contains ['-', '-'] && isOptionStart word then optionSuggestions given word
  else match Flag.all.find? fun flag =>
      flag.takesValue && flag.spellings.contains (arguments.getLastD []) with
    | some flag => if flag = .target then targetSuggestions word else []
    | none =>
      if fault.isSome || given.arguments.isEmpty then [] else optionSuggestions given word

/-- The number of items from the start that a place stands for; counted from the end if it is
negative. -/
def position (size : Nat) (place : Int) : Int := if place < 0 then size + place else place

/-- The arguments before the place and the word at it. -/
def atPlace (all : List Text) (place : Int) : List Text × Text :=
  let position := position all.length place
  ((all.take position.toNat).drop 1, if position < 0 then [] else all.getD position.toNat [])

/-- The value of a variable, which must be set. -/
def required (env : Environment) (name : Text) : Except Fault Text :=
  match env.lookup name with
  | some value => .ok value
  | none => .error (.unset name)

/-- The arguments and the word that the variables of the environment give. -/
def Shell.request (shell : Shell) (env : Environment) : Except Fault (List Text × Text) := do
  let all := words (← required env wordsName)
  let place ← required env placeName
  match shell with
  | .fish =>
    let arguments := all.drop 1
    if !place.isEmpty && arguments.getLast? = some place then return (arguments.dropLast, place)
    else return (arguments, place)
  | _ =>
    match Yaml.whole 10 place with
    | .ok place => return atPlace all place
    | .error flaw => .error (.place flaw)

/-- What is printed for a request, unless there is no such shell or service. -/
def answer (env : Environment) (request : Text) : Except Fault (Option Text) :=
  let (name, service) := (Text.cutFirst? '_' request).getD (request, [])
  match Shell.ofName? name with
  | none => .ok none
  | some shell =>
    if service = "source" then .ok (some (shell.script ++ "\n"))
    else if service = "complete" then do
      let (arguments, word) ← shell.request env
      let lines := (suggestions arguments word).map (Suggestion.line shell)
      return some (Text.joined "\n" lines ++ "\n")
    else .ok none

/-- The request for completion in an environment, if there is one. -/
def request? (env : Environment) : Option Text :=
  match env.lookup requestName with
  | some (c :: rest) => some (c :: rest)
  | _ => none

end Completion

end Scenarist.CommandLine
