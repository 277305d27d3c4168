/-
The command line: one optional document and the options for the main file of settings, the
environment and the target. Options may stand anywhere before a double dash; a value may be joined
to its option; of an option given twice the last value counts. What is like a misspelt word is told
by the share of the characters in common runs, where the longest common run is taken first and the
parts before and after it are compared in the same way.
-/

import Scenarist.Script.Target
import Scenarist.Literal.Basic

namespace Scenarist.CommandLine

/-! ### Similar words -/

/-- The length of the common start of two texts. -/
def commonStart : Text → Text → Nat
  | a :: s, b :: t => if a = b then commonStart s t + 1 else 0
  | _, _ => 0

/-- A common run: where it starts in either text, and how long it is. -/
structure Run where
  left : Nat
  right : Nat
  length : Nat

/-- The longest common run; of several the one that starts first in `s`, then first in `t`. -/
def longestRun (s t : Text) : Run :=
  let starts := (List.range s.length).flatMap fun i => (List.range t.length).map fun j => (i, j)
  starts.foldl (fun best (i, j) =>
    let length := commonStart (s.drop i) (t.drop j)
    if best.length < length then ⟨i, j, length⟩ else best) ⟨0, 0, 0⟩

/-- How many characters the common runs of two texts have. -/
def commonCount : Nat → Text → Text → Nat
  | 0, _, _ => 0
  | fuel + 1, s, t =>
    let run := longestRun s t
    if run.length = 0 then 0
    else run.length + commonCount fuel (s.take run.left) (t.take run.right) +
      commonCount fuel (s.drop (run.left + run.length)) (t.drop (run.right + run.length))

/-- Are at least three fifths of the characters of the two texts in common runs? -/
def isSimilar (s t : Text) : Bool :=
  3 * (s.length + t.length) ≤ 10 * commonCount (s.length + 1) s t

/-- The choices that are like a word, in order. Beyond three the least alike are left out. -/
def similar (word : Text) (choices : List Text) : List Text :=
  let scored := (choices.filter (isSimilar · word)).map fun choice =>
    (choice, commonCount (choice.length + 1) choice word, choice.length + word.length)
  let better (a b : Text × Nat × Nat) : Bool :=
    if a.2.1 * b.2.2 = b.2.1 * a.2.2 then Text.le b.1 a.1 else b.2.1 * a.2.2 < a.2.1 * b.2.2
  (((scored.mergeSort better).take 3).map (·.1)).mergeSort Text.le

/-! ### Options -/

/-- The options. -/
inductive Flag where
  | config
  | env
  | target
  | help
  deriving DecidableEq, Repr

/-- The long name of an option. -/
def Flag.long : Flag → Text
  | config => "--config"
  | env => "--env"
  | target => "--target"
  | help => "--help"

/-- The letter of an option. -/
def Flag.letter? : Flag → Option Char
  | config => some 'c'
  | env => some 'e'
  | target => some 't'
  | help => none

/-- What an option is for. -/
def Flag.purpose : Flag → Text
  | config => "Path to config file"
  | env => "Environment overlay to apply"
  | target => "Output flavour (overrides generator.target)"
  | help => "Show this message and exit."

/-- The spellings of an option. -/
def Flag.spellings (flag : Flag) : List Text :=
  flag.long :: (flag.letter?.map fun letter => ['-', letter]).toList

/-- All options. -/
def Flag.all : List Flag := [config, env, target, help]

/-- Does the option take a value? -/
def Flag.takesValue (flag : Flag) : Bool := flag != help

/-- What is wrong with a command line. -/
inductive Fault where
  | noSuchOption (name : Text) (meant : List Text)
  | valueMissing (name : Text)
  | valueUnwanted (name : Text)
  | targetUnknown (value : Text)
  | tooMany (arguments : List Text)
  deriving DecidableEq, Repr

/-- The wording of what is wrong. -/
def Fault.message : Fault → Text
  | .noSuchOption name [] => "No such option: " ++ name
  | .noSuchOption name [meant] =>
    "No such option: " ++ name ++ " Did you mean " ++ meant ++ "?"
  | .noSuchOption name meant =>
    "No such option: " ++ name ++ " (Possible options: " ++ Text.joined ", " meant ++ ")"
  | .valueMissing name => "Option '" ++ name ++ "' requires an argument."
  | .valueUnwanted name => "Option '" ++ name ++ "' does not take a value."
  | .targetUnknown value =>
    "Invalid value for '--target' / '-t': " ++ Literal.printable value ++ " is not one of " ++
      Text.joined ", " (Target.all.map fun target => Literal.printable target.name) ++ "."
  | .tooMany [argument] => "Got unexpected extra argument (" ++ argument ++ ")"
  | .tooMany arguments =>
    "Got unexpected extra arguments (" ++ Text.joined " " arguments ++ ")"

/-- Is the usage shown with the fault? It is not when the value of an option is at fault. -/
def Fault.showsUsage : Fault → Bool
  | .valueMissing _ => false
  | .valueUnwanted _ => false
  | _ => true

/-- How the command is used. -/
def usage : Text := "Usage: run.py [OPTIONS] [FEATURE_FILE]\n"

/-- The report of a fault. -/
def Fault.report (fault : Fault) : Text :=
  (if fault.showsUsage then usage ++ "Try 'run.py --help' for help.\n\n" else []) ++
    "Error: " ++ fault.message ++ "\n"

/-- What the command says of itself. -/
def help : Text :=
  usage ++ "\n" ++
  "  Generate Playwright tests from BDD feature files\n" ++ "\n" ++
  "  Examples:     # Process every feature file in features/     python run.py\n" ++ "\n" ++
  "      # Process a single feature file     python run.py login.feature\n" ++ "\n" ++
  "Options:\n" ++
  "  -c, --config TEXT               " ++ Flag.config.purpose ++ "\n" ++
  "  -e, --env TEXT                  " ++ Flag.env.purpose ++ "\n" ++
  "  -t, --target [playwright-js|pytest-playwright]\n" ++
  "                                  " ++ Flag.target.purpose ++ "\n" ++
  "  --help                          " ++ Flag.help.purpose ++ "\n"

/-- The options given, in order, and the other arguments. -/
structure Given where
  options : List (Flag × Text) := []
  arguments : List Text := []
  deriving DecidableEq, Repr

/-- The command line with one more option. -/
def Given.add (given : Given) (flag : Flag) (value : Text) : Given :=
  { given with options := given.options ++ [(flag, value)] }

/-- An option by its letter, the letters after it in `rest`: what is left of a cluster is the value
of an option that takes one. Returns the options and whether the next argument is wanted as the
value of the last one. -/
def cluster : Text → Except Fault (List (Flag × Text) × Option (Text × Flag))
  | [] => .ok ([], none)
  | c :: rest =>
    match Flag.all.find? (·.letter? = some c) with
    | none => .error (.noSuchOption ['-', c] [])
    | some flag =>
      if flag.takesValue then
        match rest with
        | [] => .ok ([], some (['-', c], flag))
        | value => .ok ([(flag, value)], none)
      else do
        let (options, wanted) ← cluster rest
        return ((flag, []) :: options, wanted)

/-- An argument that starts with a dash: the options in it, and the name and option that want the
next argument as their value. -/
def option (argument : Text) : Except Fault (List (Flag × Text) × Option (Text × Flag)) :=
  let (name, joined) : Text × Option Text := match Text.cutFirst? '=' argument with
    | some (name, value) => (name, some value)
    | none => (argument, none)
  match Flag.all.find? (·.long = name) with
  | some flag =>
    if flag.takesValue then
      match joined with
      | some value => .ok ([(flag, value)], none)
      | none => .ok ([], some (name, flag))
    else
      match joined with
      | some _ => .error (.valueUnwanted name)
      | none => .ok ([(flag, [])], none)
  | none =>
    if Text.startsWith argument ['-', '-'] then
      .error (.noSuchOption name (similar name (Flag.all.map Flag.long)))
    else cluster argument.tail

/-- Does an argument hold options? A lone dash does not. -/
def isOption (argument : Text) : Bool := Text.startsWith argument ['-'] && argument != ['-']

/-- Reads the arguments as far as they are in order; `wanted` is the option whose value comes next.
-/
def readFrom : Option (Text × Flag) → List Text → Given → Given × Option Fault
  | none, [], given => (given, none)
  | some (name, _), [], given => (given, some (.valueMissing name))
  | some (_, flag), value :: rest, given => readFrom none rest (given.add flag value)
  | none, argument :: rest, given =>
    if argument = ['-', '-'] then
      ({ given with arguments := given.arguments ++ rest }, none)
    else if isOption argument then
      match option argument with
      | .ok (options, wanted) =>
        readFrom wanted rest { given with options := given.options ++ options }
      | .error fault => (given, some fault)
    else readFrom none rest { given with arguments := given.arguments ++ [argument] }

/-- Reads the arguments, which must be in order. -/
def read (arguments : List Text) : Except Fault Given :=
  match readFrom none arguments {} with
  | (given, none) => .ok given
  | (_, some fault) => .error fault

/-- The last value of an option. -/
def Given.value? (given : Given) (flag : Flag) : Option Text :=
  (given.options.filter (·.1 = flag)).getLast?.map (·.2)

/-- What a command line asks for. -/
structure Options where
  document : Option Text
  config : Option Text
  env : Option Text
  target : Option Target
  deriving DecidableEq, Repr

/-- A command line that is in order. -/
inductive Order where
  | help
  | run (options : Options)
  deriving DecidableEq, Repr

/-- The target asked for. -/
def Given.target? (given : Given) : Except Fault (Option Target) :=
  match given.value? .target with
  | none => .ok none
  | some name =>
    match Target.ofName? name with
    | some target => .ok (some target)
    | none => .error (.targetUnknown name)

/-- What the arguments ask for. Help goes before everything that is readable. -/
def parse (arguments : List Text) : Except Fault Order := do
  let given ← read arguments
  if (given.value? .help).isSome then return .help
  else
    let target ← given.target?
    match given.arguments with
    | _ :: extra :: more => .error (.tooMany (extra :: more))
    | document =>
      return .run {
        document := document.head?
        config := given.value? .config
        env := given.value? .env
        target := target }

end Scenarist.CommandLine
