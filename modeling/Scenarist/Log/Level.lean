/-
Levels of importance of a log message, their names, and the console form of a message; log entries
and which of them pass a level.
-/

import Scenarist.Text.Basic

namespace Scenarist.Log

/-! ### Levels -/

/-- Any integer is a level; a higher one is more important. -/
abbrev Level := Int

namespace Level

/-- No level of its own. -/
def notSet : Level := 0

/-- The level of details. -/
def debug : Level := 10

/-- The level of what happens. -/
def info : Level := 20

/-- The level of what may be wrong. -/
def warning : Level := 30

/-- The level of what went wrong. -/
def error : Level := 40

/-- The level of what stops the program. -/
def critical : Level := 50

/-- The names that a level may be asked for by. -/
def names : List (Text × Level) :=
  [("CRITICAL", critical), ("FATAL", critical), ("ERROR", error), ("WARN", warning),
   ("WARNING", warning), ("INFO", info), ("DEBUG", debug), ("NOTSET", notSet)]

/-- The capital ASCII letter that `c` has as its upper case, or `c` itself. -/
def upper (c : Char) : Char :=
  if 'a' ≤ c ∧ c ≤ 'z' then Char.ofNat (c.toNat - 32)
  else if c = 'ı' then 'I'
  else if c = 'ſ' then 'S'
  else c

/-- The level of this name, whatever the case of its letters. -/
def ofName? (name : Text) : Option Level := names.lookup (name.map upper)

/-- The name under which a level is shown. -/
def label (level : Level) : Text :=
  if level = critical then "CRITICAL"
  else if level = error then "ERROR"
  else if level = warning then "WARNING"
  else if level = info then "INFO"
  else if level = debug then "DEBUG"
  else if level = notSet then "NOTSET"
  else "Level " ++ Text.ofInt level

/-- What switches the console to the colour of a level. -/
def colour (level : Level) : Text :=
  if level = debug then "\x1b[36m"
  else if level = info then "\x1b[32m"
  else if level = warning then "\x1b[33m"
  else if level = error then "\x1b[31m"
  else if level = critical then "\x1b[31m\x1b[1m"
  else []

end Level

/-- There is no level of this name. -/
structure UnknownLevel where
  name : Text
  deriving DecidableEq, Repr

/-- The wording of an unknown level. -/
def UnknownLevel.message (e : UnknownLevel) : Text := "Unknown log level: " ++ e.name

/-- A level by name or by number. -/
inductive Request where
  | named (name : Text)
  | numbered (level : Level)

/-- The level asked for. -/
def Request.resolve : Request → Except UnknownLevel Level
  | .named name =>
    match Level.ofName? name with
    | some level => .ok level
    | none => .error ⟨name⟩
  | .numbered level => .ok level

/-- A number in two digits at least. -/
def twoDigits (n : Nat) : Text := if n < 10 then '0' :: Text.ofNat n else Text.ofNat n

/-- The time of day of a moment in seconds since the epoch, in universal time. -/
def timeOfDay (seconds : Int) : Text :=
  let second := (seconds % 86400).toNat
  twoDigits (second / 3600) ++ ":" ++ twoDigits (second / 60 % 60) ++ ":" ++
    twoDigits (second % 60)

/-- The console line of a message: time, logger, coloured level and text. -/
def consoleLine (seconds : Int) (logger : Text) (level : Level) (message : Text) : Text :=
  timeOfDay seconds ++ " - " ++ logger ++ " - " ++ level.colour ++ level.label ++ "\x1b[0m" ++
    " - " ++ message

/-! ### Entries -/

/-- The parts of the program that log. -/
inductive Channel where
  | settings
  | documents
  | steps
  | suites
  | runs
  | command
  deriving DecidableEq, Repr

/-- The name of a part's logger. -/
def Channel.label : Channel → Text
  | settings => "bddgen.core.config_manager"
  | documents => "bddgen.parser.feature_parser"
  | steps => "bddgen.parser.step_mapper"
  | suites => "bddgen.generator.script_generator"
  | runs => "bddgen.executor.generation_executor"
  | command => "run"

/-- A message of a part of the program. -/
structure Entry where
  channel : Channel
  level : Level
  text : Text
  deriving DecidableEq, Repr

/-- The level from which messages are shown: a logger without a level of its own goes by the root,
which shows warnings. -/
def threshold (level : Level) : Level := if level = Level.notSet then Level.warning else level

/-- Does an entry pass when loggers are set to `level`? -/
def Entry.passes (level : Level) (entry : Entry) : Bool := threshold level ≤ entry.level

end Scenarist.Log
