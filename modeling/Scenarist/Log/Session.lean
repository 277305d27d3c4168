/-
The registry of loggers, and calls on it one after another. A logger is set up once, with one handler
and without propagation, at the level last accepted; a new level reaches all loggers set up so far.
The empty name and `root` are the root logger. Each call has an answer and leaves a registry behind;
a call that is refused leaves it as it was.
-/

import Scenarist.Log.Level

namespace Scenarist.Log

/-! ### Loggers -/

/-- A logger. Two names of one logger share its `id`. -/
structure Logger where
  id : Text
  level : Level
  handlers : Nat
  propagate : Bool
  deriving DecidableEq, Repr

/-- The loggers that exist, the names set up so far, and the level for new ones. -/
structure Registry where
  level : Level := Level.info
  names : List Text := []
  loggers : List Logger := [⟨"root", Level.warning, 0, true⟩]
  deriving DecidableEq, Repr

/-- The logger that a name means. -/
def loggerId (name : Text) : Text := if name.isEmpty then "root" else name

/-- The logger with its first handler and the level of the registry. -/
def Logger.prepared (logger : Logger) (level : Level) : Logger :=
  { logger with
    level := level, handlers := max logger.handlers 1, propagate := false }

namespace Registry

/-- The logger with this id. -/
def find? (registry : Registry) (id : Text) : Option Logger :=
  registry.loggers.find? (·.id == id)

/-- The registry in which the logger of a name exists. -/
def ensure (registry : Registry) (id : Text) : Registry :=
  if (registry.find? id).isSome then registry
  else { registry with loggers := registry.loggers ++ [⟨id, Level.notSet, 0, true⟩] }

/-- Changes the logger with this id. -/
def change (registry : Registry) (id : Text) (edit : Logger → Logger) : Registry :=
  { registry with
    loggers := registry.loggers.map fun logger => if logger.id = id then edit logger else logger }

/-- Sets up the logger of a name, unless the name has been set up before. -/
def setup (registry : Registry) (name : Text) : Registry :=
  if registry.names.contains name then registry
  else
    let id := loggerId name
    let registry := (registry.ensure id).change id fun logger => logger.prepared registry.level
    { registry with names := registry.names ++ [name] }

/-- Sets the level of every logger set up so far and of those to come. -/
def setLevel (registry : Registry) (request : Request) : Except UnknownLevel Registry := do
  let level ← request.resolve
  let ids := registry.names.map loggerId
  return { registry with
    level := level
    loggers := registry.loggers.map fun logger =>
      if ids.contains logger.id then { logger with level := level } else logger }

/-- The ids above a logger's: its name cut at each point, the longest first. -/
def ancestors (id : Text) : Nat → List Text
  | 0 => []
  | fuel + 1 =>
    match Text.cutLast? '.' id with
    | some (before, _) => before :: ancestors before fuel
    | none => []

/-- The level that a logger goes by: its own, or that of the nearest logger above that has one. -/
def effectiveLevel (registry : Registry) (id : Text) : Level :=
  let line : List Text := id :: ancestors id id.length ++ [("root" : Text)]
  let levels := (line.filterMap registry.find?).map (·.level)
  (levels.find? (· ≠ Level.notSet)).getD Level.notSet

/-- Does the logger of a name let messages of this level through? Nothing from zero down passes. -/
def isEnabled (registry : Registry) (name : Text) (level : Level) : Bool :=
  0 < level && registry.effectiveLevel (loggerId name) ≤ level

end Registry

/-! ### Calls -/

/-- A call on the registry. -/
inductive Call where
  | setup (name : Text)
  | setLevel (request : Request)

/-- The level that a call sets, if it is accepted. -/
def Call.accepted? : Call → Option Level
  | .setup _ => none
  | .setLevel request => request.resolve.toOption

/-- The level set last, or that of a registry on which none has been set. -/
def lastAccepted (calls : List Call) : Level :=
  (calls.filterMap Call.accepted?).getLast?.getD Level.info

theorem lastAccepted_concat (calls : List Call) (call : Call) :
    lastAccepted (calls ++ [call]) = call.accepted?.getD (lastAccepted calls) := by
  unfold lastAccepted
  cases accepted : call.accepted? <;> simp [List.filterMap_append, accepted]

namespace Registry

/-- The answer to a call, which is the logger that was set up, and the registry after it. -/
def perform (registry : Registry) : Call → Except UnknownLevel (Option Logger) × Registry
  | .setup name =>
    (.ok ((registry.setup name).find? (loggerId name)), registry.setup name)
  | .setLevel request =>
    match registry.setLevel request with
    | .ok changed => (.ok none, changed)
    | .error e => (.error e, registry)

theorem perform_setLevel_ok {registry changed : Registry} {request : Request}
    (accepted : registry.setLevel request = .ok changed) :
    registry.perform (.setLevel request) = (.ok none, changed) := by
  simp [perform, accepted]

theorem perform_setLevel_error {registry : Registry} {request : Request} {e : UnknownLevel}
    (refused : registry.setLevel request = .error e) :
    registry.perform (.setLevel request) = (.error e, registry) := by
  simp [perform, refused]

/-- The registry after the calls. -/
def after (calls : List Call) : Registry :=
  calls.foldl (fun registry call => (registry.perform call).2) {}

theorem after_concat (calls : List Call) (call : Call) :
    after (calls ++ [call]) = ((after calls).perform call).2 := by
  simp [after]

end Registry

end Scenarist.Log
