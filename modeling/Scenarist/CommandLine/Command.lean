/-
The command: it loads and resolves the settings, sets the level of the log and runs. Faults of the
settings, of the disk and of names end it with a message; faults in the shape of a setting end it
without one. Its output is for what is no terminal: the sequences that steer a terminal are left out.
-/

import Scenarist.CommandLine.Completion
import Scenarist.Run.Configuration

namespace Scenarist.CommandLine

/-! ### Output for what is no terminal -/

/-- May `c` stand between the start and the last letter of a terminal sequence? -/
def isParameter (c : Char) : Bool := c.isDigit || c = ';' || c = '?'

/-- The length of the terminal sequence at the start of a text: an escape, a bracket, parameters and
a letter. -/
def sequenceLength? : Text → Option Nat
  | '\x1b' :: '[' :: rest =>
    let parameters := rest.takeWhile isParameter
    match rest.drop parameters.length with
    | c :: _ => if c.isAlpha then some (parameters.length + 3) else none
    | [] => none
  | _ => none

/-- The text without its terminal sequences; `skip` characters belong to the sequence just met. -/
def withoutSequencesFrom : Nat → Text → Text
  | _, [] => []
  | skip + 1, _ :: rest => withoutSequencesFrom skip rest
  | 0, c :: rest =>
    match sequenceLength? (c :: rest) with
    | some length => withoutSequencesFrom (length - 1) rest
    | none => c :: withoutSequencesFrom 0 rest

/-- The text without its terminal sequences. -/
def withoutSequences (t : Text) : Text := withoutSequencesFrom 0 t

/-! ### The command -/

/-- Why the command ends early. -/
inductive Failure where
  | load (e : Configuration.LoadFault)
  | resolve (e : Configuration.ResolveFault)
  | level (e : Log.UnknownLevel)
  | run (e : RunFault)
  | completion (e : Completion.Fault)
  deriving DecidableEq, Repr

/-- The wording of the reason. -/
def Failure.message : Failure → Text
  | .load e => e.message
  | .resolve e => e.message
  | .level e => e.message
  | .run e => e.message
  | .completion e => e.message

/-- Is the failure reported in the log? Values of the wrong kind are not expected. -/
def Failure.isReported : Failure → Bool
  | .load (.overrides _) => false
  | .load .endless => false
  | .load (.flaw e) => e.isExpected
  | .resolve (.targetKind _) => false
  | .resolve (.baseKind _) => false
  | .resolve .baseBytes => false
  | .resolve (.folderKind _) => false
  | .run (.missing _) => false
  | .completion _ => false
  | _ => true

/-- The version that the command names. -/
def version : Text := "1.0.0"

/-- Sets the level from which entries are logged. -/
def setLevel (name : Text) : Act Log.UnknownLevel Unit := do
  match (Log.Request.named name).resolve with
  | .ok level => modify fun world => { world with level := level }
  | .error e => throw e

/-- Where the settings are by the options; `home` is the folder of the program. -/
def Options.source (options : Options) (home : Path) : Configuration.Source where
  path := match options.config with
    | some config => Path.ofText config
    | none => (home.child "config").child "config.yaml"
  environment := options.env.getD "dev"

/-- Loads and resolves the settings and sets the level. -/
def prepare (home : Path) (options : Options) : Act Failure RunSettings := do
  let loaded ← (Configuration.load (options.source home)).adapt Failure.load
  match Configuration.resolve loaded home (options.target.map Target.name) with
  | .error e => throw (.resolve e)
  | .ok settings =>
    (setLevel settings.logLevel).adapt Failure.level
    return settings

/-- The files that loading the settings looks at. -/
def Options.consulted (options : Options) (home : Path) : List Path :=
  let source := options.source home
  [Configuration.environmentFile, source.path, source.environmentPath]

/-- The files and folders that a run looks at. -/
def consulted (settings : RunSettings) (options : Options) : List Path :=
  settings.features :: settings.output :: (options.document.map settings.resolve).toList

/-- Carries out the command. -/
def execute (home : Path) (options : Options) : Act Failure Report := do
  let settings ← prepare home options
  Act.note .command Log.Level.info
    ("Starting bddgen v" ++ version ++ " (target: " ++ settings.target.name ++ ")")
  (settings.run options.document).adapt Failure.run

/-- What the command leaves behind besides the world. -/
structure Result where
  exitCode : Nat
  output : Text := []
  /-- The failure that was not reported. -/
  crash : Option Failure := none
  deriving DecidableEq, Repr

/-- The result of a request for completion. -/
def completed (env : Environment) (request : Text) : Result :=
  match Completion.answer env request with
  | .ok (some output) => { exitCode := 0, output := output }
  | .ok none => { exitCode := 1 }
  | .error fault => { exitCode := 1, crash := some (.completion fault) }

/-- The command carried out with these arguments. -/
def carryOut (home : Path) (arguments : List Text) (world : World) : Result × World :=
  match parse arguments with
  | .error fault => ({ exitCode := 2, output := withoutSequences fault.report }, world)
  | .ok .help => ({ exitCode := 0, output := help }, world)
  | .ok (.run options) =>
    match (execute home options).perform world with
    | (.ok _, world) => ({ exitCode := 0 }, world)
    | (.error failure, world) =>
      if failure.isReported then
        ({ exitCode := 1 },
          world.note ⟨.command, Log.Level.error, "Generation failed: " ++ failure.message⟩)
      else ({ exitCode := 1, crash := some failure }, world)

/-- The command called with these arguments. A request for completion is all that is answered. -/
def invoke (home : Path) (arguments : List Text) (world : World) : Result × World :=
  match Completion.request? world.env with
  | some request => (completed world.env request, world)
  | none => carryOut home arguments world

end Scenarist.CommandLine
