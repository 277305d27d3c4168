/-
Loading the settings of a run: the environment file first, then the defaults, the main file and the
file of the chosen environment, with the variables of the environment put in at the end. The loaded
settings are then resolved to what a run goes by.
-/

import Scenarist.Run.World
import Scenarist.Run.Report
import Scenarist.Settings.EnvFile
import Scenarist.Settings.Parse

namespace Scenarist

/-- A value was needed as a mapping and is of another kind. -/
structure NotMapping where
  kind : Text
  deriving DecidableEq, Repr

/-- The wording of a value that is no mapping. -/
def NotMapping.message (e : NotMapping) : Text :=
  ['\''] ++ e.kind ++ "' object has no attribute 'items'"

/-- The entries of a value that has to be a mapping. -/
def Value.entries (value : Value) : Except NotMapping Entries :=
  match value.entries? with
  | some entries => .ok entries
  | none => .error ⟨value.kindName⟩

namespace Configuration

/-! ### Loading -/

/-- The settings that hold where no file says otherwise. -/
def defaults : Entries :=
  [(.text "paths", .map
      [(.text "base_dir", .null), (.text "features", .text "features"),
       (.text "output", .text "tests")]),
   (.text "generator", .map
      [(.text "target", .text Target.default.name),
       (.text "feature_extension", .text ".feature")]),
   (.text "logging", .map [(.text "level", .text "INFO")])]

/-- The main file and the name of the environment. -/
structure Source where
  path : Path
  environment : Text
  deriving DecidableEq, Repr

/-- The file of the environment, in the folder `environments` beside the main file. -/
def Source.environmentPath (source : Source) : Path :=
  (source.path.parent.child "environments").child (source.environment ++ ".yaml")

/-- Why the settings cannot be loaded. -/
inductive LoadFault where
  | disk (e : Disk.Error)
  | text (e : Utf8.Error)
  | variable (e : EnvFile.Fault)
  | invalidYaml (path : Path)
  | notMapping (path : Path)
  | flaw (e : Yaml.Flaw)
  | overrides (e : NotMapping)
  /-- A value stands inside itself. -/
  | endless
  deriving DecidableEq, Repr

/-- The wording of the reason. -/
def LoadFault.message : LoadFault → Text
  | .disk e => e.message
  | .text e => e.message
  | .variable e => e.message
  | .invalidYaml path => "Invalid YAML in " ++ path.text
  | .notMapping path => "Expected a mapping at the top of " ++ path.text
  | .flaw e => e.message
  | .overrides e => e.message
  | .endless => Yaml.Flaw.depthMessage

/-- The mapping in the YAML file at a path, the `file`th of those that are read together; an empty
file has none of its own. -/
def mappingAt (disk : Disk) (file : Nat) (path : Path) : Except LoadFault (Entries × Ties) := do
  let bytes ← (disk.read path).mapError LoadFault.disk
  match TiedValue.ofYaml file (Yaml.Supply.ofBytes bytes) with
  | .ok { value := .null, .. } => return ([], [])
  | .ok { value := .map entries, ties } => return (entries, ties)
  | .ok _ => .error (.notMapping path)
  | .error .malformed => .error (.invalidYaml path)
  | .error .cutShort => .error (.invalidYaml path)
  | .error (.encoding e) => .error (.text e)
  | .error flaw => .error (.flaw flaw)

/-- The environment file of the working folder. The file is searched for in the folder of the module
that loads the settings and in every folder above, and the first one counts. So the working folder is
right for a run in the folder that the program is kept in, or above it, as long as no folder on the
way there has such a file; if the working folder has none either, no folder above may have one. Other
runs are not described. -/
def environmentFile : Path := Path.ofText ".env"

/-- Loads the environment file, if there is one. -/
def loadEnvironment : Act LoadFault Unit := do
  let world ← get
  match world.disk.read environmentFile with
  | .error _ => return ()
  | .ok bytes =>
    match Utf8.decode bytes with
    | .error e => throw (.text e)
    | .ok text =>
      let (env, fault) := EnvFile.load world.env (Text.unifyBreaks text)
      modify fun world => { world with env := env }
      match fault with
      | some e => throw (.variable e)
      | none => return ()

/-- Changes the settings loaded so far, and the places that hold one mapping. -/
def edit (change : Entries × Ties → Entries × Ties) : Act LoadFault Unit :=
  modify fun world =>
    let (settings, ties) := change (world.settings, world.ties)
    { world with settings := settings, ties := ties }

/-- Fails if the settings stand inside themselves, on a way through mappings, and through lists as
well if `lists`. -/
def refuseEndless (lists : Bool) : Act LoadFault Unit := do
  if (Value.map (← get).settings).isEndless lists then throw .endless

/-- Is there anything at the path? -/
def isThere (path : Path) : Act LoadFault Bool := do
  return (← Act.ask .disk (·.look? path)).isSome

/-- The mapping in a YAML file of the disk, with the places that hold one mapping. -/
def readMapping (file : Nat) (path : Path) : Act LoadFault (Entries × Ties) := do
  match mappingAt (← get).disk file path with
  | .ok layer => return layer
  | .error fault => throw fault

/-- Lays the main mapping over the settings. -/
def applyMain (layer : Entries × Ties) : Act LoadFault Unit :=
  edit fun (settings, _) => (settings.merge layer.1, layer.2.above settings)

/-- The key under which an environment keeps its overrides. -/
def overridesKey : Key := .text "overrides"

/-- Applies the overrides in the mapping of an environment, if it has any. -/
def applyOverrides (layer : Entries) : Act LoadFault Unit := do
  match layer.get? overridesKey with
  | some value =>
    match value.entries with
    | .ok overrides => edit fun (settings, ties) => settings.overrideAll ties overrides
    | .error e => throw (.overrides e)
  | none => return ()

/-- Lays the mapping of an environment over the settings: its overrides first, then the rest. -/
def applyEnvironment (layer : Entries) : Act LoadFault Unit := do
  applyOverrides layer
  refuseEndless false
  edit fun (settings, _) => (settings.merge (layer.drop overridesKey), [])

/-- Lays the mapping of a file over the settings, or says that there is no such file. -/
def layFile (file : Nat) (path : Path) (lay : Entries × Ties → Act LoadFault Unit)
    (level : Log.Level) (missing : Text) : Act LoadFault Unit := do
  if ← isThere path then lay (← readMapping file path)
  else Act.note .settings level (missing ++ path.text)

/-- Puts the variables of the environment into the settings. -/
def substituteEnvironment : Act LoadFault Unit := do
  let env := (← get).env
  edit fun (settings, _) => (Entries.subst env settings, [])

/-- Loads the settings and returns them. What was merged before a failure stays. -/
def load (source : Source) : Act LoadFault Entries := do
  loadEnvironment
  edit fun _ => (defaults, [])
  layFile 1 source.path applyMain Log.Level.debug "Config file not found, using defaults: "
  layFile 2 source.environmentPath (applyEnvironment ·.1) Log.Level.warning
    "Environment config not found: "
  refuseEndless true
  substituteEnvironment
  Act.note .settings Log.Level.debug
    ("Configuration loaded for environment: " ++ source.environment)
  return (← get).settings

/-! ### Resolving -/

/-- Why settings do not say how to run. -/
inductive ResolveFault where
  | target (e : UnknownTarget)
  | extension
  /-- A collection was given for the name of the target. -/
  | targetKind (kind : Text)
  /-- The base folder is no text. -/
  | baseKind (kind : Text)
  /-- The base folder is given in bytes. -/
  | baseBytes
  /-- A folder below the base is no text. -/
  | folderKind (kind : Text)
  /-- An integer of the target or the level has too many digits. -/
  | digitCount
  deriving DecidableEq, Repr

/-- The wording of the reason. -/
def ResolveFault.message : ResolveFault → Text
  | .target e => e.message
  | .extension => "generator.feature_extension must be a non-empty string"
  | .targetKind kind => "unhashable type: '" ++ kind ++ ['\'']
  | .baseKind kind => "expected str, bytes or os.PathLike object, not " ++ kind
  | .baseBytes =>
    "argument should be a str object or an os.PathLike object returning str, not <class 'bytes'>"
  | .folderKind kind =>
    "unsupported operand type(s) for /: 'PosixPath' and '" ++ kind ++ ['\'']
  | .digitCount => Yaml.Flaw.digitLimitMessage []

/-- The value of a setting. -/
def setting (settings : Entries) (path : Text) (fallback : Value) : Value :=
  (Value.map settings).setting path fallback

/-- The base folder: the configured one if there is one. -/
def baseFolder (settings : Entries) (base : Path) : Except ResolveFault Path :=
  let configured := setting settings "paths.base_dir" .null
  if configured.isTruthy then
    match configured with
    | .text t => .ok (Path.ofText t)
    | .bytes _ => .error .baseBytes
    | other => .error (.baseKind ((Text.cut '.' other.kindName).getLastD []))
  else .ok base

/-- The target: the one asked for, or the configured one. -/
def chosenTarget (settings : Entries) (asked : Option Text) : Except ResolveFault Target :=
  let value := match asked with
    | some (c :: name) => Value.text (c :: name)
    | _ => setting settings "generator.target" (.text Target.default.name)
  match value with
  | .list _ => .error (.targetKind value.kindName)
  | .set _ => .error (.targetKind value.kindName)
  | .map _ => .error (.targetKind value.kindName)
  | .text name =>
    match Target.ofName? name with
    | some target => .ok target
    | none => .error (.target ⟨name⟩)
  | other =>
    if other.isWritable then .error (.target ⟨other.shown⟩) else .error .digitCount

/-- The extension of documents. -/
def chosenExtension (settings : Entries) : Except ResolveFault Text :=
  match setting settings "generator.feature_extension" (.text ".feature") with
  | .text (c :: rest) => .ok (c :: rest)
  | _ => .error .extension

/-- A folder below the base. -/
def folder (base : Path) : Value → Except ResolveFault Path
  | .text t => .ok (base.child t)
  | other => .error (.folderKind other.kindName)

/-- What a run goes by according to the settings. -/
def resolve (settings : Entries) (base : Path) (asked : Option Text) :
    Except ResolveFault RunSettings := do
  let base ← baseFolder settings base
  let target ← chosenTarget settings asked
  let extension ← chosenExtension settings
  let features ← folder base (setting settings "paths.features" (.text "features"))
  let output ← folder base (setting settings "paths.output" (.text "tests"))
  let level := setting settings "logging.level" (.text "INFO")
  if !level.isWritable then .error .digitCount
  return {
    base := base
    features := features
    output := output
    extension := extension
    target := target
    logLevel := level.shown }

end Configuration

end Scenarist
