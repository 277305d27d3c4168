/-
A run: documents are collected, each is read and, if it describes a complete feature, its test
module is written. The bytes of a document have to be UTF-8, and every way to break a line is read as
a line feed. A document that cannot be read fails by itself and does not stop the run.
-/

import Scenarist.Disk.Tree
import Scenarist.Feature.Document
import Scenarist.Run.World
import Scenarist.Script.Module

namespace Scenarist

/-! ### Documents on the disk -/

namespace Document

/-- Why a document cannot be read. -/
inductive Fault where
  | disk (e : Disk.Error)
  | text (e : Utf8.Error)
  deriving DecidableEq, Repr

/-- The wording of the reason. -/
def Fault.message : Fault → Text
  | .disk e => e.message
  | .text e => e.message

/-- A path with a NUL in it is a mistake of the caller, not a document that cannot be read. -/
def Fault.isContained : Fault → Bool
  | .disk .nulInPath => false
  | _ => true

/-- The wording for the document at a path. -/
def Fault.messageAt (fault : Fault) (path : Path) : Text :=
  if fault.isContained then "Cannot read " ++ path.text ++ ": " ++ fault.message
  else fault.message

/-- The text of the file at a path. -/
def textAt (disk : Disk) (path : Path) : Except Fault Text := do
  let bytes ← (disk.read path).mapError Fault.disk
  let text ← (Utf8.decode bytes).mapError Fault.text
  return Text.unifyBreaks text

/-- The feature that the document at a path describes. -/
def featureAt (disk : Disk) (path : Path) : Except Fault Feature := do
  return Feature.ofDocument (← textAt disk path)

end Document

/-! ### Runs -/

/-- What a run goes by. -/
structure RunSettings where
  base : Path
  features : Path
  output : Path
  extension : Text
  target : Target
  /-- The name of the level to log at. -/
  logLevel : Text
  deriving DecidableEq, Repr

/-- The settings with the usual folders below `base`. -/
def RunSettings.ofBase (base : Path) : RunSettings where
  base := base
  features := base.child "features"
  output := base.child "tests"
  extension := ".feature"
  target := .default
  logLevel := "INFO"

/-- What became of a document. -/
inductive Status where
  | generated
  | skipped
  | failed
  deriving DecidableEq, Repr

/-- The name of a status. -/
def Status.label : Status → Text
  | generated => "generated"
  | skipped => "skipped"
  | failed => "failed"

/-- The result of one document. -/
structure Outcome where
  source : Path
  status : Status
  output : Option Path := none
  scenarios : Nat := 0
  error : Option Text := none
  deriving DecidableEq, Repr

/-- The results of a run, in the order of its documents. -/
abbrev Report := List Outcome

/-- How many documents ended with this status. -/
def Report.count (report : Report) (status : Status) : Nat :=
  (report.filter (·.status == status)).length

/-- Why a run stops. -/
inductive RunFault where
  | disk (e : Disk.Error)
  | missing (e : MissingParam)
  deriving DecidableEq, Repr

/-- The wording of the reason. -/
def RunFault.message : RunFault → Text
  | .disk e => e.message
  | .missing e => e.message

/-- The name of the file that the module for a document goes to. -/
def Target.fileFor (target : Target) (extension : Text) (document : Path) : Text :=
  target.fileName (Path.documentStem extension document.name)

namespace RunSettings

/-- The path of a document by its name. -/
def resolve (settings : RunSettings) (name : Text) : Path := settings.features.child name

/-- The path of the module for a document. -/
def outputPath (settings : RunSettings) (document : Path) : Path :=
  settings.output.child (settings.target.fileFor settings.extension document)

/-- Is the name in the features folder that of a document? -/
def isDocument (settings : RunSettings) (disk : Disk) (name : Text) : Except Disk.Error Bool := do
  return (← disk.isFile (settings.features.below name)) && Text.endsWith name settings.extension

/-- The documents in the features folder, in the order of their names. -/
def discover (settings : RunSettings) (disk : Disk) : Except Disk.Error (List Path) := do
  if ← disk.isFolder settings.features then
    let folder ← disk.locate settings.features
    let names ← (disk.namesIn folder).filterM (settings.isDocument disk)
    return names.map settings.features.below
  else return []

/-- The documents of a run: the one selected, or all of the features folder, which is made if it
does not exist. -/
def collect (settings : RunSettings) (selector : Option Text) : Act RunFault (List Path) := do
  match selector with
  | some (c :: name) => return [settings.resolve (c :: name)]
  | _ =>
    if (← Act.ask .disk (·.look? settings.features)).isSome then
      Act.ask .disk settings.discover
    else
      Act.note .runs Log.Level.info ("Creating features directory: " ++ settings.features.text)
      Act.makeFolders .disk settings.features
      return []

/-- Writes the module of a feature. -/
def generate (settings : RunSettings) (document : Path) (feature : Feature) :
    Act RunFault Outcome := do
  let output := settings.outputPath document
  Act.noteAll feature.entries
  match settings.target.emit feature with
  | .error e => throw (.missing e)
  | .ok code =>
    Act.change .disk (·.write output (Utf8.encode code))
    Act.note .runs Log.Level.info (document.name ++ " -> " ++ output.name ++ " (" ++
      Text.ofNat feature.scenarios.length ++ " scenario(s))")
    return { source := document, status := .generated, output := some output,
             scenarios := feature.scenarios.length }

/-- Reads one document. -/
def parse (document : Path) : Act Document.Fault Feature := do
  match Document.featureAt (← get).disk document with
  | .error fault => throw fault
  | .ok feature =>
    Act.note .documents Log.Level.debug ("Parsed " ++ document.text ++ ": " ++
      Text.ofNat feature.scenarios.length ++ " scenario(s)")
    return feature

/-- Processes one document. -/
def process (settings : RunSettings) (document : Path) : Act RunFault Outcome := do
  match ← Act.attempt (parse document) with
  | .error (.disk .nulInPath) => throw (.disk .nulInPath)
  | .error fault =>
    Act.note .runs Log.Level.error
      ("Error processing " ++ document.name ++ ": " ++ fault.message)
    return { source := document, status := .failed, error := some fault.message }
  | .ok feature =>
    if feature.isComplete then settings.generate document feature
    else
      Act.note .runs Log.Level.warning ("No valid scenarios in " ++ document.name)
      return { source := document, status := .skipped }

/-- Says that there are no documents and where one would go. -/
def noteNone (settings : RunSettings) : Act RunFault Unit := do
  Act.note .runs Log.Level.warning
    ("No " ++ settings.extension ++ " files found in " ++ settings.features.text)
  Act.note .runs Log.Level.info ("Create a feature file first, e.g. " ++
    (settings.features.child ("example" ++ settings.extension)).text)

/-- Says how the run went. -/
def noteSummary (settings : RunSettings) (report : Report) : Act RunFault Unit := do
  let count (status : Status) : Text := Text.ofNat (report.count status)
  Act.note .runs Log.Level.info ("Generated: " ++ count .generated ++ ", skipped: " ++
    count .skipped ++ ", failed: " ++ count .failed)
  if report.count .generated ≠ 0 then
    Act.note .runs Log.Level.info ("To run the generated tests: " ++ settings.target.runHint)

/-- Runs over the selected document or all of them. -/
def run (settings : RunSettings) (selector : Option Text) : Act RunFault Report := do
  Act.makeFolders .disk settings.output
  match ← settings.collect selector with
  | [] =>
    settings.noteNone
    return []
  | documents =>
    Act.note .runs Log.Level.info
      ("Processing " ++ Text.ofNat documents.length ++ " feature file(s)...")
    let report ← documents.mapM settings.process
    settings.noteSummary report
    return report

end RunSettings

end Scenarist
