/-
The program. It copies the files that a run looks at from the real disk, calls the command on the
copy, and carries out what the command changed, logged and printed.
-/

import Scenarist.CommandLine.Command
import Std.Time.DateTime.Timestamp

namespace Scenarist.Program

/-- The names in a folder of the real disk, if there is one. -/
def namesIn (name : String) : IO (Option (List String)) := do
  try
    let entries ← ((← IO.currentDir) / name).readDir
    return some (entries.toList.map (·.fileName))
  catch _ => return none

/-- What is at a place of the real disk. -/
def inspect (name : String) : IO (Option Node) := do
  if (← namesIn name).isSome then return some .folder
  try
    let bytes ← IO.FS.readBinFile name
    return some (.file bytes.toList)
  catch _ => return none

/-- The copy with what is at a path and at the paths above it. -/
def copyPath (disk : Disk) (path : Path) : IO Disk :=
  (List.range path.parts.length).foldlM (fun disk n => do
    let above : Path := ⟨path.anchor, path.parts.take (n + 1)⟩
    match disk.locate above, ← inspect (String.ofList above.text) with
    | .ok location, some node => return disk.put location node
    | _, _ => return disk) disk

/-- The copy with what is at a path and, if that is a folder, what is in it. -/
def copyFolder (disk : Disk) (path : Path) : IO Disk := do
  let names := (← namesIn (String.ofList path.text)).getD []
  names.foldlM (fun disk name => copyPath disk (path.child name.toList)) (← copyPath disk path)

/-- The environment of the program. -/
def environment : IO Environment := do
  try
    let bytes ← IO.FS.readBinFile "/proc/self/environ"
    return (Text.cut '\x00' (Utf8.decodeLossy bytes.toList)).filterMap (Text.cutFirst? '=')
  catch _ => return []

/-- The world at the start: the way to the working folder and the environment. -/
def start : IO World := do
  let here := Path.ofText (toString (← IO.currentDir))
  let disk ← copyPath {} here
  return { disk := { disk with work := here.parts }, env := ← environment }

/-- The world with all that the command will look at. -/
def gather (home : Path) (arguments : List Text) (world : World) : IO World := do
  match CommandLine.parse arguments with
  | .ok (.run options) =>
    let world := { world with disk := ← (options.consulted home).foldlM copyPath world.disk }
    match ((CommandLine.prepare home options).perform world).1 with
    | .ok settings =>
      let paths := CommandLine.consulted settings options
      return { world with disk := ← paths.foldlM copyFolder world.disk }
    | .error _ => return world
  | _ => return world

/-- Carries out on the real disk what is new or different on the copy. -/
def writeBack (before after : Disk) : IO Unit :=
  after.nodes.forM fun (location, node) => do
    if before.nodes.lookup location ≠ some node then
      let name := String.ofList (Path.text ⟨.root, location⟩)
      match node with
      | .folder => IO.FS.createDirAll name
      | .file bytes => IO.FS.writeBinFile name ⟨bytes.toArray⟩

end Scenarist.Program

open Scenarist in
/-- Runs the command with the arguments of the program, whose folder is the home of the settings. -/
def main (args : List String) : IO UInt32 := do
  let home := Path.ofText (toString (← IO.appDir))
  let arguments := args.map String.toList
  let before ← Program.gather home arguments (← Program.start)
  let (result, after) := CommandLine.invoke home arguments before
  Program.writeBack before.disk after.disk
  let now := (← Std.Time.Timestamp.now).toSecondsSinceUnixEpoch.val
  after.log.forM fun entry => IO.println (String.ofList
    (Log.consoleLine now entry.channel.label entry.level entry.text))
  let output := String.ofList result.output
  if result.exitCode = 0 then IO.print output else IO.eprint output
  match result.crash with
  | some failure => IO.eprintln (String.ofList failure.message)
  | none => pure ()
  return UInt32.ofNat result.exitCode
