/-
A tree of files and folders. It is held flat, as the locations that exist with what is there; a
location is the list of names from the root on. Paths are walked part by part: every part but the
last has to be a folder, two dots lead up.
-/

import Scenarist.Disk.Path
import Scenarist.Text.Bytes
import Scenarist.Literal.Basic

namespace Scenarist

/-- What can be at a location. -/
inductive Node where
  | file (bytes : List UInt8)
  | folder
  deriving DecidableEq, Repr

/-- Is it a file? -/
def Node.isFile : Node → Bool
  | file _ => true
  | folder => false

/-- The names from the root down. -/
abbrev Location := List Text

/-- The files and folders below the root, in the order in which they came to be. -/
structure Disk where
  nodes : List (Location × Node) := []
  /-- Where paths without an anchor start. -/
  work : Location := []
  deriving DecidableEq, Repr

namespace Disk

/-- Why the disk refuses. -/
inductive Cause where
  | notFound
  | fileExists
  | notFolder
  | isFolder
  | nameTooLong
  deriving DecidableEq, Repr

/-- An operation that failed: refused at a path, or asked for with a NUL in the path. -/
inductive Error where
  | refused (cause : Cause) (path : Path)
  | nulInPath
  deriving DecidableEq, Repr

/-- The number of a cause. -/
def Cause.number : Cause → Nat
  | .notFound => 2
  | .fileExists => 17
  | .notFolder => 20
  | .isFolder => 21
  | .nameTooLong => 36

/-- The wording of a cause. -/
def Cause.message : Cause → Text
  | .notFound => "No such file or directory"
  | .fileExists => "File exists"
  | .notFolder => "Not a directory"
  | .isFolder => "Is a directory"
  | .nameTooLong => "File name too long"

/-- The wording of a failed operation. -/
def Error.message : Error → Text
  | .refused cause path =>
    "[Errno " ++ Text.ofNat cause.number ++ "] " ++ cause.message ++ ": " ++
      Literal.printable path.text
  | .nulInPath => "embedded null byte"

/-- What is at a location. The root is always a folder. -/
def node? (disk : Disk) (location : Location) : Option Node :=
  if location.isEmpty then some .folder else disk.nodes.lookup location

/-- The disk with `node` at a location. -/
def put (disk : Disk) (location : Location) (node : Node) : Disk :=
  if (disk.nodes.lookup location).isSome then
    { disk with
      nodes := disk.nodes.map fun entry =>
        if entry.1 = location then (location, node) else entry }
  else { disk with nodes := disk.nodes ++ [(location, node)] }

/-- The disk without a location and everything below it. -/
def cutOff (disk : Disk) (location : Location) : Disk :=
  { disk with nodes := disk.nodes.filter fun entry => !location.isPrefixOf entry.1 }

/-- How many bytes a name may have. -/
def nameLimit : Nat := 255

/-- How many bytes a path may have. -/
def pathLimit : Nat := 4095

/-- The location that parts lead to from `here`; it need not exist, but the way to it does. -/
def walk (disk : Disk) : Location → List Text → Except Cause Location
  | here, [] => .ok here
  | here, part :: rest =>
    match disk.node? here with
    | none => .error .notFound
    | some (.file _) => .error .notFolder
    | some .folder =>
      if part = "..".toList then walk disk here.dropLast rest
      else if nameLimit < (Utf8.encode part).length then .error .nameTooLong
      else walk disk (here ++ [part]) rest

/-- The location that a path leads to. -/
def locate (disk : Disk) (path : Path) : Except Error Location :=
  if path.text.contains '\x00' then .error .nulInPath
  else if pathLimit < (Utf8.encode path.text).length then .error (.refused .nameTooLong path)
  else
    let start := if path.anchor = .here then disk.work else []
    (disk.walk start path.parts).mapError (.refused · path)

/-- What is at a path. -/
def look (disk : Disk) (path : Path) : Except Error Node := do
  match disk.node? (← disk.locate path) with
  | some node => return node
  | none => .error (.refused .notFound path)

/-- What is at a path, if anything is; only a name that is too long is an error. -/
def look? (disk : Disk) (path : Path) : Except Error (Option Node) :=
  match disk.look path with
  | .ok node => .ok (some node)
  | .error (.refused .nameTooLong path) => .error (.refused .nameTooLong path)
  | .error _ => .ok none

/-- Is there a folder at the path? -/
def isFolder (disk : Disk) (path : Path) : Except Error Bool := do
  return (← disk.look? path) = some .folder

/-- Is there a file at the path? -/
def isFile (disk : Disk) (path : Path) : Except Error Bool := do
  return (← disk.look? path).any Node.isFile

/-- The bytes of the file at a path. -/
def read (disk : Disk) (path : Path) : Except Error (List UInt8) := do
  match ← disk.look path with
  | .file bytes => return bytes
  | .folder => .error (.refused .isFolder path)

/-- The disk with these bytes in the file at a path. The folder of the file must exist. -/
def write (disk : Disk) (path : Path) (bytes : List UInt8) : Except Error Disk := do
  let location ← disk.locate path
  match disk.node? location with
  | some .folder => .error (.refused .isFolder path)
  | _ => return disk.put location (.file bytes)

/-- The disk with a new folder at a path. -/
def makeFolder (disk : Disk) (path : Path) : Except Error Disk := do
  let location ← disk.locate path
  match disk.node? location with
  | some _ => .error (.refused .fileExists path)
  | none => return disk.put location .folder

/-- Accepts a failure to make a folder where one is already. -/
def acceptFolder (disk : Disk) (path : Path) (e : Error) : Except Error Disk :=
  match e with
  | .nulInPath => .error e
  | .refused _ _ => do if ← disk.isFolder path then return disk else .error e

/-- Makes the folder at the path of these parts, given last part first, and the missing folders
above it. The disk is returned with what was made before a failure. -/
def makeFoldersUp (anchor : Anchor) : List Text → Disk → Disk × Except Error Unit
  | [], disk =>
    let path : Path := ⟨anchor, []⟩
    match disk.makeFolder path with
    | .ok made => (made, .ok ())
    | .error (.refused .notFound _) => (disk, .error (.refused .notFound path))
    | .error e => (disk, (disk.acceptFolder path e).map fun _ => ())
  | part :: above, disk =>
    let path : Path := ⟨anchor, (part :: above).reverse⟩
    match disk.makeFolder path with
    | .ok made => (made, .ok ())
    | .error (.refused .notFound _) =>
      match makeFoldersUp anchor above disk with
      | (made, .error e) => (made, .error e)
      | (made, .ok ()) =>
        match made.makeFolder path with
        | .ok done => (done, .ok ())
        | .error (.refused .notFound _) => (made, .error (.refused .notFound path))
        | .error e => (made, (made.acceptFolder path e).map fun _ => ())
    | .error e => (disk, (disk.acceptFolder path e).map fun _ => ())

/-- Makes the folder at a path and the missing folders above it. -/
def makeFolders (disk : Disk) (path : Path) : Disk × Except Error Unit :=
  makeFoldersUp path.anchor path.parts.reverse disk

/-- Removes what is at a path, a folder with all that is in it. -/
def remove (disk : Disk) (path : Path) : Except Error Disk := do
  let location ← disk.locate path
  match disk.node? location with
  | some _ => return disk.cutOff location
  | none => .error (.refused .notFound path)

/-- Writes a file, or makes a folder when there are no bytes, with the missing folders above. -/
def place (disk : Disk) (path : Path) (bytes : Option (List UInt8)) : Disk × Except Error Unit :=
  match bytes with
  | none => disk.makeFolders path
  | some bytes =>
    match disk.makeFolders path.parent with
    | (made, .error e) => (made, .error e)
    | (made, .ok ()) =>
      match made.write path bytes with
      | .ok done => (done, .ok ())
      | .error e => (made, .error e)

/-- The names of what is in a folder, in order. -/
def namesIn (disk : Disk) (folder : Location) : List Text :=
  (disk.nodes.filterMap fun entry =>
    if entry.1.dropLast = folder then entry.1.getLast? else none).mergeSort Text.le

/-- The locations below one, relative to it, with a slash behind the folders, in order. -/
def listing (disk : Disk) (top : Location) : List (Text × Node) :=
  (disk.nodes.filterMap fun entry =>
    if top.isPrefixOf entry.1 && top.length < entry.1.length then
      let name := Text.joined ['/'] (entry.1.drop top.length)
      some (match entry.2 with
        | .file _ => (name, entry.2)
        | .folder => (name ++ ['/'], entry.2))
    else none).mergeSort fun a b => Text.le a.1 b.1

end Disk

end Scenarist
