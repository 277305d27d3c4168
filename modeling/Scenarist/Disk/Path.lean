/-
Paths: an anchor and the parts below it. Empty parts and single dots vanish, double dots stay.
Exactly two slashes at the start are an anchor of their own.
-/

import Scenarist.Text.Basic

namespace Scenarist

/-- Where a path starts. -/
inductive Anchor where
  | here
  | root
  | doubleRoot
  deriving DecidableEq, Repr

/-- The text of an anchor. -/
def Anchor.text : Anchor → Text
  | here => []
  | root => ['/']
  | doubleRoot => ['/', '/']

/-- A path. -/
structure Path where
  anchor : Anchor
  parts : List Text
  deriving DecidableEq, Repr

namespace Path

/-- Does a part say where to go? -/
def isTelling (part : Text) : Bool := !part.isEmpty && part != ['.']

/-- The path that a text writes. -/
def ofText (t : Text) : Path where
  anchor := match (t.takeWhile (· = '/')).length with
    | 0 => .here
    | 2 => .doubleRoot
    | _ => .root
  parts := (Text.cut '/' t).filter isTelling

/-- The text of a path; the path that goes nowhere is a dot. -/
def text (path : Path) : Text :=
  match path.anchor.text ++ Text.joined ['/'] path.parts with
  | [] => ['.']
  | t => t

/-- The path `below` seen from `path`; with an anchor of its own it is itself. -/
def join (path below : Path) : Path :=
  if below.anchor = .here then ⟨path.anchor, path.parts ++ below.parts⟩ else below

/-- The path that a text writes, seen from `path`. -/
def child (path : Path) (t : Text) : Path := path.join (ofText t)

/-- The path with one more part. -/
def below (path : Path) (name : Text) : Path := ⟨path.anchor, path.parts ++ [name]⟩

/-- The path without its last part. -/
def parent (path : Path) : Path := ⟨path.anchor, path.parts.dropLast⟩

/-- The last part. -/
def name (path : Path) : Text := path.parts.getLast?.getD []

/-- A name without its ending, the part from the last inner point on. -/
def stem (name : Text) : Text :=
  match Text.cutLast? '.' name with
  | some (before, ending) => if before.isEmpty || ending.isEmpty then name else before
  | none => name

/-- A document's name without the extension of documents, or without its own ending. -/
def documentStem (extension name : Text) : Text :=
  if !extension.isEmpty && Text.endsWith name extension then
    name.take (name.length - extension.length)
  else stem name

end Path

end Scenarist
