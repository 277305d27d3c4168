/-
Environment files. A line sets a variable, perhaps after the word `export`; a value may stand in
quotes, with escapes, or go up to a comment; `${NAME}` in a value is replaced, with the part after
`:-` where the variable is not set. A line that says none of this is skipped.
-/

import Scenarist.Text.Basic
import Scenarist.Settings.Layer

namespace Scenarist.EnvFile

/-- Does `c` end a line? -/
def isBreak (c : Char) : Bool := c = '\n' || c = '\r'

/-- Is `c` white space within a line? -/
def isInnerBlank (c : Char) : Bool := Text.isBlank c && !isBreak c

/-- The text after the white space at its start that ends no line. -/
def skipBlanks (t : Text) : Text := t.dropWhile isInnerBlank

/-- The text after `export` and white space, if they stand at its start. -/
def skipExport (t : Text) : Text :=
  match Text.afterLead? "export" t with
  | some (c :: rest) => if isInnerBlank c then skipBlanks rest else t
  | _ => t

/-- The key at the start of a text and what follows it. A comment has no key. -/
def key? (t : Text) : Option (Option Text × Text) :=
  match t with
  | '#' :: _ => some (none, t)
  | '\'' :: rest =>
    match Text.cutFirst? '\'' rest with
    | some (c :: name, after) => some (some (c :: name), after)
    | _ => none
  | _ =>
    match t.takeWhile fun c => !(c = '=' || c = '#' || Text.isBlank c) with
    | [] => none
    | name => some (some name, t.drop name.length)

/-- A quoted value up to its closing quote, and what follows it. A quote after a backslash does not
close the value unless no other one does. -/
def quotedValue? (quote : Char) : Text → Option (Text × Text)
  | [] => none
  | '\\' :: d :: rest =>
    if d = quote then
      match quotedValue? quote rest with
      | some (value, after) => some ('\\' :: d :: value, after)
      | none => some (['\\'], rest)
    else (quotedValue? quote (d :: rest)).map fun (value, after) => ('\\' :: value, after)
  | c :: rest =>
    if c = quote then some ([], rest)
    else (quotedValue? quote rest).map fun (value, after) => (c :: value, after)

/-- The characters that escapes stand for between double quotes. -/
def doubleEscapes : List (Char × Char) :=
  [('\\', '\\'), ('\'', '\''), ('"', '"'), ('a', '\x07'), ('b', '\x08'), ('f', '\x0C'),
   ('n', '\n'), ('r', '\r'), ('t', '\t'), ('v', '\x0B')]

/-- The characters that escapes stand for between apostrophes. -/
def singleEscapes : List (Char × Char) := [('\\', '\\'), ('\'', '\'')]

/-- The value with its escapes replaced. -/
def unescape (escapes : List (Char × Char)) : Text → Text
  | [] => []
  | [c] => [c]
  | c :: d :: rest =>
    if c = '\\' then
      match escapes.lookup d with
      | some meaning => meaning :: unescape escapes rest
      | none => c :: unescape escapes (d :: rest)
    else c :: unescape escapes (d :: rest)

/-- A value without quotes, without the comments behind white space in it. -/
def beforeComment : Text → Text
  | [] => []
  | c :: rest =>
    if Text.isBlank c && (rest.dropWhile Text.isBlank).head? = some '#' then []
    else c :: beforeComment rest

/-- The value at the start of a text and what follows it. -/
def value? (t : Text) : Option (Text × Text) :=
  match t with
  | '\'' :: rest => (quotedValue? '\'' rest).map fun (v, after) => (unescape singleEscapes v, after)
  | '"' :: rest => (quotedValue? '"' rest).map fun (v, after) => (unescape doubleEscapes v, after)
  | _ =>
    let line := t.takeWhile (!isBreak ·)
    some (Text.dropEnd Text.isBlank (beforeComment line), t.drop line.length)

/-- The text after a comment, if there is one. -/
def skipComment (t : Text) : Text :=
  match skipBlanks t with
  | '#' :: rest => rest.dropWhile (!isBreak ·)
  | _ => t

/-- The text after the end of a line, if it is there. -/
def lineEnd? (t : Text) : Option Text :=
  match skipBlanks t with
  | [] => some []
  | '\r' :: '\n' :: rest => some rest
  | c :: rest => if isBreak c then some rest else none

/-- The text after the current line. -/
def nextLine (t : Text) : Text :=
  match t.dropWhile (!isBreak ·) with
  | [] => []
  | _ :: rest => rest

/-- A line: the variable that it sets or only names, if any, and the text after it. Of a line that
cannot be read what is left is returned. -/
def binding (t : Text) : Except Text (Option (Text × Option Text) × Text) := do
  let start := skipExport t
  let (name, rest) ← orLeft start (key? start)
  let rest := skipBlanks rest
  let (value, rest) ← match rest with
    | '=' :: assigned =>
      let assigned := skipBlanks assigned
      (orLeft assigned (value? assigned)).map fun (v, after) => (some v, after)
    | _ => .ok (none, rest)
  let rest := skipComment rest
  let rest ← orLeft rest (lineEnd? rest)
  return (name.map fun name => (name, value), rest)
where
  /-- The answer, or the text at which there is none. -/
  orLeft {α : Type} (left : Text) : Option α → Except Text α
    | some answer => .ok answer
    | none => .error left

/-- The variables of a text in order. A line that cannot be read is skipped. -/
def bindings : Nat → Text → List (Text × Option Text)
  | 0, _ => []
  | fuel + 1, t =>
    match t.dropWhile Text.isBlank with
    | [] => []
    | t =>
      match binding t with
      | .ok (some found, rest) => found :: bindings fuel rest
      | .ok (none, rest) => bindings fuel rest
      | .error left => bindings fuel (nextLine left)

/-- The name and the default in the reference `${NAME:-default}` whose lead has been read, and what
follows it. -/
def reference? (t : Text) : Option (Text × Text × Text) :=
  let name := t.takeWhile fun c => !(c = '\x7d' || c = ':')
  match t.drop name.length with
  | '\x7d' :: rest => some (name, [], rest)
  | ':' :: '-' :: rest => (Text.cutFirst? '\x7d' rest).map fun (fallback, after) =>
      (name, fallback, after)
  | _ => none

/-- The value with its references replaced. -/
def expand (known : Text → Option Text) : Nat → Text → Text
  | 0, t => t
  | _, [] => []
  | fuel + 1, c :: rest =>
    match Text.afterLead? ['$', '\x7b'] (c :: rest) with
    | some t =>
      match reference? t with
      | some (name, fallback, after) =>
        (known name).getD fallback ++ expand known fuel after
      | none => c :: expand known fuel rest
    | none => c :: expand known fuel rest

/-- The list with a pair put in the place of the one with its name, or at the end. -/
def assign (vars : List (Text × Option Text)) (name : Text) (value : Option Text) :
    List (Text × Option Text) :=
  if (vars.lookup name).isSome then
    vars.map fun pair => if pair.1 = name then (name, value) else pair
  else vars ++ [(name, value)]

/-- What a name means while a file is read: the environment goes before the file. -/
def meaning (env : Environment) (vars : List (Text × Option Text)) (name : Text) : Option Text :=
  match env.lookup name with
  | some value => some value
  | none => (vars.lookup name).map fun value => value.getD []

/-- The variables of a file with their references replaced. -/
def assignments (env : Environment) (t : Text) : List (Text × Option Text) :=
  (bindings t.length.succ t).foldl (fun vars (name, value) =>
    assign vars name (value.map fun v => expand (meaning env vars) v.length.succ v)) []

/-- Why a variable cannot be set. -/
inductive Fault where
  | nul
  | name
  | noName
  deriving DecidableEq, Repr

/-- The wording of the reason. -/
def Fault.message : Fault → Text
  | .nul => "embedded null byte"
  | .name => "illegal environment variable name"
  | .noName => "[Errno 22] Invalid argument"

/-- The environment in which a variable has this value. -/
def set (env : Environment) (name value : Text) : Except Fault Environment :=
  if name.contains '\x00' || value.contains '\x00' then .error .nul
  else if name.contains '=' then .error .name
  else if name.isEmpty then .error .noName
  else .ok (env.filter (·.1 ≠ name) ++ [(name, value)])

/-- The environment with the variables that it does not have. When one cannot be set those before
it stay. -/
def setAll : Environment → List (Text × Option Text) → Environment × Option Fault
  | env, [] => (env, none)
  | env, (name, value) :: rest =>
    match value, env.lookup name with
    | some value, none =>
      match set env name value with
      | .ok env => setAll env rest
      | .error fault => (env, some fault)
    | _, _ => setAll env rest

/-- The environment after a file has been loaded. -/
def load (env : Environment) (t : Text) : Environment × Option Fault :=
  setAll env (assignments env t)

end Scenarist.EnvFile
