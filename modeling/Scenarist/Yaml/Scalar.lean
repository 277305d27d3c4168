/-
Reading scalars: plain ones, quoted ones with their escapes and folded lines, and block scalars with
their indentation and trailing breaks. Each reader returns the text and the place after it.
-/

import Scenarist.Yaml.Cursor

namespace Scenarist.Yaml

/-! ### Quoted scalars -/

/-- The character that a one-letter escape stands for. -/
def escapes : List (Char × Char) :=
  [('0', '\x00'), ('a', '\x07'), ('b', '\x08'), ('t', '\x09'), ('\t', '\x09'), ('n', '\x0A'),
   ('v', '\x0B'), ('f', '\x0C'), ('r', '\x0D'), ('e', '\x1B'), (' ', ' '), ('"', '"'),
   ('\\', '\\'), ('/', '/'), ('N', '\u0085'), ('_', '\u00A0'), ('L', '\u2028'), ('P', '\u2029')]

/-- How many hexadecimal digits follow the letter of a numeric escape. -/
def escapeWidths : List (Char × Nat) := [('x', 2), ('u', 4), ('U', 8)]

/-- The line breaks ahead, with the white space between them dropped. A document marker may not
stand inside a scalar. -/
def quotedBreaks : Nat → Cursor → Except Flaw (Text × Cursor)
  | 0, cursor => .ok ([], cursor)
  | fuel + 1, cursor =>
    if cursor.atDocumentMarker then .error .malformed
    else
      let cursor := cursor.skipWhile isSpaceOrTab
      match cursor.lineBreak? with
      | none => .ok ([], cursor)
      | some (c, cursor) => do
        let (breaks, cursor) ← quotedBreaks fuel cursor
        return (c :: breaks, cursor)

/-- The white space ahead in a quoted scalar: kept within a line; folded at a break, a single line
feed to a space. -/
def quotedSpaces (cursor : Cursor) : Except Flaw (Text × Cursor) :=
  let spaces := cursor.ahead isSpaceOrTab
  let cursor := cursor.skip spaces.length
  if cursor.rest.isEmpty then .error .cutShort
  else match cursor.lineBreak? with
    | none => .ok (spaces, cursor)
    | some (c, cursor) => do
      let (breaks, cursor) ← quotedBreaks cursor.rest.length.succ cursor
      if c ≠ '\n' then return (c :: breaks, cursor)
      else if breaks.isEmpty then return ([' '], cursor)
      else return (breaks, cursor)

/-- The code point that the numeric escape behind a backslash names, and the place after it. -/
def codeEscape? (cursor : Cursor) : Option (Except Flaw (Nat × Cursor)) :=
  (escapeWidths.lookup cursor.head).map fun width =>
    let start := cursor.next
    let digits := start.rest.take width
    match digits.mapM Text.hexDigit? with
    | some values =>
      if digits.length < width then .error .cutShort
      else if 0x7FFFFFFF < Text.number 16 values then .error .codePointSize
      else if 0x10FFFF < Text.number 16 values then .error .codePoint
      else .ok (Text.number 16 values, start.skip width)
    | none => .error .malformed

/-- The character of a code point. Texts are made of whole characters here: each half of a surrogate
pair, which an escape may name with or without its other half, is read as the replacement character.
A text with such halves is beyond what the reader stands for. -/
def wholeChar (code : Nat) : Char := if code.isValidChar then Char.ofNat code else '\uFFFD'

/-- The text of the escape whose letter is ahead. -/
def escape (cursor : Cursor) : Except Flaw (Text × Cursor) :=
  match escapes.lookup cursor.head, codeEscape? cursor with
  | some meaning, _ => .ok ([meaning], cursor.next)
  | none, some (.error flaw) => .error flaw
  | none, some (.ok (code, after)) => .ok ([wholeChar code], after)
  | none, none =>
    match cursor.lineBreak? with
    | some (_, cursor) => quotedBreaks cursor.rest.length.succ cursor
    | none => .error cursor.flaw

/-- Does a quoted scalar pause at `c`? -/
def isQuotedPause (c : Char) : Bool :=
  c = '\'' || c = '"' || c = '\\' || isWideGap c

/-- The body of a quoted scalar up to its closing quote, which is read too. -/
def quotedBody (double : Bool) : Nat → Cursor → Except Flaw (Text × Cursor)
  | 0, _ => .error .malformed
  | fuel + 1, cursor => do
    let run := cursor.ahead (!isQuotedPause ·)
    let cursor := cursor.skip run.length
    let c := cursor.head
    if !double && c = '\'' && cursor.peek 1 = '\'' then
      let (rest, cursor) ← quotedBody double fuel (cursor.skip 2)
      return (run ++ '\'' :: rest, cursor)
    else if c = (if double then '"' else '\'') then
      return (run, cursor.next)
    else if c = '\'' || c = '"' || (!double && c = '\\') then
      let (rest, cursor) ← quotedBody double fuel cursor.next
      return (run ++ c :: rest, cursor)
    else if c = '\\' then
      let (meaning, cursor) ← escape cursor.next
      let (rest, cursor) ← quotedBody double fuel cursor
      return (run ++ meaning ++ rest, cursor)
    else
      let (spaces, cursor) ← quotedSpaces cursor
      let (rest, cursor) ← quotedBody double fuel cursor
      return (run ++ spaces ++ rest, cursor)

/-- The quoted scalar whose opening quote is ahead. -/
def quotedScalar (cursor : Cursor) : Except Flaw (Text × Cursor) :=
  quotedBody (cursor.head = '"') (2 * cursor.rest.length + 2) cursor.next

/-! ### Plain scalars -/

/-- The part of a plain scalar before the next white space or indicator. In a flow collection the
flow indicators end it too. -/
def plainRun (flow : Bool) : Text → Text
  | [] => []
  | c :: rest =>
    let after := rest.headD '\x00'
    if isWideGap c ||
        (c = ':' && (isWideGap after || (flow && (",[]\x7b\x7d" : Text).contains after))) ||
        (flow && (",?[]\x7b\x7d" : Text).contains c) then []
    else c :: plainRun flow rest

/-- Blank lines inside a plain scalar: their breaks, the place after them, and whether a document
marker has been met. -/
def plainBreaks : Nat → Cursor → Text × Cursor × Bool
  | 0, cursor => ([], cursor, false)
  | fuel + 1, cursor =>
    let cursor := cursor.skipWhile (· = ' ')
    match cursor.lineBreak? with
    | none => ([], cursor, false)
    | some (c, cursor) =>
      if cursor.atDocumentMarker then ([], cursor, true)
      else
        let (breaks, cursor, marker) := plainBreaks fuel cursor
        (c :: breaks, cursor, marker)

/-- What joins two parts of a plain scalar: the text between them, the place after it, and whether a
line has ended. Nothing joins across a document marker. -/
def plainSpaces (cursor : Cursor) : Text × Cursor × Bool :=
  let spaces := cursor.ahead (· = ' ')
  let cursor := cursor.skip spaces.length
  match cursor.lineBreak? with
  | none => (spaces, cursor, false)
  | some (c, cursor) =>
    if cursor.atDocumentMarker then ([], cursor, true)
    else
      let (breaks, cursor, marker) := plainBreaks cursor.rest.length.succ cursor
      if marker then ([], cursor, true)
      else if c ≠ '\n' then (c :: breaks, cursor, true)
      else if breaks.isEmpty then ([' '], cursor, true)
      else (breaks, cursor, true)

/-- What a plain scalar goes on with after `joint`; the flag says whether a line has ended behind
its last part. -/
def plainParts (flow : Bool) (indent : Int) : Nat → Text → Bool → Cursor → Text × Bool × Cursor
  | 0, _, broken, cursor => ([], broken, cursor)
  | fuel + 1, joint, broken, cursor =>
    let run := if cursor.head = '#' then [] else plainRun flow cursor.rest
    if run.isEmpty then ([], broken, cursor)
    else
      let (spaces, cursor, broken) := plainSpaces (cursor.skip run.length)
      if spaces.isEmpty || cursor.head = '#' || (!flow && (cursor.column : Int) < indent) then
        (joint ++ run, broken, cursor)
      else
        let (rest, broken, cursor) := plainParts flow indent fuel spaces broken cursor
        (joint ++ run ++ rest, broken, cursor)

/-- The plain scalar ahead, the place after it, and whether a line has ended behind it. -/
def plainScalar (flow : Bool) (indent : Int) (cursor : Cursor) : Text × Bool × Cursor :=
  plainParts flow indent cursor.rest.length.succ [] false cursor

/-! ### Block scalars -/

/-- What becomes of the line breaks at the end of a block scalar. -/
inductive Chomping where
  | clip
  | strip
  | keep
  deriving DecidableEq

/-- The chomping that `c` asks for. -/
def Chomping.ofChar? : Char → Option Chomping
  | '+' => some .keep
  | '-' => some .strip
  | _ => none

/-- The indentation indicator, a digit from one to nine, and the place after it. -/
def indentDigit (cursor : Cursor) : Except Flaw (Option Nat × Cursor) :=
  match Text.digit? cursor.head with
  | some 0 => .error .malformed
  | some d => .ok (some d, cursor.next)
  | none => .ok (none, cursor)

/-- The rest of a line that holds nothing but spaces and a comment. -/
def ignoredLine (cursor : Cursor) : Except Flaw Cursor :=
  let cursor := cursor.skipWhile (· = ' ')
  let cursor := if cursor.head = '#' then cursor.skipWhile (!isLineEnd ·) else cursor
  match cursor.lineBreak? with
  | some (_, cursor) => .ok cursor
  | none => if cursor.rest.isEmpty then .ok cursor else .error .malformed

/-- Chomping and indentation indicator of a block scalar, in either order, with the line they
stand on. -/
def blockHeader (cursor : Cursor) : Except Flaw (Chomping × Option Nat × Cursor) := do
  let (chomping, increment, cursor) ←
    match Chomping.ofChar? cursor.head with
    | some chomping => do
      let (increment, cursor) ← indentDigit cursor.next
      pure (chomping, increment, cursor)
    | none => do
      let (increment, cursor) ← indentDigit cursor
      match increment, Chomping.ofChar? cursor.head with
      | some _, some chomping => pure (chomping, increment, cursor.next)
      | _, _ => pure (Chomping.clip, increment, cursor)
  if isGap cursor.head then return (chomping, increment, ← ignoredLine cursor)
  else .error .malformed

/-- The blank lines at the start of a block scalar: their breaks and the widest column reached. -/
def leadingBreaks : Nat → Nat → Cursor → Text × Nat × Cursor
  | 0, widest, cursor => ([], widest, cursor)
  | fuel + 1, widest, cursor =>
    let cursor := cursor.skipWhile (· = ' ')
    let widest := max widest cursor.column
    match cursor.lineBreak? with
    | none => ([], widest, cursor)
    | some (c, cursor) =>
      let (breaks, widest, cursor) := leadingBreaks fuel widest cursor
      (c :: breaks, widest, cursor)

/-- The breaks of the blank lines ahead, none of them indented beyond `indent`. -/
def blockBreaks (indent : Nat) : Nat → Cursor → Text × Cursor
  | 0, cursor => ([], cursor)
  | fuel + 1, cursor =>
    let cursor := cursor.skipIndent indent
    match cursor.lineBreak? with
    | none => ([], cursor)
    | some (c, cursor) =>
      let (breaks, cursor) := blockBreaks indent fuel cursor
      (c :: breaks, cursor)

/-- The lines of a block scalar after `breaks`: the text, the break that ends it, the breaks behind
that one, and the place after them. Folding turns one line feed between two unindented lines into a
space. -/
def blockLines (folded : Bool) (indent : Nat) :
    Nat → Text → Cursor → Text × Option Char × Text × Cursor
  | 0, breaks, cursor => ([], none, breaks, cursor)
  | fuel + 1, breaks, cursor =>
    if cursor.column ≠ indent || cursor.head = '\x00' then ([], none, breaks, cursor)
    else
      let unindented := !isSpaceOrTab cursor.head
      let line := cursor.ahead (!isLineEnd ·)
      let cursor := cursor.skip line.length
      let (ending, cursor) : Option Char × Cursor := match cursor.lineBreak? with
        | some (c, cursor) => (some c, cursor)
        | none => (none, cursor)
      let (later, cursor) := blockBreaks indent cursor.rest.length.succ cursor
      if cursor.column = indent && cursor.head ≠ '\x00' then
        let joint : Text :=
          if folded && ending = some '\n' && unindented && !isSpaceOrTab cursor.head then
            if later.isEmpty then [' '] else []
          else ending.toList
        let (text, last, tail, cursor) := blockLines folded indent fuel later cursor
        (breaks ++ line ++ joint ++ text, last, tail, cursor)
      else (breaks ++ line, ending, later, cursor)

/-- The block scalar whose indicator is ahead, inside a block indented to `indent`. -/
def blockScalar (indent : Int) (cursor : Cursor) : Except Flaw (Text × Cursor) := do
  let folded := cursor.head = '>'
  let (chomping, increment, cursor) ← blockHeader cursor.next
  let least := (max (indent + 1) 1).toNat
  let (column, breaks, cursor) : Nat × Text × Cursor :=
    match increment with
    | some d =>
      let column := least + d - 1
      let (breaks, cursor) := blockBreaks column cursor.rest.length.succ cursor
      (column, breaks, cursor)
    | none =>
      let (breaks, widest, cursor) := leadingBreaks cursor.rest.length.succ 0 cursor
      (max least widest, breaks, cursor)
  let (text, last, tail, cursor) := blockLines folded column cursor.rest.length.succ breaks cursor
  match chomping with
  | .strip => return (text, cursor)
  | .clip => return (text ++ last.toList, cursor)
  | .keep => return (text ++ last.toList ++ tail, cursor)

end Scenarist.Yaml
