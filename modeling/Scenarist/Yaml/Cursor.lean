/-
A place in a YAML text: what is still to be read, and the line and column reached. The text is over
where a NUL would stand; a text with a NUL in it is refused before reading.
-/

import Scenarist.Yaml.Flaw

namespace Scenarist.Yaml

/-- A place in a text. Lines and columns count from zero. -/
structure Cursor where
  rest : Text
  index : Nat := 0
  line : Nat := 0
  column : Nat := 0

/-- Does `c` end a line? -/
def isBreak (c : Char) : Bool := c = '\n' || c = '\u0085' || c = '\u2028' || c = '\u2029'

/-- Does `c` end a line or the text? -/
def isLineEnd (c : Char) : Bool := c = '\x00' || isBreak c

/-- Is `c` a space or the end of a line or the text? -/
def isGap (c : Char) : Bool := c = ' ' || isLineEnd c

/-- Is `c` a space, a tab or the end of a line or the text? -/
def isWideGap (c : Char) : Bool := c = '\t' || isGap c

/-- Is `c` a space or a tab? -/
def isSpaceOrTab (c : Char) : Bool := c = ' ' || c = '\t'

/-- May `c` stand in the name of an anchor, a tag handle or a directive? -/
def isNameChar (c : Char) : Bool := c.isAlphanum || c = '-' || c = '_'

namespace Cursor

/-- The character `n` places on. -/
def peek (cursor : Cursor) (n : Nat) : Char := (cursor.rest.drop n).headD '\x00'

/-- The character to be read next. -/
def head (cursor : Cursor) : Char := cursor.rest.headD '\x00'

/-- The place after the next character. A byte order mark takes no column. -/
def next (cursor : Cursor) : Cursor :=
  match cursor.rest with
  | [] => cursor
  | c :: rest =>
    if isBreak c then ⟨rest, cursor.index + 1, cursor.line + 1, 0⟩
    else if c = '\uFEFF' then ⟨rest, cursor.index + 1, cursor.line, cursor.column⟩
    else ⟨rest, cursor.index + 1, cursor.line, cursor.column + 1⟩

/-- The place after the next `n` characters. -/
def skip : Nat → Cursor → Cursor
  | 0, cursor => cursor
  | n + 1, cursor => skip n cursor.next

/-- The longest run of characters of `keep` ahead. -/
def ahead (keep : Char → Bool) (cursor : Cursor) : Text := cursor.rest.takeWhile keep

/-- The place after the longest run of characters of `keep`. -/
def skipWhile (keep : Char → Bool) (cursor : Cursor) : Cursor :=
  cursor.skip (cursor.ahead keep).length

/-- The place after the spaces ahead, as far as they stand left of `column`. -/
def skipIndent (column : Nat) (cursor : Cursor) : Cursor :=
  cursor.skip (min (cursor.ahead (· = ' ')).length (column - cursor.column))

/-- Reads the line break ahead, if there is one. Only the two Unicode separators stay what they
are; the others read as a line feed. -/
def lineBreak? (cursor : Cursor) : Option (Char × Cursor) :=
  let c := cursor.head
  if isBreak c then
    some (if c = '\u2028' || c = '\u2029' then c else '\n', cursor.next)
  else none

/-- Is a document marker ahead, three of `mark` and a gap? -/
def atMarker (cursor : Cursor) (mark : Char) : Bool :=
  cursor.peek 0 = mark && cursor.peek 1 = mark && cursor.peek 2 = mark && isWideGap (cursor.peek 3)

/-- Is a marker of the start or the end of a document ahead? -/
def atDocumentMarker (cursor : Cursor) : Bool := cursor.atMarker '-' || cursor.atMarker '.'

/-- What is wrong at a place where something else has to stand. -/
def flaw (cursor : Cursor) : Flaw := if cursor.rest.isEmpty then .cutShort else .malformed

end Cursor

end Scenarist.Yaml
