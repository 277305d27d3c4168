/-
Tokens, and the reading of those that are neither marks nor scalars: names, tags, directives.
-/

import Scenarist.Yaml.Scalar
import Scenarist.Text.Bytes

namespace Scenarist.Yaml

/-- The tokens of a YAML text. -/
inductive Token where
  | streamEnd
  | versionDirective (major : Nat)
  | tagDirective (handle lead : Text)
  | otherDirective
  | documentStart
  | documentEnd
  | blockSequenceStart
  | blockMappingStart
  | blockEnd
  | flowSequenceStart
  | flowSequenceEnd
  | flowMappingStart
  | flowMappingEnd
  | blockEntry
  | flowEntry
  | key
  | value
  | reference (name : Text)
  | anchor (name : Text)
  | tag (handle : Option Text) (suffix : Text)
  | scalar (text : Text) (plain : Bool)
  deriving DecidableEq, Repr

/-! ### Directives, tags and anchors -/

/-- A name of at least one character, and the place after it. -/
def nameToken (cursor : Cursor) : Except Flaw (Text × Cursor) :=
  match cursor.ahead isNameChar with
  | [] => .error cursor.flaw
  | name => .ok (name, cursor.skip name.length)

/-- A tag handle: an exclamation mark, or a name between two. -/
def tagHandle (cursor : Cursor) : Except Flaw (Text × Cursor) :=
  if cursor.head ≠ '!' then .error cursor.flaw
  else if cursor.peek 1 = ' ' then .ok (['!'], cursor.next)
  else
    let name := cursor.next.ahead isNameChar
    let after := cursor.next.skip name.length
    if after.head = '!' then .ok ('!' :: name ++ ['!'], after.next) else .error after.flaw

/-- May `c` stand in a tag as itself? -/
def isTagChar (c : Char) : Bool :=
  c.isAlphanum || ("-;/?:@&=+$,_.!~*'()[]" : Text).contains c

/-- The bytes of the percent escapes ahead. -/
def percentBytes : Nat → Cursor → Except Flaw (List UInt8 × Cursor)
  | 0, cursor => .ok ([], cursor)
  | fuel + 1, cursor =>
    if cursor.head ≠ '%' then .ok ([], cursor)
    else match Text.hexDigit? (cursor.peek 1), Text.hexDigit? (cursor.peek 2) with
      | some high, some low => do
        let (bytes, cursor) ← percentBytes fuel (cursor.skip 3)
        return (UInt8.ofNat (high * 16 + low) :: bytes, cursor)
      | _, _ => .error (cursor.skip 3).flaw

/-- The characters of a tag, with its percent escapes read as UTF-8. -/
def tagChars : Nat → Cursor → Except Flaw (Text × Cursor)
  | 0, cursor => .ok ([], cursor)
  | fuel + 1, cursor => do
    let run := cursor.ahead isTagChar
    let cursor := cursor.skip run.length
    if cursor.head ≠ '%' then return (run, cursor)
    else
      let (bytes, cursor) ← percentBytes cursor.rest.length cursor
      match Utf8.decode bytes with
      | .error _ => .error .malformed
      | .ok meaning =>
        let (rest, cursor) ← tagChars fuel cursor
        return (run ++ meaning ++ rest, cursor)

/-- A tag or the lead of one, which may not be empty. -/
def tagText (cursor : Cursor) : Except Flaw (Text × Cursor) := do
  if isTagChar cursor.head || cursor.head = '%' then tagChars cursor.rest.length.succ cursor
  else .error cursor.flaw

/-- The tag token ahead: verbatim, the lone mark, or a handle with a suffix. -/
def tagToken (cursor : Cursor) : Except Flaw (Token × Cursor) := do
  let c := cursor.peek 1
  let (token, cursor) ←
    if c = '<' then do
      let (suffix, cursor) ← tagText (cursor.skip 2)
      if cursor.head = '>' then pure (Token.tag none suffix, cursor.next)
      else .error cursor.flaw
    else if isWideGap c then pure (Token.tag none ['!'], cursor.next)
    else do
      let (handle, cursor) ←
        if (cursor.next.ahead (!isGap ·)).contains '!' then tagHandle cursor
        else pure (['!'], cursor.next)
      let (suffix, cursor) ← tagText cursor
      pure (Token.tag (some handle) suffix, cursor)
  if isGap cursor.head then return (token, cursor) else .error .malformed

/-- May `c` follow the name of an anchor or an alias? -/
def endsAnchor (c : Char) : Bool := isWideGap c || ("?:,]\x7d%@`" : Text).contains c

/-- The name of the anchor or alias whose mark is ahead. -/
def anchorName (cursor : Cursor) : Except Flaw (Text × Cursor) := do
  let (name, cursor) ← nameToken cursor.next
  if endsAnchor cursor.head then return (name, cursor) else .error .malformed

/-- A number of at least one digit. -/
def versionNumber (cursor : Cursor) : Except Flaw (Nat × Cursor) :=
  match (cursor.ahead Char.isDigit).mapM Text.digit? with
  | some (d :: digits) =>
    .ok (Text.number 10 (d :: digits), cursor.skip (digits.length + 1))
  | _ => .error cursor.flaw

/-- The directive whose mark is ahead, with its line. -/
def directiveToken (cursor : Cursor) : Except Flaw (Token × Cursor) := do
  let (name, cursor) ← nameToken cursor.next
  if !isGap cursor.head then .error .malformed
  let (token, cursor) ←
    if name = "YAML" then do
      let (major, cursor) ← versionNumber (cursor.skipWhile (· = ' '))
      if cursor.head ≠ '.' then .error cursor.flaw
      let (_, cursor) ← versionNumber cursor.next
      if !isGap cursor.head then .error .malformed
      pure (Token.versionDirective major, cursor)
    else if name = "TAG" then do
      let (handle, cursor) ← tagHandle (cursor.skipWhile (· = ' '))
      if cursor.head ≠ ' ' then .error cursor.flaw
      let (lead, cursor) ← tagText (cursor.skipWhile (· = ' '))
      if !isGap cursor.head then .error .malformed
      pure (Token.tagDirective handle lead, cursor)
    else pure (Token.otherDirective, cursor.skipWhile (!isLineEnd ·))
  return (token, ← ignoredLine cursor)

end Scenarist.Yaml
