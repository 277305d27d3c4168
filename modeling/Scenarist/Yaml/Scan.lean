/-
The tokens of a text, read one after the other and only as far as they are asked for. Indentation
opens and closes block collections, and whatever could be the key of a mapping is kept back until a
colon shows whether it was one; the marks of key and mapping are then put in before it.
-/

import Scenarist.Yaml.Supply
import Scenarist.Yaml.Token

namespace Scenarist.Yaml

/-- Something that a colon would make a key: where in the tokens it starts, where in the text, and
whether the indentation leaves it no other use. -/
structure PossibleKey where
  slot : Nat
  required : Bool
  index : Nat
  line : Nat
  column : Nat

/-- The state between two tokens. -/
structure Scan where
  cursor : Cursor
  /-- How many flow collections are open. -/
  flow : Nat := 0
  /-- The indentation of the innermost block collection, -1 outside all. -/
  indent : Int := -1
  /-- The indentations around it, innermost first. -/
  outer : List Int := []
  /-- May the next token be a key without a mark? -/
  keyAllowed : Bool := true
  /-- The possible keys, each with the flow level it stands at. -/
  keys : List (Nat × PossibleKey) := []
  /-- The tokens that are read and not taken. -/
  queue : List Token := []
  /-- How many tokens have been taken. -/
  taken : Nat := 0
  /-- Has the last token been read? -/
  isOver : Bool := false
  /-- Why the text stops before its file does. -/
  stop : Option Flaw := none

namespace Scan

/-- The scan with a token more. -/
def push (scan : Scan) (token : Token) : Scan := { scan with queue := scan.queue ++ [token] }

/-- The scan with a token put in where `slot` tokens stand before it. -/
def insert (scan : Scan) (slot : Nat) (token : Token) : Scan :=
  let before := slot - scan.taken
  { scan with queue := scan.queue.take before ++ token :: scan.queue.drop before }

/-- The scan at another place. -/
def moveTo (scan : Scan) (cursor : Cursor) : Scan := { scan with cursor := cursor }

/-- The scan at the next character. -/
def advance (scan : Scan) : Scan := scan.moveTo scan.cursor.next

/-- Says whether a key without a mark may follow. -/
def allowKey (scan : Scan) (allowed : Bool) : Scan := { scan with keyAllowed := allowed }

/-- Skips spaces, comments and line breaks. A new line outside flow collections may hold a key. -/
def toNextToken : Nat → Scan → Scan
  | 0, scan => scan
  | fuel + 1, scan =>
    let cursor := scan.cursor.skipWhile (· = ' ')
    let cursor := if cursor.head = '#' then cursor.skipWhile (!isLineEnd ·) else cursor
    match cursor.lineBreak? with
    | some (_, cursor) =>
      toNextToken fuel
        { scan with cursor := cursor, keyAllowed := scan.keyAllowed || scan.flow = 0 }
    | none => scan.moveTo cursor

/-- A key without a mark stays on its line and within 1024 characters. -/
def isStale (scan : Scan) (key : PossibleKey) : Bool :=
  key.line ≠ scan.cursor.line || 1024 < scan.cursor.index - key.index

/-- Forgets the keys that can no longer be one; a required key must not be forgotten. -/
def dropStale (scan : Scan) : Except Flaw Scan :=
  if scan.keys.any fun key => scan.isStale key.2 && key.2.required then .error .malformed
  else .ok { scan with keys := scan.keys.filter fun key => !scan.isStale key.2 }

/-- Forgets the possible key of the current flow level. -/
def dropKey (scan : Scan) : Except Flaw Scan :=
  match scan.keys.lookup scan.flow with
  | some key =>
    if key.required then .error .malformed
    else .ok { scan with keys := scan.keys.filter fun key => key.1 ≠ scan.flow }
  | none => .ok scan

/-- Remembers that the next token may turn out to be a key. -/
def saveKey (scan : Scan) : Except Flaw Scan :=
  if scan.keyAllowed then do
    let cursor := scan.cursor
    let key : PossibleKey :=
      { slot := scan.taken + scan.queue.length
        required := scan.flow = 0 && scan.indent = (cursor.column : Int)
        index := cursor.index, line := cursor.line, column := cursor.column }
    let scan ← scan.dropKey
    return { scan with keys := (scan.flow, key) :: scan.keys }
  else .ok scan

/-- Closes block collections from `indent` on outwards, as long as they are indented beyond
`column`. -/
def unwindFrom (scan : Scan) (column : Int) : Int → List Int → Scan
  | indent, outer =>
    if column < indent then
      match outer with
      | next :: rest => unwindFrom (scan.push .blockEnd) column next rest
      | [] => { scan with indent := -1, outer := [] }
    else { scan with indent := indent, outer := outer }

/-- Closes the block collections indented beyond `column`. -/
def unwind (scan : Scan) (column : Int) : Scan :=
  if scan.flow ≠ 0 then scan else scan.unwindFrom column scan.indent scan.outer

/-- Is `column` beyond the innermost indentation? -/
def isDeeper (scan : Scan) (column : Nat) : Bool := scan.indent < (column : Int)

/-- The scan inside a block collection at `column`. -/
def indentTo (scan : Scan) (column : Nat) : Scan :=
  { scan with indent := column, outer := scan.indent :: scan.outer }

/-- Opens a block collection at the current column unless one is open there. -/
def openBlock (scan : Scan) (start : Token) : Scan :=
  if scan.isDeeper scan.cursor.column then (scan.indentTo scan.cursor.column).push start
  else scan

/-- An entry of a block sequence. -/
def blockEntry (scan : Scan) : Except Flaw Scan := do
  if scan.flow = 0 && !scan.keyAllowed then .error .malformed
  let scan := if scan.flow = 0 then scan.openBlock .blockSequenceStart else scan
  let scan ← (scan.allowKey true).dropKey
  return (scan.push .blockEntry).advance

/-- A key with its mark. -/
def markedKey (scan : Scan) : Except Flaw Scan := do
  if scan.flow = 0 && !scan.keyAllowed then .error .malformed
  let scan := if scan.flow = 0 then scan.openBlock .blockMappingStart else scan
  let scan ← (scan.allowKey (scan.flow = 0)).dropKey
  return (scan.push .key).advance

/-- A value, which makes the possible key before it a key. -/
def value (scan : Scan) : Except Flaw Scan := do
  match scan.keys.lookup scan.flow with
  | some key =>
    let scan := { scan with keys := scan.keys.filter fun key => key.1 ≠ scan.flow }
    let scan := scan.insert key.slot .key
    let scan :=
      if scan.flow = 0 && scan.isDeeper key.column then
        (scan.indentTo key.column).insert key.slot .blockMappingStart
      else scan
    return ((scan.allowKey false).push .value).advance
  | none =>
    if scan.flow = 0 && !scan.keyAllowed then .error .malformed
    let scan := if scan.flow = 0 then scan.openBlock .blockMappingStart else scan
    let scan ← (scan.allowKey (scan.flow = 0)).dropKey
    return (scan.push .value).advance

/-- The start of a flow collection, which may itself be a key. -/
def openFlow (scan : Scan) (start : Token) : Except Flaw Scan := do
  let scan ← scan.saveKey
  let scan := { scan with flow := scan.flow + 1 }
  return ((scan.allowKey true).push start).advance

/-- The end of a flow collection. -/
def closeFlow (scan : Scan) (ending : Token) : Except Flaw Scan := do
  let scan ← scan.dropKey
  if scan.flow = 0 then .error .malformed
  let scan := { scan with flow := scan.flow - 1 }
  return ((scan.allowKey false).push ending).advance

/-- An entry of a flow collection. -/
def flowEntry (scan : Scan) : Except Flaw Scan := do
  let scan ← (scan.allowKey true).dropKey
  return (scan.push .flowEntry).advance

/-- What stands at the margin: the end of the text, a directive, the mark of a document. -/
def margin (scan : Scan) : Except Flaw Scan := do
  let scan ← (scan.unwind (-1)).dropKey
  return scan.allowKey false

/-- A token that may be a key, read by `read`. -/
def keyed (scan : Scan) (read : Cursor → Except Flaw (Token × Cursor)) : Except Flaw Scan := do
  let scan ← scan.saveKey
  let (token, cursor) ← read scan.cursor
  return ((scan.allowKey false).push token).moveTo cursor

/-- A plain scalar. When it ends behind a line break a key may follow. -/
def plain (scan : Scan) : Except Flaw Scan := do
  let scan ← scan.saveKey
  let (text, broken, cursor) := plainScalar (scan.flow ≠ 0) (scan.indent + 1) scan.cursor
  return ((scan.allowKey broken).push (.scalar text true)).moveTo cursor

/-- Can a plain scalar start here? -/
def startsPlain (scan : Scan) : Bool :=
  let c := scan.cursor.head
  (!isWideGap c && !("-?:,[]\x7b\x7d#&*!|>'\"%@`" : Text).contains c) ||
    (!isWideGap (scan.cursor.peek 1) &&
      (c = '-' || (scan.flow = 0 && (c = '?' || c = ':'))))

/-- Reads the next token at a character that is not the end. -/
def token (scan : Scan) : Except Flaw Scan := do
  let cursor := scan.cursor
  let c := cursor.head
  let gapAfter := isWideGap (cursor.peek 1)
  let inFlow : Bool := scan.flow ≠ 0
  if c = '%' && cursor.column = 0 then
    let scan ← scan.margin
    let (token, cursor) ← directiveToken cursor
    return (scan.push token).moveTo cursor
  else if cursor.column = 0 && cursor.atMarker '-' then
    return ((← scan.margin).push .documentStart).moveTo (cursor.skip 3)
  else if cursor.column = 0 && cursor.atMarker '.' then
    return ((← scan.margin).push .documentEnd).moveTo (cursor.skip 3)
  else if c = '[' then scan.openFlow .flowSequenceStart
  else if c = '\x7b' then scan.openFlow .flowMappingStart
  else if c = ']' then scan.closeFlow .flowSequenceEnd
  else if c = '\x7d' then scan.closeFlow .flowMappingEnd
  else if c = ',' then scan.flowEntry
  else if c = '-' && gapAfter then scan.blockEntry
  else if c = '?' && (inFlow || gapAfter) then scan.markedKey
  else if c = ':' && (inFlow || gapAfter) then scan.value
  else if c = '*' then scan.keyed fun cursor => do
    let (name, cursor) ← anchorName cursor
    return (.reference name, cursor)
  else if c = '&' then scan.keyed fun cursor => do
    let (name, cursor) ← anchorName cursor
    return (.anchor name, cursor)
  else if c = '!' then scan.keyed tagToken
  else if (c = '|' || c = '>') && !inFlow then
    let scan ← (scan.allowKey true).dropKey
    let (text, cursor) ← blockScalar scan.indent scan.cursor
    return (scan.push (.scalar text false)).moveTo cursor
  else if c = '\'' || c = '"' then scan.keyed fun cursor => do
    let (text, cursor) ← quotedScalar cursor
    return (.scalar text false, cursor)
  else if scan.startsPlain then scan.plain
  else .error .malformed

/-- The flaw as it is known to be: one that only the end of the text shows is the reason why the
text ends there. -/
def judge (scan : Scan) : Flaw → Flaw
  | .cutShort => scan.stop.getD .malformed
  | flaw => flaw

/-- The scan, unless it has come to where the text stops too early. -/
def within (scan : Scan) : Except Flaw Scan :=
  match scan.stop with
  | some flaw => if scan.cursor.rest.isEmpty then .error flaw else .ok scan
  | none => .ok scan

/-- Reads one more token, with the ends of the collections before it. -/
def fetch (scan : Scan) : Except Flaw Scan := do
  let scan ← (toNextToken scan.cursor.rest.length.succ scan).within
  let scan ← scan.dropStale
  let scan := scan.unwind scan.cursor.column
  if scan.cursor.rest.isEmpty then
    return { (← scan.margin).push .streamEnd with isOver := true }
  else
    let scan ← scan.token.mapError scan.judge
    scan.within

/-- Reads on until the first token can be taken: as long as it may be a key, it is not known what
stands before it. -/
def ready : Nat → Scan → Except Flaw Scan
  | 0, _ => .error .malformed
  | fuel + 1, scan => do
    if scan.isOver then return scan
    else if scan.queue.isEmpty then ready fuel (← scan.fetch)
    else
      let scan ← scan.dropStale
      if scan.keys.any fun key => key.2.slot = scan.taken then ready fuel (← scan.fetch)
      else return scan

/-- The scan without its first token. -/
def drop (scan : Scan) : Scan :=
  match scan.queue with
  | [] => scan
  | _ :: rest => { scan with queue := rest, taken := scan.taken + 1 }

/-- The scan at the start of a text, whose byte order mark is skipped. -/
def ofSupply (supply : Supply) : Scan :=
  let cursor : Cursor := { rest := supply.text }
  { cursor := if cursor.head = '\uFEFF' then cursor.next else cursor
    stop := supply.stop }

end Scan

end Scenarist.Yaml
