/-
What of a file can be read as YAML. A file is read piece by piece: its bytes are decoded in pieces,
and its characters are looked through in batches, the first two at once. A batch that cannot be read
in whole is not read at all, so that a flaw before it comes first.
-/

import Scenarist.Yaml.Flaw

namespace Scenarist.Yaml

/-- The text that can be read. -/
structure Supply where
  text : Text
  /-- Why the text stops before its file does. -/
  stop : Option Flaw := none

namespace Supply

/-- May `c` stand in a YAML text? -/
def isText (c : Char) : Bool :=
  let n := c.toNat
  n = 0x9 || n = 0xA || n = 0xD || (0x20 ≤ n && n ≤ 0x7E) || n = 0x85 ||
    (0xA0 ≤ n && n ≤ 0xD7FF) || (0xE000 ≤ n && n ≤ 0xFFFD) || 0x10000 ≤ n

/-- How many bytes are decoded at a time. -/
def pieceSize : Nat := 8192

/-- How many characters are looked through at a time. -/
def batchSize : Nat := 4096

/-- How many characters are read when the one after `n` cannot be. -/
def readable (n : Nat) : Nat := if n < 2 * batchSize then 0 else n / batchSize * batchSize

/-- The text of the pieces before the first one with an error, and the error, counted from the start
of its piece. `kept` are the bytes of a character that the piece before did not end. -/
def decodePieces : Nat → List UInt8 → List UInt8 → Text × Option Utf8.Error
  | 0, _, _ => ([], none)
  | fuel + 1, kept, bytes =>
    let piece := kept ++ bytes.take pieceSize
    match Utf8.decode piece with
    | .ok t =>
      if bytes.isEmpty then (t, none)
      else
        let (rest, error) := decodePieces fuel [] (bytes.drop pieceSize)
        (t ++ rest, error)
    | .error e =>
      if bytes.isEmpty || e.flaw ≠ .cutShort then ([], some e)
      else
        let start := Utf8.decodeLossy (piece.take e.offset)
        let (rest, error) := decodePieces fuel (piece.drop e.offset) (bytes.drop pieceSize)
        (start ++ rest, error)

/-- What can be read of a file. -/
def ofBytes (bytes : List UInt8) : Supply :=
  let (raw, error) := decodePieces (bytes.length / pieceSize + 3) [] bytes
  let text := Text.unifyBreaks raw
  let strange := (text.takeWhile isText).length
  let clean := strange = text.length
  match error with
  | none =>
    if clean then { text := text }
    else { text := text.take (readable strange), stop := some .malformed }
  | some e =>
    if clean || readable text.length ≤ readable strange then
      { text := text.take (readable text.length), stop := some (.encoding e) }
    else { text := text.take (readable strange), stop := some .malformed }

end Supply

end Scenarist.Yaml
