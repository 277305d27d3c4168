/-
Texts and bytes. UTF-8 is read with where and why the bytes stop being UTF-8, as the shortest run of
bytes that no character starts with; a lenient reader puts U+FFFD in the place of each such run.
Base64 is read leniently: what is no letter of the alphabet is skipped, and everything behind the
padding is left alone; a last group of one letter, or one without its padding, is refused.
-/

import Scenarist.Text.Basic

namespace Scenarist.Utf8

/-- Why a run of bytes is no character. -/
inductive Flaw where
  | startByte
  | continuation
  | cutShort
  deriving DecidableEq, Repr

/-- One step of reading: a character and how many bytes it takes, or how many bytes are in error. -/
inductive Step where
  | char (c : Char) (width : Nat)
  | bad (flaw : Flaw) (width : Nat)

/-- Is the byte `10xxxxxx`? -/
def isContinuation (b : UInt8) : Bool := 0x80 ≤ b && b ≤ 0xBF

/-- The six bits that a continuation byte carries. -/
def payload (b : UInt8) : Nat := b.toNat - 0x80

/-- May `b` be the second byte after the first byte `a` of a three or four byte form? Overlong
forms, surrogates and code points above U+10FFFF are ruled out here. -/
def secondFits (a b : UInt8) : Bool :=
  isContinuation b &&
    !(a == 0xE0 && b < 0xA0) && !(a == 0xED && 0xA0 ≤ b) &&
    !(a == 0xF0 && b < 0x90) && !(a == 0xF4 && 0x90 ≤ b)

/-- Reads one character after the first byte `a`. -/
def step (a : UInt8) (rest : List UInt8) : Step :=
  if a < 0x80 then .char (Char.ofNat a.toNat) 1
  else if a < 0xC2 || 0xF4 < a then .bad .startByte 1
  else if a < 0xE0 then
    match rest with
    | [] => .bad .cutShort 1
    | b :: _ =>
      if isContinuation b then .char (Char.ofNat ((a.toNat - 0xC0) * 0x40 + payload b)) 2
      else .bad .continuation 1
  else if a < 0xF0 then
    match rest with
    | [] => .bad .cutShort 1
    | b :: more =>
      if !secondFits a b then .bad .continuation 1
      else match more with
        | [] => .bad .cutShort 2
        | c :: _ =>
          if isContinuation c then
            .char (Char.ofNat (((a.toNat - 0xE0) * 0x40 + payload b) * 0x40 + payload c)) 3
          else .bad .continuation 2
  else
    match rest with
    | [] => .bad .cutShort 1
    | b :: more =>
      if !secondFits a b then .bad .continuation 1
      else match more with
        | [] => .bad .cutShort 2
        | c :: last =>
          if !isContinuation c then .bad .continuation 2
          else match last with
            | [] => .bad .cutShort 3
            | d :: _ =>
              if isContinuation d then
                .char (Char.ofNat ((((a.toNat - 0xF0) * 0x40 + payload b) * 0x40 + payload c) *
                  0x40 + payload d)) 4
              else .bad .continuation 3

/-- Where the bytes of a file stop being UTF-8. -/
structure Error where
  flaw : Flaw
  /-- Offset of the first byte in error. -/
  offset : Nat
  /-- The bytes in error, at least one. -/
  bytes : List UInt8
  deriving DecidableEq, Repr

/-- The wording of a flaw. -/
def Flaw.message : Flaw → Text
  | .startByte => "invalid start byte"
  | .continuation => "invalid continuation byte"
  | .cutShort => "unexpected end of data"

/-- The wording of a decoding error: one byte is shown, of several the positions are given. -/
def Error.message (e : Error) : Text :=
  let place : Text := match e.bytes with
    | [b] => "byte 0x" ++ Text.hex 2 b.toNat ++ " in position " ++ Text.ofNat e.offset
    | bytes => "bytes in position " ++ Text.ofNat e.offset ++ "-" ++
        Text.ofNat (e.offset + bytes.length - 1)
  "'utf-8' codec can't decode " ++ place ++ ": " ++ e.flaw.message

/-- Reads bytes that start at `offset`; `skip` of them belong to the character just read. -/
def decodeFrom : Nat → Nat → List UInt8 → Except Error Text
  | _, _, [] => .ok []
  | skip + 1, offset, _ :: rest => decodeFrom skip (offset + 1) rest
  | 0, offset, a :: rest =>
    match step a rest with
    | .char c width => do
      let t ← decodeFrom (width - 1) (offset + 1) rest
      .ok (c :: t)
    | .bad flaw width => .error ⟨flaw, offset, (a :: rest).take width⟩

/-- The text that the bytes spell, or where they stop spelling one. -/
def decode (bytes : List UInt8) : Except Error Text := decodeFrom 0 0 bytes

/-- Reads leniently; `skip` bytes belong to what was just read. -/
def decodeLossyFrom : Nat → List UInt8 → Text
  | _, [] => []
  | skip + 1, _ :: rest => decodeLossyFrom skip rest
  | 0, a :: rest =>
    match step a rest with
    | .char c width => c :: decodeLossyFrom (width - 1) rest
    | .bad _ width => '\uFFFD' :: decodeLossyFrom (width - 1) rest

/-- The text of any bytes, with U+FFFD in the place of each run in error. -/
def decodeLossy (bytes : List UInt8) : Text := decodeLossyFrom 0 bytes

/-- The bytes of a text. -/
def encode (t : Text) : List UInt8 := t.flatMap String.utf8EncodeChar

end Scenarist.Utf8

/-! ### Base64 -/

namespace Scenarist.Base64

/-- The six bits that a letter of the alphabet carries. -/
def sextet? (c : Char) : Option Nat :=
  if 'A' ≤ c ∧ c ≤ 'Z' then some (c.toNat - 65)
  else if 'a' ≤ c ∧ c ≤ 'z' then some (c.toNat - 71)
  else if '0' ≤ c ∧ c ≤ '9' then some (c.toNat + 4)
  else if c = '+' then some 62
  else if c = '/' then some 63
  else none

/-- Reads on behind `place` letters of a group of four, whose bits not yet written out are `left`,
and behind `pads` padding marks in a row. -/
def decodeFrom : Nat → Nat → Nat → Text → Option (List UInt8)
  | place, _, _, [] => if place = 0 then some [] else none
  | place, left, pads, c :: rest =>
    if c = '=' then
      if 4 ≤ place + pads + 1 ∧ 2 ≤ place then some []
      else decodeFrom place left (if 2 ≤ place then pads + 1 else pads) rest
    else match sextet? c with
      | none => decodeFrom place left pads rest
      | some bits =>
        match place with
        | 0 => decodeFrom 1 bits 0 rest
        | 1 => (decodeFrom 2 (bits % 16) 0 rest).map (UInt8.ofNat (left * 4 + bits / 16) :: ·)
        | 2 => (decodeFrom 3 (bits % 4) 0 rest).map (UInt8.ofNat (left * 16 + bits / 4) :: ·)
        | _ => (decodeFrom 0 0 0 rest).map (UInt8.ofNat (left * 64 + bits) :: ·)

/-- The bytes that an ASCII text stands for. -/
def decode? (t : Text) : Option (List UInt8) :=
  if t.all fun c => c.toNat < 128 then decodeFrom 0 0 0 t else none

end Scenarist.Base64
