/-
Values of settings: null, truth values, numbers, texts, bytes, moments, lists, pairs, sets and
mappings. A mapping keeps the order of its keys. Numbers that are equal are one key, whatever their
kind, and a truth value is the number zero or one there.
-/

import Scenarist.Decimal.Shortest
import Scenarist.Literal.Basic
import Scenarist.Settings.Moment

namespace Scenarist

/-- A value without parts: a key of a mapping, a member of a set. -/
inductive Key where
  | null
  | bool (value : Bool)
  | int (value : Int)
  | real (value : Binary64)
  /-- A result that is no number. It is one key only with itself, so it carries where it arose. -/
  | undefined (file mark : Nat)
  | text (value : Text)
  | bytes (value : List UInt8)
  | moment (value : Moment)
  deriving DecidableEq, Repr

/-- The key that stands for all keys equal to this one. -/
def Key.canonical : Key → Key
  | .bool value => .int (if value then 1 else 0)
  | .real value =>
    match value.integer? with
    | some n => .int n
    | none => .real value
  | .moment value => .moment value.universal
  | key => key

/-- Are the two keys one? -/
def Key.same (k l : Key) : Bool := k.canonical = l.canonical

/-- A value of a setting. -/
inductive Value where
  | null
  | bool (value : Bool)
  | int (value : Int)
  | real (value : Binary64)
  | text (value : Text)
  | bytes (value : List UInt8)
  | moment (value : Moment)
  | list (items : List Value)
  | pair (first second : Value)
  | set (members : List Key)
  | map (entries : List (Key × Value))
  /-- A list or mapping around this place, standing inside itself. -/
  | endless
  deriving Inhabited

/-- The value that a key is. -/
def Key.value : Key → Value
  | .null => .null
  | .bool value => .bool value
  | .int value => .int value
  | .real value => .real value
  | .undefined _ _ => .real .nan
  | .text value => .text value
  | .bytes value => .bytes value
  | .moment value => .moment value

/-- The entries of a mapping. -/
abbrev Entries := List (Key × Value)

namespace Entries

/-- The value at a key. -/
def get? (entries : Entries) (key : Key) : Option Value :=
  (entries.find? fun entry => entry.1.same key).map (·.2)

/-- Is there a value at the key? -/
def has (entries : Entries) (key : Key) : Bool := entries.any fun entry => entry.1.same key

/-- The entries with `value` at `key`, in the place of the value there or at the end. -/
def put : Entries → Key → Value → Entries
  | [], key, value => [(key, value)]
  | entry :: rest, key, value =>
    if entry.1.same key then (entry.1, value) :: rest else entry :: put rest key value

/-- The entries without the one at a key. -/
def drop (entries : Entries) (key : Key) : Entries :=
  entries.filter fun entry => !entry.1.same key

end Entries

/-- The entries that a value has as a mapping. -/
def Value.entries? : Value → Option Entries
  | .map entries => some entries
  | _ => none

/-- The name of a value's kind, as messages give it. -/
def Value.kindName : Value → Text
  | .null => "NoneType"
  | .bool _ => "bool"
  | .int _ => "int"
  | .real _ => "float"
  | .text _ => "str"
  | .bytes _ => "bytes"
  | .moment value => if value.clock.isSome then "datetime.datetime" else "datetime.date"
  | .list _ => "list"
  | .pair _ _ => "tuple"
  | .set _ => "set"
  | .map _ => "dict"
  | .endless => "list"

/-- Is the value neither null, false, zero nor empty? -/
def Value.isTruthy : Value → Bool
  | .null => false
  | .bool value => value
  | .int value => value ≠ 0
  | .real value => !value.isZero
  | .text value => !value.isEmpty
  | .bytes value => !value.isEmpty
  | .list items => !items.isEmpty
  | .set members => !members.isEmpty
  | .map entries => !entries.isEmpty
  | _ => true

/-- How messages write a truth value. -/
def boolText (b : Bool) : Text := if b then "True" else "False"

/-- How messages write a key inside a mapping. -/
def Key.literal : Key → Text
  | .null => "None"
  | .bool value => boolText value
  | .int value => Text.ofInt value
  | .real value => value.text
  | .undefined _ _ => Binary64.nan.text
  | .text value => Literal.printable value
  | .bytes value => Literal.bytes value
  | .moment value => value.literal

/-- How messages write the members of a set. -/
def setLiteral (members : List Key) : Text :=
  if members.isEmpty then "set()"
  else '\x7b' :: Text.joined ", " (members.map Key.literal) ++ ['\x7d']

mutual

/-- How messages write a value inside another one. -/
def Value.literal : Value → Text
  | .null => "None"
  | .bool value => boolText value
  | .int value => Text.ofInt value
  | .real value => value.text
  | .text value => Literal.printable value
  | .bytes value => Literal.bytes value
  | .moment value => value.literal
  | .list items => '[' :: Text.joined ", " (Value.literals items) ++ [']']
  | .pair first second => '(' :: first.literal ++ ", " ++ second.literal ++ [')']
  | .set members => setLiteral members
  | .map entries => '\x7b' :: Text.joined ", " (Value.entryLiterals entries) ++ ['\x7d']
  | .endless => "[...]"

/-- How messages write the items of a list. -/
def Value.literals : List Value → List Text
  | [] => []
  | item :: rest => item.literal :: Value.literals rest

/-- How messages write the entries of a mapping. -/
def Value.entryLiterals : List (Key × Value) → List Text
  | [] => []
  | (key, value) :: rest =>
    (key.literal ++ ": " ++ value.literal) :: Value.entryLiterals rest

end

/-- How messages write a value: texts and moments as they are, everything else as inside another
value. -/
def Value.shown : Value → Text
  | .text value => value
  | .moment value => value.text
  | value => value.literal

/-! ### Numbers that are too long to be written -/

/-- Integers of more digits than this are not written. -/
def digitLimit : Nat := 4300

/-- Is the key no integer of too many digits? -/
def Key.isWritable : Key → Bool
  | .int value => value.natAbs < Binary64.tenTo digitLimit
  | _ => true

mutual

/-- Are there no integers of too many digits in the value? -/
def Value.isWritable : Value → Bool
  | .int value => (Key.int value).isWritable
  | .list items => Value.areWritable items
  | .pair first second => first.isWritable && second.isWritable
  | .set members => members.all Key.isWritable
  | .map entries => Value.entriesWritable entries
  | _ => true

/-- Are there none in the items? -/
def Value.areWritable : List Value → Bool
  | [] => true
  | item :: rest => item.isWritable && Value.areWritable rest

/-- Are there none in the entries? -/
def Value.entriesWritable : List (Key × Value) → Bool
  | [] => true
  | (key, value) :: rest => key.isWritable && value.isWritable && Value.entriesWritable rest

end

/-! ### Values inside themselves -/

mutual

/-- Does the value stand inside itself, on a way through mappings, and through lists as well if
`lists`? -/
def Value.isEndless (lists : Bool) : Value → Bool
  | .endless => true
  | .list items => lists && Value.anyEndless lists items
  | .map entries => Value.entriesEndless lists entries
  | _ => false

/-- Does one of the items stand inside itself? -/
def Value.anyEndless (lists : Bool) : List Value → Bool
  | [] => false
  | item :: rest => item.isEndless lists || Value.anyEndless lists rest

/-- Does the value of one of the entries stand inside itself? -/
def Value.entriesEndless (lists : Bool) : List (Key × Value) → Bool
  | [] => false
  | (_, value) :: rest => value.isEndless lists || Value.entriesEndless lists rest

end

end Scenarist
