/-
Patterns, and the search for them in a text. At a position the ways through a pattern are tried one
after another, and each is given up when nothing follows on it; the first way that goes on to the end
counts. A text has a pattern if there is a way through it at some position, from left to right.
-/

import Scenarist.Text.Basic

namespace Scenarist.Text

/-- A pattern. Its words are written in ASCII letters and spaces and found up to case. -/
inductive Pattern where
  /-- The start of the text. -/
  | start
  /-- One of the words. -/
  | words (options : List Text)
  /-- Characters of one line, as many as can be. -/
  | line
  /-- The first pattern with the second one behind it. -/
  | seq (first second : Pattern)
  /-- The first pattern, or the second one. -/
  | either (first second : Pattern)
  deriving Repr

namespace Pattern

/-- Goes on behind as many characters of the line as can be: behind all of them, or behind all but
the last, and so on. `index` characters stand before the text. -/
def throughLine (next : Nat → Text → Bool) : Nat → Text → Bool
  | index, [] => next index []
  | index, c :: rest =>
    (c ≠ '\n' && throughLine next (index + 1) rest) || next index (c :: rest)

/-- Is there a way through the pattern on which `next` goes on? `index` characters stand before the
text. -/
def tryAt : Pattern → (next : Nat → Text → Bool) → Nat → Text → Bool
  | start, next, index, t => index = 0 && next index t
  | words options, next, index, t => options.any fun word =>
    match afterWord? word t with
    | some rest => next (index + word.length) rest
    | none => false
  | line, next, index, t => throughLine next index t
  | seq first second, next, index, t => first.tryAt (second.tryAt next) index t
  | either first second, next, index, t => first.tryAt next index t || second.tryAt next index t

/-- Is there a way through the pattern at some position of the text? `index` characters stand before
it. -/
def searchFrom (pattern : Pattern) : Nat → Text → Bool
  | index, [] => pattern.tryAt (fun _ _ => true) index []
  | index, c :: rest =>
    pattern.tryAt (fun _ _ => true) index (c :: rest) || pattern.searchFrom (index + 1) rest

/-- Does the text have the pattern? -/
def search (pattern : Pattern) (t : Text) : Bool := pattern.searchFrom 0 t

end Pattern

end Scenarist.Text
