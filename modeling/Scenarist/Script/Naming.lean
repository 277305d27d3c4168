/-
Names made from free text: the method of a scenario, the class of a feature. Methods of one class
are kept apart by the least number that makes the next one new.
-/

import Scenarist.Text.Basic
import Scenarist.Text.Lower
import Scenarist.Text.Name
import Scenarist.Text.Word

namespace Scenarist.Naming

/-- Every longest run of characters outside `keep` becomes one low line; `bridged` says whether the
run at the start has had its low line already. -/
def bridge (keep : Char → Bool) : Bool → Text → Text
  | _, [] => []
  | bridged, c :: rest =>
    if keep c then c :: bridge keep false rest
    else if bridged then bridge keep true rest
    else '_' :: bridge keep true rest

/-- The words of a text with low lines between them, none at either end. -/
def slug (keep : Char → Bool) (t : Text) : Text :=
  Text.trim (· = '_') (bridge keep false t)

/-- Is `c` an ASCII digit? -/
def isAsciiDigit (c : Char) : Bool := '0' ≤ c && c ≤ '9'

/-- Is `c` an ASCII digit or small letter? -/
def isSmallAlnum (c : Char) : Bool := isAsciiDigit c || ('a' ≤ c && c ≤ 'z')

/-- Is `c` an ASCII digit or letter? -/
def isAlnum (c : Char) : Bool := isSmallAlnum c || ('A' ≤ c && c ≤ 'Z')

/-- A text as the end of an identifier: its words in lower case, only ASCII ones if some character
of a word may not stand in a name, and `fallback` if no word is left. -/
def identifier (fallback t : Text) : Text :=
  let words := slug Text.isWord (Text.lower t)
  let plain := if Text.isName ('x' :: words) then words else slug isSmallAlnum words
  if plain.isEmpty then fallback else plain

/-- The identifier of a scenario. -/
def scenarioIdentifier (name : Text) : Text := identifier "scenario" name

/-- The capital of a small ASCII letter. -/
def capital (c : Char) : Char :=
  if 'a' ≤ c ∧ c ≤ 'z' then Char.ofNat (c.toNat - 32) else c

/-- The ASCII words of a text run together, each with a capital at its start; `inWord` says
whether the character before belongs to a word. -/
def pascal : Bool → Text → Text
  | _, [] => []
  | inWord, c :: rest =>
    if isAlnum c then (if inWord then c else capital c) :: pascal true rest
    else pascal false rest

/-- A text as a class name: its ASCII words run together, after `fallback` if they start with a
digit, and `fallback` itself if there is none. -/
def className (fallback t : Text) : Text :=
  match pascal false t with
  | [] => fallback
  | c :: rest => if isAsciiDigit c then fallback ++ c :: rest else c :: rest

/-- The class name of a feature. -/
def featureClass (title : Text) : Text := className "Feature" title

/-- A name with a number behind it. -/
def numbered (base : Text) (n : Nat) : Text := base ++ '_' :: Text.ofNat n

/-- The first of `base_n`, `base_(n+1)`, … that is not taken, looking `fuel` times. -/
def nextFree (taken : List Text) (base : Text) : Nat → Nat → Text
  | 0, n => numbered base n
  | fuel + 1, n =>
    if taken.contains (numbered base n) then nextFree taken base fuel (n + 1)
    else numbered base n

/-- A name that is not taken: `base`, or `base` with the least number from two on. As many numbers
as there are names cannot all be taken. -/
def fresh (taken : List Text) (base : Text) : Text :=
  if taken.contains base then nextFree taken base taken.length 2 else base

/-- Names for the texts in order, each fresh among those before it and in `taken`. -/
def allocate : List Text → List Text → List Text
  | _, [] => []
  | taken, base :: rest =>
    let name := fresh taken base
    name :: allocate (name :: taken) rest

/-- The method names of scenarios with these names. -/
def methods (names : List Text) : List Text := allocate [] (names.map scenarioIdentifier)

end Scenarist.Naming
