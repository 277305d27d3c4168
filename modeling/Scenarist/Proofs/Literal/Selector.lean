/-
**The selector by a label, level by level.** Both literals of a selector are read as that selector.
It falls into two halves in one way only, where each half's text runs to the first double quote that
no backslash escapes (`halves_iff`); without its escapes that text is the label (`unslashed_slashed`).
So no label reaches beyond the strings that it stands in: read as a list, the selector has two
members, whatever the label says (`selectors?_hasText`). All levels stand in `hasText_levels`.
-/

import Scenarist.Proofs.Literal.Exactness

namespace Scenarist.Literal

open Text (replacedAll)

/-! ### The halves of a selector -/

/-- What stands behind the first text of a selector and its quote. -/
def linkHalf (second : Text) : Text := linkLead ++ '"' :: (second ++ ['"', ')'])

/-- The selector is one of a button and one of a link, and in both the quoted text runs to the first
double quote that no backslash escapes. -/
structure Halves (selector first second : Text) : Prop where
  whole : selector = buttonLead ++ '"' :: (first ++ '"' :: linkHalf second)
  firstEnds : closing? ['"'] false (first ++ '"' :: linkHalf second) = some (linkHalf second)
  secondEnds : closing? ['"'] false (second ++ ['"', ')']) = some [')']

/-- A slashed text runs to the quote behind it. -/
theorem closing?_slashed (t rest : Text) :
    closing? ['"'] false (slashed t ++ '"' :: rest) = some rest := by
  have closed := closing?_spelled (by decide) t slashedChar spells_slashedChar rest
  rwa [List.append_assoc, List.singleton_append, ← slashed_eq] at closed

theorem halves_hasText (label : Text) : Halves (hasText label) (slashed label) (slashed label) where
  whole := hasText_eq label
  firstEnds := closing?_slashed label _
  secondEnds := closing?_slashed label [')']

/-- **A selector falls into halves in one way only.** Where the first text ends is told by the
selector, and from there on the second one. -/
theorem Halves.unique {selector first second first' second' : Text}
    (one : Halves selector first second) (other : Halves selector first' second') :
    first' = first ∧ second' = second := by
  have same := one.whole.symm.trans other.whole
  have inside := List.cons_inj_right _ |>.mp (List.append_cancel_left same)
  have behind : linkHalf second = linkHalf second' := by
    have ends := one.firstEnds
    rw [inside, other.firstEnds] at ends
    exact (Option.some_inj.mp ends).symm
  refine ⟨?_, ?_⟩
  · rw [behind] at inside
    exact (List.append_cancel_right inside).symm
  · have quoted := List.cons_inj_right _ |>.mp (List.append_cancel_left behind)
    exact (List.append_cancel_right quoted).symm

theorem halves_iff {label first second : Text} :
    Halves (hasText label) first second ↔ first = slashed label ∧ second = slashed label := by
  constructor
  · exact (halves_hasText label).unique
  · rintro ⟨rfl, rfl⟩
    exact halves_hasText label

/-! ### Without escapes -/

/-- The text without the backslashes that escape a backslash or a double quote. -/
def unslashed : Text → Text
  | [] => []
  | [c] => [c]
  | c :: d :: rest =>
    if c = '\\' ∧ (d = '\\' ∨ d = '"') then d :: unslashed rest else c :: unslashed (d :: rest)

theorem unslashed_cons {c : Char} (unescaping : c ≠ '\\') (rest : Text) :
    unslashed (c :: rest) = c :: unslashed rest := by
  cases rest with
  | nil => rfl
  | cons d rest => rw [unslashed, if_neg fun both => unescaping both.1]

/-- **Without its escapes a slashed text is the text.** -/
theorem unslashed_slashed (t : Text) : unslashed (slashed t) = t := by
  rw [slashed_eq]
  induction t with
  | nil => rfl
  | cons c t ih =>
    rw [List.flatMap_cons, slashedChar]
    split_ifs with slash quote
    · subst slash
      show '\\' :: unslashed (t.flatMap slashedChar) = _
      rw [ih]
    · subst quote
      show '"' :: unslashed (t.flatMap slashedChar) = _
      rw [ih]
    · rw [List.singleton_append, unslashed_cons slash, ih]

/-! ### Lists of selectors -/

/-- A place in a list of selectors. -/
structure ListPlace where
  /-- So many brackets are open. -/
  depth : Nat := 0
  /-- The mark that closes the string that is open. -/
  mark : Option Char := none
  /-- A backslash stands before. -/
  escaped : Bool := false
  deriving DecidableEq, Repr

/-- The place behind a character of a selector, if the selector goes on or may end there: a comma
outside strings and brackets is none of its characters, and no bracket closes that is not open. -/
def ListPlace.next (place : ListPlace) (c : Char) : Option ListPlace :=
  if place.escaped then some { place with escaped := false }
  else if c = '\\' then some { place with escaped := true }
  else match place.mark with
    | some mark => some (if c = mark then { place with mark := none } else place)
    | none =>
      if c = '"' ∨ c = '\'' then some { place with mark := some c }
      else if c = '(' then some { place with depth := place.depth + 1 }
      else if place.depth = 0 then if c = ',' ∨ c = ')' then none else some place
      else some (if c = ')' then { place with depth := place.depth - 1 } else place)

/-- Puts a character before the first piece. -/
def onFirst (c : Char) : List Text → List Text
  | [] => [[c]]
  | piece :: pieces => (c :: piece) :: pieces

/-- The selectors from a place on. -/
def selectorsFrom : ListPlace → Text → Option (List Text)
  | place, [] => if place = {} then some [[]] else none
  | place, c :: rest =>
    match place.next c with
    | some next => (selectorsFrom next rest).map (onFirst c)
    | none => if c = ',' then (selectorsFrom {} rest).map ([] :: ·) else none

/-- The members of a list of selectors, cut at the commas outside strings and brackets; none where a
string or a bracket is left open. -/
def selectors? (t : Text) : Option (List Text) := selectorsFrom {} t

/-- A piece of a selector that leads from place to place is a piece of the first member. -/
theorem selectorsFrom_append {place next : ListPlace} {piece : Text}
    (leads : piece.foldlM ListPlace.next place = some next) (rest : Text) :
    selectorsFrom place (piece ++ rest) =
      (selectorsFrom next rest).map fun pieces => piece.foldr onFirst pieces := by
  induction piece generalizing place with
  | nil =>
    obtain rfl := Option.some_inj.mp leads
    exact Option.map_id'.symm
  | cons c piece ih =>
    rw [List.foldlM_cons] at leads
    obtain ⟨between, step, leads⟩ := Option.bind_eq_some_iff.mp leads
    rw [List.cons_append, selectorsFrom, step]
    dsimp only
    rw [ih leads, Option.map_map]
    rfl

theorem foldr_onFirst (piece first : Text) (pieces : List Text) :
    piece.foldr onFirst (first :: pieces) = (piece ++ first) :: pieces := by
  induction piece with
  | nil => rfl
  | cons c piece ih =>
    rw [List.foldr_cons, ih]
    rfl

/-- **A slashed text does not lead out of the string that it stands in.** -/
theorem foldlM_slashed (depth : Nat) (t : Text) :
    (slashed t).foldlM ListPlace.next ⟨depth, some '"', false⟩ =
      some ⟨depth, some '"', false⟩ := by
  rw [slashed_eq]
  induction t with
  | nil => rfl
  | cons c t ih =>
    have char : (slashedChar c).foldlM ListPlace.next ⟨depth, some '"', false⟩ =
        some ⟨depth, some '"', false⟩ := by
      unfold slashedChar
      split_ifs with slash quote
      · rfl
      · rfl
      · simp [ListPlace.next, slash, quote]
    rw [List.flatMap_cons, List.foldlM_append, char]
    exact ih

/-- One member of the selector by a label. -/
def byText (lead label : Text) : Text := lead ++ '"' :: (slashed label ++ ['"', ')'])

/-- What stands before the label in the selector of a link. -/
def anchorLead : Text := " a:has-text("

theorem hasText_eq_byText (label : Text) :
    hasText label = byText buttonLead label ++ ',' :: byText anchorLead label := by
  have middle : linkLead = ')' :: ',' :: anchorLead := rfl
  rw [hasText_eq, middle, byText, byText]
  simp only [List.append_assoc, List.cons_append, List.nil_append]

/-- A selector that holds its label in a string is one member of a list. -/
theorem selectorsFrom_byText (lead : Text)
    (opens : (lead ++ ['"']).foldlM ListPlace.next {} = some ⟨1, some '"', false⟩)
    (label rest : Text) :
    selectorsFrom {} (byText lead label ++ rest) =
      (selectorsFrom {} rest).map fun pieces => (byText lead label).foldr onFirst pieces := by
  refine selectorsFrom_append ?_ rest
  have whole : byText lead label = (lead ++ ['"']) ++ (slashed label ++ ['"', ')']) := by
    rw [byText, List.append_assoc, List.singleton_append]
  rw [whole, List.foldlM_append, opens, Option.bind_eq_bind, Option.bind_some, List.foldlM_append,
    foldlM_slashed]
  rfl

/-- **The selector by a label is a list of two**, whatever the label. -/
theorem selectors?_hasText (label : Text) :
    selectors? (hasText label) = some [byText buttonLead label, byText anchorLead label] := by
  have last : selectorsFrom {} (byText anchorLead label) = some [byText anchorLead label] := by
    have ended := selectorsFrom_byText anchorLead rfl label []
    rw [List.append_nil] at ended
    rw [ended, selectorsFrom, if_pos rfl, Option.map_some, foldr_onFirst, List.append_nil]
  have behind : selectorsFrom {} (',' :: byText anchorLead label) =
      some [[], byText anchorLead label] := by
    show (selectorsFrom {} (byText anchorLead label)).map ([] :: ·) = _
    rw [last, Option.map_some]
  rw [selectors?, hasText_eq_byText, selectorsFrom_byText buttonLead rfl, behind, Option.map_some,
    foldr_onFirst, List.append_nil]

/-! ### The levels of escaping -/

/-- **The escapes of a selector are undone level by level.** Its apostrophe literal and its printable
literal are read as the selector. The selector falls into a half of a button and a half of a link in
one way only, the text in each running to the first double quote that no backslash escapes; that
text is the label with its backslashes and double quotes escaped in turn, and without the escapes it
is the label. Read as a list of selectors it has these two members, and no two labels have one
selector. -/
theorem hasText_levels : Function.Injective hasText ∧ ∀ label : Text,
    readSingle (single (hasText label)) = some (hasText label, []) ∧
    readQuoted (printable (hasText label)) = some (hasText label, []) ∧
    (∀ first second, Halves (hasText label) first second ↔
      first = slashed label ∧ second = slashed label) ∧
    unslashed (slashed label) = label ∧
    slashed label = replacedAll slashTable label ∧
    selectors? (hasText label) = some ["button:has-text(\"" ++ slashed label ++ "\")",
      " a:has-text(\"" ++ slashed label ++ "\")"] := by
  refine ⟨fun label other same => ?injective, fun label => ⟨?single, ?printable,
    fun _ _ => halves_iff, unslashed_slashed label, slashed_eq_replacedAll label, ?members⟩⟩
  case injective =>
    have halves := halves_hasText other
    rw [← same, halves_iff] at halves
    rw [← unslashed_slashed label, ← halves.1, unslashed_slashed]
  case single =>
    have read := readSingle_single (hasText label) []
    rwa [List.append_nil] at read
  case printable =>
    have ends : ∀ c ∈ ([] : Text).head?, c ≠ '\'' ∧ c ≠ '"' := by simp
    have read := readQuoted_printable (hasText label) ends
    rwa [List.append_nil] at read
  case members =>
    have button : "button:has-text(\"".toList = buttonLead ++ ['"'] := rfl
    have anchor : " a:has-text(\"".toList = anchorLead ++ ['"'] := rfl
    have closing : "\")".toList = ['"', ')'] := rfl
    rw [selectors?_hasText, button, anchor, closing, byText, byText]
    simp only [List.append_assoc, List.cons_append, List.nil_append]

/-- A label that looks like the end of its selector and another one, and ends with a backslash, stays
inside its strings. -/
example : selectors? (hasText "x\"), b, (\\") = some
    ["button:has-text(\"x\\\"), b, (\\\\\")".toList, " a:has-text(\"x\\\"), b, (\\\\\")".toList] := by
  decide

end Scenarist.Literal
