/-
**Literals stand for their texts exactly.** A literal that is read ends with the first mark that no
backslash escapes (`closing?_of_readFrom`), so that no text closes its literal early. The apostrophe
literal (`single_exact`), the printable literal and the docstring (`printable_docstring_exact`) are
whole literals, hold none of the characters that may not stand in them, and are read as their texts.
What they make of a text one character after the other is what their replacements make of it in turn
(`single_eq_replacedAll`, `docstring_eq_replacedAll`).
-/

import Scenarist.Proofs.Literal.ReadBack
import Scenarist.Proofs.Text.Replacement

namespace Scenarist.Literal

open Text (replacedAll replacement)

/-! ### The end of a literal -/

/-- What stands behind the first mark that no backslash escapes. The text starts behind a backslash
if told so. -/
def closing? (mark : Text) : Bool → Text → Option Text
  | _, [] => none
  | true, _ :: rest => closing? mark false rest
  | false, c :: rest =>
    match Text.afterLead? mark (c :: rest) with
    | some after => some after
    | none => closing? mark (c = '\\') rest

/-- Is the next character at the place escaped? -/
def Place.isEscaped : Place → Bool
  | .plain => false
  | .escaped => true
  | .code _ _ => false

theorem closing?_of_some {mark rest after : Text} {c : Char}
    (closed : Text.afterLead? mark (c :: rest) = some after) :
    closing? mark false (c :: rest) = some after := by
  rw [closing?, closed]

theorem closing?_of_none {mark rest : Text} {c : Char}
    (opened : Text.afterLead? mark (c :: rest) = none) :
    closing? mark false (c :: rest) = closing? mark (c = '\\') rest := by
  rw [closing?, opened]

/-- A hexadecimal digit neither escapes nor closes anything. -/
theorem closing?_digit {m c : Char} {more : Text} {digit : Nat} (noDigit : Text.hexDigit? m = none)
    (isDigit : Text.hexDigit? c = some digit) (rest : Text) :
    closing? (m :: more) false (c :: rest) = closing? (m :: more) false rest := by
  have unmarked : m ≠ c := by
    rintro rfl
    rw [noDigit] at isDigit
    cases isDigit
  have unescaped : c ≠ '\\' := by
    rintro rfl
    cases isDigit
  rw [closing?_of_none (afterLead?_cons_ne unmarked more rest), decide_eq_false unescaped]

/-- A character put before what was read leaves the rest. -/
theorem of_map_pushed {found : Option (Text × Text)} {c : Char} {s rest : Text}
    (isRead : found.map (pushed c) = some (s, rest)) : ∃ below, found = some (below, rest) := by
  obtain ⟨⟨below, after⟩, isBelow, pushes⟩ := Option.map_eq_some_iff.mp isRead
  obtain ⟨-, rfl⟩ := Prod.mk.inj pushes
  exact ⟨below, isBelow⟩

/-- **A literal ends with the first mark that is not escaped**: what reading leaves is what stands
behind that. -/
theorem closing?_of_readFrom {rules : Rules} {m : Char} {more : Text}
    (noDigit : Text.hexDigit? m = none) {place : Place} {t s rest : Text}
    (isRead : readFrom rules (m :: more) place t = some (s, rest)) :
    closing? (m :: more) place.isEscaped t = some rest := by
  induction t generalizing place s with
  | nil => cases place <;> cases isRead
  | cons c t ih =>
    cases place with
    | plain =>
      rw [readFrom] at isRead
      rw [Place.isEscaped]
      cases found : Text.afterLead? (m :: more) (c :: t) with
      | some after =>
        rw [found] at isRead
        obtain ⟨-, rfl⟩ := Prod.mk.inj (Option.some_inj.mp isRead)
        exact closing?_of_some found
      | none =>
        rw [found] at isRead
        rw [closing?_of_none found]
        dsimp only at isRead
        split_ifs at isRead with slash allowed
        · rw [decide_eq_true slash]
          exact ih isRead
        · rw [decide_eq_false slash]
          obtain ⟨below, isRead⟩ := of_map_pushed isRead
          exact ih isRead
    | escaped =>
      rw [readFrom] at isRead
      rw [Place.isEscaped, closing?]
      split at isRead
      · obtain ⟨below, isRead⟩ := of_map_pushed isRead
        exact ih isRead
      · exact ih isRead
      · cases isRead
    | code digits value =>
      rw [readFrom.eq_def] at isRead
      dsimp only at isRead
      split at isRead
      · cases isRead
      · next digit isDigit =>
        rw [Place.isEscaped, closing?_digit noDigit isDigit]
        split at isRead
        · exact ih isRead
        · split_ifs at isRead with valid
          obtain ⟨below, isRead⟩ := of_map_pushed isRead
          exact ih isRead

/-- A text that is spelled character by character does not close its literal. -/
theorem closing?_spelled {rules : Rules} {m : Char} {more : Text}
    (noDigit : Text.hexDigit? m = none) (t : Text) (spell : Char → Text)
    (spells : ∀ c, Spells rules (m :: more) (spell c) c) (rest : Text) :
    closing? (m :: more) false (t.flatMap spell ++ m :: more ++ rest) = some rest := by
  have isRead := readFrom_spelled t spell (fun c _ => spells c) (List.cons_ne_nil m more) rest
  exact closing?_of_readFrom noDigit isRead

/-! ### Replacements -/

/-- What an apostrophe literal replaces, in turn. -/
def singleTable : List (Char × Text) :=
  [('\\', "\\\\"), ('\'', "\\'"), ('\n', "\\n"), ('\r', "\\r"), ('\x00', "\\x00"),
    ('\u2028', "\\u2028"), ('\u2029', "\\u2029")]

/-- What is replaced behind a comment mark, in turn. -/
def breakTable : List (Char × Text) :=
  [('\r', "\\r"), ('\x00', "\\x00"), ('\u2028', "\\u2028"), ('\u2029', "\\u2029")]

/-- What is replaced between double quotes, in turn. -/
def slashTable : List (Char × Text) := [('\\', "\\\\"), ('"', "\\\"")]

theorem single_eq_replacedAll (t : Text) :
    single t = '\'' :: replacedAll singleTable t ++ ['\''] := by
  have each : singleChar = replacement singleTable := by
    funext c
    simp only [singleChar, singleTable, Text.replacement_cons]
    rfl
  rw [single, each, Text.replacedAll_eq (by decide)]

theorem comment_eq_replacedAll (t : Text) : comment t = replacedAll breakTable t := by
  have each : commentChar = replacement breakTable := by
    funext c
    simp only [commentChar, breakTable, Text.replacement_cons]
    rfl
  rw [comment, each, Text.replacedAll_eq (by decide)]

theorem slashed_eq_replacedAll (t : Text) : slashed t = replacedAll slashTable t := by
  have each : slashedChar = replacement slashTable := by
    funext c
    simp only [slashedChar, slashTable, Text.replacement_cons]
    rfl
  rw [slashed_eq, each, Text.replacedAll_eq (by decide)]

theorem docstring_eq_replacedAll (t : Text) : docstring t =
    tripleQuote ++ replacedAll breakTable (replacedAll slashTable t) ++ tripleQuote := by
  rw [docstring, slashed_eq_replacedAll, comment_eq_replacedAll]

/-! ### Breaks of a docstring -/

/-- The only breaks of a docstring are the line feeds of its text. -/
theorem isBreak_of_mem_docstring {t : Text} {c : Char} (member : c ∈ docstring t)
    (breaks : isBreak c = true) : c = '\n' := by
  have unbroken {s : Text} (whole : Unbroken s) (inside : c ∈ s) : False := by
    rw [whole c inside] at breaks
    cases breaks
  rw [docstring_eq, List.mem_append, List.mem_append] at member
  rcases member with (opening | inside) | ending
  · exact (unbroken (by decide) opening).elim
  · obtain ⟨d, -, inside⟩ := List.mem_flatMap.mp inside
    by_cases feed : d = '\n'
    · subst feed
      exact List.mem_singleton.mp inside
    · exact (unbroken (unbroken_docChar feed) inside).elim
  · exact (unbroken (by decide) ending).elim

/-- A character of a docstring stands for as many line feeds as it is. -/
theorem count_docChar (c : Char) : (docChar c).count '\n' = [c].count '\n' := by
  by_cases feed : c = '\n'
  · subst feed
    rfl
  · have absent : '\n' ∉ docChar c := fun member =>
      absurd (unbroken_docChar feed '\n' member) (by decide)
    rw [List.count_eq_zero.mpr absent, List.count_singleton, beq_false_of_ne feed]
    rfl

theorem count_docstring (t : Text) : (docstring t).count '\n' = t.count '\n' := by
  have inside : (t.flatMap docChar).count '\n' = t.count '\n' := by
    induction t with
    | nil => rfl
    | cons c t ih =>
      rw [List.flatMap_cons, List.count_append, count_docChar, ih, ← List.count_append]
      rfl
  have marks : tripleQuote.count '\n' = 0 := by decide
  rw [docstring_eq, List.count_append, List.count_append, inside, marks, Nat.zero_add, Nat.add_zero]

/-! ### Exactness -/

/-- **An apostrophe literal stands for its text exactly.** It is one whole literal, which its last
character closes and no other one; it breaks no line, is read as its text whatever stands behind it,
and is what the replacements make of the text in turn. So no two texts have one literal. -/
theorem single_exact : Function.Injective single ∧ ∀ t : Text,
    (∃ body, single t = '\'' :: body ∧ closing? ['\''] false body = some []) ∧
    Unbroken (single t) ∧
    (∀ rest, readSingle (single t ++ rest) = some (t, rest)) ∧
    single t = '\'' :: replacedAll singleTable t ++ ['\''] := by
  refine ⟨fun s t same => ?_, fun t => ⟨?_, unbroken_single t, readSingle_single t,
    single_eq_replacedAll t⟩⟩
  · have read := readSingle_single s []
    rw [same, readSingle_single] at read
    exact (Prod.mk.inj (Option.some_inj.mp read)).1.symm
  · refine ⟨t.flatMap singleChar ++ ['\''], rfl, ?_⟩
    have closed := closing?_spelled (by decide) t singleChar spells_singleChar []
    rwa [List.append_nil] at closed

/-- **A printable literal and a docstring stand for their text exactly.** Each is one whole literal,
which its last mark closes and no other one, and is read as the text. The printable literal stands
on one line and is made of characters that show as themselves. The docstring holds as many line
feeds as the text and no other breaks, and is what the replacements make of the text in turn. -/
theorem printable_docstring_exact (t : Text) :
    (∃ quote body, (quote = '\'' ∨ quote = '"') ∧ printable t = quote :: body ∧
      closing? [quote] false body = some []) ∧
    Unbroken (printable t) ∧ Shown (printable t) ∧ readQuoted (printable t) = some (t, []) ∧
    (∃ body, docstring t = tripleQuote ++ body ∧ closing? tripleQuote false body = some []) ∧
    '\r' ∉ docstring t ∧ '\x00' ∉ docstring t ∧ '\u2028' ∉ docstring t ∧ '\u2029' ∉ docstring t ∧
    (docstring t).count '\n' = t.count '\n' ∧
    (∀ rest, readQuoted (docstring t ++ rest) = some (t, rest)) ∧
    docstring t = tripleQuote ++ replacedAll breakTable (replacedAll slashTable t) ++ tripleQuote := by
  have unbroken (c : Char) (breaks : isBreak c = true) (different : c ≠ '\n') : c ∉ docstring t :=
    fun member => different (isBreak_of_mem_docstring member breaks)
  refine ⟨?printable, unbroken_printable t, shown_printable t, ?read, ?docstring,
    unbroken '\r' rfl (by decide), unbroken '\x00' rfl (by decide), unbroken '\u2028' rfl (by decide),
    unbroken '\u2029' rfl (by decide), count_docstring t, readQuoted_docstring t,
    docstring_eq_replacedAll t⟩
  case printable =>
    have isQuote := quoteFor_or t
    have noDigit : Text.hexDigit? (quoteFor t) = none := by
      rcases isQuote with same | same <;> rw [same] <;> rfl
    have closed := closing?_spelled noDigit t (printableChar (quoteFor t))
      (spells_printableChar isQuote) []
    rw [List.append_nil] at closed
    exact ⟨quoteFor t, _, isQuote, rfl, closed⟩
  case read =>
    have ends : ∀ c ∈ ([] : Text).head?, c ≠ '\'' ∧ c ≠ '"' := by simp
    have spelled := readQuoted_printable t ends
    rwa [List.append_nil] at spelled
  case docstring =>
    have closed := closing?_spelled (by decide) t docChar spells_docChar []
    rw [List.append_nil] at closed
    exact ⟨t.flatMap docChar ++ tripleQuote, by rw [docstring_eq, List.append_assoc], closed⟩

end Scenarist.Literal
