/-
**Every literal is read back.** The apostrophe literal, the printable literal and the docstring of a
text are read as that text, whatever stands behind them, and the selector by a label as that label.
None of these forms, and no comment on an unbroken text, holds a character that ends a line of code
or may not stand in one. A printable literal holds only characters that show as themselves
(`shown_printable`).
-/

import Scenarist.Proofs.Literal.Reading

namespace Scenarist.Literal

/-! ### Apostrophe literals -/

theorem spells_singleChar (c : Char) : Spells singleRules ['\''] (singleChar c) c := by
  unfold singleChar
  split_ifs with slash quote feed ret nul line paragraph
  · subst slash
    exact spells_char (by decide) rfl
  · subst quote
    exact spells_char (by decide) rfl
  · subst feed
    exact spells_char (by decide) rfl
  · subst ret
    exact spells_char (by decide) rfl
  · subst nul
    exact fun _ => rfl
  · subst line
    exact fun _ => rfl
  · subst paragraph
    exact fun _ => rfl
  · exact spells_self (Ne.symm quote) slash
      (by simp [singleRules, isBreak, feed, ret, nul, line, paragraph])

/-- **An apostrophe literal is read as its text.** -/
theorem readSingle_single (t rest : Text) : readSingle (single t ++ rest) = some (t, rest) := by
  have spelled := read_spelled t singleChar (fun c _ => spells_singleChar c) (by decide) rest
  simpa [readSingle, single] using spelled

/-! ### Printable literals -/

/-- A character that shows as itself breaks no line. -/
theorem isBreak_of_isPrintable {c : Char} (shows : Text.isPrintable c = true) :
    isBreak c = false := by
  rw [← Bool.not_eq_true]
  intro breaks
  simp only [isBreak, Bool.or_eq_true, decide_eq_true_eq] at breaks
  rcases breaks with (((rfl | rfl) | rfl) | rfl) | rfl <;> revert shows <;> decide +kernel

theorem spells_codeEscape {quote : Char} (unmarked : quote ≠ '\\') (c : Char) :
    Spells (quotedRules false) [quote] (codeEscape c) c := by
  unfold codeEscape
  split_ifs with small middle
  · exact spells_code unmarked rfl small
  · exact spells_code unmarked rfl middle
  · have bounded : c.toNat < Nat.pow 16 8 := by
      rcases c.valid with low | high
      · exact lt_trans low (by decide)
      · exact lt_trans high.2 (by decide)
    exact spells_code unmarked rfl bounded

theorem spells_printableChar {quote : Char} (isQuote : quote = '\'' ∨ quote = '"') (c : Char) :
    Spells (quotedRules false) [quote] (printableChar quote c) c := by
  have unmarked : quote ≠ '\\' := by rcases isQuote with rfl | rfl <;> decide
  unfold printableChar
  split_ifs with special tab feed ret shows
  · have announced : (quotedRules false).escape? c = some (.char c) := by
      rcases special with rfl | rfl
      · rcases isQuote with rfl | rfl <;> rfl
      · rfl
    exact spells_char unmarked announced
  · subst tab
    exact spells_char unmarked rfl
  · subst feed
    exact spells_char unmarked rfl
  · subst ret
    exact spells_char unmarked rfl
  · rw [not_or] at special
    exact spells_self (Ne.symm special.1) special.2
      (by simp [quotedRules, isBreak_of_isPrintable shows])
  · exact spells_codeEscape unmarked c

theorem quoteFor_or (t : Text) : quoteFor t = '\'' ∨ quoteFor t = '"' := by
  unfold quoteFor
  split
  · exact Or.inr rfl
  · exact Or.inl rfl

/-- The first character of a spelling between quotes is no quote. -/
theorem printableChar_head {quote : Char} (isQuote : quote = '\'' ∨ quote = '"') (c : Char) :
    ∃ d more, printableChar quote c = d :: more ∧ d ≠ quote := by
  have unmarked : '\\' ≠ quote := by rcases isQuote with rfl | rfl <;> decide
  unfold printableChar codeEscape
  split_ifs with special
  all_goals first
    | exact ⟨'\\', _, rfl, unmarked⟩
    | exact ⟨c, [], rfl, fun same => special (Or.inl same)⟩

/-- No more than one quote stands at the start of a printable literal that no quote follows. -/
theorem startsWith_printable {quote : Char} (isQuote : quote = '\'' ∨ quote = '"') (t : Text)
    {rest : Text} (unquoted : ∀ c ∈ rest.head?, c ≠ quote) (other : Char) :
    Text.startsWith (quote :: t.flatMap (printableChar quote) ++ [quote] ++ rest)
      [other, other, other] = false := by
  rw [← Bool.not_eq_true, Text.startsWith_iff]
  rintro ⟨tail, starts⟩
  cases t with
  | nil =>
    cases rest with
    | nil => simp at starts
    | cons c rest =>
      simp only [List.flatMap_nil, List.cons_append, List.nil_append, List.cons.injEq] at starts
      obtain ⟨first, -, third, -⟩ := starts
      exact unquoted c rfl (third.symm.trans first)
  | cons c t =>
    obtain ⟨d, more, spelled, different⟩ := printableChar_head isQuote c
    simp only [List.flatMap_cons, spelled, List.cons_append, List.nil_append,
      List.cons.injEq] at starts
    obtain ⟨first, second, -⟩ := starts
    exact different (second.symm.trans first)

theorem printable_append (t rest : Text) : printable t ++ rest =
    quoteFor t :: t.flatMap (printableChar (quoteFor t)) ++ [quoteFor t] ++ rest := by
  simp [printable]

/-- The mark of a printable literal is told by its first character, if no quote stands behind it. -/
theorem find?_marks_printable (t : Text) {rest : Text}
    (unquoted : ∀ c ∈ rest.head?, c ≠ '\'' ∧ c ≠ '"') :
    marks.find? (Text.startsWith (printable t ++ rest)) = some [quoteFor t] := by
  have isQuote := quoteFor_or t
  have unquotedHere : ∀ c ∈ rest.head?, c ≠ quoteFor t := by
    intro c first
    rcases isQuote with same | same <;> rw [same]
    · exact (unquoted c first).1
    · exact (unquoted c first).2
  have noThree := startsWith_printable isQuote t unquotedHere
  rw [← printable_append] at noThree
  have noDouble : Text.startsWith (printable t ++ rest) tripleQuote = false := noThree '"'
  have noSingle : Text.startsWith (printable t ++ rest) "'''" = false := noThree '\''
  rw [marks, List.find?_cons_of_neg (ne_true_of_eq_false noDouble),
    List.find?_cons_of_neg (ne_true_of_eq_false noSingle), printable_append]
  rcases isQuote with same | same <;> rw [same] <;> rfl

/-- **A printable literal is read as its text**, if no quote stands behind it. -/
theorem readQuoted_printable (t : Text) {rest : Text}
    (unquoted : ∀ c ∈ rest.head?, c ≠ '\'' ∧ c ≠ '"') :
    readQuoted (printable t ++ rest) = some (t, rest) := by
  have isQuote := quoteFor_or t
  rw [readQuoted, find?_marks_printable t unquoted, Option.bind_some, printable_append]
  exact read_spelled t (printableChar (quoteFor t)) (fun c _ => spells_printableChar isQuote c)
    (List.cons_ne_nil _ _) rest

/-! ### Docstrings -/

/-- A character of a docstring. -/
def docChar (c : Char) : Text :=
  if c = '\\' then "\\\\" else if c = '"' then "\\\"" else commentChar c

theorem docstring_eq (t : Text) :
    docstring t = tripleQuote ++ t.flatMap docChar ++ tripleQuote := by
  have each : ∀ c ∈ t, (if c = '\\' then "\\\\".toList else if c = '"' then "\\\"".toList
      else [c]).flatMap commentChar = docChar c := by
    intro c _
    unfold docChar
    split_ifs
    · rfl
    · rfl
    · exact List.append_nil _
  rw [docstring, comment, slashed, List.flatMap_assoc, List.flatMap_congr each]

theorem spells_docChar (c : Char) : Spells (quotedRules true) tripleQuote (docChar c) c := by
  unfold docChar commentChar
  split_ifs with slash quote ret nul line paragraph
  · subst slash
    exact spells_char (by decide) rfl
  · subst quote
    exact spells_char (by decide) rfl
  · subst ret
    exact spells_char (by decide) rfl
  · subst nul
    exact fun _ => rfl
  · subst line
    exact fun _ => rfl
  · subst paragraph
    exact fun _ => rfl
  · exact spells_self (Ne.symm quote) slash
      (by by_cases feed : c = '\n' <;> simp [quotedRules, isBreak, feed, ret, nul, line, paragraph])

/-- **A docstring is read as its text**, whatever stands behind it. -/
theorem readQuoted_docstring (t rest : Text) :
    readQuoted (docstring t ++ rest) = some (t, rest) := by
  rw [docstring_eq]
  have found : marks.find?
      (Text.startsWith (tripleQuote ++ t.flatMap docChar ++ tripleQuote ++ rest)) =
        some tripleQuote := by
    rw [marks, List.find?_cons_of_pos]
    rw [Text.startsWith_iff, List.append_assoc, List.append_assoc]
    exact List.prefix_append _ _
  rw [readQuoted, found, Option.bind_some]
  exact read_spelled t docChar (fun c _ => spells_docChar c) (by decide) rest

/-! ### Labels -/

/-- A character behind a backslash where it needs one. -/
def slashedChar (c : Char) : Text :=
  if c = '\\' then "\\\\" else if c = '"' then "\\\"" else [c]

theorem slashed_eq (t : Text) : slashed t = t.flatMap slashedChar := rfl

theorem spells_slashedChar (c : Char) : Spells slashedRules ['"'] (slashedChar c) c := by
  unfold slashedChar
  split_ifs with slash quote
  · subst slash
    exact spells_char (by decide) rfl
  · subst quote
    exact spells_char (by decide) rfl
  · exact spells_self (Ne.symm quote) slash rfl

/-- The selector by a label, cut where it is read. -/
theorem hasText_eq (label : Text) : hasText label =
    buttonLead ++ '"' :: (slashed label ++ '"' :: (linkLead ++ '"' ::
      (slashed label ++ ['"', ')']))) := by
  have opening : "button:has-text(\"".toList = buttonLead ++ ['"'] := rfl
  have middle : "\"), a:has-text(\"".toList = '"' :: (linkLead ++ ['"']) := rfl
  have closing : "\")".toList = ['"', ')'] := rfl
  unfold hasText
  rw [opening, middle, closing]
  simp only [List.append_assoc, List.cons_append, List.nil_append]

/-- **The selector by a label names that label.** -/
theorem readLabel_hasText (label : Text) : readLabel (hasText label) = some label := by
  have half (rest : Text) :
      read slashedRules ['"'] ('"' :: (slashed label ++ '"' :: rest)) = some (label, rest) := by
    have spelled :=
      read_spelled label slashedChar (fun c _ => spells_slashedChar c) (by decide) rest
    simpa [slashed_eq] using spelled
  rw [readLabel, hasText_eq, Text.afterLead?_append]
  simp only [Option.bind_eq_bind, Option.bind_some, half, Text.afterLead?_append]
  simp

/-! ### Unbroken texts -/

/-- No character of the text ends a line of code or may not stand in one. -/
def Unbroken (t : Text) : Prop := ∀ c ∈ t, isBreak c = false

-- the characters of the text are gone through, not all characters
instance (t : Text) : Decidable (Unbroken t) :=
  List.decidableBAll (fun c => isBreak c = false) t

@[simp] theorem unbroken_append {s t : Text} : Unbroken (s ++ t) ↔ Unbroken s ∧ Unbroken t := by
  simp [Unbroken, or_imp, forall_and]

theorem unbroken_flatMap {t : Text} {spell : Char → Text} (each : ∀ c ∈ t, Unbroken (spell c)) :
    Unbroken (t.flatMap spell) := by
  intro c member
  obtain ⟨d, isFrom, inside⟩ := List.mem_flatMap.mp member
  exact each d isFrom c inside

theorem unbroken_singleton {c : Char} : Unbroken [c] ↔ isBreak c = false := by
  simp [Unbroken]

/-- An apostrophe literal breaks no line. -/
theorem unbroken_single (t : Text) : Unbroken (single t) := by
  have each : ∀ c ∈ t, Unbroken (singleChar c) := by
    intro c _
    unfold singleChar
    split_ifs with slash quote feed ret nul line paragraph
    case neg =>
      rw [unbroken_singleton]
      simp [isBreak, feed, ret, nul, line, paragraph]
    all_goals decide
  show Unbroken (['\''] ++ t.flatMap singleChar ++ ['\''])
  rw [unbroken_append, unbroken_append]
  exact ⟨⟨by decide, unbroken_flatMap each⟩, by decide⟩

/-- What holds of hexadecimal digits holds of all characters of a number in them. -/
theorem forall_mem_hex {P : Char → Prop} (digit : ∀ d, d < 16 → P (Nat.digitChar d))
    (width n : Nat) : ∀ c ∈ Text.hex width n, P c := by
  obtain ⟨digits, last, lastSmall, small, spelled, -⟩ := toDigits_eq_map n
  intro c member
  rw [Text.hex, spelled, List.mem_append, List.mem_append, List.mem_singleton] at member
  rcases member with zero | inside | rfl
  · rw [(List.mem_replicate.mp zero).2]
    exact digit 0 (by decide)
  · obtain ⟨d, among, rfl⟩ := List.mem_map.mp inside
    exact digit d (small d among)
  · exact digit last lastSmall

/-- All characters of the text show as themselves. -/
def Shown (t : Text) : Prop := ∀ c ∈ t, Text.isPrintable c = true

-- the characters of the text are gone through, not all characters
instance (t : Text) : Decidable (Shown t) :=
  List.decidableBAll (fun c => Text.isPrintable c = true) t

theorem shown_append {s t : Text} : Shown (s ++ t) ↔ Shown s ∧ Shown t :=
  List.forall_mem_append

theorem shown_quoteFor (t : Text) : Shown [quoteFor t] := by
  rcases quoteFor_or t with same | same <;> rw [same] <;> decide +kernel

theorem shown_codeEscape (c : Char) : Shown (codeEscape c) := by
  have hex (width : Nat) : Shown (Text.hex width c.toNat) :=
    forall_mem_hex (by decide +kernel) width c.toNat
  unfold codeEscape
  split_ifs
  all_goals exact shown_append.mpr ⟨by decide +kernel, hex _⟩

/-- **A printable literal is made of characters that show as themselves.** -/
theorem shown_printable (t : Text) : Shown (printable t) := by
  have each : ∀ c ∈ t, Shown (printableChar (quoteFor t) c) := by
    intro c _
    unfold printableChar
    split_ifs with special tab feed ret shows
    · have shows : Shown [c] := by
        rcases special with rfl | rfl
        · exact shown_quoteFor t
        · decide +kernel
      exact shown_append.mpr ⟨(by decide +kernel : Shown ['\\']), shows⟩
    · decide +kernel
    · decide +kernel
    · decide +kernel
    · exact List.forall_mem_singleton.mpr shows
    · exact shown_codeEscape c
  show Shown ([quoteFor t] ++ t.flatMap (printableChar (quoteFor t)) ++ [quoteFor t])
  rw [shown_append, shown_append]
  refine ⟨⟨shown_quoteFor t, fun c member => ?_⟩, shown_quoteFor t⟩
  obtain ⟨d, among, inside⟩ := List.mem_flatMap.mp member
  exact each d among c inside

/-- A printable literal breaks no line. -/
theorem unbroken_printable (t : Text) : Unbroken (printable t) :=
  fun c member => isBreak_of_isPrintable (shown_printable t c member)

theorem unbroken_commentChar {c : Char} (same : c ≠ '\n') : Unbroken (commentChar c) := by
  unfold commentChar
  split_ifs with ret nul line paragraph
  case neg =>
    rw [unbroken_singleton]
    simp [isBreak, same, ret, nul, line, paragraph]
  all_goals decide

/-- A comment on a text without a line feed breaks no line. -/
theorem unbroken_comment {t : Text} (unfed : '\n' ∉ t) : Unbroken (comment t) :=
  unbroken_flatMap fun _ member => unbroken_commentChar fun same => unfed (same ▸ member)

theorem unbroken_docChar {c : Char} (same : c ≠ '\n') : Unbroken (docChar c) := by
  unfold docChar
  split_ifs
  · decide
  · decide
  · exact unbroken_commentChar same

/-- The docstring of a text without a line feed breaks no line. -/
theorem unbroken_docstring {t : Text} (unfed : '\n' ∉ t) : Unbroken (docstring t) := by
  rw [docstring_eq, unbroken_append, unbroken_append]
  refine ⟨⟨by decide, unbroken_flatMap fun c member => ?_⟩, by decide⟩
  exact unbroken_docChar fun same => unfed (same ▸ member)

end Scenarist.Literal
