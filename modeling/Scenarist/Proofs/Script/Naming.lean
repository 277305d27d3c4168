/-
What names are made of. The method of a scenario and the class of a feature hold nothing but word
characters, whatever the text they are made from.
-/

import Scenarist.Proofs.Text.Lines
import Scenarist.Script.Naming

namespace Scenarist.Naming

/-- All characters of the text may stand in a word. -/
def IsWords (t : Text) : Prop := ∀ c ∈ t, Text.isWord c = true

instance (t : Text) : Decidable (IsWords t) :=
  List.decidableBAll (fun c => Text.isWord c = true) t

/-- The low line may stand in a word. -/
theorem isWord_lowLine : Text.isWord '_' = true := by decide +kernel

/-- Neither quotes nor the sign that comments begin with may stand in a word. -/
theorem isWord_sign {c : Char} (sign : c ∈ ['#', '"', '\'']) : Text.isWord c = false := by
  simp only [List.mem_cons, List.not_mem_nil, or_false] at sign
  rcases sign with rfl | rfl | rfl <;> decide +kernel

/-- Ranges that have those of the ASCII digits and letters have each of them. -/
theorem has_of_isAlnum {ranges : Text.CodeRanges} (digits : (0x30, 0x39) ∈ ranges)
    (capitals : (0x41, 0x5A) ∈ ranges) (small : (0x61, 0x7A) ∈ ranges) {c : Char}
    (alnum : isAlnum c = true) : ranges.has c = true := by
  have within {range : Nat × Nat} (member : range ∈ ranges) (low : range.1 ≤ c.toNat)
      (high : c.toNat ≤ range.2) : ranges.has c = true :=
    List.any_eq_true.mpr ⟨range, member, by simp [low, high]⟩
  simp only [isAlnum, isSmallAlnum, isAsciiDigit, Bool.or_eq_true, Bool.and_eq_true,
    decide_eq_true_eq] at alnum
  rcases alnum with (⟨low, high⟩ | ⟨low, high⟩) | ⟨low, high⟩
  · exact within digits low high
  · exact within small low high
  · exact within capitals low high

/-- ASCII digits and letters may stand in a word. -/
theorem isWord_of_isAlnum {c : Char} (alnum : isAlnum c = true) : Text.isWord c = true :=
  has_of_isAlnum (.head _) (.tail _ (.head _)) (.tail _ (.tail _ (.tail _ (.head _)))) alnum

/-! ### Methods -/

/-- What a bridge leaves was kept or is a low line. -/
theorem of_mem_bridge {keep : Char → Bool} {bridged : Bool} {t : Text} {c : Char}
    (member : c ∈ bridge keep bridged t) : keep c = true ∨ c = '_' := by
  induction t generalizing bridged with
  | nil => cases member
  | cons d t ih =>
    rw [bridge] at member
    split_ifs at member with kept
    · rcases List.mem_cons.mp member with rfl | member
      · exact Or.inl kept
      · exact ih member
    · exact ih member
    · rcases List.mem_cons.mp member with rfl | member
      · exact Or.inr rfl
      · exact ih member

theorem of_mem_slug {keep : Char → Bool} {t : Text} {c : Char} (member : c ∈ slug keep t) :
    keep c = true ∨ c = '_' :=
  of_mem_bridge (Text.mem_of_mem_trim member)

theorem isWords_slug {keep : Char → Bool} (words : ∀ c, keep c = true → Text.isWord c = true)
    (t : Text) : IsWords (slug keep t) := by
  intro c member
  rcases of_mem_slug member with kept | rfl
  · exact words c kept
  · exact isWord_lowLine

/-- Small letters and digits are alphanumeric. -/
theorem isAlnum_of_isSmallAlnum {c : Char} (small : isSmallAlnum c = true) : isAlnum c = true := by
  rw [isAlnum, small, Bool.true_or]

theorem isWords_identifier {fallback : Text} (words : IsWords fallback) (t : Text) :
    IsWords (identifier fallback t) := by
  have small (c : Char) (alnum : isSmallAlnum c = true) : Text.isWord c = true :=
    isWord_of_isAlnum (isAlnum_of_isSmallAlnum alnum)
  simp only [identifier]
  split_ifs
  · exact words
  · exact isWords_slug (fun _ word => word) _
  · exact words
  · exact isWords_slug small _

/-- The characters of a number are ASCII digits. -/
theorem isAsciiDigit_of_mem_ofNat {n : Nat} {c : Char} (member : c ∈ Text.ofNat n) :
    isAsciiDigit c = true :=
  Nat.isDigit_of_mem_toDigits (by decide) (by decide) member

/-- What stands behind the base of a numbered name is the low line and digits. -/
theorem of_mem_suffix {n : Nat} {c : Char} (member : c ∈ '_' :: Text.ofNat n) :
    isAlnum c = true ∨ c = '_' := by
  rcases List.mem_cons.mp member with rfl | member
  · exact Or.inr rfl
  · rw [isAlnum, isSmallAlnum, isAsciiDigit_of_mem_ofNat member]
    exact Or.inl rfl

theorem isWords_numbered {base : Text} (words : IsWords base) (n : Nat) :
    IsWords (numbered base n) := by
  intro c member
  rcases List.mem_append.mp member with member | member
  · exact words c member
  · rcases of_mem_suffix member with alnum | rfl
    · exact isWord_of_isAlnum alnum
    · exact isWord_lowLine

/-- A search over numbers ends with the base and a number. -/
theorem nextFree_numbered (taken : List Text) (base : Text) (fuel n : Nat) :
    ∃ number, nextFree taken base fuel n = numbered base number := by
  induction fuel generalizing n with
  | zero => exact ⟨n, rfl⟩
  | succ fuel ih =>
    rw [nextFree]
    split
    · exact ih (n + 1)
    · exact ⟨n, rfl⟩

/-- A fresh name is the base itself or the base with a number. -/
theorem fresh_eq (taken : List Text) (base : Text) :
    fresh taken base = base ∨ ∃ n, fresh taken base = numbered base n := by
  rw [fresh]
  split
  · exact Or.inr (nextFree_numbered taken base _ _)
  · exact Or.inl rfl

/-- Every name is a base or a base with a number. -/
theorem of_mem_allocate {taken bases : List Text} {name : Text}
    (member : name ∈ allocate taken bases) :
    ∃ base ∈ bases, name = base ∨ ∃ n, name = numbered base n := by
  induction bases generalizing taken with
  | nil => cases member
  | cons base bases ih =>
    rcases List.mem_cons.mp member with rfl | member
    · exact ⟨base, List.mem_cons_self, fresh_eq taken base⟩
    · obtain ⟨other, among, form⟩ := ih member
      exact ⟨other, List.mem_cons_of_mem _ among, form⟩

/-- **Methods are made of word characters.** -/
theorem isWords_methods (names : List Text) : ∀ method ∈ methods names, IsWords method := by
  intro method member
  obtain ⟨base, among, form⟩ := of_mem_allocate member
  obtain ⟨name, -, rfl⟩ := List.mem_map.mp among
  have words : IsWords (scenarioIdentifier name) := isWords_identifier (by decide +kernel) name
  rcases form with rfl | ⟨n, rfl⟩
  · exact words
  · exact isWords_numbered words n

/-! ### Classes -/

theorem isAlnum_capital {c : Char} (alnum : isAlnum c = true) : isAlnum (capital c) = true := by
  unfold capital
  split
  · next small =>
    have letters : ∀ n < 26, isAlnum (Char.ofNat (65 + n)) = true := by decide
    have low : 97 ≤ c.toNat := small.1
    have high : c.toNat ≤ 122 := small.2
    have same : c.toNat - 32 = 65 + (c.toNat - 97) := by omega
    rw [same]
    exact letters _ (by omega)
  · exact alnum

/-- The words that are run together are ASCII. -/
theorem isAlnum_of_mem_pascal {inWord : Bool} {t : Text} {c : Char} (member : c ∈ pascal inWord t) :
    isAlnum c = true := by
  induction t generalizing inWord with
  | nil => cases member
  | cons d t ih =>
    rw [pascal] at member
    split at member
    · next alnum =>
      rcases List.mem_cons.mp member with rfl | member
      · split
        · exact alnum
        · exact isAlnum_capital alnum
      · exact ih member
    · exact ih member

/-- A class name is ASCII and starts with a letter, if that is so of its fallback. -/
theorem className_spec {fallback : Text} (begun : ∃ c ∈ fallback.head?, isAsciiDigit c = false)
    (ascii : ∀ c ∈ fallback, isAlnum c = true) (t : Text) :
    (∃ c ∈ (className fallback t).head?, isAsciiDigit c = false) ∧
      ∀ c ∈ className fallback t, isAlnum c = true := by
  have words {c : Char} (member : c ∈ pascal false t) : isAlnum c = true :=
    isAlnum_of_mem_pascal member
  rw [className]
  split
  · exact ⟨begun, ascii⟩
  · next c rest same =>
    rw [same] at words
    split
    · obtain ⟨first, head, letter⟩ := begun
      refine ⟨⟨first, ?_, letter⟩, fun d member => ?_⟩
      · exact List.mem_head?_append_of_mem_head? head
      · rcases List.mem_append.mp member with member | member
        · exact ascii d member
        · exact words member
    · next letter => exact ⟨⟨c, rfl, Bool.eq_false_iff.mpr letter⟩, fun d => words⟩

theorem featureClass_spec (title : Text) :
    (∃ c ∈ (featureClass title).head?, isAsciiDigit c = false) ∧
      ∀ c ∈ featureClass title, isAlnum c = true :=
  className_spec ⟨'F', rfl, rfl⟩ (List.all_eq_true.mp (by decide +kernel)) title

/-- **The class of a feature is made of word characters.** -/
theorem isWords_featureClass (title : Text) : IsWords (featureClass title) :=
  fun c member => isWord_of_isAlnum ((featureClass_spec title).2 c member)

end Scenarist.Naming
