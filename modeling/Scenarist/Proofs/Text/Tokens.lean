/-
**The last token of a text** is what stands between its last blanks, or its start, and the blanks at
its end (`getLast?_tokens`). A text is broken at each of its blanks (`tokens_append`), so that what
is behind the last one is a token of its own.
-/

import Mathlib.Data.List.Basic
import Scenarist.Text.Basic

namespace Scenarist.Text

/-- The token is the last one of the text: no blank is in it, nothing but blanks is behind it, and
a blank is in front of it or nothing. -/
def LastToken (token t : Text) : Prop :=
  ∃ front back, t = front ++ (token ++ back) ∧ token ≠ [] ∧ (∀ c ∈ token, isBlank c = false) ∧
    (∀ c ∈ back, isBlank c = true) ∧ ∀ c ∈ front.getLast?, isBlank c = true

/-- A text is broken at a blank, whatever token is begun before it. -/
theorem tokensFrom_append {b : Char} (blank : isBlank b = true) (begun t rest : Text) :
    tokensFrom begun (t ++ b :: rest) = tokensFrom begun t ++ tokens rest := by
  induction t generalizing begun with
  | nil =>
    rw [List.nil_append, tokensFrom, tokensFrom, if_pos blank]
    split <;> rfl
  | cons c t ih =>
    rw [List.cons_append, tokensFrom, tokensFrom, ih, ih]
    split
    · split <;> rfl
    · rfl

/-- **A text is broken at each of its blanks.** -/
theorem tokens_append {b : Char} (blank : isBlank b = true) (t rest : Text) :
    tokens (t ++ b :: rest) = tokens t ++ tokens rest :=
  tokensFrom_append blank [] t rest

/-- A blank in front begins no token. -/
theorem tokens_cons_blank {b : Char} (blank : isBlank b = true) (t : Text) :
    tokens (b :: t) = tokens t :=
  tokens_append blank [] t

/-- Blanks have no token. -/
theorem tokens_blanks {t : Text} (blank : ∀ c ∈ t, isBlank c = true) : tokens t = [] := by
  induction t with
  | nil => rfl
  | cons c t ih =>
    rw [tokens_cons_blank (blank c List.mem_cons_self)]
    exact ih fun d member => blank d (List.mem_cons_of_mem c member)

/-- The tokens are the same without the blanks in front. -/
theorem tokens_dropWhile (t : Text) : tokens (t.dropWhile isBlank) = tokens t := by
  induction t with
  | nil => rfl
  | cons c t ih =>
    by_cases blank : isBlank c = true
    · rw [List.dropWhile_cons_of_pos blank, ih, tokens_cons_blank blank]
    · rw [List.dropWhile_cons_of_neg blank]

/-- A text without a blank goes on with the token that is begun. -/
theorem tokensFrom_whole {t : Text} (whole : ∀ c ∈ t, isBlank c = false) (begun : Text) :
    tokensFrom begun t = tokensFrom (t.reverse ++ begun) [] := by
  induction t generalizing begun with
  | nil => rfl
  | cons c t ih =>
    have here : ¬ isBlank c = true := Bool.eq_false_iff.mp (whole c List.mem_cons_self)
    have begins : tokensFrom begun (c :: t) = tokensFrom (c :: begun) t := if_neg here
    rw [begins, ih fun d member => whole d (List.mem_cons_of_mem c member), List.reverse_cons,
      List.append_assoc, List.singleton_append]

/-- A text without a blank is its own only token. -/
theorem tokens_whole {t : Text} (filled : t ≠ []) (whole : ∀ c ∈ t, isBlank c = false) :
    tokens t = [t] := by
  rw [tokens, tokensFrom_whole whole, List.append_nil, tokensFrom,
    if_neg (by simpa using filled), List.reverse_reverse]

/-- A text that is more than blanks has a last token. -/
theorem exists_lastToken {t : Text} (solid : ∃ c ∈ t, isBlank c = false) :
    ∃ token, LastToken token t := by
  induction t with
  | nil =>
    obtain ⟨c, member, -⟩ := solid
    cases member
  | cons c t ih =>
    by_cases below : ∃ d ∈ t, isBlank d = false
    · obtain ⟨token, front, back, rfl, filled, whole, blank, apart⟩ := ih below
      by_cases joins : front = [] ∧ isBlank c = false
      · obtain ⟨rfl, here⟩ := joins
        exact ⟨c :: token, [], back, rfl, List.cons_ne_nil c token,
          List.forall_mem_cons.mpr ⟨here, whole⟩, blank, apart⟩
      · refine ⟨token, c :: front, back, rfl, filled, whole, blank, ?_⟩
        cases front with
        | nil =>
          have here : isBlank c = true := by simpa using joins
          rintro d ⟨⟩
          exact here
        | cons d front => exact apart
    · simp only [not_exists, not_and, Bool.not_eq_false] at below
      obtain ⟨d, member, here⟩ := solid
      rcases List.mem_cons.mp member with rfl | member
      · exact ⟨[d], [], t, rfl, List.cons_ne_nil d [], List.forall_mem_singleton.mpr here, below,
          fun _ => nofun⟩
      · rw [below d member] at here
        cases here

theorem LastToken.getLast?_tokens {token t : Text} (last : LastToken token t) :
    (tokens t).getLast? = some token := by
  obtain ⟨front, back, rfl, filled, whole, blank, apart⟩ := last
  have behind : tokens (front ++ (token ++ back)) = tokens (front ++ token) := by
    cases back with
    | nil => rw [List.append_nil]
    | cons b back =>
      have both := List.forall_mem_cons.mp blank
      rw [← List.append_assoc, tokens_append both.1, tokens_blanks both.2, List.append_nil]
  rw [behind]
  obtain rfl | ⟨most, b, rfl⟩ := List.eq_nil_or_concat' front
  · rw [List.nil_append, tokens_whole filled whole, List.getLast?_singleton]
  · have isBlank : isBlank b = true := apart b List.getLast?_concat
    rw [List.append_assoc, List.singleton_append, tokens_append isBlank, tokens_whole filled whole,
      List.getLast?_concat]

/-- **The last of the tokens is the last token.** -/
theorem getLast?_tokens {token t : Text} :
    (tokens t).getLast? = some token ↔ LastToken token t := by
  refine ⟨fun last => ?_, LastToken.getLast?_tokens⟩
  have solid : ∃ c ∈ t, isBlank c = false := by
    by_contra none
    simp only [not_exists, not_and, Bool.not_eq_false] at none
    rw [tokens_blanks none] at last
    cases last
  obtain ⟨other, found⟩ := exists_lastToken solid
  rw [found.getLast?_tokens] at last
  exact Option.some_inj.mp last ▸ found

end Scenarist.Text
