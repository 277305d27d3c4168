/-
**Where a navigation goes.** A step that navigates begins with a lead and a phrase behind it
(`Navigation`). The search for the phrase is not bound to the start of the step, but in the lead no
phrase begins, so that it stops at the one behind the lead and what follows that one is examined,
whatever phrases are in it (`Navigation.destination?_eq`). The address is chosen from the step by
three cases (`Navigation.LeadsTo`), of which always exactly one holds (`Navigation.leadsTo_iff`).
-/

import Mathlib.Data.List.TakeWhile
import Scenarist.Proofs.Literal.Passages
import Scenarist.Proofs.Step.Shadowing
import Scenarist.Proofs.Text.Search
import Scenarist.Proofs.Text.Tokens

namespace Scenarist.Step

open Literal (Quotes)
open Text (Alike LastToken)

/-- The token has a mark of an address. -/
def AddressLike (token : Text) : Prop := '.' ∈ token ∨ '/' ∈ token ∨ ':' ∈ token

theorem isUrlShaped_iff {token : Text} : isUrlShaped token = true ↔ AddressLike token := by
  simp [isUrlShaped, AddressLike, and_or_left, exists_or]

/-- A step navigates: it begins with a lead and a phrase behind it, both up to case. -/
structure Navigation (step : Text) where
  lead : Text
  phrase : Text
  rest : Text
  whole : step = lead ++ (phrase ++ rest)
  leads : Alike "Given I " lead
  alike : Alike "am on" phrase ∨ Alike "navigate to" phrase ∨ Alike "open" phrase

/-- The steps that have the intent to navigate do. -/
theorem exists_navigation {step : Text} (claimed : Intent.ofStep step = .navigate) :
    Nonempty (Navigation step) := by
  have build {phrase : Text} (begins : Text.BeginsWith "Given I " phrase step)
      (known : ∀ found, Alike phrase found →
        Alike "am on" found ∨ Alike "navigate to" found ∨ Alike "open" found) :
      Nonempty (Navigation step) := by
    obtain ⟨lead, found, rest, whole, leads, alike⟩ := begins
    exact ⟨lead, found, rest, whole.trans (List.append_assoc ..), leads, known found alike⟩
  have holds := Intent.holds_ofStep step
  rw [claimed] at holds
  rcases holds with (begins | begins | begins) | none
  · exact build begins fun _ => Or.inl
  · exact build begins fun _ alike => Or.inr (Or.inl alike)
  · exact build begins fun _ alike => Or.inr (Or.inr alike)
  · cases none

/-! ### What is examined -/

/-- Of a text on one line everything is taken behind the blanks in front. -/
theorem wholeLine?_eq {rest : Text} (oneLine : '\n' ∉ rest) :
    wholeLine? rest = some (rest.dropWhile Text.isBlank) := by
  have within : ∀ c ∈ rest.dropWhile Text.isBlank, decide (c ≠ '\n') = true := by
    intro c member
    refine decide_eq_true fun same => oneLine ?_
    exact same ▸ (List.dropWhile_suffix _).subset member
  rw [wholeLine?, List.dropWhile_eq_nil_iff.mpr within, List.takeWhile_eq_self_iff.mpr within]

/-- What is examined if a phrase is at the start of the text. -/
def destinationAt? (here : Text) : Option Text :=
  (Text.afterOneOf? Intent.navigationWords here).bind wholeLine?

theorem destination?_eq_firstAt (step : Text) :
    destination? step = Text.firstAt destinationAt? step := rfl

theorem navigationWords_apart : ∀ one ∈ Intent.navigationWords, ∀ other ∈ Intent.navigationWords,
    one.map Text.plain <+: other.map Text.plain → one = other := by decide

/-- No phrase begins in the lead. -/
theorem differs_lead : ∀ place < 8, Text.Differs Intent.navigationWords
    (("Given I " : Text).drop place) := by decide

namespace Navigation

variable {step : Text}

/-- **What follows the phrase behind the lead is examined**, whatever it is. -/
theorem destination?_eq (n : Navigation step) (oneLine : '\n' ∉ step) :
    destination? step = some (n.rest.dropWhile Text.isBlank) := by
  obtain ⟨lead, phrase, rest, rfl, leads, alike⟩ := n
  have member : ∃ word ∈ Intent.navigationWords, Alike word phrase :=
    Intent.exists_mem_triple.mpr alike
  obtain ⟨word, member, alike⟩ := member
  have below : '\n' ∉ rest := fun member =>
    oneLine (List.mem_append_right _ (List.mem_append_right _ member))
  rw [destination?_eq_firstAt, Text.firstAt_eq_some]
  -- the phrase behind the lead is the first one, because none can begin inside the lead
  refine ⟨lead.length, ?_, fun place less => ?_⟩
  · rw [List.drop_left, destinationAt?, Text.afterOneOf?_of_alike navigationWords_apart member alike,
      Option.bind_some, wholeLine?_eq below]
  · have likewise : Alike (("Given I " : Text).drop place) (lead.drop place) := by
      rw [Alike, List.map_drop, List.map_drop, leads]
    have inLead : place < 8 := less.trans_eq leads.length_eq
    rw [List.drop_append_of_le_length less.le, destinationAt?,
      Text.afterOneOf?_of_differs likewise (differs_lead place inLead), Option.bind_none]

/-! ### The address that is chosen -/

/-- The address that the step leads to: the passage that it quotes first; if it quotes none, the last
token behind the phrase that is like an address; if that is not like one or there is none, the
default. -/
inductive LeadsTo (n : Navigation step) : Text → Prop
  | quoted {passage : Text} (quotes : Quotes passage step) : LeadsTo n passage
  | bare {token : Text} (unquoted : ∀ passage, ¬ Quotes passage step)
      (last : LastToken token n.rest) (like : AddressLike token) : LeadsTo n token
  | default (unquoted : ∀ passage, ¬ Quotes passage step)
      (unlike : ∀ token, LastToken token n.rest → ¬ AddressLike token) :
      LeadsTo n "https://www.google.com/"

/-- Without a quoted passage the last token behind the phrase decides. -/
theorem url_of_unquoted (n : Navigation step) (oneLine : '\n' ∉ step)
    (unquoted : ∀ passage, ¬ Quotes passage step) :
    url step = ((Text.tokens n.rest).getLast?.filter isUrlShaped).getD defaultUrl := by
  have examined : (destination? step).getD [] = n.rest.dropWhile Text.isBlank := by
    rw [n.destination?_eq oneLine, Option.getD_some]
  simp only [url, Literal.firstPassage?_eq_none.mpr unquoted, examined, Text.tokens_dropWhile]
  cases (Text.tokens n.rest).getLast? with
  | none => rfl
  | some token => cases shaped : isUrlShaped token <;> simp [shaped, Option.filter_some]

/-- What the step leads to is its address. -/
theorem LeadsTo.url_eq {n : Navigation step} {address : Text} (leads : n.LeadsTo address)
    (oneLine : '\n' ∉ step) : url step = address := by
  cases leads with
  | quoted quotes => rw [url, Literal.firstPassage?_eq_some.mpr quotes]
  | bare unquoted last like =>
    rw [n.url_of_unquoted oneLine unquoted, last.getLast?_tokens,
      Option.filter_some_pos (isUrlShaped_iff.mpr like), Option.getD_some]
  | default unquoted unlike =>
    have none : (Text.tokens n.rest).getLast?.filter isUrlShaped = none := by
      refine Option.filter_eq_none_iff.mpr fun token last shaped => ?_
      exact unlike token (Text.getLast?_tokens.mp last) (isUrlShaped_iff.mp shaped)
    have address := n.url_of_unquoted oneLine unquoted
    rw [none] at address
    exact address

/-- Every step leads somewhere. -/
theorem exists_leadsTo (n : Navigation step) : ∃ address, n.LeadsTo address := by
  by_cases quoting : ∃ passage, Quotes passage step
  · obtain ⟨passage, quotes⟩ := quoting
    exact ⟨passage, .quoted quotes⟩
  · have unquoted := not_exists.mp quoting
    by_cases bare : ∃ token, LastToken token n.rest ∧ AddressLike token
    · obtain ⟨token, last, like⟩ := bare
      exact ⟨token, .bare unquoted last like⟩
    · exact ⟨_, .default unquoted fun token last like => bare ⟨token, last, like⟩⟩

/-- **A step leads to its address, and nowhere else.** -/
theorem leadsTo_iff (n : Navigation step) (oneLine : '\n' ∉ step) {address : Text} :
    n.LeadsTo address ↔ address = url step := by
  obtain ⟨found, leads⟩ := n.exists_leadsTo
  refine ⟨fun other => (other.url_eq oneLine).symm, ?_⟩
  rintro rfl
  exact leads.url_eq oneLine ▸ leads

end Navigation

/-- **A navigation goes to the address that its step leads to**, and nothing else is done. What
follows the phrase behind the lead is examined for it, whatever phrases come later. -/
theorem interpret_navigate {step : Text} (oneLine : '\n' ∉ step)
    (claimed : Intent.ofStep step = .navigate) :
    Nonempty (Navigation step) ∧
    ∃ address, interpret step = ⟨step, "navigate", [⟨"goto", [("url", address)]⟩]⟩ ∧
      ∀ n : Navigation step, (∀ other, n.LeadsTo other ↔ other = address) ∧
        destination? step = some (n.rest.dropWhile Text.isBlank) := by
  refine ⟨exists_navigation claimed, url step, ?_, fun n => ⟨fun _ => n.leadsTo_iff oneLine, ?_⟩⟩
  · rw [interpret, claimed]
    rfl
  · exact n.destination?_eq oneLine

/-- A navigation with phrases in what follows, and a double quote that is not closed. -/
def repeatedPhrase : Navigation "gIVEN I Open\u00A0\"x am on a open b/c " where
  lead := "gIVEN I "
  phrase := "Open"
  rest := "\u00A0\"x am on a open b/c "
  whole := by decide +kernel
  leads := by decide
  alike := by decide

theorem interpret_navigate_sample :
    '\n' ∉ ("gIVEN I Open\u00A0\"x am on a open b/c " : Text) ∧
    Intent.ofStep "gIVEN I Open\u00A0\"x am on a open b/c " = .navigate ∧
    interpret "gIVEN I Open\u00A0\"x am on a open b/c " =
      ⟨"gIVEN I Open\u00A0\"x am on a open b/c ", "navigate", [⟨"goto", [("url", "b/c")]⟩]⟩ := by
  have oneLine : '\n' ∉ ("gIVEN I Open\u00A0\"x am on a open b/c " : Text) := by decide
  have claimed : Intent.ofStep "gIVEN I Open\u00A0\"x am on a open b/c " = .navigate := by
    rfl
  obtain ⟨-, address, interpreted, chosen⟩ := interpret_navigate oneLine claimed
  have last : LastToken "b/c" repeatedPhrase.rest := Text.getLast?_tokens.mp rfl
  have none : Literal.firstPassage? "gIVEN I Open\u00A0\"x am on a open b/c " = none := by rfl
  have unquoted := Literal.firstPassage?_eq_none.mp none
  have leads : repeatedPhrase.LeadsTo "b/c" := .bare unquoted last (Or.inr (Or.inl (by decide)))
  rw [← ((chosen repeatedPhrase).1 _).mp leads] at interpreted
  exact ⟨oneLine, claimed, interpreted⟩

end Scenarist.Step
