/-
**Reading statements.** A dialect says how the statements of a kind of module are laid out: what
each form of statement starts with, how its texts are set as literals and what ends a call. The
forms start so differently that a statement is of one form only (`Dialect.apart`), and so every
command is read back from its statement as the action that it is, up to what a statement does not
show (`Dialect.read_write`).
-/

import Scenarist.Proofs.Literal.ReadBack
import Scenarist.Step.Interpretation

namespace Scenarist

/-- What a statement shows of an action: all but the label of the field that is filled. -/
def Action.rendered (action : Action) : Action :=
  { action with params := action.params.filter fun param => param.1 ≠ "field".toList }

namespace Script

open Literal (Unbroken comment hasText readLabel unbroken_append unbroken_comment)

/-- The forms of statements. -/
inductive Form where
  | goto
  | fill
  | click
  | waitForLoadState
  | expectText
  | expectVisible
  | expectUrl
  | press
  | note
  deriving DecidableEq, Repr

/-- The forms in the order in which they are looked for. -/
def Form.all : List Form :=
  [goto, fill, click, waitForLoadState, expectText, expectVisible, expectUrl, press, note]

theorem Form.mem_all (form : Form) : form ∈ Form.all := by
  cases form <;> decide

/-- The form of the statement of a command. -/
def Form.of : Command → Form
  | .goto _ => goto
  | .fill _ _ _ => fill
  | .click _ => click
  | .waitForLoadState _ => waitForLoadState
  | .expectText _ => expectText
  | .expectVisible => expectVisible
  | .expectUrl => expectUrl
  | .press _ _ => press
  | .manual _ => note

/-- Reads a text that stands as a literal between `lead` and `tail`, and nothing else. -/
def enclosed? (literal : Text → Option (Text × Text)) (lead tail line : Text) : Option Text := do
  let rest ← Text.afterLead? lead line
  let (t, rest) ← literal rest
  if rest = tail then some t else none

theorem enclosed?_eq_some {literal : Text → Option (Text × Text)} {lead tail shown t : Text}
    (reads : literal (shown ++ tail) = some (t, tail)) :
    enclosed? literal lead tail (lead ++ (shown ++ tail)) = some t := by
  simp [enclosed?, reads]

/-- How the statements of a kind of module are laid out. -/
structure Dialect where
  /-- What a form of statement starts with. -/
  lead : Form → Text
  /-- What stands behind the closing bracket of a call. -/
  ending : Text
  /-- The literal of a text. -/
  literal : Text → Text
  /-- Reads the literal at the start of a text. -/
  readLiteral : Text → Option (Text × Text)
  reads : ∀ t c rest, c = ',' ∨ c = ')' →
    readLiteral (literal t ++ c :: rest) = some (t, c :: rest)
  apart : ∀ form ∈ Form.all, ∀ other ∈ Form.all, form ≠ other →
    Text.startsWith (lead other) (lead form) = false
  leadUnbroken : ∀ form ∈ Form.all, Unbroken (lead form)
  endingUnbroken : Unbroken ending
  literalUnbroken : ∀ t, Unbroken (literal t)

namespace Dialect

variable (dialect : Dialect)

/-- What stands behind the arguments of a call. -/
def close : Text := ')' :: dialect.ending

/-- What stands between the two arguments of a call. -/
def comma : Text := [',', ' ']

/-- The statement of a command behind what it starts with. -/
def tail : Command → Text
  | .goto url => dialect.literal url ++ dialect.close
  | .fill selector value _ =>
    dialect.literal selector ++ (comma ++ (dialect.literal value ++ dialect.close))
  | .click label => dialect.literal (hasText label) ++ dialect.close
  | .waitForLoadState state => dialect.literal state ++ dialect.close
  | .expectText text => dialect.literal text ++ dialect.close
  | .expectVisible => []
  | .expectUrl => []
  | .press selector key =>
    dialect.literal selector ++ (comma ++ (dialect.literal key ++ dialect.close))
  | .manual note => comment note

/-- The statement of a command. -/
def write (command : Command) : Text := dialect.lead (Form.of command) ++ dialect.tail command

/-- Reads the only argument of a call. -/
def readOne (rest : Text) : Option Text := enclosed? dialect.readLiteral [] dialect.close rest

/-- Reads the two arguments of a call. -/
def readTwo (rest : Text) : Option (Text × Text) := do
  let (first, rest) ← dialect.readLiteral rest
  let second ← enclosed? dialect.readLiteral comma dialect.close rest
  return (first, second)

/-- Reads a statement of a known form behind what it starts with. -/
def readTail (form : Form) (rest : Text) : Option Action :=
  match form with
  | .goto => (dialect.readOne rest).map fun url => ⟨"goto", [("url", url)]⟩
  | .fill => (dialect.readTwo rest).map fun (selector, value) =>
    ⟨"fill", [("selector", selector), ("value", value)]⟩
  | .click => ((dialect.readOne rest).bind readLabel).map fun label =>
    ⟨"click", [("label", label)]⟩
  | .waitForLoadState => (dialect.readOne rest).map fun state =>
    ⟨"wait_for_load_state", [("state", state)]⟩
  | .expectText => (dialect.readOne rest).map fun text => ⟨"expect_text", [("text", text)]⟩
  | .expectVisible => if rest = [] then some ⟨"expect_visible", []⟩ else none
  | .expectUrl => if rest = [] then some ⟨"expect_url", []⟩ else none
  | .press => (dialect.readTwo rest).map fun (selector, key) =>
    ⟨"press", [("selector", selector), ("key", key)]⟩
  | .note => some ⟨"manual", [("note", rest)]⟩

/-- Reads a statement. -/
def read (line : Text) : Option Action :=
  Form.all.findSome? fun form =>
    (Text.afterLead? (dialect.lead form) line).bind (dialect.readTail form)

/-! ### What is read back -/

theorem readOne_literal (t : Text) :
    dialect.readOne (dialect.literal t ++ dialect.close) = some t := by
  show enclosed? dialect.readLiteral [] dialect.close
    ([] ++ (dialect.literal t ++ dialect.close)) = some t
  exact enclosed?_eq_some (dialect.reads t _ _ (Or.inr rfl))

theorem readTwo_literals (first second : Text) :
    dialect.readTwo (dialect.literal first ++ (comma ++ (dialect.literal second ++ dialect.close)))
      = some (first, second) := by
  have one : dialect.readLiteral
      (dialect.literal first ++ (comma ++ (dialect.literal second ++ dialect.close))) =
        some (first, comma ++ (dialect.literal second ++ dialect.close)) :=
    dialect.reads first _ _ (Or.inl rfl)
  have two : enclosed? dialect.readLiteral comma dialect.close
      (comma ++ (dialect.literal second ++ dialect.close)) = some second :=
    enclosed?_eq_some (dialect.reads second _ _ (Or.inr rfl))
  simp [readTwo, one, two]

/-- The action that is read off the statement of a command: what it shows, with the note as it
stands in the comment. -/
def shown : Command → Action
  | .manual note => ⟨"manual", [("note", comment note)]⟩
  | command => command.action.rendered

theorem readTail_tail (command : Command) :
    dialect.readTail (Form.of command) (dialect.tail command) = some (shown command) := by
  cases command with
  | goto url =>
    show Option.map _ (dialect.readOne (dialect.literal url ++ dialect.close)) = _
    rw [readOne_literal]
    rfl
  | fill selector value field =>
    show Option.map _ (dialect.readTwo (dialect.literal selector ++ (comma ++
      (dialect.literal value ++ dialect.close)))) = _
    rw [readTwo_literals]
    cases field <;> rfl
  | click label =>
    show Option.map _ (Option.bind (dialect.readOne (dialect.literal (hasText label) ++
      dialect.close)) readLabel) = _
    rw [readOne_literal, Option.bind_some, Literal.readLabel_hasText]
    rfl
  | waitForLoadState state =>
    show Option.map _ (dialect.readOne (dialect.literal state ++ dialect.close)) = _
    rw [readOne_literal]
    rfl
  | expectText text =>
    show Option.map _ (dialect.readOne (dialect.literal text ++ dialect.close)) = _
    rw [readOne_literal]
    rfl
  | expectVisible => rfl
  | expectUrl => rfl
  | press selector key =>
    show Option.map _ (dialect.readTwo (dialect.literal selector ++ (comma ++
      (dialect.literal key ++ dialect.close)))) = _
    rw [readTwo_literals]
    rfl
  | manual note => rfl

/-- Only one alternative has an answer. -/
theorem findSome?_unique {α β : Type} {answer : α → Option β} {items : List α} {item : α}
    (member : item ∈ items) (others : ∀ other ∈ items, other ≠ item → answer other = none) :
    items.findSome? answer = answer item := by
  induction items with
  | nil => cases member
  | cons first items ih =>
    by_cases same : first = item
    · subst same
      cases answered : answer first with
      | some value => simp [answered]
      | none =>
        rw [List.findSome?_eq_none_iff]
        intro other among
        by_cases again : other = first
        · rw [again, answered]
        · exact others other among again
    · have silent : answer first = none := others first List.mem_cons_self same
      have below : item ∈ items := (List.mem_cons.mp member).resolve_left (Ne.symm same)
      rw [List.findSome?_cons, silent]
      exact ih below fun other among => others other (List.mem_cons_of_mem _ among)

/-- A statement of one form does not start like one of another. -/
theorem afterLead?_other {form other : Form} (different : form ≠ other) (rest : Text) :
    Text.afterLead? (dialect.lead form) (dialect.lead other ++ rest) = none := by
  have here := dialect.apart form form.mem_all other other.mem_all different
  have there := dialect.apart other other.mem_all form form.mem_all (Ne.symm different)
  rw [Text.afterLead?_eq_none]
  rw [← Bool.not_eq_true, Text.startsWith_iff] at here there ⊢
  intro starts
  rcases List.prefix_or_prefix_of_prefix starts (List.prefix_append _ rest) with within | within
  · exact here within
  · exact there within

/-- **A statement is read as the command it writes.** -/
theorem read_write (command : Command) :
    dialect.read (dialect.write command) = some (shown command) := by
  unfold read write
  rw [findSome?_unique (Form.mem_all (Form.of command)), Text.afterLead?_append, Option.bind_some,
    readTail_tail]
  intro other _ different
  rw [dialect.afterLead?_other different, Option.bind_none]

/-- **A statement breaks no line**, if the note that is left in it has no line feed. -/
theorem unbroken_write {command : Command}
    (unfed : ∀ note, command = .manual note → '\n' ∉ note) : Unbroken (dialect.write command) := by
  have close : Unbroken dialect.close := by
    show Unbroken ([')'] ++ dialect.ending)
    exact unbroken_append.mpr ⟨by decide, dialect.endingUnbroken⟩
  have one (t : Text) : Unbroken (dialect.literal t ++ dialect.close) :=
    unbroken_append.mpr ⟨dialect.literalUnbroken t, close⟩
  have two (s t : Text) :
      Unbroken (dialect.literal s ++ (comma ++ (dialect.literal t ++ dialect.close))) :=
    unbroken_append.mpr ⟨dialect.literalUnbroken s, unbroken_append.mpr ⟨by decide, one t⟩⟩
  unfold write
  refine unbroken_append.mpr ⟨dialect.leadUnbroken _ (Form.mem_all _), ?_⟩
  cases command with
  | goto url => exact one url
  | fill selector value field => exact two selector value
  | click label => exact one (hasText label)
  | waitForLoadState state => exact one state
  | expectText text => exact one text
  | expectVisible => exact fun _ member => absurd member List.not_mem_nil
  | expectUrl => exact fun _ member => absurd member List.not_mem_nil
  | press selector key => exact two selector key
  | manual note => exact unbroken_comment (unfed note rfl)

end Dialect

end Script

end Scenarist
