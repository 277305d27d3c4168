/-
**The comments of code.** Code is read one character after the other, a mark of several characters
as one: a comment goes on to the end of its line, and between its quotes a literal holds no comment,
whatever stands in it (`Lexis.commentsFrom_quoted`). So a comment that is read is unbroken
(`Lexis.unbroken_of_mem_comments`). A piece of code holds certain comments when these are read from it
whatever follows (`Lexis.Holds`); pieces in a row hold their comments in a row, and a statement holds
none but the note that it may be (`Dialect.Fits.holds_write`).
-/

import Scenarist.Proofs.Literal.Exactness
import Scenarist.Proofs.Script.Outline

namespace Scenarist

/-- The comments that the statement of a command holds. -/
def Command.remarks : Command → List Text
  | .manual note => [' ' :: Literal.comment note]
  | _ => []

/-- The comments that stand for a step: its text, and the note if it is left to be done by hand. -/
def Step.remarks (step : Text) : List Text :=
  (' ' :: Literal.comment step) ::
    if Intent.ofStep step = .unrecognized then [' ' :: manualNote] else []

/-- The statements of a step hold the note if no intent claims it. -/
theorem Step.remarks_eq (step : Text) : remarks step =
    (' ' :: Literal.comment step) :: (plain step).commands.flatMap Command.remarks := by
  show _ = _ :: (commands (Intent.ofStep step) step).flatMap Command.remarks
  rw [remarks]
  cases Intent.ofStep step with
  | fillField =>
    rw [if_neg nofun, commands]
    split <;> rfl
  | _ => rfl

namespace Script

open Literal (Unbroken closing? comment isBreak)

/-! ### Reading comments -/

/-- What a language tells its comments and literals by. -/
structure Lexis where
  /-- What a comment on the rest of a line begins with. -/
  comment : Text
  /-- What a literal stands between; longer quotes are looked for first. -/
  quotes : List Text
  marked : comment ≠ []
  quoted : [] ∉ quotes

/-- A place in code. -/
inductive Spot where
  | code
  /-- In a literal between quotes like this, behind a backslash if told so. -/
  | literal (quote : Text) (escaped : Bool)
  /-- In a comment, with its text so far, last character first. -/
  | comment (begun : Text)
  /-- In a mark, with so many of its characters to come behind the next one. -/
  | within (more : Nat) (next : Spot)

/-- The spot that is reached behind so many characters of a mark. -/
def Spot.behind : Nat → Spot → Spot
  | 0, next => next
  | more + 1, next => .within more next

/-- What was read of a comment at the spot is unbroken. -/
def Spot.IsUnbroken : Spot → Prop
  | .comment begun => Unbroken begun
  | .within _ next => next.IsUnbroken
  | _ => True

namespace Lexis

/-- The comments from a spot on. -/
def commentsFrom (lexis : Lexis) : Spot → Text → List Text
  | .comment begun, [] => [begun.reverse]
  | _, [] => []
  | .code, c :: rest =>
    if Text.startsWith (c :: rest) lexis.comment then
      lexis.commentsFrom (.behind (lexis.comment.length - 1) (.comment [])) rest
    else match lexis.quotes.find? (Text.startsWith (c :: rest)) with
      | some quote => lexis.commentsFrom (.behind (quote.length - 1) (.literal quote false)) rest
      | none => lexis.commentsFrom .code rest
  | .literal quote true, _ :: rest => lexis.commentsFrom (.literal quote false) rest
  | .literal quote false, c :: rest =>
    if Text.startsWith (c :: rest) quote then
      lexis.commentsFrom (.behind (quote.length - 1) .code) rest
    else lexis.commentsFrom (.literal quote (c = '\\')) rest
  | .comment begun, c :: rest =>
    if isBreak c then begun.reverse :: lexis.commentsFrom .code rest
    else lexis.commentsFrom (.comment (c :: begun)) rest
  | .within more next, _ :: rest => lexis.commentsFrom (.behind more next) rest

/-- The comments of code, each without the mark that it begins with. -/
def comments (lexis : Lexis) (code : Text) : List Text := lexis.commentsFrom .code code

section Laws

variable {lexis : Lexis}

/-- A mark is passed as a whole. -/
theorem commentsFrom_behind (mark : Text) (next : Spot) (rest : Text) :
    lexis.commentsFrom (.behind mark.length next) (mark ++ rest) = lexis.commentsFrom next rest := by
  induction mark with
  | nil => rfl
  | cons c mark ih => exact ih

/-- Code goes on behind the quote that closes a literal. -/
theorem commentsFrom_closing {q : Char} {quote after t : Text} {escaped : Bool}
    (closed : closing? (q :: quote) escaped t = some after) :
    lexis.commentsFrom (.literal (q :: quote) escaped) t = lexis.commentsFrom .code after := by
  -- at every character the reader and the search for the closing quote do the same
  induction t generalizing escaped with
  | nil => cases escaped <;> cases closed
  | cons c t ih =>
    cases escaped with
    | true => exact ih closed
    | false =>
      rw [closing?] at closed
      rw [commentsFrom]
      cases found : Text.afterLead? (q :: quote) (c :: t) with
      | some rest =>
        rw [found] at closed
        obtain rfl := Option.some_inj.mp closed
        have starts : Text.startsWith (c :: t) (q :: quote) = true := by
          rw [← Text.isSome_afterLead?, found]
          rfl
        rw [if_pos starts]
        obtain ⟨-, rfl⟩ := List.cons.inj (Text.afterLead?_eq_some.mp found)
        exact commentsFrom_behind quote .code rest
      | none =>
        rw [found] at closed
        rw [if_neg (ne_true_of_eq_false (Text.afterLead?_eq_none.mp found))]
        exact ih closed

/-- **A literal holds no comment**, whatever stands between its quotes. -/
theorem commentsFrom_quoted {quote inner after : Text}
    (uncommented : Text.startsWith (quote ++ inner) lexis.comment = false)
    (opens : lexis.quotes.find? (Text.startsWith (quote ++ inner)) = some quote)
    (closed : closing? quote false inner = some after) :
    lexis.commentsFrom .code (quote ++ inner) = lexis.commentsFrom .code after := by
  have nonempty : quote ≠ [] := by
    rintro rfl
    exact lexis.quoted (List.mem_of_find?_eq_some opens)
  obtain ⟨q, quote, rfl⟩ := List.exists_cons_of_ne_nil nonempty
  rw [List.cons_append] at uncommented opens ⊢
  rw [commentsFrom, if_neg (ne_true_of_eq_false uncommented), opens]
  exact (commentsFrom_behind quote _ inner).trans (commentsFrom_closing closed)

/-- A comment goes on to the end of its line. -/
theorem commentsFrom_comment {body : Text} (unbroken : Unbroken body) (begun rest : Text) :
    lexis.commentsFrom (.comment begun) (body ++ '\n' :: rest) =
      (begun.reverse ++ body) :: lexis.commentsFrom .code rest := by
  induction body generalizing begun with
  | nil =>
    show begun.reverse :: _ = (begun.reverse ++ []) :: _
    rw [List.append_nil]
  | cons c body ih =>
    obtain ⟨here, below⟩ := List.forall_mem_cons.mp unbroken
    rw [List.cons_append, commentsFrom, if_neg (ne_true_of_eq_false here), ih below,
      List.reverse_cons, List.append_assoc, List.singleton_append]

/-! ### Comments of one line -/

theorem isUnbroken_behind (more : Nat) {next : Spot} (held : next.IsUnbroken) :
    (Spot.behind more next).IsUnbroken := by
  cases more <;> exact held

/-- What is read from a spot on is unbroken, if what was read of a comment before it is. -/
theorem unbroken_of_mem_commentsFrom (spot : Spot) (held : spot.IsUnbroken) (t : Text) :
    ∀ body ∈ lexis.commentsFrom spot t, Unbroken body := by
  induction t generalizing spot with
  | nil =>
    cases spot with
    | comment begun =>
      intro body member c inside
      rw [List.mem_singleton.mp member, List.mem_reverse] at inside
      exact held c inside
    | _ => exact fun body member => absurd member List.not_mem_nil
  | cons c t ih =>
    cases spot with
    | code =>
      rw [commentsFrom]
      split
      · exact ih _ (isUnbroken_behind _ fun _ inside => absurd inside List.not_mem_nil)
      · split
        · exact ih _ (isUnbroken_behind _ trivial)
        · exact ih _ trivial
    | literal quote escaped =>
      cases escaped with
      | true => exact ih _ trivial
      | false =>
        rw [commentsFrom]
        split
        · exact ih _ (isUnbroken_behind _ trivial)
        · exact ih _ trivial
    | comment begun =>
      rw [commentsFrom]
      split
      · intro body member
        rcases List.mem_cons.mp member with rfl | member
        · exact fun d inside => held d (List.mem_reverse.mp inside)
        · exact ih .code trivial body member
      · next unbroken =>
        exact ih _ (List.forall_mem_cons.mpr ⟨Bool.eq_false_iff.mpr unbroken, held⟩)
    | within more next => exact ih _ (isUnbroken_behind more held)

/-- **A comment breaks no line**, whatever the code. -/
theorem unbroken_of_mem_comments {code body : Text} (member : body ∈ lexis.comments code) :
    Unbroken body :=
  unbroken_of_mem_commentsFrom .code trivial code body member

/-! ### Pieces of code -/

/-- These comments are read from the piece of code, whatever follows it. -/
def Holds (lexis : Lexis) (piece : Text) (found : List Text) : Prop :=
  ∀ rest, lexis.commentsFrom .code (piece ++ rest) = found ++ lexis.commentsFrom .code rest

theorem Holds.append {piece other : Text} {found more : List Text} (one : lexis.Holds piece found)
    (two : lexis.Holds other more) : lexis.Holds (piece ++ other) (found ++ more) := by
  intro rest
  rw [List.append_assoc, one, two, List.append_assoc]

theorem holds_nil : lexis.Holds [] [] := fun _ => rfl

/-- A string holds what its characters hold; unlike the string, these are at hand when a piece is
evaluated. -/
theorem Holds.string {chars : Text} {found : List Text} (holds : lexis.Holds chars found) :
    lexis.Holds (String.ofList chars).toList found := by
  rwa [String.toList_ofList]

/-- **Pieces in a row hold their comments in a row.** -/
theorem holds_flatMap {ι : Type} {items : List ι} {piece : ι → Text} {found : ι → List Text}
    (each : ∀ item ∈ items, lexis.Holds (piece item) (found item)) :
    lexis.Holds (items.flatMap piece) (items.flatMap found) := by
  induction items with
  | nil => exact holds_nil
  | cons item items ih =>
    rw [List.flatMap_cons, List.flatMap_cons]
    exact (each item List.mem_cons_self).append
      (ih fun other member => each other (List.mem_cons_of_mem _ member))

theorem Holds.comments_eq {code : Text} {found : List Text} (holds : lexis.Holds code found) :
    lexis.comments code = found := by
  have whole := holds []
  rwa [List.append_nil, show lexis.commentsFrom .code [] = [] from rfl, List.append_nil] at whole

/-- A text holds no comment if no mark begins with a character of it. -/
theorem holds_unmarked {t : Text} (unmarked : ∀ c ∈ t, ∀ mark ∈ lexis.comment :: lexis.quotes,
    c ∉ mark.head?) : lexis.Holds t [] := by
  intro rest
  induction t with
  | nil => rfl
  | cons c t ih =>
    obtain ⟨here, below⟩ := List.forall_mem_cons.mp unmarked
    have apart {mark : Text} (nonempty : mark ≠ []) (among : mark ∈ lexis.comment :: lexis.quotes) :
        Text.startsWith (c :: (t ++ rest)) mark = false := by
      obtain ⟨m, more, rfl⟩ := List.exists_cons_of_ne_nil nonempty
      rw [← Bool.not_eq_true, Text.startsWith_iff]
      rintro ⟨behind, starts⟩
      exact here _ among (congrArg some (List.head_eq_of_cons_eq starts))
    have unopened : lexis.quotes.find? (Text.startsWith (c :: (t ++ rest))) = none := by
      rw [List.find?_eq_none]
      intro quote among
      have nonempty : quote ≠ [] := fun empty => lexis.quoted (empty ▸ among)
      exact ne_true_of_eq_false (apart nonempty (List.mem_cons_of_mem _ among))
    rw [List.cons_append, commentsFrom,
      if_neg (ne_true_of_eq_false (apart lexis.marked List.mem_cons_self)), unopened]
    exact ih below

/-- These comments are read from the lines, whatever follows them. -/
def HoldsLines (lexis : Lexis) (lines found : List Text) : Prop :=
  lexis.Holds (lines.flatMap fun line => line ++ ['\n']) found

theorem HoldsLines.append {lines others found more : List Text}
    (one : lexis.HoldsLines lines found) (two : lexis.HoldsLines others more) :
    lexis.HoldsLines (lines ++ others) (found ++ more) := by
  rw [HoldsLines, List.flatMap_append]
  exact Holds.append one two

theorem holdsLines_singleton {line : Text} {found : List Text}
    (holds : lexis.Holds (line ++ ['\n']) found) : lexis.HoldsLines [line] found := by
  rwa [HoldsLines, List.flatMap_singleton]

theorem holdsLines_cons {line : Text} {lines found more : List Text}
    (first : lexis.Holds (line ++ ['\n']) found) (below : lexis.HoldsLines lines more) :
    lexis.HoldsLines (line :: lines) (found ++ more) :=
  (holdsLines_singleton first).append below

theorem holdsLines_flatMap {ι : Type} {items : List ι} {lines found : ι → List Text}
    (each : ∀ item ∈ items, lexis.HoldsLines (lines item) (found item)) :
    lexis.HoldsLines (items.flatMap lines) (items.flatMap found) := by
  rw [HoldsLines, List.flatMap_assoc]
  exact holds_flatMap each

/-- A comment on an unbroken text holds that text. -/
theorem holds_comment {body : Text} (unbroken : Unbroken body) :
    lexis.Holds (lexis.comment ++ (body ++ ['\n'])) [body] := by
  obtain ⟨m, mark, marked⟩ := List.exists_cons_of_ne_nil lexis.marked
  intro rest
  have whole : lexis.comment ++ (body ++ ['\n']) ++ rest =
      m :: (mark ++ (body ++ '\n' :: rest)) := by
    rw [marked]
    simp only [List.append_assoc, List.cons_append, List.nil_append]
  have starts : Text.startsWith (m :: (mark ++ (body ++ '\n' :: rest))) lexis.comment = true := by
    rw [marked]
    exact Text.startsWith_iff.mpr (List.prefix_append (m :: mark) _)
  rw [whole, commentsFrom, if_pos starts, marked]
  exact (commentsFrom_behind mark _ _).trans (commentsFrom_comment unbroken [] rest)

end Laws

end Lexis

/-! ### Statements -/

/-- The statements of a kind of module are code of a language: what they start and end with holds no
comment, an argument is a literal, and a note is a comment. -/
structure Dialect.Fits (dialect : Dialect) (lexis : Lexis) : Prop where
  lead : ∀ form ∈ Form.all, form ≠ .note → lexis.Holds (dialect.lead form) []
  note : dialect.lead .note = lexis.comment ++ [' ']
  argument : ∀ t c rest, c = ',' ∨ c = ')' →
    lexis.commentsFrom .code (dialect.literal t ++ c :: rest) =
      lexis.commentsFrom .code (c :: rest)
  comma : lexis.Holds Dialect.comma []
  close : lexis.Holds dialect.close []
  feed : lexis.Holds ['\n'] []

namespace Dialect.Fits

variable {dialect : Dialect} {lexis : Lexis}

theorem holds_one (fits : dialect.Fits lexis) (t : Text) :
    lexis.Holds (dialect.literal t ++ dialect.close) [] := by
  intro rest
  rw [List.append_assoc]
  exact (fits.argument t ')' (dialect.ending ++ rest) (Or.inr rfl)).trans (fits.close rest)

theorem holds_two (fits : dialect.Fits lexis) (first second : Text) :
    lexis.Holds (dialect.literal first ++ (Dialect.comma ++ (dialect.literal second ++
      dialect.close))) [] := by
  intro rest
  rw [List.append_assoc, List.append_assoc]
  have argument := fits.argument first ',' (' ' :: (dialect.literal second ++ dialect.close ++ rest))
    (Or.inl rfl)
  exact argument.trans ((fits.comma _).trans (fits.holds_one second rest))

/-- **The statement of a command holds no comment but the note** that it may be. -/
theorem holds_write (fits : dialect.Fits lexis) {command : Command}
    (unfed : ∀ note, command = .manual note → '\n' ∉ note) :
    lexis.Holds (dialect.write command ++ ['\n']) command.remarks := by
  have called {form : Form} {tail : Text} (other : form ≠ .note) (rest : lexis.Holds tail []) :
      lexis.Holds (dialect.lead form ++ tail ++ ['\n']) [] :=
    ((fits.lead form form.mem_all other).append rest).append fits.feed
  cases command with
  | goto url => exact called (nofun) (fits.holds_one url)
  | fill selector value field => exact called (nofun) (fits.holds_two selector value)
  | click label => exact called (nofun) (fits.holds_one (Literal.hasText label))
  | waitForLoadState state => exact called (nofun) (fits.holds_one state)
  | expectText text => exact called (nofun) (fits.holds_one text)
  | expectVisible => exact called (nofun) Lexis.holds_nil
  | expectUrl => exact called (nofun) Lexis.holds_nil
  | press selector key => exact called (nofun) (fits.holds_two selector key)
  | manual note =>
    have whole : dialect.write (.manual note) ++ ['\n'] =
        lexis.comment ++ (' ' :: comment note ++ ['\n']) := by
      show dialect.lead .note ++ comment note ++ ['\n'] = _
      rw [fits.note, List.append_assoc, List.append_assoc]
      rfl
    have unbroken : Unbroken (' ' :: comment note) :=
      List.forall_mem_cons.mpr ⟨rfl, Literal.unbroken_comment (unfed note rfl)⟩
    rw [whole]
    exact Lexis.holds_comment unbroken

/-- **The lines of a step hold its text as a comment**, and then the note that it may have. -/
theorem holdsLines_step (fits : dialect.Fits lexis) {indent : Text}
    (blank : lexis.Holds indent []) {step : Text} (unfed : '\n' ∉ step) :
    lexis.HoldsLines ((indent ++ (lexis.comment ++ ' ' :: comment step)) ::
      (Step.plain step).commands.map fun command => indent ++ dialect.write command)
      (Step.remarks step) := by
  have text : lexis.Holds (indent ++ (lexis.comment ++ ' ' :: comment step) ++ ['\n'])
      [' ' :: comment step] := by
    have unbroken : Unbroken (' ' :: comment step) :=
      List.forall_mem_cons.mpr ⟨rfl, Literal.unbroken_comment unfed⟩
    rw [List.append_assoc, List.append_assoc]
    exact blank.append (Lexis.holds_comment unbroken)
  have statements : lexis.HoldsLines
      ((Step.plain step).commands.map fun command => indent ++ dialect.write command)
      ((Step.plain step).commands.flatMap Command.remarks) := by
    rw [List.map_eq_flatMap]
    refine Lexis.holdsLines_flatMap fun command member => Lexis.holdsLines_singleton ?_
    rw [List.append_assoc]
    refine blank.append (fits.holds_write ?_)
    rintro note rfl
    rw [eq_manualNote member]
    decide
  rw [Step.remarks_eq]
  exact Lexis.holdsLines_cons text statements

end Dialect.Fits

end Script

end Scenarist
