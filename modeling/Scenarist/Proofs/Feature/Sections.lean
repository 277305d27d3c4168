/-
**The sections of a scenario document.**

Reading goes over the lines once and keeps a draft. What it finds can be told from the whole list of
lines: every line that opens a scenario starts a section, which goes on up to the next such line and
holds the steps of the scenario (`opened?`); the title is the first one that is not empty
(`titleIn`); what describes the feature stands above it (`remarksIn`). For each of the three, what
one line does to a draft is told once (`Draft.title_add`, `Draft.add_opening`, `Draft.add_other`,
`Draft.remarks_add`), and reading on from any draft goes by induction on the lines.
-/

import Scenarist.Proofs.Feature.NormalForm

namespace Scenarist

namespace Document

/-! ### What the lines say at large -/

/-- Is the line a title line? -/
def isTitle (line : Text) : Bool := Text.startsWith line titleLead

/-- Is the line the first one of a scenario? -/
def isOpening (line : Text) : Bool := Text.startsWith line scenarioLead

/-- The title that a line gives, if it is a title line; it may be empty. -/
def titleOf? (line : Text) : Option Text := (Text.afterLead? titleLead line).map Text.strip

/-- Does the line give a title that is not empty? -/
def entitles (line : Text) : Bool := (titleOf? line).any (!·.isEmpty)

/-- Does the line describe a feature without a title? Once a scenario is open, a step does not. -/
def describes (begun : Bool) (line : Text) : Bool :=
  !isTitle line && !isOpening line && !(begun && isStep line)

end Document

open Document

namespace Scenario

/-- The scenario with the steps that stand above the next scenario. -/
def extend (scenario : Scenario) (told : List Text) : Scenario :=
  { scenario with
    steps := scenario.steps ++ (told.takeWhile (!isOpening ·)).filter isStep }

@[simp] theorem extend_nil (scenario : Scenario) : scenario.extend [] = scenario := by
  simp [extend]

/-- The steps of a scenario end where the next one is opened. -/
theorem extend_opening {line : Text} (opening : isOpening line = true) (scenario : Scenario)
    (below : List Text) : scenario.extend (line :: below) = scenario := by
  simp [extend, opening]

/-- A line that opens no scenario is the next step of this one, if it is a step. -/
theorem extend_other {line : Text} (other : isOpening line = false) (scenario : Scenario)
    (below : List Text) :
    scenario.extend (line :: below) =
      ({ scenario with steps := scenario.steps ++ if isStep line then [line] else [] } :
        Scenario).extend below := by
  by_cases step : isStep line <;> simp [extend, other, step]

end Scenario

namespace Document

/-- The scenario that the first of these lines opens: its name stands behind the lead, and its steps
are those above the next scenario. -/
def opened? : List Text → Option Scenario
  | [] => none
  | line :: below =>
    (Text.afterLead? scenarioLead line).map fun name => Scenario.extend ⟨Text.strip name, []⟩ below

/-- A scenario for every line that opens one, in the order of the lines. -/
def sections (told : List Text) : List Scenario := told.tails.filterMap opened?

theorem sections_cons (line : Text) (below : List Text) :
    sections (line :: below) = (opened? (line :: below)).toList ++ sections below := by
  rw [sections, List.tails, List.filterMap_cons]
  cases opened? (line :: below) <;> rfl

/-- The first title that is not empty. -/
def titleIn (told : List Text) : Text := ((told.filterMap titleOf?).find? (!·.isEmpty)).getD []

/-- The lines above the title. -/
def untitled (told : List Text) : List Text := told.takeWhile (!entitles ·)

/-- The lines that describe the feature: those above the title that are neither a title line nor
the first line of a scenario nor, once there is a scenario, a step. -/
def remarksIn (told : List Text) : List Text :=
  ((untitled told).takeWhile (!isOpening ·)).filter (describes false) ++
    ((untitled told).dropWhile (!isOpening ·)).filter (describes true)

/-! ### One line before others -/

theorem isTitle_eq (line : Text) : isTitle line = (Text.afterLead? titleLead line).isSome :=
  (Text.isSome_afterLead? titleLead line).symm

theorem isOpening_eq (line : Text) : isOpening line = (Text.afterLead? scenarioLead line).isSome :=
  (Text.isSome_afterLead? scenarioLead line).symm

/-- A line opens a scenario and names it, or neither. -/
theorem opened_cases (line : Text) :
    (∃ name, Text.afterLead? scenarioLead line = some name ∧ isOpening line = true) ∨
      Text.afterLead? scenarioLead line = none ∧ isOpening line = false := by
  rw [isOpening_eq]
  cases Text.afterLead? scenarioLead line with
  | some name => exact .inl ⟨name, rfl, rfl⟩
  | none => exact .inr ⟨rfl, rfl⟩

/-- The first line of a scenario is no title line. -/
theorem not_titled_of_opened {line name : Text}
    (opened : Text.afterLead? scenarioLead line = some name) :
    Text.afterLead? titleLead line = none := by
  rw [Text.afterLead?_eq_some.mp opened]
  rfl

/-- A title line is no step, and neither is the first line of a scenario. -/
theorem not_isStep_of_lead {line rest : Text}
    (led : Text.afterLead? titleLead line = some rest ∨
      Text.afterLead? scenarioLead line = some rest) : isStep line = false := by
  by_contra step
  obtain ⟨untitled, unopened, -⟩ := of_isStep (Bool.not_eq_false _ ▸ step)
  rcases led with titled | opened
  · rw [untitled] at titled
    cases titled
  · rw [unopened] at opened
    cases opened

/-- The title that a line gives is empty unless the line entitles the feature. -/
theorem isEmpty_titleOf (line : Text) :
    ((titleOf? line).getD []).isEmpty = !entitles line := by
  unfold entitles
  cases titleOf? line <;> simp

/-- A line that entitles the feature does not describe it. -/
theorem not_describes_of_entitles {line : Text} (entitled : entitles line = true)
    (begun : Bool) : describes begun line = false := by
  have titled : isTitle line = true := by
    rw [isTitle_eq]
    cases given : Text.afterLead? titleLead line with
    | none => simp [entitles, titleOf?, given] at entitled
    | some title => rfl
  simp [describes, titled]

/-- A line that opens a scenario does not describe the feature. -/
theorem not_describes_of_opening {line : Text} (opening : isOpening line = true) (begun : Bool) :
    describes begun line = false := by
  simp [describes, opening]

/-- Nothing describes the feature from its title on. -/
theorem untitled_of_entitles {line : Text} (entitled : entitles line = true) (below : List Text) :
    untitled (line :: below) = [] := by
  simp [untitled, entitled]

theorem untitled_of_not_entitles {line : Text} (entitled : entitles line = false)
    (below : List Text) : untitled (line :: below) = line :: untitled below := by
  simp [untitled, entitled]

/-- Once a scenario is open, steps do not describe the feature. -/
theorem remarksIn_opening {line : Text} (entitled : entitles line = false)
    (opening : isOpening line = true) (below : List Text) :
    remarksIn (line :: below) = (untitled below).filter (describes true) := by
  simp [remarksIn, untitled_of_not_entitles entitled, opening, not_describes_of_opening opening]

theorem remarksIn_other {line : Text} (entitled : entitles line = false)
    (other : isOpening line = false) (below : List Text) :
    remarksIn (line :: below) =
      (if describes false line then [line] else []) ++ remarksIn below := by
  rw [remarksIn, untitled_of_not_entitles entitled]
  by_cases described : describes false line <;> simp [remarksIn, other, described]

namespace Draft

/-! ### What one line does -/

/-- What is neither title nor scenario leaves the title. -/
theorem title_addBody (draft : Draft) (line : Text) : (draft.addBody line).title = draft.title := by
  unfold addBody
  split
  · split
    · rfl
    · split <;> rfl
  · split <;> rfl

/-- The first title that is not empty is kept. -/
theorem title_add (draft : Draft) (line : Text) :
    (draft.add line).title =
      if draft.title.isEmpty then (titleOf? line).getD [] else draft.title := by
  unfold add titleOf?
  cases Text.afterLead? titleLead line with
  | some title => by_cases empty : draft.title.isEmpty <;> simp [empty]
  | none =>
    cases Text.afterLead? scenarioLead line <;>
      by_cases empty : draft.title.isEmpty <;> simp_all [title_addBody]

/-- A line that opens a scenario closes the scenario above it. -/
theorem add_opening (draft : Draft) {line name : Text}
    (opened : Text.afterLead? scenarioLead line = some name) :
    draft.add line =
      { draft with closed := draft.scenarios, current := some ⟨Text.strip name, []⟩ } := by
  simp [add, not_titled_of_opened opened, opened]

/-- Any other line goes to the scenario that is open, if it is a step, and to no other. -/
theorem add_other (draft : Draft) {line : Text} (other : isOpening line = false) :
    (draft.add line).closed = draft.closed ∧
      (draft.add line).current = draft.current.map (·.extend [line]) := by
  have unopened : Text.afterLead? scenarioLead line = none := Text.afterLead?_eq_none.mpr other
  simp only [Scenario.extend_other other, Scenario.extend_nil]
  unfold add
  cases titled : Text.afterLead? titleLead line with
  | some title =>
    have notStep := not_isStep_of_lead (.inl titled)
    by_cases empty : draft.title.isEmpty <;> cases current : draft.current <;>
      simp [empty, current, notStep]
  | none =>
    cases current : draft.current with
    | none => by_cases empty : draft.title.isEmpty <;> simp [unopened, addBody, current, empty]
    | some scenario =>
      by_cases step : isStep line <;> by_cases empty : draft.title.isEmpty <;>
        simp [unopened, addBody, current, step, empty]

/-- A line is remarked on when it describes the feature and the title is not there yet. -/
theorem remarks_add (draft : Draft) (line : Text) :
    (draft.add line).remarks = draft.remarks ++
      if draft.title.isEmpty && describes draft.current.isSome line then [line] else [] := by
  unfold add describes
  rw [isTitle_eq, isOpening_eq]
  cases Text.afterLead? titleLead line with
  | some title => by_cases empty : draft.title.isEmpty <;> simp [empty]
  | none =>
    cases Text.afterLead? scenarioLead line with
    | some name => simp
    | none =>
      cases current : draft.current with
      | none => by_cases empty : draft.title.isEmpty <;> simp [addBody, current, empty]
      | some scenario =>
        by_cases step : isStep line <;> by_cases empty : draft.title.isEmpty <;>
          simp [addBody, current, step, empty]

/-! ### What reading on does -/

/-- **Reading on finds the first title, unless there is one.** -/
theorem title_foldl_add (told : List Text) (draft : Draft) :
    (told.foldl add draft).title =
      if draft.title.isEmpty then titleIn told else draft.title := by
  induction told generalizing draft with
  | nil => by_cases empty : draft.title.isEmpty <;> simp_all [titleIn]
  | cons line told ih =>
    rw [List.foldl_cons, ih, title_add]
    unfold titleIn
    cases titled : titleOf? line with
    | none => by_cases empty : draft.title.isEmpty <;> simp [empty, titled]
    | some title =>
      by_cases empty : draft.title.isEmpty <;> by_cases blank : title.isEmpty <;> simp_all

/-- **Reading on extends the open scenario and opens those to come.** -/
theorem scenarios_foldl_add (told : List Text) (draft : Draft) :
    (told.foldl add draft).scenarios =
      draft.closed ++ (draft.current.map (·.extend told)).toList ++ sections told := by
  -- a line that opens a scenario closes the one in the draft, whose steps end there
  induction told generalizing draft with
  | nil => simp [scenarios, sections, opened?]
  | cons line told ih =>
    rw [List.foldl_cons, ih, sections_cons, opened?]
    rcases opened_cases line with ⟨name, opened, opening⟩ | ⟨unopened, other⟩
    · rw [add_opening draft opened, opened]
      simp [scenarios, Scenario.extend_opening opening]
    · rw [(add_other draft other).1, (add_other draft other).2, unopened]
      cases draft.current <;> simp [Scenario.extend_other other]

/-- **Reading on remarks on the lines that describe the feature.** -/
theorem remarks_foldl_add (told : List Text) (draft : Draft) :
    (told.foldl add draft).remarks = draft.remarks ++
      if draft.title.isEmpty then
        if draft.current.isSome then (untitled told).filter (describes true) else remarksIn told
      else [] := by
  induction told generalizing draft with
  | nil => simp [untitled, remarksIn]
  | cons line told ih =>
    rw [List.foldl_cons, ih, remarks_add, title_add, List.append_assoc]
    congr 1
    by_cases empty : draft.title.isEmpty
    · rw [if_pos empty, isEmpty_titleOf]
      -- the title ends the remarks; short of it, a scenario keeps its steps out of them
      cases entitled : entitles line with
      | true =>
        simp [empty, not_describes_of_entitles entitled, remarksIn, untitled_of_entitles entitled]
      | false =>
        rcases opened_cases line with ⟨name, opened, opening⟩ | ⟨-, other⟩
        · rw [add_opening draft opened, remarksIn_opening entitled opening,
            untitled_of_not_entitles entitled]
          simp [empty, not_describes_of_opening opening]
        · rw [(add_other draft other).2, remarksIn_other entitled other,
            untitled_of_not_entitles entitled, List.filter_cons]
          cases draft.current with
          | none => simp [empty]
          | some scenario => by_cases described : describes true line <;> simp [empty, described]
    · simp [empty]

end Draft

/-! ### The laws of sections -/

/-- The scenarios are named as the lines that open them, in their order. -/
theorem map_name_sections (told : List Text) :
    (sections told).map Scenario.name =
      (told.filterMap (Text.afterLead? scenarioLead)).map Text.strip := by
  induction told with
  | nil => rfl
  | cons line told ih =>
    rw [sections_cons, opened?, List.filterMap_cons]
    cases Text.afterLead? scenarioLead line <;> simp [ih, Scenario.extend]

/-- The steps of all scenarios in a row are the steps from the first scenario on. -/
theorem flatMap_steps_sections (told : List Text) :
    (sections told).flatMap Scenario.steps = (told.dropWhile (!isOpening ·)).filter isStep := by
  induction told with
  | nil => rfl
  | cons line told ih =>
    rw [sections_cons, opened?]
    rcases opened_cases line with ⟨name, opened, opening⟩ | ⟨unopened, other⟩
    · have notStep := not_isStep_of_lead (.inr opened)
      have cut : told.takeWhile (!isOpening ·) ++ told.dropWhile (!isOpening ·) = told :=
        List.takeWhile_append_dropWhile
      simp [opened, opening, notStep, Scenario.extend, ih, ← List.filter_append, cut]
    · simp [unopened, other, ih]

/-- The lines above give a scenario for each of them that opens one. -/
theorem sections_append (above below : List Text) :
    ∃ earlier : List Scenario, earlier.length = above.countP isOpening ∧
      sections (above ++ below) = earlier ++ sections below := by
  induction above with
  | nil => exact ⟨[], rfl, rfl⟩
  | cons line above ih =>
    obtain ⟨earlier, count, same⟩ := ih
    refine ⟨(opened? (line :: (above ++ below))).toList ++ earlier, ?_, ?_⟩
    · rw [List.countP_cons, isOpening_eq, opened?, List.length_append, count, Nat.add_comm]
      cases Text.afterLead? scenarioLead line <;> rfl
    · rw [List.cons_append, sections_cons, same, List.append_assoc]

/-- **The steps of a scenario stand between the line that opens it and the next such line.** -/
theorem steps_sections {above body below : List Text} {line : Text}
    (opening : isOpening line = true) (unopened : ∀ other ∈ body, isOpening other = false)
    (next : ∀ other ∈ below.head?, isOpening other = true) :
    ((sections (above ++ line :: (body ++ below)))[above.countP isOpening]?).map Scenario.steps =
      some (body.filter isStep) := by
  obtain ⟨earlier, count, same⟩ := sections_append above (line :: (body ++ below))
  have ends : below.takeWhile (!isOpening ·) = [] := by
    cases below with
    | nil => rfl
    | cons other below => simp [next other rfl]
  have taken : (body ++ below).takeWhile (!isOpening ·) = body := by
    rw [List.takeWhile_append_of_pos (by simpa using unopened), ends, List.append_nil]
  rw [same, ← count, List.getElem?_append_right (Nat.le_refl _), Nat.sub_self, sections_cons,
    opened?]
  rw [isOpening_eq, Option.isSome_iff_exists] at opening
  obtain ⟨name, opened⟩ := opening
  simp [opened, Scenario.extend, taken]

/-- **What a document says can be told from its lines at large.** -/
theorem ofDocument_eq (document : Text) :
    Feature.ofDocument document =
      ⟨titleIn (lines document), Text.joined " " (remarksIn (lines document)),
        sections (lines document)⟩ := by
  rw [Feature.ofDocument, Draft.feature, Draft.title_foldl_add, Draft.remarks_foldl_add,
    Draft.scenarios_foldl_add]
  rfl

end Document

open Document

/-- **No scenario and no step is lost, repeated or moved.** The scenarios are those that the lines
open, in their order, and are named by what stands behind the lead. The steps of each are the step
lines between the line that opens it and the next such line, so that the steps of all of them are
the step lines from the first scenario on. The title is the first one that is not empty. -/
theorem Feature.ofDocument_segments (document : Text) :
    let told := Document.lines document
    let feature := Feature.ofDocument document
    feature.scenarios.map Scenario.name =
        (told.filterMap (Text.afterLead? scenarioLead)).map Text.strip ∧
      (∀ above line body below, told = above ++ line :: (body ++ below) →
        isOpening line = true → (∀ other ∈ body, isOpening other = false) →
        (∀ other ∈ below.head?, isOpening other = true) →
        (feature.scenarios[above.countP isOpening]?).map Scenario.steps =
          some (body.filter isStep)) ∧
      feature.scenarios.flatMap Scenario.steps =
        (told.dropWhile (!isOpening ·)).filter isStep ∧
      feature.title = ((told.filterMap titleOf?).find? (!·.isEmpty)).getD [] := by
  intro told feature
  have known : feature = ⟨titleIn told, Text.joined " " (remarksIn told), sections told⟩ :=
    ofDocument_eq document
  rw [known]
  refine ⟨map_name_sections told, ?_, flatMap_steps_sections told, rfl⟩
  intro above line body below cut opening unopened next
  rw [cut]
  exact steps_sections opening unopened next

/-- A scenario below one whose steps have a title and a remark between them. -/
def sectionsSample : Text :=
  "Given a\nScenario: s\n When b\nFeature: T\n# c\nnote\nThen d\nScenario:\nBut e"

theorem Feature.ofDocument_segments_sample :
    ((Feature.ofDocument sectionsSample).scenarios[0]?).map Scenario.steps =
      some (["When b", "Then d"] : List Text) :=
  (ofDocument_segments sectionsSample).2.1 ["Given a"] "Scenario: s"
    ["When b", "Feature: T", "note", "Then d"] ["Scenario:", "But e"]
    (by decide +kernel) (by decide +kernel) (by decide +kernel) (by decide +kernel)

end Scenarist
