/-
**The normal form of scenario documents.**

Reading a document gives a feature whose texts are stripped lines, whose steps start as steps do and
whose description is not taken for anything else (`ofDocument_isNormal`). Such a feature can be
written down, a line for each of its texts, and is read back from what was written
(`ofDocument_print`). Both go through the draft that reading keeps: one line preserves what holds of
it (`Draft.IsNormal.add`), and written lines have a known effect on it (`foldl_add_scenarios`).
-/

import Scenarist.Feature.Document
import Scenarist.Proofs.Text.Lines

namespace Scenarist

open Text (IsLine)

namespace Document

/-- Is the line neither a comment nor a title nor the first line of a scenario? -/
def isRemark (line : Text) : Bool :=
  !Text.startsWith line "#" && !Text.startsWith line titleLead && !Text.startsWith line scenarioLead

end Document

/-- The name and the steps are lines, and the steps start as steps do. -/
structure Scenario.IsNormal (scenario : Scenario) : Prop where
  name : IsLine scenario.name
  steps : ∀ step ∈ scenario.steps, IsLine step ∧ Document.isStep step = true

/-- All texts are lines, and the description is not taken for anything else. -/
structure Feature.IsNormal (feature : Feature) : Prop where
  title : IsLine feature.title
  description : IsLine feature.description
  remark : feature.description ≠ [] → Document.isRemark feature.description = true
  scenarios : ∀ scenario ∈ feature.scenarios, scenario.IsNormal

/-- The lines that a scenario is written in. -/
def Scenario.lines (scenario : Scenario) : List Text :=
  ("Scenario: " ++ scenario.name) :: scenario.steps

/-- The lines that a feature is written in. -/
def Feature.lines (feature : Feature) : List Text :=
  (if feature.description.isEmpty then [] else [feature.description]) ++
    (if feature.title.isEmpty then [] else ["Feature: " ++ feature.title]) ++
    feature.scenarios.flatMap Scenario.lines

/-- The document of a feature: every line with a line feed after it. -/
def Feature.print (feature : Feature) : Text := feature.lines.flatMap fun line => line ++ ['\n']

namespace Document

/-! ### What reading keeps -/

/-- The stripped lines of a document are lines, and they say something. -/
theorem of_mem_lines {document line : Text} (member : line ∈ lines document) :
    IsLine line ∧ isTelling line = true := by
  obtain ⟨stripped, telling⟩ := List.mem_filter.mp member
  obtain ⟨piece, isPiece, rfl⟩ := List.mem_map.mp stripped
  exact ⟨Text.isLine_strip (Text.not_mem_of_mem_cut isPiece), telling⟩

/-- What holds of a draft on the way: it describes a normal feature, remark by remark. -/
structure Draft.IsNormal (draft : Draft) : Prop where
  title : IsLine draft.title
  remarks : ∀ remark ∈ draft.remarks, remark ≠ [] ∧ IsLine remark ∧ isRemark remark = true
  scenarios : ∀ scenario ∈ draft.scenarios, scenario.IsNormal

theorem Draft.isNormal_empty : ({} : Draft).IsNormal where
  title := Text.isLine_nil
  remarks := by simp
  scenarios := by simp [Draft.scenarios]

/-- The rest of a line behind a lead is a line when it is stripped. -/
theorem isLine_strip_rest {lead line rest : Text} (isLine : IsLine line)
    (after : Text.afterLead? lead line = some rest) : IsLine (Text.strip rest) := by
  apply Text.isLine_strip
  intro member
  apply isLine.1
  rw [Text.afterLead?_eq_some.mp after]
  exact List.mem_append_right _ member

/-- A draft with a new remark is normal. -/
theorem Draft.IsNormal.addRemark {draft : Draft} (normal : draft.IsNormal) {line : Text}
    (isLine : IsLine line) (nonempty : line ≠ []) (remark : isRemark line = true) :
    ({ draft with remarks := draft.remarks ++ [line] } : Draft).IsNormal where
  title := normal.title
  remarks := by
    intro other member
    rcases List.mem_append.mp member with member | member
    · exact normal.remarks other member
    · rw [List.mem_singleton.mp member]
      exact ⟨nonempty, isLine, remark⟩
  scenarios := normal.scenarios

/-- A draft whose open scenario has a new step is normal. -/
theorem Draft.IsNormal.addStep {draft : Draft} (normal : draft.IsNormal) {scenario : Scenario}
    (current : draft.current = some scenario) {line : Text} (isLine : IsLine line)
    (step : isStep line = true) :
    ({ draft with current := some { scenario with steps := scenario.steps ++ [line] } } :
      Draft).IsNormal where
  title := normal.title
  remarks := normal.remarks
  scenarios := by
    have openNormal : scenario.IsNormal :=
      normal.scenarios scenario (by simp [Draft.scenarios, current])
    intro other member
    rcases List.mem_append.mp member with member | member
    · exact normal.scenarios other (List.mem_append_left _ member)
    · rw [Option.toList_some, List.mem_singleton] at member
      subst member
      refine ⟨openNormal.name, fun step' member => ?_⟩
      rcases List.mem_append.mp member with member | member
      · exact openNormal.steps step' member
      · rw [List.mem_singleton.mp member]
        exact ⟨isLine, step⟩

/-- A line that is neither title nor scenario keeps the draft normal. -/
theorem Draft.IsNormal.addBody {draft : Draft} (normal : draft.IsNormal) {line : Text}
    (isLine : IsLine line) (nonempty : line ≠ []) (remark : isRemark line = true) :
    (draft.addBody line).IsNormal := by
  have remarked := normal.addRemark isLine nonempty remark
  unfold Draft.addBody
  split
  · next scenario current =>
    split
    · next step => exact normal.addStep current isLine step
    · split
      · exact remarked
      · exact normal
  · split
    · exact remarked
    · exact normal

/-- **One line keeps the draft normal.** -/
theorem Draft.IsNormal.add {draft : Draft} (normal : draft.IsNormal) {line : Text}
    (isLine : IsLine line) (telling : isTelling line = true) : (draft.add line).IsNormal := by
  unfold Draft.add
  cases titled : Text.afterLead? titleLead line with
  | some rest =>
    simp only
    split
    · exact ⟨isLine_strip_rest isLine titled, normal.remarks, normal.scenarios⟩
    · exact normal
  | none =>
    cases opened : Text.afterLead? scenarioLead line with
    | some rest =>
      refine ⟨normal.title, normal.remarks, fun scenario member => ?_⟩
      rcases List.mem_append.mp member with member | member
      · exact normal.scenarios scenario member
      · rw [Option.toList_some, List.mem_singleton] at member
        subst member
        exact ⟨isLine_strip_rest isLine opened, by simp⟩
    | none =>
      have nonempty : line ≠ [] := by
        rintro rfl
        simp [isTelling] at telling
      have remark : isRemark line = true := by
        rw [Text.afterLead?_eq_none] at titled opened
        simp_all [isTelling, isRemark]
      exact normal.addBody isLine nonempty remark

/-- **Reading lines keeps the draft normal.** -/
theorem Draft.IsNormal.foldl_add {draft : Draft} (normal : draft.IsNormal) {told : List Text}
    (each : ∀ line ∈ told, IsLine line ∧ isTelling line = true) :
    (told.foldl Draft.add draft).IsNormal := by
  induction told generalizing draft with
  | nil => exact normal
  | cons line told ih =>
    obtain ⟨isLine, telling⟩ := each line List.mem_cons_self
    exact ih (normal.add isLine telling) fun other member =>
      each other (List.mem_cons_of_mem _ member)

/-! ### Remarks in a row -/

/-- Whether a text starts with a lead without blanks is settled before its first space. -/
theorem startsWith_append_space {lead : Text} (unspaced : ' ' ∉ lead) (t rest : Text) :
    Text.startsWith (t ++ ' ' :: rest) lead = Text.startsWith t lead := by
  induction lead generalizing t with
  | nil => simp [Text.startsWith]
  | cons l lead ih =>
    have different : l ≠ ' ' := fun same => unspaced (same ▸ List.mem_cons_self)
    have below := ih fun member => unspaced (List.mem_cons_of_mem _ member)
    cases t with
    | nil => simp [Text.startsWith, List.isPrefixOf, different]
    | cons c t =>
      have tail := below t
      simp only [Text.startsWith] at tail
      simp [Text.startsWith, List.isPrefixOf, tail]

theorem joined_ne_nil {mark t : Text} (nonempty : t ≠ []) (more : List Text) :
    Text.joined mark (t :: more) ≠ [] := by
  cases more <;> simp [Text.joined, nonempty]

/-- Remarks that are lines make one line. -/
theorem isLine_joined {remarks : List Text}
    (each : ∀ remark ∈ remarks, remark ≠ [] ∧ IsLine remark) :
    IsLine (Text.joined " " remarks) := by
  induction remarks with
  | nil => exact Text.isLine_nil
  | cons remark remarks ih =>
    obtain ⟨nonempty, isLine⟩ := each remark List.mem_cons_self
    have below := ih fun other member => each other (List.mem_cons_of_mem _ member)
    cases remarks with
    | nil => exact isLine
    | cons next more =>
      have nextNonempty := (each next (by simp)).1
      exact isLine.append below nonempty (joined_ne_nil nextNonempty more) " " (by decide)

/-- What the remarks in a row are taken for is what the first of them is taken for. -/
theorem isRemark_joined {remark : Text} {more : List Text} (known : isRemark remark = true) :
    isRemark (Text.joined " " (remark :: more)) = true := by
  cases more with
  | nil => exact known
  | cons next more =>
    have row : Text.joined " " (remark :: next :: more)
        = remark ++ ' ' :: Text.joined " " (next :: more) := by
      simp [Text.joined]
    rw [row]
    unfold isRemark at known ⊢
    rw [startsWith_append_space (by decide), startsWith_append_space (by decide),
      startsWith_append_space (by decide)]
    exact known

/-- A normal draft describes a normal feature. -/
theorem Draft.IsNormal.feature {draft : Draft} (normal : draft.IsNormal) :
    draft.feature.IsNormal where
  title := normal.title
  description := isLine_joined fun remark member =>
    ⟨(normal.remarks remark member).1, (normal.remarks remark member).2.1⟩
  remark := by
    intro nonempty
    show isRemark (Text.joined " " draft.remarks) = true
    cases remarks : draft.remarks with
    | nil => simp [Draft.feature, remarks, Text.joined] at nonempty
    | cons remark more =>
      exact isRemark_joined (normal.remarks remark (by simp [remarks])).2.2
  scenarios := normal.scenarios

/-- **Every document describes a normal feature.** -/
theorem ofDocument_isNormal (document : Text) : (Feature.ofDocument document).IsNormal :=
  (Draft.isNormal_empty.foldl_add fun _ member => of_mem_lines member).feature

/-! ### What is read back from written lines -/

/-- The lines of a document that was written line by line. -/
theorem lines_print {written : List Text} (unbroken : ∀ line ∈ written, '\n' ∉ line) :
    lines (written.flatMap fun line => line ++ ['\n']) =
      (written.map Text.strip).filter isTelling := by
  have rest : ([Text.strip []].filter isTelling) = [] := rfl
  rw [lines, Text.cut_lines unbroken, List.map_append, List.filter_append, List.map_singleton,
    rest, List.append_nil]

/-- The line that a name makes behind a lead, once it is stripped. -/
def leading (lead name : Text) : Text := if name.isEmpty then lead else lead ++ ' ' :: name

/-- A lead that is a line with a name behind it is stripped to the lead where the name is empty. -/
theorem strip_leading (lead : Text) {name : Text} (isLead : IsLine lead) (begun : lead ≠ [])
    (isName : IsLine name) : Text.strip (lead ++ ' ' :: name) = leading lead name := by
  unfold leading
  cases name with
  | nil =>
    have blankEnd : Text.strip (lead ++ [' ']) = Text.strip lead := by
      obtain ⟨c, rest, rfl⟩ := List.exists_cons_of_ne_nil begun
      have solid : Text.isBlank c = false := (Text.trim_eq_self_iff.mp isLead.2).1 c rfl
      rw [Text.strip, Text.strip, Text.trim_eq, Text.trim_eq, List.cons_append,
        List.dropWhile_cons_of_neg (by simp [solid]), List.dropWhile_cons_of_neg (by simp [solid]),
        ← List.cons_append, List.rdropWhile_concat_pos _ _ _ (by decide)]
    rw [blankEnd, isLead.2]
    rfl
  | cons c rest =>
    have row := isLead.append isName begun (by simp) [' '] (by decide)
    simpa using row.2

/-- What stands behind the lead of such a line is the name, blanks apart. -/
theorem afterLead?_leading (lead name : Text) :
    ∃ rest, Text.afterLead? lead (leading lead name) = some rest ∧
      Text.strip rest = Text.strip name := by
  unfold leading
  cases name with
  | nil => exact ⟨[], by simpa using Text.afterLead?_append lead [], rfl⟩
  | cons c name =>
    exact ⟨' ' :: c :: name, Text.afterLead?_append _ _, Text.strip_cons_blank (by decide) _⟩

/-- A step is neither a title nor the first line of a scenario, and it says something. -/
theorem of_isStep {line : Text} (step : isStep line = true) :
    Text.afterLead? titleLead line = none ∧ Text.afterLead? scenarioLead line = none ∧
      isTelling line = true := by
  obtain ⟨lead, isLead, starts⟩ := List.any_eq_true.mp step
  obtain ⟨rest, rfl⟩ := Text.startsWith_iff.mp starts
  simp only [stepLeads, List.mem_cons, List.not_mem_nil, or_false] at isLead
  rcases isLead with rfl | rfl | rfl | rfl | rfl <;> exact ⟨rfl, rfl, rfl⟩

/-- A title is taken when there is none yet. -/
theorem Draft.add_title {draft : Draft} (untitled : draft.title = []) {title : Text}
    (isTitle : IsLine title) :
    draft.add (leading titleLead title) = { draft with title := title } := by
  obtain ⟨rest, after, stripped⟩ := afterLead?_leading titleLead title
  simp [Draft.add, after, untitled, stripped, isTitle.2]

/-- The first line of a scenario closes the scenario above it. -/
theorem Draft.add_scenario (draft : Draft) {name : Text} (isName : IsLine name) :
    draft.add (leading scenarioLead name) =
      { draft with closed := draft.scenarios, current := some ⟨name, []⟩ } := by
  have untitled : Text.afterLead? titleLead (leading scenarioLead name) = none := by
    unfold leading
    split <;> rfl
  obtain ⟨rest, after, stripped⟩ := afterLead?_leading scenarioLead name
  simp [Draft.add, untitled, after, stripped, isName.2]

/-- Steps go to the open scenario. -/
theorem Draft.foldl_add_steps {steps : List Text} (each : ∀ step ∈ steps, isStep step = true)
    (draft : Draft) {scenario : Scenario} (current : draft.current = some scenario) :
    steps.foldl Draft.add draft =
      { draft with current := some { scenario with steps := scenario.steps ++ steps } } := by
  induction steps generalizing draft scenario with
  | nil => simp [← current]
  | cons step steps ih =>
    have isStep := each step List.mem_cons_self
    obtain ⟨untitled, unopened, -⟩ := of_isStep isStep
    have added : draft.add step =
        { draft with current := some { scenario with steps := scenario.steps ++ [step] } } := by
      simp [Draft.add, untitled, unopened, Draft.addBody, current, isStep]
    rw [List.foldl_cons, added, ih (fun other member => each other (List.mem_cons_of_mem _ member))
      _ rfl]
    simp

/-- The lines of a scenario as they are read. -/
def scenarioLines (scenario : Scenario) : List Text :=
  leading scenarioLead scenario.name :: scenario.steps

/-- **Scenarios are read in their order and change nothing else.** -/
theorem Draft.foldl_add_scenarios {scenarios : List Scenario}
    (normal : ∀ scenario ∈ scenarios, scenario.IsNormal) (draft : Draft) :
    ((scenarios.flatMap scenarioLines).foldl Draft.add draft).feature =
      ⟨draft.title, Text.joined " " draft.remarks, draft.scenarios ++ scenarios⟩ := by
  induction scenarios generalizing draft with
  | nil => simp [Draft.feature]
  | cons scenario scenarios ih =>
    obtain ⟨isName, areSteps⟩ := normal scenario List.mem_cons_self
    have below := ih fun other member => normal other (List.mem_cons_of_mem _ member)
    rw [List.flatMap_cons, List.foldl_append, scenarioLines, List.foldl_cons,
      Draft.add_scenario draft isName,
      Draft.foldl_add_steps (fun step member => (areSteps step member).2) _ rfl, below]
    simp [Draft.scenarios]

/-- The description and the title as they are read. -/
def frontLines (feature : Feature) : List Text :=
  (if feature.description.isEmpty then [] else [feature.description]) ++
    if feature.title.isEmpty then [] else [leading titleLead feature.title]

/-- The description and the title are read at the start of a document. -/
theorem Draft.foldl_add_front {feature : Feature} (normal : feature.IsNormal) :
    (frontLines feature).foldl Draft.add {} =
      { title := feature.title
        remarks := if feature.description.isEmpty then [] else [feature.description] } := by
  have described : (if feature.description.isEmpty then [] else [feature.description]).foldl
      Draft.add {} =
      ({ remarks := if feature.description.isEmpty then [] else [feature.description] } :
        Draft) := by
    split
    · rfl
    · next present =>
      have remark := normal.remark (by simpa using present)
      simp only [isRemark, Bool.and_eq_true, Bool.not_eq_true', ← Text.afterLead?_eq_none] at remark
      obtain ⟨⟨-, untitled⟩, unopened⟩ := remark
      simp [Draft.add, untitled, unopened, Draft.addBody]
  rw [frontLines, List.foldl_append, described]
  cases titled : feature.title with
  | nil => rfl
  | cons c rest =>
    have isTitle := normal.title
    rw [titled] at isTitle
    have untitled : ({ remarks := if feature.description.isEmpty then [] else
        [feature.description] } : Draft).title = [] := rfl
    exact Draft.add_title untitled isTitle

/-- No line of a normal feature is broken. -/
theorem not_mem_of_mem_lines {feature : Feature} (normal : feature.IsNormal) {line : Text}
    (member : line ∈ feature.lines) : '\n' ∉ line := by
  simp only [Feature.lines, List.mem_append, List.mem_flatMap, Scenario.lines] at member
  rcases member with (described | titled) | ⟨scenario, among, named⟩
  · split at described
    · cases described
    · rw [List.mem_singleton.mp described]
      exact normal.description.1
  · split at titled
    · cases titled
    · rw [List.mem_singleton.mp titled]
      simp [normal.title.1]
  · have normalScenario := normal.scenarios scenario among
    rcases List.mem_cons.mp named with rfl | step
    · simp [normalScenario.name.1]
    · exact (normalScenario.steps line step).1.1

/-- The lines of a normal feature as they are when stripped. -/
theorem map_strip_lines {feature : Feature} (normal : feature.IsNormal) :
    feature.lines.map Text.strip =
      frontLines feature ++ feature.scenarios.flatMap scenarioLines := by
  have described : (if feature.description.isEmpty then [] else [feature.description]).map
      Text.strip = if feature.description.isEmpty then [] else [feature.description] := by
    split
    · rfl
    · rw [List.map_singleton, normal.description.2]
  have titled : (if feature.title.isEmpty then [] else ["Feature: " ++ feature.title]).map
      Text.strip = if feature.title.isEmpty then [] else [leading titleLead feature.title] := by
    split
    · rfl
    · exact congrArg (· :: []) (strip_leading titleLead ⟨by decide, rfl⟩ (by decide) normal.title)
  have told : ∀ scenario ∈ feature.scenarios,
      scenario.lines.map Text.strip = scenarioLines scenario := by
    intro scenario among
    have normalScenario := normal.scenarios scenario among
    have steps : scenario.steps.map Text.strip = scenario.steps :=
      (List.map_congr_left fun step member => (normalScenario.steps step member).1.2).trans
        (List.map_id _)
    rw [Scenario.lines, List.map_cons, steps]
    exact congrArg (· :: _)
      (strip_leading scenarioLead ⟨by decide, rfl⟩ (by decide) normalScenario.name)
  rw [Feature.lines, List.map_append, List.map_append, described, titled, List.map_flatMap,
    List.flatMap_congr told, frontLines]

/-- All of these lines say something. -/
theorem isTelling_of_mem {feature : Feature} (normal : feature.IsNormal) {line : Text}
    (member : line ∈ frontLines feature ++ feature.scenarios.flatMap scenarioLines) :
    isTelling line = true := by
  have leadTelling (name : Text) : isTelling (leading titleLead name) = true ∧
      isTelling (leading scenarioLead name) = true := by
    unfold leading
    split <;> exact ⟨rfl, rfl⟩
  simp only [frontLines, List.mem_append, List.mem_flatMap, scenarioLines] at member
  rcases member with (described | titled) | ⟨scenario, among, named⟩
  · split at described
    · cases described
    · next present =>
      rw [List.mem_singleton.mp described]
      have remark := normal.remark (by simpa using present)
      simp_all [isRemark, isTelling]
  · split at titled
    · cases titled
    · rw [List.mem_singleton.mp titled]
      exact (leadTelling _).1
  · rcases List.mem_cons.mp named with rfl | step
    · exact (leadTelling _).2
    · exact (of_isStep ((normal.scenarios scenario among).steps line step).2).2.2

/-- **A normal feature is read back from the document it is printed as.** -/
theorem ofDocument_print {feature : Feature} (normal : feature.IsNormal) :
    Feature.ofDocument feature.print = feature := by
  have told : lines feature.print =
      frontLines feature ++ feature.scenarios.flatMap scenarioLines := by
    rw [Feature.print, lines_print fun line => not_mem_of_mem_lines normal,
      map_strip_lines normal, List.filter_eq_self]
    exact fun line => isTelling_of_mem normal
  have described : Text.joined " "
      (if feature.description.isEmpty then [] else [feature.description]) =
        feature.description := by
    cases feature.description <;> rfl
  rw [Feature.ofDocument, told, List.foldl_append, Draft.foldl_add_front normal,
    Draft.foldl_add_scenarios normal.scenarios]
  simp only [described, Draft.scenarios, Option.toList_none, List.append_nil, List.nil_append]

end Document

/-- **The normal form of scenario documents.** What any document describes is normal, a feature is
normal exactly when it is read back from the document it is printed as, and so printing what was
read changes nothing that is read. -/
theorem Feature.normal_form :
    (∀ document, (Feature.ofDocument document).IsNormal) ∧
      (∀ feature : Feature, feature.IsNormal ↔ Feature.ofDocument feature.print = feature) ∧
      ∀ document, Feature.ofDocument (Feature.ofDocument document).print =
        Feature.ofDocument document := by
  refine ⟨Document.ofDocument_isNormal, fun feature => ⟨Document.ofDocument_print, ?_⟩, ?_⟩
  · intro readBack
    rw [← readBack]
    exact Document.ofDocument_isNormal _
  · intro document
    exact Document.ofDocument_print (Document.ofDocument_isNormal document)

end Scenarist
