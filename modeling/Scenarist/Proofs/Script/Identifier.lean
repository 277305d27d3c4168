/-
**Every name that a module defines is a legal one.** The names that stand in the lines of a
`pytest-playwright` module are those of its class and its methods (`definedNames_lines`). A method is
made from a fragment (`Naming.IsFragment`), a text that may follow the start of a name and has no low
line at its ends: what is left of the name of a scenario when the characters between its words become
low lines is one, whichever of the two ways of telling words apart is taken, and so is the fallback for
a name without words (`Naming.isFragment_identifier`). A class is made from ASCII words, of which the
first starts with a letter.
-/

import Scenarist.Proofs.Script.Distinct
import Scenarist.Script.PytestPlaywright

namespace Scenarist

/-! ### Names -/

/-- A name stays one with characters behind it that may follow its start. -/
theorem Text.isName_append {t more : Text} (name : isName t = true)
    (continues : ∀ c ∈ more, isNameContinue c = true) : isName (t ++ more) = true := by
  cases t with
  | nil => cases name
  | cons c t =>
    rw [isName, Bool.and_eq_true, List.all_eq_true] at name
    rw [List.cons_append, isName, Bool.and_eq_true, List.all_eq_true]
    refine ⟨name.1, fun d member => ?_⟩
    rcases List.mem_append.mp member with member | member
    · exact name.2 d member
    · exact continues d member

namespace Naming

theorem isNameContinue_of_isAlnum {c : Char} (alnum : isAlnum c = true) :
    Text.isNameContinue c = true :=
  has_of_isAlnum (.head _) (.tail _ (.head _)) (.tail _ (.tail _ (.tail _ (.head _)))) alnum

theorem isNameContinue_lowLine : Text.isNameContinue '_' = true := by decide +kernel

/-! ### Methods -/

/-- The text may follow the start of a name, and no low line is at its ends. -/
structure IsFragment (t : Text) : Prop where
  nonempty : t ≠ []
  first : ∀ c ∈ t.head?, c ≠ '_'
  last : ∀ c ∈ t.getLast?, c ≠ '_'
  continues : ∀ c ∈ t, Text.isNameContinue c = true

/-- A slug of characters that may stand in a name is a fragment, if any are left. -/
theorem isFragment_slug {keep : Char → Bool} {t : Text} (nonempty : slug keep t ≠ [])
    (continues : ∀ c ∈ slug keep t, Text.isNameContinue c = true) : IsFragment (slug keep t) := by
  obtain ⟨first, last⟩ := Text.trim_ends (· = '_') (bridge keep false t)
  exact ⟨nonempty, fun c member => of_decide_eq_false (first c member),
    fun c member => of_decide_eq_false (last c member), continues⟩

/-- **An identifier is a fragment**, if its fallback is one. -/
theorem isFragment_identifier {fallback : Text} (fragment : IsFragment fallback) (t : Text) :
    IsFragment (identifier fallback t) := by
  simp only [identifier]
  split_ifs with isName empty empty
  · exact fragment
  · rw [Text.isName, Bool.and_eq_true, List.all_eq_true] at isName
    exact isFragment_slug (mt List.isEmpty_iff.mpr empty) isName.2
  · exact fragment
  · refine isFragment_slug (mt List.isEmpty_iff.mpr empty) fun c member => ?_
    rcases of_mem_slug member with small | rfl
    · exact isNameContinue_of_isAlnum (isAlnum_of_isSmallAlnum small)
    · exact isNameContinue_lowLine

/-- The fallback of a scenario is a fragment. -/
theorem isFragment_fallback : IsFragment "scenario" where
  nonempty := by decide
  first := by
    rintro c ⟨⟩
    decide
  last := by
    rintro c ⟨⟩
    decide
  continues := List.all_eq_true.mp (by decide +kernel)

theorem isFragment_scenarioIdentifier (name : Text) : IsFragment (scenarioIdentifier name) :=
  isFragment_identifier isFragment_fallback name

/-- A method may follow the start of a name. -/
theorem isNameContinue_of_mem_methods {names : List Text} {method : Text}
    (member : method ∈ methods names) : ∀ c ∈ method, Text.isNameContinue c = true := by
  obtain ⟨base, among, form⟩ := of_mem_allocate member
  obtain ⟨name, -, rfl⟩ := List.mem_map.mp among
  have continues := (isFragment_scenarioIdentifier name).continues
  rcases form with rfl | ⟨n, rfl⟩
  · exact continues
  · intro c inside
    rcases List.mem_append.mp inside with inside | inside
    · exact continues c inside
    · rcases of_mem_suffix inside with alnum | rfl
      · exact isNameContinue_of_isAlnum alnum
      · exact isNameContinue_lowLine

/-! ### Classes -/

theorem isAlnum_eq (c : Char) : isAlnum c = c.isAlphanum := by
  have small : c.isLower = ('a' ≤ c && c ≤ 'z') := rfl
  have capital : c.isUpper = ('A' ≤ c && c ≤ 'Z') := Bool.decide_and _ _
  calc isAlnum c = ((c.isDigit || c.isLower) || c.isUpper) := by
        rw [small, capital]
        rfl
    _ = ((c.isUpper || c.isLower) || c.isDigit) := by
        rw [Bool.or_comm, Bool.or_comm c.isDigit, Bool.or_assoc]
    _ = c.isAlphanum := rfl

/-- A class is an ASCII letter with ASCII letters and digits behind it. -/
theorem featureClass_eq (title : Text) : ∃ c rest, featureClass title = c :: rest ∧
    c.isAlpha = true ∧ ∀ d ∈ rest, d.isAlphanum = true := by
  obtain ⟨⟨c, head, letter⟩, ascii⟩ := featureClass_spec title
  obtain ⟨rest, whole⟩ := List.head?_eq_some_iff.mp head
  rw [whole] at ascii
  have alphanum (d : Char) (member : d ∈ c :: rest) : d.isAlphanum = true :=
    (isAlnum_eq d).symm.trans (ascii d member)
  refine ⟨c, rest, whole, ?_, fun d member => alphanum d (List.mem_cons_of_mem c member)⟩
  have first := alphanum c List.mem_cons_self
  have noDigit : c.isDigit = false := letter
  rwa [Char.isAlphanum, noDigit, Bool.or_false] at first

end Naming

/-! ### The names in a module -/

/-- The definition of a method is a name. -/
theorem Naming.isName_definition {names : List Text} {method : Text} (member : method ∈ methods names) :
    Text.isName ("test_" ++ method) = true :=
  Text.isName_append (by decide +kernel) (isNameContinue_of_mem_methods member)

namespace PytestPlaywright

theorem isName_classOf (title : Text) : Text.isName (classOf title) = true :=
  Text.isName_append (by decide +kernel) fun c member =>
    Naming.isNameContinue_of_isAlnum ((Naming.featureClass_spec title).2 c member)

/-- The name that a line of a module defines, if it defines one: a class or a method. -/
def definedName? (line : Text) : Option Text :=
  match Text.afterLead? "class " line with
  | some rest => some (rest.takeWhile (· ≠ ':'))
  | none => (Text.afterLead? "    def " line).map fun rest => rest.takeWhile (· ≠ '(')

/-- A name is read up to a mark that no name has. -/
theorem takeWhile_name {name : Text} (isName : Text.isName name = true) {mark : Char}
    (noStart : Text.isNameStart mark = false) (noPart : Text.isNameContinue mark = false)
    (rest : Text) : (name ++ mark :: rest).takeWhile (· ≠ mark) = name := by
  have other : ∀ c ∈ name, decide (c ≠ mark) = true := by
    cases name with
    | nil => cases isName
    | cons first more =>
      rw [Text.isName, Bool.and_eq_true, List.all_eq_true] at isName
      intro c member
      refine decide_eq_true ?_
      rintro rfl
      rcases List.mem_cons.mp member with rfl | member
      · exact Bool.false_ne_true (noStart.symm.trans isName.1)
      · exact Bool.false_ne_true (noPart.symm.trans (isName.2 c member))
  rw [List.takeWhile_append_of_pos other]
  simp

theorem definedName?_class {name : Text} (isName : Text.isName name = true) :
    definedName? ("class " ++ name ++ ":") = some name := by
  rw [definedName?, List.append_assoc, Text.afterLead?_append]
  exact congrArg some (takeWhile_name isName (by decide +kernel) (by decide +kernel) _)

theorem definedName?_method {name : Text} (isName : Text.isName name = true) (rest : Text) :
    definedName? ("    def " ++ (name ++ '(' :: rest)) = some name := by
  have other : Text.afterLead? "class " ("    def " ++ (name ++ '(' :: rest)) = none := rfl
  rw [definedName?, other, Text.afterLead?_append]
  exact congrArg some (takeWhile_name isName (by decide +kernel) (by decide +kernel) _)

/-- The lines of steps define no name. -/
theorem definedNames_stepLines (step : PlainStep) : (stepLines step).filterMap definedName? = [] := by
  rw [List.filterMap_eq_nil_iff]
  intro line member
  rcases List.mem_cons.mp member with rfl | member
  · rfl
  · obtain ⟨command, -, rfl⟩ := List.mem_map.mp member
    rfl

/-- The lines of a case define its method. -/
theorem definedNames_caseLines (case : PlainCase)
    (isName : Text.isName ("test_" ++ case.method) = true) :
    (caseLines case).filterMap definedName? = ["test_" ++ case.method] := by
  have steps : (case.steps.flatMap stepLines).filterMap definedName? = [] := by
    rw [List.filterMap_flatMap, List.flatMap_eq_nil_iff]
    exact fun step _ => definedNames_stepLines step
  have method : definedName? ("    def test_" ++ case.method ++ "(self, page: Page):") =
      some ("test_" ++ case.method) := by
    rw [List.append_assoc]
    exact definedName?_method isName _
  have head : (caseHead case.name case.method).filterMap definedName? =
      ["test_" ++ case.method] := by
    rw [caseHead, List.filterMap_cons_none rfl, List.filterMap_cons_some method]
    rfl
  rw [caseLines, List.filterMap_append, head, steps, List.append_nil]

theorem isName_method {feature : Feature} {case : PlainCase} (member : case ∈ feature.plain.cases) :
    Text.isName ("test_" ++ case.method) = true := by
  obtain ⟨named, among, rfl⟩ := List.mem_map.mp member
  exact Naming.isName_definition (List.of_mem_zip among).2

/-- **The names that a module defines** are those of its class and of its methods. -/
theorem definedNames_lines (feature : Feature) :
    (lines feature.plain).filterMap definedName? =
      classOf feature.title :: feature.suite.cases.map Case.definition := by
  have first : (head feature.plain.title feature.plain.description).filterMap definedName? =
      [classOf feature.title] := by
    rw [head, List.filterMap_cons_none rfl, List.filterMap_cons_none rfl,
      List.filterMap_cons_none rfl, List.filterMap_cons_none rfl, List.filterMap_cons_none rfl,
      List.filterMap_cons_none rfl, List.filterMap_cons_some (definedName?_class (isName_classOf _))]
    rfl
  have methods : (feature.plain.cases.flatMap caseLines).filterMap definedName? =
      feature.plain.cases.map fun case => ("test_" : Text) ++ case.method := by
    rw [List.filterMap_flatMap, List.map_eq_flatMap]
    exact List.flatMap_congr fun case member => definedNames_caseLines case (isName_method member)
  rw [lines, List.filterMap_append, first, methods, feature.cases_suite, Feature.plain,
    List.map_map, List.map_map]
  rfl

end PytestPlaywright

open PytestPlaywright (classOf definedName?)

/-- **Every name that a module defines is a legal one.** -/
theorem Feature.names_legal (feature : Feature) :
    (∀ case ∈ feature.suite.cases, Text.isName case.definition = true) ∧
    Text.isName (classOf feature.title) = true ∧
    (PytestPlaywright.lines feature.plain).filterMap definedName? =
      classOf feature.title :: feature.suite.cases.map Case.definition ∧
    (∀ name, Naming.IsFragment (Naming.scenarioIdentifier name)) ∧
    ∀ title, ∃ c rest, Naming.featureClass title = c :: rest ∧ c.isAlpha = true ∧
      ∀ d ∈ rest, d.isAlphanum = true := by
  refine ⟨fun case member => ?_, PytestPlaywright.isName_classOf _,
    PytestPlaywright.definedNames_lines feature, Naming.isFragment_scenarioIdentifier,
    Naming.featureClass_eq⟩
  have among : case.method ∈ Naming.methods (feature.scenarios.map Scenario.name) := by
    rw [← feature.map_method_suite]
    exact List.mem_map_of_mem member
  exact Naming.isName_definition among

end Scenarist
