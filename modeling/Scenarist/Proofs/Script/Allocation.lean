/-
**Every method is the least name that is free.** The name of a scenario is searched for (`Ends`): its
identifier is looked at first, and as long as the name at hand is taken the identifier with the next
number is. Different rounds look at different names (`nameAfter_injective`), so there are at most as
many rounds as there are names that are taken (`LeastFree.ends`), and what the search ends with is the
least name that is free (`leastFree_fresh`). Names are given in order, each in view of those before
it only, so that scenarios behind a feature leave its cases as they are (`Feature.cases_append`).
-/

import Scenarist.Proofs.Script.Distinct

namespace Scenarist

namespace Naming

/-! ### The search for a name -/

/-- The name that is looked at, and the number that was put behind the base last. -/
structure Trial where
  name : Text
  number : Nat
  deriving DecidableEq, Repr

/-- The base itself is looked at first. -/
def Trial.first (base : Text) : Trial := ⟨base, 1⟩

/-- The next number is put behind the base. -/
def Trial.next (base : Text) (trial : Trial) : Trial :=
  ⟨numbered base (trial.number + 1), trial.number + 1⟩

/-- The search that goes on as long as the name at hand is taken ends, after so many rounds, with the
last trial. -/
inductive Ends (taken : List Text) (base : Text) : Nat → Trial → Trial → Prop
  | here {trial : Trial} (free : trial.name ∉ taken) : Ends taken base 0 trial trial
  | again {rounds : Nat} {trial last : Trial} (occupied : trial.name ∈ taken)
      (rest : Ends taken base rounds (trial.next base) last) :
      Ends taken base (rounds + 1) trial last

/-- The name that is looked at after so many rounds. -/
def nameAfter (base : Text) : Nat → Text
  | 0 => base
  | rounds + 1 => numbered base (rounds + 2)

/-- A search has gone through the taken names when it comes to a free one. -/
theorem ends_after {taken : List Text} {base : Text} {rounds : Nat} (start : Nat)
    (occupied : ∀ round < rounds, nameAfter base (start + round) ∈ taken)
    (free : nameAfter base (start + rounds) ∉ taken) :
    Ends taken base rounds ⟨nameAfter base start, start + 1⟩
      ⟨nameAfter base (start + rounds), start + rounds + 1⟩ := by
  induction rounds generalizing start with
  | zero => exact .here free
  | succ rounds ih =>
    refine .again (occupied 0 (Nat.succ_pos _)) ?_
    have later := ih (start + 1)
    simp only [Nat.succ_add_eq_add_succ] at later
    exact later (fun round low => occupied (round + 1) (Nat.succ_lt_succ low)) free

theorem base_ne_numbered (base : Text) (n : Nat) : base ≠ numbered base n := by
  intro same
  have longer := congrArg List.length same
  rw [numbered, List.length_append, List.length_cons] at longer
  omega

/-- No name is looked at twice. -/
theorem nameAfter_injective (base : Text) : Function.Injective (nameAfter base) := by
  intro one two same
  cases one with
  | zero =>
    cases two with
    | zero => rfl
    | succ two => exact absurd same (base_ne_numbered base _)
  | succ one =>
    cases two with
    | zero => exact absurd same.symm (base_ne_numbered base _)
    | succ two => rw [Nat.add_right_cancel (numbered_injective base same)]

/-! ### The least name that is free -/

/-- The name is the base if that is free, and else the base with the least number from two on with
which it is free. -/
def LeastFree (taken : List Text) (base name : Text) : Prop :=
  (base ∉ taken ∧ name = base) ∨
    (base ∈ taken ∧ ∃ number, 2 ≤ number ∧ name = numbered base number ∧ name ∉ taken ∧
      ∀ other, 2 ≤ other → other < number → numbered base other ∈ taken)

theorem leastFree_fresh (taken : List Text) (base : Text) :
    LeastFree taken base (fresh taken base) := by
  rw [fresh]
  split
  · next occupied =>
    obtain ⟨more, same, free, least⟩ := nextFree_eq (exists_free taken base 2)
    refine Or.inr ⟨List.contains_iff_mem.mp occupied, 2 + more, Nat.le_add_right 2 more, same, ?_, ?_⟩
    · rwa [same]
    · intro other low high
      obtain ⟨less, rfl⟩ := Nat.exists_eq_add_of_le low
      exact least less (Nat.lt_of_add_lt_add_left high)
  · next absent => exact Or.inl ⟨mt List.contains_iff_mem.mpr absent, rfl⟩

/-- Only which names are taken counts. -/
theorem LeastFree.of_reverse {taken : List Text} {base name : Text}
    (least : LeastFree taken.reverse base name) : LeastFree taken base name := by
  simpa only [LeastFree, List.mem_reverse] using least

/-- **The search ends with the least name that is free**, after at most as many rounds as there are
names that are taken. -/
theorem LeastFree.ends {taken : List Text} {base name : Text} (least : LeastFree taken base name) :
    ∃ rounds ≤ taken.length, Ends taken base rounds (.first base) ⟨name, rounds + 1⟩ := by
  rcases least with ⟨free, rfl⟩ | ⟨occupied, number, low, rfl, free, below⟩
  · exact ⟨0, Nat.zero_le _, .here free⟩
  obtain ⟨more, rfl⟩ := Nat.exists_eq_add_of_le' low
  have before : ∀ round < more + 1, nameAfter base (0 + round) ∈ taken := by
    intro round earlier
    rw [Nat.zero_add]
    cases round with
    | zero => exact occupied
    | succ round => exact below (round + 2) (Nat.le_add_left 2 round) (by omega)
  have last : nameAfter base (0 + (more + 1)) = numbered base (more + 2) := by
    rw [Nat.zero_add]
    rfl
  -- a name is free after at most as many rounds as there are taken names, so not later than here
  obtain ⟨round, few, untaken⟩ := exists_not_mem (nameAfter_injective base) taken
  have reached : more + 1 ≤ round := by
    by_contra early
    have inside := before round (Nat.lt_of_not_le early)
    rw [Nat.zero_add] at inside
    exact untaken inside
  refine ⟨more + 1, le_trans reached few, ?_⟩
  have ends : Ends taken base (more + 1) (.first base) _ := ends_after 0 before (last ▸ free)
  rwa [last, Nat.zero_add] at ends

/-! ### All names -/

/-- The names of later texts are found in view of those given before. -/
theorem allocate_append (taken front back : List Text) :
    allocate taken (front ++ back) = allocate taken front ++
      allocate ((allocate taken front).reverse ++ taken) back := by
  induction front generalizing taken with
  | nil => rfl
  | cons base front ih =>
    rw [List.cons_append, allocate, allocate, ih]
    simp only [List.cons_append, List.reverse_cons, List.append_assoc, List.nil_append]

end Naming

/-! ### The cases of a feature -/

/-- A feature with more scenarios behind its own. -/
def Feature.extend (feature : Feature) (more : List Scenario) : Feature :=
  { feature with scenarios := feature.scenarios ++ more }

/-- **Scenarios behind a feature leave its cases as they are.** -/
theorem Feature.cases_append (feature : Feature) (more : List Scenario) :
    (feature.extend more).suite.cases = feature.suite.cases ++
      (more.zip (Naming.allocate (feature.suite.cases.map Case.method).reverse
        ((more.map Scenario.name).map Naming.scenarioIdentifier))).map fun named =>
          ⟨named.1.name, named.2, named.1.steps.map Step.interpret⟩ := by
  have same : feature.scenarios.length =
      (Naming.methods (feature.scenarios.map Scenario.name)).length := by
    rw [Naming.length_methods, List.length_map]
  have methods : Naming.methods ((feature.extend more).scenarios.map Scenario.name) =
      Naming.methods (feature.scenarios.map Scenario.name) ++
        Naming.allocate (Naming.methods (feature.scenarios.map Scenario.name)).reverse
          ((more.map Scenario.name).map Naming.scenarioIdentifier) := by
    rw [Feature.extend, Naming.methods, List.map_append, List.map_append, Naming.allocate_append,
      List.append_nil]
    rfl
  rw [Feature.cases_suite, Feature.methods, methods, feature.map_method_suite, feature.cases_suite,
    Feature.methods]
  show ((feature.scenarios ++ more).zip _).map _ = _
  rw [List.zip_append same, List.map_append]

theorem Feature.length_cases (feature : Feature) :
    feature.suite.cases.length = feature.scenarios.length := by
  rw [feature.cases_suite, List.length_map, ← List.length_map (f := Prod.fst),
    feature.map_fst_methods]

/-- **The method of a scenario is the least free name for its identifier**, in view of the methods of
the scenarios before it. -/
theorem Feature.cases_around {feature : Feature} {front back : List Scenario} {scenario : Scenario}
    (whole : feature.scenarios = front ++ scenario :: back) :
    ∃ before case after, feature.suite.cases = before ++ case :: after ∧
      before.length = front.length ∧ case.name = scenario.name ∧
      case.blocks = scenario.steps.map Step.interpret ∧
      Naming.LeastFree (before.map Case.method) (Naming.scenarioIdentifier scenario.name)
        case.method := by
  let start : Feature := { feature with scenarios := front }
  have extended : feature = start.extend (scenario :: back) := by
    rw [Feature.extend, ← whole]
  have cases := start.cases_append (scenario :: back)
  rw [← extended] at cases
  exact ⟨start.suite.cases, _, _, cases, start.length_cases, rfl, rfl,
    (Naming.leastFree_fresh _ _).of_reverse⟩

/-- **Methods are allocated one after another, each the least free name.** The case of a scenario has
its name and a block for each of its steps. Its method is its identifier if that is free, and else the
identifier with the least number from two on with which it is free; the search for it ends after at
most as many rounds as there are cases before. So methods are distinct, and scenarios behind the
feature change none of its cases. -/
theorem Feature.methods_least (feature : Feature) :
    feature.suite.cases.length = feature.scenarios.length ∧
    (∀ i : Fin feature.scenarios.length, ∃ case, feature.suite.cases[i]? = some case ∧
      case.name = feature.scenarios[i].name ∧
      case.blocks = feature.scenarios[i].steps.map Step.interpret ∧
      Naming.LeastFree ((feature.suite.cases.take i).map Case.method)
        (Naming.scenarioIdentifier feature.scenarios[i].name) case.method ∧
      ∃ rounds ≤ (i : Nat), Naming.Ends ((feature.suite.cases.take i).map Case.method)
        (Naming.scenarioIdentifier feature.scenarios[i].name) rounds
        (.first (Naming.scenarioIdentifier feature.scenarios[i].name)) ⟨case.method, rounds + 1⟩) ∧
    (feature.suite.cases.map Case.method).Nodup ∧
    ∀ more : List Scenario, feature.suite.cases <+: (feature.extend more).suite.cases := by
  refine ⟨feature.length_cases, fun i => ?_, feature.methods_nodup, fun more => ?_⟩
  · have whole : feature.scenarios =
        feature.scenarios.take i ++ feature.scenarios[i] :: feature.scenarios.drop (i + 1) := by
      rw [Fin.getElem_fin, List.getElem_cons_drop, List.take_append_drop]
    obtain ⟨before, case, after, cases, length, name, blocks, least⟩ := Feature.cases_around whole
    rw [List.length_take_of_le i.isLt.le] at length
    have earlier : feature.suite.cases.take i = before := by
      rw [cases, ← length, List.take_left]
    have here : feature.suite.cases[(i : Nat)]? = some case := by
      rw [cases, ← length, List.getElem?_append_right le_rfl, Nat.sub_self]
      rfl
    refine ⟨case, here, name, blocks, ?_⟩
    rw [earlier]
    refine ⟨least, ?_⟩
    have ends := least.ends
    rwa [List.length_map, length] at ends
  · rw [feature.cases_append]
    exact List.prefix_append _ _

/-- The number of a repeated name may be taken by a name that has it from the start. -/
example : Naming.methods ["a", "A", "a 2"] = ["a", "a_2", "a_2_2"] := by decide +kernel

end Scenarist
