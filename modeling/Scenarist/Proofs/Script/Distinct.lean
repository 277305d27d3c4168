/-
**No two methods have one name.** Where a name is taken some number behind it makes it free, as there
are fewer names that are taken than numbers that are looked at (`Naming.exists_free`), so that the
methods of a feature are distinct texts (`Feature.methods_nodup`).

An interpreter of a module compares names by their normal forms. The ends with which methods are
kept apart are ASCII and so left alone by normalization, and methods whose identifiers are normal
forms stay distinct (`Feature.normalForms_nodup`). An identifier that is none may have the normal
form of another method.
-/

import Mathlib.Data.List.Perm.Subperm
import Mathlib.Data.List.Nodup
import Scenarist.Proofs.Script.Naming
import Scenarist.Proofs.Script.Interpreted

namespace Scenarist.Naming

/-! ### One name -/

theorem numbered_injective (base : Text) : Function.Injective (numbered base) := by
  intro n m same
  have digits : Text.ofNat n = Text.ofNat m := (List.cons.inj (List.append_cancel_left same)).2
  have back := congrArg (Nat.ofDigitChars 10 · 0) digits
  simpa only [Text.ofNat, Nat.ofDigitChars_toDigits (by decide : 1 < 10) (by decide : 10 ≤ 10)]
    using back

/-- A row of different texts leaves a list of texts after at most as many as the list has. -/
theorem exists_not_mem {row : Nat → Text} (different : Function.Injective row)
    (taken : List Text) : ∃ k ≤ taken.length, row k ∉ taken := by
  by_contra none
  push Not at none
  have distinct : ((List.range (taken.length + 1)).map row).Nodup :=
    List.Nodup.map different List.nodup_range
  have within : ((List.range (taken.length + 1)).map row) ⊆ taken := by
    intro name member
    obtain ⟨k, inRange, rfl⟩ := List.mem_map.mp member
    exact none k (Nat.lt_succ_iff.mp (List.mem_range.mp inRange))
  have fits := (List.Nodup.subperm distinct within).length_le
  rw [List.length_map, List.length_range] at fits
  omega

/-- Not all numbers are taken: from any one on there is a free one among those that are looked at. -/
theorem exists_free (taken : List Text) (base : Text) (n : Nat) :
    ∃ k ≤ taken.length, numbered base (n + k) ∉ taken :=
  exists_not_mem (fun _ _ same => Nat.add_left_cancel (numbered_injective base same)) taken

/-- The next free name is the one with the least number that is free. -/
theorem nextFree_eq {taken : List Text} {base : Text} {fuel n : Nat}
    (free : ∃ k ≤ fuel, numbered base (n + k) ∉ taken) :
    ∃ k, nextFree taken base fuel n = numbered base (n + k) ∧ numbered base (n + k) ∉ taken ∧
      ∀ l < k, numbered base (n + l) ∈ taken := by
  induction fuel generalizing n with
  | zero =>
    obtain ⟨k, low, free⟩ := free
    obtain rfl := Nat.le_zero.mp low
    exact ⟨0, rfl, free, fun l low => absurd low (Nat.not_lt_zero l)⟩
  | succ fuel ih =>
    rw [nextFree]
    by_cases here : numbered base n ∈ taken
    · rw [if_pos (List.contains_iff_mem.mpr here)]
      obtain ⟨k, low, free⟩ := free
      -- the free number is not the first one
      obtain _ | k := k
      · exact absurd here free
      rw [← Nat.succ_add_eq_add_succ] at free
      obtain ⟨j, same, free, least⟩ := ih ⟨k, Nat.le_of_succ_le_succ low, free⟩
      refine ⟨j + 1, ?_, ?_, fun l low => ?_⟩
      · rw [same, Nat.succ_add_eq_add_succ]
      · rwa [← Nat.succ_add_eq_add_succ]
      · obtain _ | l := l
        · exact here
        · rw [← Nat.succ_add_eq_add_succ]
          exact least l (Nat.lt_of_succ_lt_succ low)
    · rw [if_neg (mt List.contains_iff_mem.mp here)]
      exact ⟨0, rfl, here, fun l low => absurd low (Nat.not_lt_zero l)⟩

/-- **A fresh name is not taken.** -/
theorem fresh_not_mem (taken : List Text) (base : Text) : fresh taken base ∉ taken := by
  rw [fresh]
  split
  · obtain ⟨k, same, free, -⟩ := nextFree_eq (exists_free taken base 2)
    rwa [same]
  · next absent => exact mt List.contains_iff_mem.mpr absent

/-! ### All names -/

theorem allocate_apart {taken bases : List Text} {name : Text}
    (member : name ∈ allocate taken bases) : name ∉ taken := by
  induction bases generalizing taken with
  | nil => cases member
  | cons base bases ih =>
    rcases List.mem_cons.mp member with rfl | member
    · exact fresh_not_mem taken base
    · exact fun inside => ih member (List.mem_cons_of_mem _ inside)

theorem allocate_nodup (taken bases : List Text) : (allocate taken bases).Nodup := by
  induction bases generalizing taken with
  | nil => exact List.nodup_nil
  | cons base bases ih =>
    exact List.nodup_cons.mpr ⟨fun member => allocate_apart member List.mem_cons_self, ih _⟩

/-- The characters of a number are ASCII, and so is the low line before it. -/
theorem ascii_of_mem_suffix {n : Nat} {c : Char} (member : c ∈ '_' :: Text.ofNat n) :
    c.toNat < 128 := by
  rcases List.mem_cons.mp member with rfl | member
  · decide
  · have digit := isAsciiDigit_of_mem_ofNat member
    rw [isAsciiDigit, Bool.and_eq_true, decide_eq_true_eq, decide_eq_true_eq] at digit
    have high : c.toNat ≤ 57 := digit.2
    omega

end Scenarist.Naming

namespace Scenarist

/-- The cases have the methods that are made from the names of the scenarios. -/
theorem Feature.map_method_suite (feature : Feature) :
    feature.suite.cases.map Case.method =
      Naming.methods (feature.scenarios.map Scenario.name) := by
  have same : (Naming.methods (feature.scenarios.map Scenario.name)).length =
      feature.scenarios.length := by
    rw [Naming.length_methods, List.length_map]
  rw [feature.cases_suite, List.map_map]
  exact List.map_snd_zip (Nat.le_of_eq same)

/-- **The methods of a feature are distinct.** -/
theorem Feature.methods_nodup (feature : Feature) : (feature.suite.cases.map Case.method).Nodup := by
  rw [feature.map_method_suite]
  exact Naming.allocate_nodup _ _

/-- The name under which a case is defined. -/
def Case.definition (case : Case) : Text := "test_" ++ case.method

/-- **Normal forms of definitions are distinct** if those of the identifiers are the identifiers
themselves. All that is needed of normalization is that it leaves an ASCII end alone. -/
theorem Feature.normalForms_nodup (normal : Text → Text)
    (ends : ∀ t tail : Text, (∀ c ∈ tail, c.toNat < 128) → normal (t ++ tail) = normal t ++ tail)
    (feature : Feature)
    (stable : ∀ scenario ∈ feature.scenarios,
      normal ("test_" ++ Naming.scenarioIdentifier scenario.name) =
        "test_" ++ Naming.scenarioIdentifier scenario.name) :
    (feature.suite.cases.map fun case => normal case.definition).Nodup := by
  have same : (feature.suite.cases.map fun case => normal case.definition) =
      (feature.suite.cases.map Case.method).map (("test_" : Text) ++ ·) := by
    rw [List.map_map]
    refine List.map_congr_left fun case member => ?_
    have among : case.method ∈ Naming.methods (feature.scenarios.map Scenario.name) := by
      rw [← feature.map_method_suite]
      exact List.mem_map_of_mem member
    obtain ⟨base, inBases, form⟩ := Naming.of_mem_allocate among
    obtain ⟨name, inNames, rfl⟩ := List.mem_map.mp inBases
    obtain ⟨scenario, inside, rfl⟩ := List.mem_map.mp inNames
    show normal ("test_" ++ case.method) = "test_" ++ case.method
    rcases form with form | ⟨n, form⟩
    · rw [form, stable scenario inside]
    · rw [form, Naming.numbered, ← List.append_assoc,
        ends _ _ fun c => Naming.ascii_of_mem_suffix, stable scenario inside]
  rw [same]
  exact List.Nodup.map (List.append_right_injective _) feature.methods_nodup

/-! ### Ordinal indicators -/

/-- The normal form of a text in which only the ordinal indicators have another one. -/
def foldOrdinals (t : Text) : Text :=
  t.map fun c => if c = 'ª' then 'a' else if c = 'º' then 'o' else c

theorem foldOrdinals_append (t : Text) {tail : Text} (ascii : ∀ c ∈ tail, c.toNat < 128) :
    foldOrdinals (t ++ tail) = foldOrdinals t ++ tail := by
  have same : foldOrdinals tail = tail := by
    refine (List.map_congr_left fun c member => ?_).trans (List.map_id tail)
    have notFirst : c ≠ 'ª' := by
      rintro rfl
      exact absurd (ascii _ member) (by decide)
    have notSecond : c ≠ 'º' := by
      rintro rfl
      exact absurd (ascii _ member) (by decide)
    rw [if_neg notFirst, if_neg notSecond]
    rfl
  rw [foldOrdinals, List.map_append]
  exact congrArg (foldOrdinals t ++ ·) same

/-- Two scenarios of one name, another one with the name that the second gets, and one whose name
is not ASCII. -/
def repeatedNames : Feature := ⟨"Login", [], [⟨"a", []⟩, ⟨"A", []⟩, ⟨"a 2", []⟩, ⟨"é", []⟩]⟩

theorem normalForms_repeated :
    (∀ t tail : Text, (∀ c ∈ tail, c.toNat < 128) →
      foldOrdinals (t ++ tail) = foldOrdinals t ++ tail) ∧
    (∀ scenario ∈ repeatedNames.scenarios,
      foldOrdinals ("test_" ++ Naming.scenarioIdentifier scenario.name) =
        "test_" ++ Naming.scenarioIdentifier scenario.name) ∧
    (repeatedNames.suite.cases.map fun case => foldOrdinals case.definition).Nodup := by
  have ends (t tail : Text) (ascii : ∀ c ∈ tail, c.toNat < 128) := foldOrdinals_append t ascii
  have stable : ∀ scenario ∈ repeatedNames.scenarios,
      foldOrdinals ("test_" ++ Naming.scenarioIdentifier scenario.name) =
        "test_" ++ Naming.scenarioIdentifier scenario.name := by decide +kernel
  exact ⟨ends, stable, Feature.normalForms_nodup foldOrdinals ends repeatedNames stable⟩

/-- Two scenarios whose methods have one normal form. -/
def ordinalNames : Feature := ⟨"Login", [], [⟨"a", []⟩, ⟨"ª", []⟩]⟩

/-- **One of two methods is lost** where an identifier is no normal form. -/
theorem normalForms_ordinal :
    ¬ (ordinalNames.suite.cases.map fun case => foldOrdinals case.definition).Nodup := by
  decide +kernel

end Scenarist
