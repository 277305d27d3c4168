/-
**Steps above the first scenario.**

A step that stands above every scenario belongs to none. Taking such steps out of a document leaves
its title (`titleIn_unorphaned`) and its scenarios (`sections_unorphaned`) as they are. Below the
title they leave no trace at all; above it each of them is read as a remark, so that the description
loses the steps among its remarks and nothing else (`remarksIn_unorphaned`), and it is shorter
without them (`joined_filter_eq_iff`).
-/

import Mathlib.Algebra.GroupWithZero.Nat
import Mathlib.Algebra.Order.BigOperators.Group.List
import Mathlib.Algebra.Order.Group.Nat
import Scenarist.Proofs.Feature.Layout
import Scenarist.Proofs.Feature.Sections

namespace Scenarist

namespace Document

/-- The lines without the steps above the first scenario. -/
def unorphaned (told : List Text) : List Text :=
  (told.takeWhile (!isOpening ·)).filter (!isStep ·) ++ told.dropWhile (!isOpening ·)

/-- The document without the lines that are steps above its first scenario. -/
def withoutOrphans (document : Text) : Text :=
  let pieces := Text.cut '\n' document
  Text.joined "\n" <|
    (pieces.takeWhile fun piece => !isOpening (Text.strip piece)).filter
        (fun piece => !isStep (Text.strip piece)) ++
      pieces.dropWhile fun piece => !isOpening (Text.strip piece)

/-- The lines above the title and above the first scenario. -/
def preamble (told : List Text) : List Text := (untitled told).takeWhile (!isOpening ·)

/-! ### The lines that are left -/

/-- A line that opens a scenario says something. -/
theorem isTelling_of_isOpening {line : Text} (opening : isOpening line = true) :
    isTelling line = true := by
  obtain ⟨name, rfl⟩ := Text.startsWith_iff.mp opening
  rfl

theorem unorphaned_opening {line : Text} (opening : isOpening line = true) (below : List Text) :
    unorphaned (line :: below) = line :: below := by
  simp [unorphaned, opening]

theorem unorphaned_other {line : Text} (other : isOpening line = false) (below : List Text) :
    unorphaned (line :: below) =
      (if isStep line then [] else [line]) ++ unorphaned below := by
  by_cases step : isStep line <;> simp [unorphaned, other, step]

theorem lines_withoutOrphans (document : Text) :
    lines (withoutOrphans document) = unorphaned (lines document) := by
  rw [withoutOrphans, lines_row, lines]
  · induction Text.cut '\n' document with
    | nil => rfl
    | cons piece pieces ih =>
      by_cases opening : isOpening (Text.strip piece)
      · have telling := isTelling_of_isOpening opening
        simp [opening, telling, unorphaned_opening opening]
      · by_cases telling : isTelling (Text.strip piece) <;>
          by_cases step : isStep (Text.strip piece) <;>
            simp_all [unorphaned_other]
  · intro piece member
    apply Text.not_mem_of_mem_cut (t := document)
    rcases List.mem_append.mp member with kept | kept
    · exact (List.takeWhile_sublist _).subset (List.mem_of_mem_filter kept)
    · exact (List.dropWhile_sublist _).subset kept

/-! ### What is read from them -/

/-- A step gives no title, opens no scenario, and describes the feature before the first scenario
only. -/
theorem of_isStep_told {line : Text} (step : isStep line = true) :
    titleOf? line = none ∧ isOpening line = false ∧ describes false line = true := by
  obtain ⟨untitled, unopened, -⟩ := of_isStep step
  refine ⟨by rw [titleOf?, untitled]; rfl, by rw [isOpening_eq, unopened]; rfl, ?_⟩
  rw [describes, isTitle_eq, isOpening_eq, untitled, unopened]
  rfl

/-- Down to the first scenario the steps are left out, and the lines from it on are kept. -/
inductive Unorphaned : List Text → List Text → Prop
  | nil : Unorphaned [] []
  | opening {line : Text} (opens : isOpening line = true) (below : List Text) :
      Unorphaned (line :: below) (line :: below)
  | orphan {line : Text} (step : isStep line = true) {below kept : List Text}
      (rest : Unorphaned below kept) : Unorphaned (line :: below) kept
  | other {line : Text} (stays : isOpening line = false) (noStep : isStep line = false)
      {below kept : List Text} (rest : Unorphaned below kept) :
      Unorphaned (line :: below) (line :: kept)

theorem unorphaned_spec (told : List Text) : Unorphaned told (unorphaned told) := by
  induction told with
  | nil => exact .nil
  | cons line told ih =>
    cases opens : isOpening line with
    | true =>
      rw [unorphaned_opening opens]
      exact .opening opens told
    | false =>
      rw [unorphaned_other opens]
      cases step : isStep line with
      | true => exact .orphan step ih
      | false => exact .other opens step ih

section

variable {told kept : List Text} (left : Unorphaned told kept)

include left

theorem titleIn_unorphaned : titleIn kept = titleIn told := by
  suffices given : kept.filterMap titleOf? = told.filterMap titleOf? by
    rw [titleIn, given, titleIn]
  induction left with
  | nil => rfl
  | opening => rfl
  | orphan step _ ih => simp [(of_isStep_told step).1, ih]
  | other _ _ _ ih => simp [List.filterMap_cons, ih]

theorem sections_unorphaned : sections kept = sections told := by
  induction left with
  | nil => rfl
  | opening => rfl
  | orphan step _ ih =>
    rw [sections_cons, opened?, Text.afterLead?_eq_none.mpr (of_isStep_told step).2.1]
    simp [ih]
  | other stays _ _ ih =>
    rw [sections_cons, sections_cons, opened?, opened?, Text.afterLead?_eq_none.mpr stays]
    simp [ih]

/-- Without the steps above the first scenario, no step is a remark. -/
theorem remarksIn_unorphaned : remarksIn kept = (remarksIn told).filter (!isStep ·) := by
  induction left with
  | nil => rfl
  | @opening line opens below =>
    cases entitled : entitles line with
    | true => simp [remarksIn, untitled_of_entitles entitled]
    | false =>
      rw [remarksIn_opening entitled opens, List.filter_filter]
      refine List.filter_congr fun other _ => ?_
      cases step : isStep other <;> simp [describes, step]
  | @orphan line step below kept rest ih =>
    obtain ⟨given, stays, described⟩ := of_isStep_told step
    have entitled : entitles line = false := by rw [entitles, given]; rfl
    simp [remarksIn_other entitled stays, described, step, ih]
  | @other line stays noStep below kept rest ih =>
    cases entitled : entitles line with
    | true => simp [remarksIn, untitled_of_entitles entitled]
    | false =>
      by_cases described : describes false line <;>
        simp [remarksIn_other entitled stays, described, noStep, ih]

end

/-- The steps among the remarks are those of the preamble. -/
theorem filter_isStep_remarksIn (told : List Text) :
    (remarksIn told).filter isStep = (preamble told).filter isStep := by
  rw [remarksIn, List.filter_append, List.filter_filter, List.filter_filter]
  have above : ∀ line, (isStep line && describes false line) = isStep line := by
    intro line
    cases step : isStep line with
    | true => simp [(of_isStep_told step).2.2]
    | false => rfl
  have below : ∀ line, (isStep line && describes true line) = false := by
    intro line
    cases step : isStep line <;> simp [describes, step]
  simp [above, below, preamble]

/-! ### What is left of the description -/

/-- Every text in a row but the first has the mark before it. -/
theorem length_joined (mark : Char) (row : List Text) :
    (Text.joined [mark] row).length = (row.map fun t => t.length + 1).sum - 1 := by
  induction row with
  | nil => rfl
  | cons t row ih =>
    cases row with
    | nil => simp [Text.joined]
    | cons next more =>
      simp only [Text.joined, List.length_append, ih, List.map_cons, List.sum_cons,
        List.length_singleton]
      omega

/-- A row of texts that say something is shorter when one of them is left out. -/
theorem joined_filter_eq_iff {mark : Char} {row : List Text} (solid : ∀ t ∈ row, t ≠ [])
    (keep : Text → Bool) :
    Text.joined [mark] (row.filter keep) = Text.joined [mark] row ↔
      ∀ t ∈ row, keep t = true := by
  constructor
  · intro same t member
    by_contra dropped
    -- with its mark, what is dropped is two characters long at least
    have size : ((row.filter keep).map fun t => t.length + 1).sum +
        ((row.filter (!keep ·)).map fun t => t.length + 1).sum =
          (row.map fun t => t.length + 1).sum := by
      rw [← List.sum_append, ← List.map_append]
      exact ((List.filter_append_perm keep row).map _).sum_eq
    have among : t.length + 1 ≤ ((row.filter (!keep ·)).map fun t => t.length + 1).sum :=
      List.single_le_sum (fun _ _ => Nat.zero_le _) _
        (List.mem_map_of_mem (List.mem_filter.mpr ⟨member, by simpa using dropped⟩))
    have long : 0 < t.length := List.length_pos_iff.mpr (solid t member)
    have lengths := congrArg List.length same
    rw [length_joined, length_joined] at lengths
    omega
  · intro kept
    rw [List.filter_eq_self.mpr kept]

/-- No remark is empty. -/
theorem ne_nil_of_mem_remarksIn {document remark : Text}
    (member : remark ∈ remarksIn (lines document)) : remark ≠ [] := by
  have told : remark ∈ lines document := by
    rcases List.mem_append.mp member with kept | kept
    · exact (((List.takeWhile_sublist _).trans (List.takeWhile_sublist _)).subset
        (List.mem_of_mem_filter kept))
    · exact (((List.dropWhile_sublist _).trans (List.takeWhile_sublist _)).subset
        (List.mem_of_mem_filter kept))
  rintro rfl
  exact Bool.false_ne_true (of_mem_lines told).2

/-- The description stays when no step stands in the preamble. -/
theorem description_stays_iff (document : Text) :
    Text.joined " " ((remarksIn (lines document)).filter (!isStep ·)) =
        Text.joined " " (remarksIn (lines document)) ↔
      ∀ line ∈ preamble (lines document), isStep line = false := by
  have remarked : (∀ line ∈ remarksIn (lines document), (!isStep line) = true) ↔
      (remarksIn (lines document)).filter isStep = [] := by
    simp [List.filter_eq_nil_iff]
  have stands : (∀ line ∈ preamble (lines document), isStep line = false) ↔
      (preamble (lines document)).filter isStep = [] := by
    simp [List.filter_eq_nil_iff]
  rw [stands, ← filter_isStep_remarksIn, ← remarked]
  exact joined_filter_eq_iff (fun _ => ne_nil_of_mem_remarksIn) _

end Document

open Document

/-- **Steps above the first scenario are in no scenario.** Without them the title and the scenarios
of a document are the same, the description has lost the steps among its remarks, and nothing at all
is lost when no step stands both above the title and above the first scenario. -/
theorem Feature.ofDocument_withoutOrphans (document : Text) :
    let told := Document.lines document
    let feature := Feature.ofDocument document
    let bare := Feature.ofDocument (withoutOrphans document)
    bare.title = feature.title ∧ bare.scenarios = feature.scenarios ∧
      feature.description = Text.joined " " (remarksIn told) ∧
      bare.description = Text.joined " " ((remarksIn told).filter (!isStep ·)) ∧
      (bare = feature ↔ ∀ line ∈ preamble told, isStep line = false) := by
  intro told feature bare
  have full : feature = ⟨titleIn told, Text.joined " " (remarksIn told), sections told⟩ :=
    ofDocument_eq document
  have left : bare = ⟨titleIn told, Text.joined " " ((remarksIn told).filter (!isStep ·)),
      sections told⟩ := by
    have kept : Unorphaned told (unorphaned told) := unorphaned_spec told
    show Feature.ofDocument (withoutOrphans document) = _
    rw [ofDocument_eq, lines_withoutOrphans, titleIn_unorphaned kept, remarksIn_unorphaned kept,
      sections_unorphaned kept]
  rw [left, full]
  refine ⟨rfl, rfl, rfl, rfl, ?_⟩
  rw [← description_stays_iff, Feature.mk.injEq]
  exact ⟨fun same => same.2.1, fun same => ⟨rfl, same, rfl⟩⟩

/-- A step above the title is part of the description. -/
theorem Feature.ofDocument_orphan :
    Feature.ofDocument "Given orphan\nFeature: F\nScenario: S\nWhen kept" ≠
      Feature.ofDocument
        (withoutOrphans "Given orphan\nFeature: F\nScenario: S\nWhen kept") := by
  decide +kernel

end Scenarist
