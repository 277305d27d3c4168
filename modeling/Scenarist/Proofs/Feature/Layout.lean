/-
**The layout of a document.**

Blank lines, comments, blanks at the ends of a line, and carriage returns before the line feeds are
the layout of a document. An edit of the layout keeps the lines that say something (`lines_edit`),
and nothing else does: two documents are edited into one another exactly when they have these lines
in common (`eqvGen_layoutEdit_iff`). Unifying the line breaks of a file is such an edit as long as
every carriage return stands before a line feed.
-/

import Mathlib.Logic.Relation
import Scenarist.Proofs.Text.Lines
import Scenarist.Run.Report

namespace Scenarist

namespace Document

/-- Is the line blank, or a comment? -/
def isIdle (line : Text) : Bool :=
  line.all Text.isBlank || (line.dropWhile Text.isBlank).head? = some '#'

/-- The document with a carriage return before every line feed. -/
def withReturns (document : Text) : Text :=
  document.flatMap fun c => if c = '\n' then ['\r', '\n'] else [c]

/-- An edit of the layout, there or back: a line that says nothing is put in, blanks are put at the
ends of a line, or every line feed gets a carriage return. -/
inductive LayoutEdit : Text → Text → Prop
  | insert (above below : List Text) (line : Text) (unbroken : '\n' ∉ line)
      (idle : isIdle line = true) :
      LayoutEdit (Text.joined "\n" (above ++ below)) (Text.joined "\n" (above ++ line :: below))
  | pad (above below : List Text) (front line back : Text)
      (unbroken : '\n' ∉ front ++ line ++ back)
      (before : ∀ c ∈ front, Text.isBlank c = true) (behind : ∀ c ∈ back, Text.isBlank c = true) :
      LayoutEdit (Text.joined "\n" (above ++ line :: below))
        (Text.joined "\n" (above ++ (front ++ line ++ back) :: below))
  | returns (document : Text) : LayoutEdit document (withReturns document)

/-! ### Line by line -/

/-- The lines of texts in a row are those of the texts. -/
theorem lines_joined (row : List Text) :
    lines (Text.joined "\n" row) = row.flatMap lines := by
  cases row with
  | nil => rfl
  | cons t more =>
    have cut : Text.cut '\n' (Text.joined "\n" (t :: more)) = (t :: more).flatMap (Text.cut '\n') :=
      Text.cut_joined (by simp)
    rw [lines, cut, List.map_flatMap, List.filter_flatMap]
    rfl

/-- A text without a line feed has one line at most. -/
theorem lines_of_unbroken {t : Text} (unbroken : '\n' ∉ t) :
    lines t = [Text.strip t].filter isTelling := by
  rw [lines, Text.cut_eq_singleton unbroken, List.map_singleton]

/-- The lines of unbroken texts in a row are what is left of the texts when they are stripped. -/
theorem lines_row {row : List Text} (unbroken : ∀ t ∈ row, '\n' ∉ t) :
    lines (Text.joined "\n" row) = (row.map Text.strip).filter isTelling := by
  rw [lines_joined]
  induction row with
  | nil => rfl
  | cons t row ih =>
    rw [List.flatMap_cons, ih fun other member => unbroken other (List.mem_cons_of_mem _ member),
      lines_of_unbroken (unbroken t List.mem_cons_self), ← List.filter_append]
    rfl

/-- A line is idle exactly when nothing telling is left of it when it is stripped. -/
theorem isTelling_strip (line : Text) : isTelling (Text.strip line) = !isIdle line := by
  rw [Text.strip, Text.trim_eq]
  cases start : line.dropWhile Text.isBlank with
  | nil =>
    have blank : line.all Text.isBlank = true :=
      List.all_eq_true.mpr (List.dropWhile_eq_nil_iff.mp start)
    simp [isIdle, blank, isTelling]
  | cons c rest =>
    have solid : Text.isBlank c = false := by
      have first := List.head?_dropWhile_not Text.isBlank line
      rw [start] at first
      exact first
    have told : line.all Text.isBlank = false := by
      rw [← Bool.not_eq_true, List.all_eq_true, ← List.dropWhile_eq_nil_iff, start]
      simp
    obtain ⟨d, kept, left⟩ : ∃ d kept, (c :: rest).rdropWhile Text.isBlank = d :: kept := by
      apply List.exists_cons_of_ne_nil
      rw [Ne, List.rdropWhile_eq_nil_iff]
      exact fun blank => Bool.false_ne_true (solid ▸ blank c List.mem_cons_self)
    obtain ⟨tail, whole⟩ := List.rdropWhile_prefix Text.isBlank (c :: rest)
    rw [left, List.cons_append, List.cons.injEq] at whole
    rw [left, whole.1, isIdle, told, start]
    by_cases comment : c = '#'
    · simp [isTelling, Text.startsWith, comment]
    · simp [isTelling, Text.startsWith, List.isPrefixOf, comment, Ne.symm comment]

/-! ### Edits keep the lines -/

/-- A line that is put in or left out says nothing. -/
theorem lines_insert (above below : List Text) {line : Text} (unbroken : '\n' ∉ line)
    (idle : isIdle line = true) :
    lines (Text.joined "\n" (above ++ line :: below)) =
      lines (Text.joined "\n" (above ++ below)) := by
  have silent : lines line = [] := by
    rw [lines_of_unbroken unbroken]
    simp [isTelling_strip, idle]
  rw [lines_joined, lines_joined, List.flatMap_append, List.flatMap_append, List.flatMap_cons,
    silent, List.nil_append]

/-- Blanks at the ends of a line are stripped off. -/
theorem lines_pad (above below : List Text) {front line back : Text}
    (unbroken : '\n' ∉ front ++ line ++ back) (before : ∀ c ∈ front, Text.isBlank c = true)
    (behind : ∀ c ∈ back, Text.isBlank c = true) :
    lines (Text.joined "\n" (above ++ (front ++ line ++ back) :: below)) =
      lines (Text.joined "\n" (above ++ line :: below)) := by
  have inner : '\n' ∉ line := fun member => unbroken (by simp [member])
  have same : lines (front ++ line ++ back) = lines line := by
    rw [lines_of_unbroken unbroken, lines_of_unbroken inner, Text.strip_pad before behind]
  simp only [lines_joined, List.flatMap_append, List.flatMap_cons, same]

/-- The second text is the first one with carriage returns before some of its line feeds. -/
inductive Returned : Text → Text → Prop
  | nil : Returned [] []
  | keep (c : Char) {t u : Text} (rest : Returned t u) : Returned (c :: t) (c :: u)
  | feed {t u : Text} (rest : Returned t u) : Returned ('\n' :: t) ('\r' :: '\n' :: u)

/-- A carriage return before a line feed is a blank at the end of its line. -/
theorem lines_returned {t u : Text} (returned : Returned t u) : lines u = lines t := by
  suffices same : ∀ begun : Text, '\n' ∉ begun →
      (Text.cut '\n' (begun ++ u)).map Text.strip = (Text.cut '\n' (begun ++ t)).map Text.strip from
    congrArg (List.filter isTelling) (same [] (by simp))
  -- the line that has begun is not ended yet, and a carriage return may still end it
  induction returned with
  | nil => exact fun _ _ => rfl
  | keep c _ ih =>
    intro begun unbroken
    by_cases feed : c = '\n'
    · subst feed
      rw [Text.cut_append_mark unbroken, Text.cut_append_mark unbroken, List.map_cons,
        List.map_cons]
      exact congrArg _ (ih [] (by simp))
    · have longer := ih (begun ++ [c]) (by simp [unbroken, Ne.symm feed])
      simpa using longer
  | @feed t u _ ih =>
    intro begun unbroken
    have ended : begun ++ '\r' :: '\n' :: u = (begun ++ ['\r']) ++ '\n' :: u := by simp
    have stripped : Text.strip (begun ++ ['\r']) = Text.strip begun := by
      have padded : Text.strip ([] ++ begun ++ ['\r']) = Text.strip begun :=
        Text.strip_pad (List.forall_mem_nil _) (List.forall_mem_singleton.mpr rfl) begun
      simpa using padded
    rw [ended, Text.cut_append_mark unbroken, Text.cut_append_mark (by simp [unbroken]),
      List.map_cons, List.map_cons, stripped]
    exact congrArg _ (ih [] (by simp))

theorem returned_withReturns (document : Text) : Returned document (withReturns document) := by
  induction document with
  | nil => exact .nil
  | cons c document ih =>
    by_cases feed : c = '\n'
    · subst feed
      exact .feed ih
    · rw [withReturns, List.flatMap_cons, if_neg feed]
      exact .keep c ih

/-- Unifying line breaks takes the carriage returns away if each stands before a line feed. -/
theorem returned_unifyBreaks {t : Text}
    (paired : ∀ rest, '\r' :: rest <:+ t → rest.head? = some '\n') :
    Returned (Text.unifyBreaks t) t := by
  induction t using Text.unifyBreaks.induct with
  | case1 => exact .nil
  | case2 rest ih =>
    exact .feed (ih fun other among => paired other (among.trans ⟨['\r', '\n'], rfl⟩))
  | case3 c rest alone ih =>
    have below := ih fun other among => paired other (among.trans (List.suffix_cons c rest))
    have kept : c ≠ '\r' := by
      rintro rfl
      obtain ⟨other, same⟩ := List.head?_eq_some_iff.mp (paired rest List.suffix_rfl)
      exact alone other rfl same
    rw [Text.unifyBreaks]
    · rw [if_neg kept]
      exact .keep c below
    · exact alone

/-- **An edit of the layout keeps the lines that say something.** -/
theorem lines_edit {document other : Text} (edit : LayoutEdit document other) :
    lines other = lines document := by
  cases edit with
  | insert above below line unbroken idle => exact lines_insert above below unbroken idle
  | pad above below front line back unbroken before behind =>
    exact lines_pad above below unbroken before behind
  | returns => exact lines_returned (returned_withReturns document)

/-! ### Nothing but edits keeps the lines -/

/-- A row of texts without line feeds is edited into the lines that they have. -/
theorem eqvGen_row (row above : List Text) (unbroken : ∀ t ∈ row, '\n' ∉ t) :
    Relation.EqvGen LayoutEdit (Text.joined "\n" (above ++ row))
      (Text.joined "\n" (above ++ (row.map Text.strip).filter isTelling)) := by
  -- the lines above are edited already; the next one is stripped, and left out if it is idle
  induction row generalizing above with
  | nil => exact .refl _
  | cons t row ih =>
    have rest (before : List Text) := ih before fun other member =>
      unbroken other (List.mem_cons_of_mem _ member)
    have here : '\n' ∉ t := unbroken t List.mem_cons_self
    obtain ⟨front, back, before, behind, whole⟩ := Text.exists_pad t
    have stripped : Relation.EqvGen LayoutEdit (Text.joined "\n" (above ++ t :: row))
        (Text.joined "\n" (above ++ Text.strip t :: row)) := by
      refine .symm _ _ (.rel _ _ ?_)
      have padded := LayoutEdit.pad above row front _ back (whole ▸ here) before behind
      rwa [← whole] at padded
    refine .trans _ _ _ stripped ?_
    rw [List.map_cons, List.filter_cons]
    split
    · have kept := rest (above ++ [Text.strip t])
      simpa using kept
    · next silent =>
      have idle : isIdle (Text.strip t) = true := by
        have again : Text.strip (Text.strip t) = Text.strip t := Text.trim_trim _ _
        have known := isTelling_strip (Text.strip t)
        rw [again, (Bool.not_eq_true _).mp silent] at known
        simpa using known.symm
      have unbrokenStrip : '\n' ∉ Text.strip t := fun member => here (Text.mem_of_mem_trim member)
      exact .trans _ _ _ (.symm _ _ (.rel _ _ (.insert above row _ unbrokenStrip idle))) (rest above)

/-- A document is edited into the lines that it has. -/
theorem eqvGen_lines (document : Text) :
    Relation.EqvGen LayoutEdit document (Text.joined "\n" (lines document)) := by
  have edited := eqvGen_row (Text.cut '\n' document) [] fun _ => Text.not_mem_of_mem_cut
  have whole : Text.joined "\n" (Text.cut '\n' document) = document := Text.joined_cut '\n' document
  rw [List.nil_append, List.nil_append, whole] at edited
  exact edited

/-- **Edits of the layout, there and back, are what keeps the lines.** -/
theorem eqvGen_layoutEdit_iff {document other : Text} :
    Relation.EqvGen LayoutEdit document other ↔ lines other = lines document := by
  constructor
  · intro edited
    induction edited with
    | rel _ _ edit => exact lines_edit edit
    | refl => rfl
    | symm _ _ _ ih => exact ih.symm
    | trans _ _ _ _ _ first second => exact second.trans first
  · intro same
    have back := eqvGen_lines other
    rw [same] at back
    exact .trans _ _ _ (eqvGen_lines document) (.symm _ _ back)

/-- Documents with the same lines describe the same feature. -/
theorem ofDocument_congr {document other : Text} (same : lines other = lines document) :
    Feature.ofDocument other = Feature.ofDocument document := by
  rw [Feature.ofDocument, Feature.ofDocument, same]

end Document

open Document

/-- **Layout does not matter.** However the layout of a document is edited, it describes the same
feature; and a file whose bytes are a text in which every carriage return stands before a line feed
describes what the text does, though its line breaks are unified. -/
theorem Feature.ofDocument_layout :
    (∀ document other, Relation.EqvGen LayoutEdit document other →
      Feature.ofDocument other = Feature.ofDocument document) ∧
    ∀ (disk : Disk) (path : Path) (bytes : List UInt8) (text : Text),
      disk.read path = .ok bytes → Utf8.decode bytes = .ok text →
      (∀ rest, '\r' :: rest <:+ text → rest.head? = some '\n') →
      featureAt disk path = .ok (Feature.ofDocument text) := by
  constructor
  · intro document other edited
    exact ofDocument_congr (eqvGen_layoutEdit_iff.mp edited)
  · intro disk path bytes text read decoded paired
    have unified : Feature.ofDocument (Text.unifyBreaks text) = Feature.ofDocument text :=
      ofDocument_congr (lines_returned (returned_unifyBreaks paired)).symm
    simp [featureAt, textAt, read, decoded, bind, Except.bind, Except.mapError, pure, Except.pure,
      unified]

/-- A comment is put in, a line indented, and every line ended with a carriage return as well. -/
theorem Feature.ofDocument_layout_sample :
    Feature.ofDocument "# c\r\n Feature: F\r\nScenario: S" =
        Feature.ofDocument "Feature: F\nScenario: S" ∧
      featureAt { nodes := [(["f"], .file (Utf8.encode "Feature: F\r\nScenario: S"))] }
          ⟨.here, ["f"]⟩ =
        .ok (Feature.ofDocument "Feature: F\r\nScenario: S") := by
  constructor
  · have commented : LayoutEdit "Feature: F\nScenario: S" "# c\nFeature: F\nScenario: S" :=
      .insert [] ["Feature: F", "Scenario: S"] "# c" (by decide) (by decide)
    have indented : LayoutEdit "# c\nFeature: F\nScenario: S" "# c\n Feature: F\nScenario: S" :=
      .pad ["# c"] ["Scenario: S"] " " "Feature: F" [] (by decide)
        (List.forall_mem_singleton.mpr rfl) (List.forall_mem_nil _)
    have returned : LayoutEdit "# c\n Feature: F\nScenario: S"
        "# c\r\n Feature: F\r\nScenario: S" := .returns _
    exact ofDocument_layout.1 _ _
      (.trans _ _ _ (.rel _ _ commented) (.trans _ _ _ (.rel _ _ indented) (.rel _ _ returned)))
  · refine ofDocument_layout.2 _ _ (Utf8.encode "Feature: F\r\nScenario: S") _
      (by decide +kernel) (by decide +kernel) fun rest among => ?_
    have next : rest = "\nScenario: S".toList := by simpa [List.suffix_cons_iff] using among
    rw [next]
    rfl

end Scenarist
