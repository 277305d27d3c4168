/-
**Laying and overriding put no value inside itself.** Where no value of two layers stands inside
itself, none does in the one over the other (`Entries.End.merge`), nor after the one overrides the
other, in however many places (`Entries.End.overrideAll`).
-/

import Scenarist.Proofs.Settings.Lookup
import Scenarist.Settings.Tie

namespace Scenarist

variable {lists : Bool}

/-- The value comes to an end on all ways through mappings, and through lists as well if `lists`. -/
def Value.Ends (lists : Bool) (value : Value) : Prop := value.isEndless lists = false

/-- All values of the entries do. -/
def Entries.End (lists : Bool) (entries : Entries) : Prop :=
  ∀ entry ∈ entries, entry.2.Ends lists

namespace Value

theorem entriesEndless_eq_false {entries : Entries} :
    entriesEndless lists entries = false ↔ entries.End lists := by
  unfold Entries.End
  induction entries with
  | nil => simp [entriesEndless]
  | cons entry entries ih =>
    rw [entriesEndless, Bool.or_eq_false_iff, ih, List.forall_mem_cons]
    rfl

theorem anyEndless_eq_false {items : List Value} :
    anyEndless lists items = false ↔ ∀ item ∈ items, item.Ends lists := by
  induction items with
  | nil => simp [anyEndless]
  | cons item items ih =>
    rw [anyEndless, Bool.or_eq_false_iff, ih, List.forall_mem_cons]
    rfl

@[simp] theorem ends_map {entries : Entries} :
    (Value.map entries).Ends lists ↔ entries.End lists := by
  rw [Ends, isEndless, entriesEndless_eq_false]

@[simp] theorem ends_list {items : List Value} :
    (Value.list items).Ends lists ↔ (lists = true → ∀ item ∈ items, item.Ends lists) := by
  rw [Ends, isEndless, Bool.and_eq_false_imp, anyEndless_eq_false]

theorem ends_pair (first second : Value) : (Value.pair first second).Ends lists := rfl

/-- A mapping that comes to an end does so at every key. -/
theorem Ends.entries {value : Value} (ends : value.Ends lists) {entries : Entries}
    (isMap : value.entries? = some entries) : entries.End lists := by
  cases value with
  | map inner =>
    obtain rfl := Option.some.inj isMap
    exact ends_map.mp ends
  | _ => cases isMap

end Value

open Value (ends_map ends_list)

namespace Entries.End

variable {entries lower upper : Entries}

theorem get? (ends : entries.End lists) {key : Key} {value : Value}
    (found : entries.get? key = some value) : value.Ends lists := by
  obtain ⟨entry, member, -, rfl⟩ := mem_of_get? found
  exact ends entry member

theorem filter (ends : entries.End lists) (keep : Key × Value → Bool) :
    End lists (entries.filter keep) :=
  fun entry member => ends entry (List.mem_filter.mp member).1

theorem append (low : lower.End lists) (up : upper.End lists) : End lists (lower ++ upper) :=
  List.forall_mem_append.mpr ⟨low, up⟩

theorem cons {key : Key} {value : Value} (head : value.Ends lists) (tail : entries.End lists) :
    End lists ((key, value) :: entries) :=
  List.forall_mem_cons.mpr ⟨head, tail⟩

end Entries.End

mutual

/-- Fewer ways are followed through mappings only. -/
theorem Value.Ends.inMappings {value : Value} (ends : value.Ends true) : value.Ends false := by
  cases value with
  | map entries => exact ends_map.mpr (Entries.End.inMappings (ends_map.mp ends))
  | list items => exact ends_list.mpr fun followed => absurd followed Bool.false_ne_true
  | _ => exact ends

theorem Entries.End.inMappings {entries : Entries} (ends : entries.End true) :
    entries.End false := by
  cases entries with
  | nil => exact fun entry member => absurd member List.not_mem_nil
  | cons entry rest =>
    obtain ⟨key, value⟩ := entry
    obtain ⟨here, below⟩ := List.forall_mem_cons.mp ends
    exact .cons (Value.Ends.inMappings here) (Entries.End.inMappings below)

end

/-! ### A layer over another one -/

mutual

theorem Value.Ends.under {lower upper : Value} (low : lower.Ends lists) (up : upper.Ends lists) :
    (lower.under upper).Ends lists := by
  cases lower with
  | map lower =>
    cases upper with
    | map upper =>
      rw [ends_map] at low up
      rw [Value.under, ends_map]
      exact (Entries.End.covered low up).append (up.filter _)
    | _ => exact up
  | _ => exact up

theorem Entries.End.covered {lower upper : Entries} (low : lower.End lists)
    (up : upper.End lists) : Entries.End lists (Entries.covered lower upper) := by
  cases lower with
  | nil => exact low
  | cons entry rest =>
    obtain ⟨key, value⟩ := entry
    obtain ⟨here, below⟩ := List.forall_mem_cons.mp low
    rw [Entries.covered]
    refine .cons ?_ (Entries.End.covered below up)
    cases found : upper.get? key with
    | none => exact here
    | some laid => exact Value.Ends.under here (up.get? found)

end

namespace Entries.End

variable {entries lower upper : Entries}

theorem merge (low : lower.End lists) (up : upper.End lists) : (lower.merge upper).End lists :=
  (low.covered up).append (up.filter _)

/-! ### Overrides -/

theorem put (ends : entries.End lists) (key : Key) {value : Value} (here : value.Ends lists) :
    (entries.put key value).End lists := by
  induction entries with
  | nil => exact cons here ends
  | cons entry rest ih =>
    obtain ⟨head, tail⟩ := List.forall_mem_cons.mp ends
    rw [Entries.put]
    split
    · exact cons here tail
    · exact cons head (ih tail)

theorem update (low : lower.End lists) (up : upper.End lists) :
    (lower.update upper).End lists :=
  List.foldlRecOn upper _ low fun _ ends entry member => ends.put entry.1 (up entry member)

theorem overrideSection (ends : entries.End lists) {part : Key × Value}
    (here : part.2.Ends lists) : (entries.overrideSection part).End lists := by
  unfold Entries.overrideSection
  split
  · next lower upper found isMap =>
    obtain ⟨value, below, entriesOf⟩ := Option.bind_eq_some_iff.mp found
    exact ends.put _ (ends_map.mpr (((ends.get? below).entries entriesOf).update
      (here.entries isMap)))
  · exact ends.put _ here

end Entries.End

/-- A change of mappings that keeps them coming to an end keeps what is around them. -/
theorem Value.Ends.changeAt {change : Entries → Entries}
    (keeps : ∀ entries : Entries, entries.End lists → (change entries).End lists) (place : Place)
    {value : Value} (ends : value.Ends lists) : (value.changeAt change place).Ends lists := by
  induction place generalizing value with
  | nil =>
    cases value with
    | map entries => exact ends_map.mpr (keeps entries (ends_map.mp ends))
    | _ => exact ends
  | cons turn place ih =>
    cases turn with
    | key key =>
      cases value with
      | map entries =>
        rw [ends_map] at ends
        rw [Value.changeAt, ends_map]
        intro entry member
        obtain ⟨before, held, rfl⟩ := List.mem_map.mp member
        split
        · exact ih (ends before held)
        · exact ends before held
      | _ => exact ends
    | item index =>
      cases value with
      | list items =>
        rw [ends_list] at ends
        rw [Value.changeAt, ends_list]
        intro followed item member
        obtain ⟨i, at', rfl⟩ := List.mem_iff_getElem.mp member
        rw [List.getElem_modify]
        split
        · exact ih (ends followed _ (List.getElem_mem _))
        · exact ends followed _ (List.getElem_mem _)
      | _ => exact ends
    | first =>
      cases value with
      | pair first second => exact Value.ends_pair _ _
      | _ => exact ends
    | second =>
      cases value with
      | pair first second => exact Value.ends_pair _ _
      | _ => exact ends

namespace Entries.End

variable {entries : Entries}

theorem overrideTied (ties : Ties) (ends : entries.End lists) {part : Key × Value}
    (here : part.2.Ends lists) : (Entries.overrideTied (entries, ties) part).1.End lists := by
  have changed := ends.overrideSection here
  unfold Entries.overrideTied
  dsimp only
  split
  · next upper _ isMap =>
    have all : ((ties.others (Place.ofKey part.1)).foldl
        (fun value place => value.changeAt (·.update upper) place)
        (Value.map (entries.overrideSection part))).Ends lists :=
      List.foldlRecOn _ _ (ends_map.mpr changed) fun value valueEnds place _ =>
        valueEnds.changeAt (fun _ inner => inner.update (here.entries isMap)) place
    cases isEntries : Value.entries? _ with
    | none => exact fun entry member => absurd member List.not_mem_nil
    | some inAll => exact all.entries isEntries
  · exact changed

/-- **Overrides put no value inside itself.** -/
theorem overrideAll (ties : Ties) (ends : entries.End lists) {overrides : Entries}
    (laid : overrides.End lists) : (entries.overrideAll ties overrides).1.End lists :=
  List.foldlRecOn overrides Entries.overrideTied ends fun base inner part member =>
    overrideTied base.2 inner (laid part member)

end Entries.End

end Scenarist
