/-
**One setting in layers.** A setting stands at a name in a part of the settings. Where every layer
has a mapping at the part and no mapping at the name (`Entries.Flat`), a layer over another one gives
the setting of the upper layer if that has it, and otherwise the one of the lower layer
(`Entries.Flat.merge`), with what else is in the part left as it is.
-/

import Scenarist.Proofs.Settings.Lookup
import Scenarist.Proofs.Text.Lines

namespace Scenarist

/-- Nothing but a mapping is filled up from below. -/
theorem Value.under_of_plain {value : Value} (plain : value.entries? = none) (laid : Value) :
    value.under laid = laid := by
  cases value with
  | map entries => cases plain
  | _ => rfl

theorem Value.entries?_eq_some {value : Value} {entries : Entries} :
    value.entries? = some entries ↔ value = .map entries := by
  cases value <;> simp [Value.entries?]

namespace Entries

/-- What a layer has at a name in a part. -/
def setting? (layer : Entries) (part name : Text) : Option Value :=
  ((get? layer (.text part)).bind Value.entries?).bind fun inner => get? inner (.text name)

/-- What the layer has at the part is a mapping, and what it has there at the name is none. -/
structure Flat (layer : Entries) (part name : Text) : Prop where
  isMapping : ∀ value, get? layer (.text part) = some value → ∃ inner, value = .map inner
  plain : ∀ value, setting? layer part name = some value → value.entries? = none

variable {layer lower upper : Entries} {part name : Text}

theorem setting?_eq_none (absent : get? layer (.text part) = none) :
    setting? layer part name = none := by
  rw [setting?, absent]
  rfl

theorem setting?_eq {inner : Entries} (found : get? layer (.text part) = some (.map inner)) :
    setting? layer part name = get? inner (.text name) := by
  rw [setting?, found]
  rfl

/-- Only what is found at the part matters. -/
theorem setting?_congr {other : Entries}
    (same : get? other (.text part) = get? layer (.text part)) :
    setting? other part name = setting? layer part name := by
  rw [setting?, same, setting?]

namespace Flat

theorem congr {other : Entries} (flat : layer.Flat part name)
    (same : get? other (.text part) = get? layer (.text part)) : other.Flat part name where
  isMapping value found := flat.isMapping value (same ▸ found)
  plain value found := flat.plain value (setting?_congr same ▸ found)

/-- A layer without the part is flat. -/
theorem of_absent (absent : get? layer (.text part) = none) : layer.Flat part name where
  isMapping value found := by
    rw [absent] at found
    cases found
  plain value found := by
    rw [setting?_eq_none absent] at found
    cases found

theorem of_found {inner : Entries} (found : get? layer (.text part) = some (.map inner))
    (plain : ∀ value, get? inner (.text name) = some value → value.entries? = none) :
    layer.Flat part name where
  isMapping _ other := ⟨inner, Option.some_inj.mp (other.symm.trans found)⟩
  plain _ other := plain _ (setting?_eq found ▸ other)

/-- A flat layer has no such part, or a mapping in its place. -/
theorem absent_or_found (flat : layer.Flat part name) :
    get? layer (.text part) = none ∨ ∃ inner, get? layer (.text part) = some (.map inner) ∧
      ∀ value, get? inner (.text name) = some value → value.entries? = none := by
  cases found : get? layer (.text part) with
  | none => exact Or.inl rfl
  | some value =>
    obtain ⟨inner, rfl⟩ := flat.isMapping value found
    exact Or.inr ⟨inner, rfl, fun value here => flat.plain value ((setting?_eq found).trans here)⟩

theorem iff_all : layer.Flat part name ↔
    (get? layer (.text part)).all (·.entries?.isSome) = true ∧
      (setting? layer part name).all (·.entries?.isNone) = true := by
  simp only [Option.all_eq_true, Option.isNone_iff_eq_none, Option.isSome_iff_exists,
    Value.entries?_eq_some]
  exact ⟨fun flat => ⟨flat.isMapping, flat.plain⟩, fun both => ⟨both.1, both.2⟩⟩

instance : Decidable (layer.Flat part name) := decidable_of_iff _ iff_all.symm

/-- Of two mappings of a part, the upper one over the lower one. -/
theorem get?_merge_plain {lower upper : Entries} {key : Key}
    (plain : ∀ value, get? lower key = some value → value.entries? = none) :
    get? (lower.merge upper) key = (get? upper key).or (get? lower key) := by
  rw [get?_merge]
  cases below : get? lower key with
  | none => exact (Option.or_none ..).symm
  | some value =>
    cases get? upper key with
    | none => rfl
    | some laid => exact congrArg some (Value.under_of_plain (plain value below) laid)

/-- **A flat layer over a flat one** has its own setting, and where it has none, that of the lower
one. -/
theorem merge (low : lower.Flat part name) (up : upper.Flat part name) :
    (lower.merge upper).Flat part name ∧ setting? (lower.merge upper) part name =
      (setting? upper part name).or (setting? lower part name) := by
  have whole := get?_merge lower upper (.text part)
  rcases low.absent_or_found with absent | ⟨inner, below, plain⟩
  · rw [absent] at whole
    rw [setting?_eq_none absent, Option.or_none]
    exact ⟨up.congr whole, setting?_congr whole⟩
  · rcases up.absent_or_found with absent | ⟨laid, above, laidPlain⟩
    · rw [below, absent] at whole
      have whole := whole.trans below.symm
      rw [setting?_eq_none absent, Option.none_or]
      exact ⟨low.congr whole, setting?_congr whole⟩
    · rw [below, above] at whole
      have merged : get? (lower.merge upper) (.text part) = some (.map (Entries.merge inner laid)) :=
        whole
      rw [setting?_eq merged, setting?_eq below, setting?_eq above, get?_merge_plain plain]
      refine ⟨of_found merged fun value found => ?_, rfl⟩
      rw [get?_merge_plain plain, Option.or_eq_some_iff] at found
      rcases found with found | ⟨-, found⟩
      · exact laidPlain value found
      · exact plain value found

end Flat

/-- The environment is put into what a layer has at a name. -/
theorem setting?_subst (env : Environment) (layer : Entries) (part name : Text) :
    setting? (subst env layer) part name = (setting? layer part name).map (Value.subst env) := by
  rw [setting?, get?_subst, setting?]
  cases get? layer (.text part) with
  | none => rfl
  | some value =>
    rw [Option.map_some, Option.bind_some, Option.bind_some, Value.entries?_subst]
    cases value.entries? with
    | none => rfl
    | some inner =>
      rw [Option.map_some, Option.bind_some, Option.bind_some, get?_subst]

end Entries

/-- **A setting is looked up at its part and its name**, if neither has a point in it. -/
theorem Value.setting_map (layer : Entries) {part name : Text} (partWhole : '.' ∉ part)
    (nameWhole : '.' ∉ name) (fallback : Value) :
    (Value.map layer).setting (part ++ '.' :: name) fallback =
      (layer.setting? part name).getD fallback := by
  rw [setting, Text.cut_append_mark partWhole, Text.cut_eq_singleton nameWhole, Entries.setting?]
  simp only [List.map_cons, List.map_nil, at?]
  cases Entries.get? layer (.text part) with
  | none => rfl
  | some value =>
    cases value with
    | map inner =>
      simp only [Option.bind_some, entries?, at?]
      cases Entries.get? inner (.text name) <;> rfl
    | _ => rfl

end Scenarist
