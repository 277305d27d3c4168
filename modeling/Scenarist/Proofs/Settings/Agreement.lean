/-
**Overrides against a layer laid over.** Overrides reach one level down: a mapping over a mapping
updates it, and a mapping inside takes the place of another one as a whole, where a layer that is
laid over goes on into it. So the two agree, with the order of keys, as long as there are no mappings
in both at one key of a section (`Entries.override_eq_merge`), and else differ at those keys only
(`Entries.overrideAll_agrees`). A layer is told by its keys and by what is found at them, if it has
every key once (`Entries.Once.ext`).
-/

import Scenarist.Proofs.Settings.Merging
import Scenarist.Proofs.Settings.Overrides

namespace Scenarist.Entries

/-! ### Layers that have every key once -/

theorem keys_cons (entry : Key × Value) (rest : Entries) :
    keys (entry :: rest) = entry.1 :: keys rest := rfl

theorem has_cons (entry : Key × Value) (rest : Entries) (key : Key) :
    has (entry :: rest) key = (entry.1.same key || has rest key) := rfl

theorem has_eq_keys (entries : Entries) (key : Key) :
    has entries key = (keys entries).any (·.same key) := by
  rw [keys, List.any_map]
  rfl

theorem once_iff_keys {entries : Entries} :
    Once entries ↔ (keys entries).Pairwise fun a b => a.same b = false := by
  rw [keys, List.pairwise_map]
  rfl

/-- **A layer is told by its keys and what is found at them.** -/
theorem Once.ext {entries others : Entries} (once : Once entries)
    (sameKeys : keys entries = keys others)
    (sameFound : ∀ key, get? entries key = get? others key) : entries = others := by
  have onceOthers : Once others := once_iff_keys.mpr (sameKeys ▸ once_iff_keys.mp once)
  induction entries generalizing others with
  | nil => exact (List.map_eq_nil_iff.mp sameKeys.symm).symm
  | cons entry entries ih =>
    cases others with
    | nil => cases sameKeys
    | cons other others =>
      rw [keys_cons, keys_cons, List.cons.injEq] at sameKeys
      obtain ⟨sameKey, sameBelow⟩ := sameKeys
      have sameEntry : entry = other := by
        have here := sameFound entry.1
        rw [get?_cons, get?_cons, ← sameKey, if_pos (Key.same_refl _),
          if_pos (Key.same_refl _)] at here
        exact Prod.ext sameKey (Option.some_inj.mp here)
      subst sameEntry
      refine congrArg (entry :: ·) (ih (List.Pairwise.of_cons once) sameBelow (fun key => ?_)
        (List.Pairwise.of_cons onceOthers))
      by_cases same : entry.1.same key = true
      · rw [once.get?_tail same, onceOthers.get?_tail same]
      · have below := sameFound key
        rwa [get?_cons, get?_cons, if_neg same, if_neg same] at below

/-- The keys of a layer over another one are there once, if those of both are. -/
theorem Once.merge {lower upper : Entries} (low : Once lower) (up : Once upper) :
    Once (lower.merge upper) := by
  rw [once_iff_keys, keys_merge, List.pairwise_append]
  refine ⟨once_iff_keys.mp low, (once_iff_keys.mp up).filter _, fun old before new behind => ?_⟩
  have isNew := (List.mem_filter.mp behind).2
  rw [has_eq_keys, Bool.not_eq_true', List.any_eq_false] at isNew
  exact eq_false_of_ne_true (isNew old before)

/-! ### Entries put in one by one -/

theorem keys_put (entries : Entries) (key : Key) (value : Value) :
    keys (put entries key value) =
      if has entries key then keys entries else keys entries ++ [key] := by
  induction entries with
  | nil => rfl
  | cons entry entries ih =>
    rw [put, has_cons]
    cases entry.1.same key with
    | true => rfl
    | false =>
      rw [if_neg Bool.false_ne_true, keys_cons, ih, Bool.false_or, keys_cons]
      split <;> rfl

/-- **Where entries are put in one by one**, the new keys come behind the old ones in their order. -/
theorem keys_foldl {change : Entries → Key × Value → Entries}
    (each : ∀ entries entry, keys (change entries entry) = keys (put entries entry.1 entry.2))
    {changes : Entries} (once : Once changes) (entries : Entries) :
    keys (changes.foldl change entries) =
      keys entries ++ (keys changes).filter fun key => !has entries key := by
  induction changes generalizing entries with
  | nil => exact (List.append_nil _).symm
  | cons entry changes ih =>
    have changed := (each entries entry).trans (keys_put ..)
    rw [List.foldl_cons, ih (List.Pairwise.of_cons once), keys_cons, List.filter_cons]
    cases old : has entries entry.1 with
    | true =>
      rw [old, if_pos rfl] at changed
      simp only [has_eq_keys, changed]
      rfl
    | false =>
      rw [old, if_neg Bool.false_ne_true] at changed
      have apart : ∀ key ∈ keys changes, entry.1.same key = false :=
        (List.pairwise_cons.mp (once_iff_keys.mp once)).1
      have others : ∀ key ∈ keys changes,
          (!has (change entries entry) key) = !has entries key := by
        intro key member
        simp [has_eq_keys, changed, apart key member]
      rw [changed, List.filter_congr others, List.append_assoc]
      rfl

theorem keys_update {upper : Entries} (once : Once upper) (lower : Entries) :
    keys (lower.update upper) = keys (lower.merge upper) := by
  rw [keys_merge]
  exact keys_foldl (fun entries entry => rfl) once lower

/-! ### Mappings on both sides -/

/-- Both layers have a mapping at the key. -/
def Meet (lower upper : Entries) (key : Key) : Prop :=
  ∃ below above, get? lower key = some (.map below) ∧ get? upper key = some (.map above)

/-- **Unless mappings meet**, a layer over another one gives what is found in the upper layer, and
where there is nothing, what is in the lower one. -/
theorem get?_merge_apart {lower upper : Entries} {key : Key} (apart : ¬ Meet lower upper key) :
    get? (lower.merge upper) key = (get? upper key).or (get? lower key) := by
  rw [get?_merge]
  cases above : get? upper key with
  | none => cases get? lower key <;> rfl
  | some laid =>
    cases below : get? lower key with
    | none => rfl
    | some value =>
      refine congrArg some ?_
      obtain ⟨inner, rfl⟩ | plain := value.map_or_plain
      · obtain ⟨outer, rfl⟩ | plain := laid.map_or_plain
        · exact absurd ⟨inner, outer, below, above⟩ apart
        · exact Value.under_plain plain _
      · exact Value.under_of_plain plain _

theorem get?_merge_meet {lower upper below above : Entries} {key : Key}
    (found : get? lower key = some (.map below)) (laid : get? upper key = some (.map above)) :
    get? (lower.merge upper) key = some (.map (below.merge above)) := by
  rw [get?_merge, found, laid]
  exact congrArg some (Value.under_map below above)

/-- **An update is a layer laid over**, if no mappings meet. -/
theorem update_eq_merge {lower upper : Entries} (low : Once lower) (up : Once upper)
    (apart : ∀ key, ¬ Meet lower upper key) : lower.update upper = lower.merge upper := by
  refine ((low.merge up).ext (keys_update up lower).symm fun key => ?_).symm
  rw [get?_merge_apart (apart key), get?_update up]

/-! ### Overrides by their sections -/

theorem keys_override {overrides : Entries} (once : Once overrides) (base : Entries) :
    keys (base.override overrides) = keys (base.merge overrides) := by
  rw [keys_merge]
  refine keys_foldl (fun entries part => ?_) once base
  rw [overrideSection_eq, keys_put, keys_put]

/-- **What overrides leave at a key**: what they make of the base there, if they have the key. -/
theorem get?_override {overrides : Entries} (once : Once overrides) (base : Entries) (key : Key) :
    get? (base.override overrides) key =
      ((get? overrides key).map (Value.overridden (get? base key))).or (get? base key) := by
  unfold override
  induction overrides generalizing base with
  | nil => rfl
  | cons part rest ih =>
    rw [List.foldl_cons, ih (List.Pairwise.of_cons once), overrideSection_eq, get?_put, get?_cons]
    by_cases same : part.1.same key = true
    · rw [if_pos same, if_pos same, once.get?_tail same, get?_congr same]
      rfl
    · rw [if_neg same, if_neg same]

section Sections

variable {base overrides : Entries} (once : Once overrides) {part : Key}
include once

/-- Where no mappings meet, overrides leave what a layer laid over does. -/
theorem get?_override_apart (apart : ¬ Meet base overrides part) :
    get? (base.override overrides) part = get? (base.merge overrides) part := by
  rw [get?_override once, get?_merge_apart apart]
  cases above : get? overrides part with
  | none => rfl
  | some laid =>
    have plain : Value.overridden (get? base part) laid = laid := by
      unfold Value.overridden
      split
      · next lower upper below isMap =>
        obtain ⟨value, found, isLower⟩ := Option.bind_eq_some_iff.mp below
        rw [Value.entries?_eq_some.mp isLower] at found
        rw [Value.entries?_eq_some.mp isMap] at above
        exact absurd ⟨lower, upper, found, above⟩ apart
      · rfl
    rw [Option.map_some, plain]

/-- Where mappings meet, the one of the base is updated. -/
theorem get?_override_meet {lower upper : Entries} (found : get? base part = some (.map lower))
    (laid : get? overrides part = some (.map upper)) :
    get? (base.override overrides) part = some (.map (lower.update upper)) := by
  rw [get?_override once, found, laid]
  rfl

end Sections

/-! ### Keys of sections -/

/-- Both layers have a mapping at a key of a section. -/
def Clash (base overrides : Entries) (part key : Key) : Prop :=
  ∃ below above, base.at? [part, key] = some (.map below) ∧
    overrides.at? [part, key] = some (.map above)

theorem at?_cons (entries : Entries) (part : Key) (path : List Key) :
    entries.at? (part :: path) = (get? entries part).bind (·.at? path) :=
  Value.at?_map_cons entries part path

/-- In a section the walk goes on at its keys. -/
theorem at?_section {entries inner : Entries} {part : Key}
    (found : get? entries part = some (.map inner)) (key : Key) (rest : List Key) :
    entries.at? (part :: key :: rest) = (get? inner key).bind (·.at? rest) := by
  rw [at?_cons, found, Option.bind_some, Value.at?_map_cons]

/-- What stands at a key of a section stands in a mapping. -/
theorem exists_section {entries : Entries} {part key : Key} {value : Value}
    (found : entries.at? [part, key] = some value) :
    ∃ inner, get? entries part = some (.map inner) ∧ get? inner key = some value := by
  rw [at?_cons] at found
  obtain ⟨whole, atPart, found⟩ := Option.bind_eq_some_iff.mp found
  obtain ⟨inner, rfl⟩ | plain := whole.map_or_plain
  · rw [Value.at?_map_cons] at found
    obtain ⟨here, atKey, found⟩ := Option.bind_eq_some_iff.mp found
    rw [Value.at?_nil] at found
    exact ⟨inner, atPart, atKey.trans found⟩
  · rw [Value.at?_cons_of_plain plain] at found
    cases found

/-- Layers clash at a key of a section where the sections meet at the key. -/
theorem clash_iff {base overrides : Entries} {part key : Key} :
    Clash base overrides part key ↔ ∃ lower upper, get? base part = some (.map lower) ∧
      get? overrides part = some (.map upper) ∧ Meet lower upper key := by
  constructor
  · rintro ⟨below, above, inBase, inOverrides⟩
    obtain ⟨lower, atLower, found⟩ := exists_section inBase
    obtain ⟨upper, atUpper, laid⟩ := exists_section inOverrides
    exact ⟨lower, upper, atLower, atUpper, below, above, found, laid⟩
  · rintro ⟨lower, upper, atLower, atUpper, below, above, found, laid⟩
    refine ⟨below, above, ?_, ?_⟩
    · rw [at?_section atLower, found, Option.bind_some, Value.at?_nil]
    · rw [at?_section atUpper, laid, Option.bind_some, Value.at?_nil]

/-- **Overrides are a layer laid over**, if mappings meet at no key of a section. -/
theorem override_eq_merge {base overrides : Entries} (settled : (Value.map base).Settled)
    (laid : (Value.map overrides).Settled) (noClash : ∀ part key, ¬ Clash base overrides part key) :
    base.override overrides = base.merge overrides := by
  refine ((settled.once.merge laid.once).ext (keys_override laid.once base).symm fun part => ?_).symm
  by_cases meet : Meet base overrides part
  · obtain ⟨lower, upper, atLower, atUpper⟩ := meet
    have apart : ∀ key, ¬ Meet lower upper key := fun key meets =>
      noClash part key (clash_iff.mpr ⟨lower, upper, atLower, atUpper, meets⟩)
    rw [get?_merge_meet atLower atUpper, get?_override_meet laid.once atLower atUpper,
      update_eq_merge (settled.get? atLower).once (laid.get? atUpper).once apart]
  · exact (get?_override_apart laid.once meet).symm

section Sections

variable {base overrides : Entries} {part key : Key} (laid : (Value.map overrides).Settled)
include laid

/-- A section after overrides is what a layer laid over leaves of it, or a mapping with the same
keys. -/
theorem section_override : get? (base.override overrides) part = get? (base.merge overrides) part ∨
    ∃ updated mixed, get? (base.override overrides) part = some (.map updated) ∧
      get? (base.merge overrides) part = some (.map mixed) ∧ keys updated = keys mixed := by
  by_cases meet : Meet base overrides part
  · obtain ⟨lower, upper, atLower, atUpper⟩ := meet
    exact Or.inr ⟨_, _, get?_override_meet laid.once atLower atUpper,
      get?_merge_meet atLower atUpper, keys_update (laid.get? atUpper).once lower⟩
  · exact Or.inl (get?_override_apart laid.once meet)

/-- Where mappings clash, the one of the overrides takes the place of the other one. -/
theorem at?_override_clash (clash : Clash base overrides part key) :
    at? (base.override overrides) [part, key] = overrides.at? [part, key] := by
  obtain ⟨lower, upper, atLower, atUpper, below, above, -, inUpper⟩ := clash_iff.mp clash
  rw [at?_section (get?_override_meet laid.once atLower atUpper), at?_section atUpper,
    get?_update (laid.get? atUpper).once, inUpper]
  rfl

/-- At all other keys of sections, and behind them, overrides leave what a layer laid over does. -/
theorem at?_override_apart (apart : ¬ Clash base overrides part key) (rest : List Key) :
    at? (base.override overrides) (part :: key :: rest) =
      at? (base.merge overrides) (part :: key :: rest) := by
  by_cases meet : Meet base overrides part
  · obtain ⟨lower, upper, atLower, atUpper⟩ := meet
    have apartInside : ¬ Meet lower upper key := fun meets =>
      apart (clash_iff.mpr ⟨lower, upper, atLower, atUpper, meets⟩)
    rw [at?_section (get?_override_meet laid.once atLower atUpper),
      at?_section (get?_merge_meet atLower atUpper), get?_update (laid.get? atUpper).once,
      get?_merge_apart apartInside]
  · rw [at?_cons, at?_cons, get?_override_apart laid.once meet]

end Sections

/-- **Overriding agrees with laying over** where every mapping that is updated stands in one place:
in all, with the order of keys, if mappings clash at no key of a section; and else in the order of
keys at the top and in every section, in the sections that are no mappings on one of the sides, and
at and behind all keys of sections but those where mappings clash, at which the mapping of the
overrides stands as a whole. -/
theorem overrideAll_agrees {base overrides : Entries} {ties : Ties}
    (settled : (Value.map base).Settled) (laid : (Value.map overrides).Settled)
    (alone : ties.Alone base overrides) :
    ((∀ part key, ¬ Clash base overrides part key) →
      (base.overrideAll ties overrides).1 = base.merge overrides) ∧
    keys (base.overrideAll ties overrides).1 = keys (base.merge overrides) ∧
    (∀ part, get? (base.overrideAll ties overrides).1 part = get? (base.merge overrides) part ∨
      ∃ updated mixed, get? (base.overrideAll ties overrides).1 part = some (.map updated) ∧
        get? (base.merge overrides) part = some (.map mixed) ∧ keys updated = keys mixed) ∧
    (∀ part key, Clash base overrides part key →
      at? (base.overrideAll ties overrides).1 [part, key] = overrides.at? [part, key]) ∧
    (∀ part key rest, ¬ Clash base overrides part key →
      at? (base.overrideAll ties overrides).1 (part :: key :: rest) =
        at? (base.merge overrides) (part :: key :: rest)) := by
  rw [overrideAll_alone laid.once alone]
  exact ⟨override_eq_merge settled laid, keys_override laid.once base,
    fun part => section_override laid, fun part key => at?_override_clash laid,
    fun part key rest apart => at?_override_apart laid apart rest⟩

/-! ### A mapping in two places -/

/-- A mapping inside a section. -/
def cache : Value := .map [(.text "size", .int 1), (.text "kind", .text "disk")]

/-- A layer with the mapping in a section, and at the top as well. -/
def cacheLayer : Entries :=
  [(.text "paths", .map [(.text "cache", cache), (.text "output", .text "out")]),
    (.text "cache", cache)]

/-- The places of the mapping. -/
def cacheTies : Ties :=
  [[Place.ofKey (.text "paths") ++ Place.ofKey (.text "cache"), Place.ofKey (.text "cache")]]

/-- Overrides of one section, with a value for one key in it. -/
def sectionOverrides (part name : Text) (value : Value) : Entries :=
  [(.text part, .map [(.text name, value)])]

theorem settled_cacheLayer : (Value.map cacheLayer).Settled := by
  have inside : cache.Settled := .map (by decide)
    (List.forall_mem_cons.mpr ⟨.plain rfl, List.forall_mem_singleton.mpr (.plain rfl)⟩)
  have paths : (Value.map [(.text "cache", cache), (.text "output", .text "out")]).Settled :=
    .map (by decide)
      (List.forall_mem_cons.mpr ⟨inside, List.forall_mem_singleton.mpr (.plain rfl)⟩)
  exact .map (by decide)
    (List.forall_mem_cons.mpr ⟨paths, List.forall_mem_singleton.mpr inside⟩)

theorem settled_sectionOverrides (part name : Text) {value : Value} (settled : value.Settled) :
    (Value.map (sectionOverrides part name value)).Settled :=
  .map (List.pairwise_singleton _ _) (List.forall_mem_singleton.mpr
    (.map (List.pairwise_singleton _ _) (List.forall_mem_singleton.mpr settled)))

theorem alone_cache (name : Text) (value : Value) :
    cacheTies.Alone cacheLayer (sectionOverrides "paths" name value) := by
  intro part member lower upper _ _
  rw [List.mem_singleton.mp member]
  rfl

/-- A value that is no mapping clashes with nothing. -/
theorem noClash_sectionOverrides (base : Entries) (part name : Text) {value : Value}
    (plain : value.entries? = none) (other key : Key) :
    ¬ Clash base (sectionOverrides part name value) other key := by
  rintro ⟨-, above, -, laid⟩
  obtain ⟨inner, atPart, atKey⟩ := exists_section laid
  obtain ⟨entry, member, -, isInner⟩ := mem_of_get? atPart
  rw [List.mem_singleton.mp member] at isInner
  obtain rfl := Value.map.inj isInner
  obtain ⟨entry, member, -, isAbove⟩ := mem_of_get? atKey
  rw [List.mem_singleton.mp member] at isAbove
  rw [show value = .map above from isAbove] at plain
  cases plain

/-- A depth of the section comes into it as if laid over. Another cache takes the place of the one
there as a whole, and the output is left. -/
theorem overrideAll_agrees_cache :
    (cacheLayer.overrideAll cacheTies (sectionOverrides "paths" "depth" (.int 3))).1 =
      cacheLayer.merge (sectionOverrides "paths" "depth" (.int 3)) ∧
    at? (cacheLayer.overrideAll cacheTies
        (sectionOverrides "paths" "cache" (.map [(.text "size", .int 2)]))).1
        [.text "paths", .text "cache"] = some (.map [(.text "size", .int 2)]) ∧
    at? (cacheLayer.overrideAll cacheTies
        (sectionOverrides "paths" "cache" (.map [(.text "size", .int 2)]))).1
        [.text "paths", .text "output"] = some (.text "out") := by
  have sized : (Value.map [(.text "size", .int 2)]).Settled :=
    .map (by decide) (List.forall_mem_singleton.mpr (.plain rfl))
  have deeper := overrideAll_agrees settled_cacheLayer
    (settled_sectionOverrides "paths" "depth" (.plain rfl)) (alone_cache "depth" (.int 3))
  have other := overrideAll_agrees settled_cacheLayer
    (settled_sectionOverrides "paths" "cache" sized) (alone_cache "cache" _)
  have apart : ¬ Clash cacheLayer
      (sectionOverrides "paths" "cache" (.map [(.text "size", .int 2)]))
      (.text "paths") (.text "output") := by
    rintro ⟨below, -, found, -⟩
    cases found
  exact ⟨deeper.1 (noClash_sectionOverrides cacheLayer "paths" "depth" rfl),
    other.2.2.2.1 (.text "paths") (.text "cache") ⟨_, _, rfl, rfl⟩,
    other.2.2.2.2 (.text "paths") (.text "output") [] apart⟩

/-- A settings file in which the mapping `log` is `audit` as well. -/
def auditText : Text := "log: &x \x7blevel: INFO\x7d\naudit: *x\n"

/-- **An update of a mapping in two places** is more than a layer laid over. -/
theorem overrideAll_ne_merge : ∃ (base overrides : Entries) (ties : Ties),
    TiedValue.ofYaml 1 (Yaml.Supply.ofBytes (Utf8.encode auditText)) = .ok ⟨.map base, ties⟩ ∧
      overrides = sectionOverrides "log" "level" (.text "DEBUG") ∧
      (Value.map base).Settled ∧ (Value.map overrides).Settled ∧
      (∀ part key, ¬ Clash base overrides part key) ∧
      (base.overrideAll ties overrides).1 ≠ base.merge overrides := by
  have computed : (ofYaml? auditText).any (fun read => decide (
      (Value.map (read.1.overrideAll read.2
        (sectionOverrides "log" "level" (.text "DEBUG"))).1).literal ≠
      (Value.map (read.1.merge (sectionOverrides "log" "level" (.text "DEBUG")))).literal)) =
        true := by
    decide +kernel
  obtain ⟨⟨base, ties⟩, spelled, differ⟩ := (Option.any_eq_true _ _).mp computed
  have parsed := of_ofYaml? spelled
  refine ⟨base, _, ties, parsed, rfl, TiedValue.settled_ofYaml parsed,
    settled_sectionOverrides "log" "level" (.plain rfl),
    noClash_sectionOverrides base "log" "level" rfl, fun same => ?_⟩
  rw [same] at differ
  exact of_decide_eq_true differ rfl

end Scenarist.Entries
