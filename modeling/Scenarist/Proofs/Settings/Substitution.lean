/-
**The environment put into settings.** The variables of an environment are put into the texts of a
value, and nothing else of it changes: what stands at a place of the value afterwards is what stood
there before, with the environment put in (`Value.inside?_subst`), in the same frame of keys, items
and other values (`Value.frame_subst`). So it makes no difference whether the environment is put in
before or after a layer is laid over another one (`Entries.subst_merge`), nor for overrides, where
every mapping that they update stands in one place (`Entries.subst_overrideAll`); a mapping in two
places is changed in both as long as it is one mapping, and in one of them once the environment has
been put in, which makes two of it. If no variable leads on to another one, putting the environment
in twice is putting it in once (`Value.subst_subst`).
-/

import Scenarist.Proofs.Settings.Merging
import Scenarist.Proofs.Settings.Overrides

namespace Scenarist

/-! ### Texts -/

namespace Environment

/-- The text that stands for the value of a variable. -/
def reference (name : Text) : Text := '$' :: '\x7b' :: (name ++ ['\x7d'])

end Environment

open Environment (reference)

theorem variableName?_eq_some {t name : Text} :
    variableName? t = some name ↔ t = reference name := by
  unfold variableName?
  constructor
  · intro named
    split at named
    · next rest behind =>
      split at named
      · next last =>
        obtain rfl := Option.some_inj.mp named
        obtain ⟨front, rfl⟩ := List.getLast?_eq_some_iff.mp last
        rw [Text.afterLead?_eq_some.mp behind, List.dropLast_concat]
        rfl
      · cases named
    · cases named
  · rintro rfl
    have behind : Text.afterLead? ['$', '\x7b'] (reference name) = some (name ++ ['\x7d']) :=
      Text.afterLead?_eq_some.mpr rfl
    simp only [behind, List.getLast?_concat, List.dropLast_concat]

namespace Environment

variable {env : Environment}

/-- The value of a variable stands where the text names one that is set. -/
theorem subst_reference {name held : Text} (known : env.lookup name = some held) :
    env.subst (reference name) = held := by
  rw [subst, variableName?_eq_some.mpr rfl]
  simp only [known, Option.getD_some]

/-- Any other text is left as it is. -/
theorem subst_eq_self {t : Text} (unknown : ∀ name, t = reference name → env.lookup name = none) :
    env.subst t = t := by
  unfold subst
  split
  · next name named =>
    rw [unknown name (variableName?_eq_some.mp named), Option.getD_none]
  · rfl

/-- The values of variables name no variables that are set. -/
def Final (env : Environment) : Prop :=
  ∀ name held, env.lookup name = some held → ∀ other, held = reference other →
    env.lookup other = none

/-- **What a variable led to leads no further** in a final environment. -/
theorem Final.subst_subst (final : env.Final) (t : Text) :
    env.subst (env.subst t) = env.subst t := by
  by_cases names : ∃ name held, t = reference name ∧ env.lookup name = some held
  · obtain ⟨name, held, rfl, known⟩ := names
    rw [subst_reference known]
    exact subst_eq_self (final name held known)
  · have same : env.subst t = t := subst_eq_self fun name named =>
      Option.eq_none_iff_forall_ne_some.mpr fun held known => names ⟨name, held, named, known⟩
    rw [same, same]

end Environment

/-! ### Places -/

namespace Value

/-- What stands at a place, on a way through mappings and lists. -/
def inside? : Value → Place → Option Value
  | value, [] => some value
  | .map entries, .key key :: place => (Entries.get? entries key).bind (·.inside? place)
  | .list items, .item index :: place => items[index]?.bind (·.inside? place)
  | _, _ :: _ => none

@[simp] theorem inside?_nil (value : Value) : value.inside? [] = some value := by
  cases value <;> rfl

/-- A path of keys is a way through mappings. -/
theorem at?_eq_inside? (value : Value) (path : List Key) :
    value.at? path = value.inside? (path.map Turn.key) := by
  induction path generalizing value with
  | nil => rw [at?_nil, List.map_nil, inside?_nil]
  | cons key path ih =>
    cases value with
    | map entries =>
      rw [at?_map_cons, List.map_cons, inside?]
      exact congrArg _ (funext fun inner => ih inner)
    | _ => rfl

/-- What a value is apart from its texts and from what stands inside it. -/
inductive Frame where
  | keys (keys : List Key)
  | items (count : Nat)
  | text
  | other (value : Value)

/-- The frame of a value: the keys of a mapping in their order, the length of a list, and what is
neither of these nor a text as it is. -/
def frame : Value → Frame
  | .map entries => .keys (Entries.keys entries)
  | .list items => .items items.length
  | .text _ => .text
  | value => .other value

end Value

/-! ### The environment put in -/

section Environment

variable (env : Environment)

theorem Value.substItems_eq_map (items : List Value) :
    Value.substItems env items = items.map (Value.subst env) := by
  induction items with
  | nil => rfl
  | cons item items ih => rw [substItems, ih, List.map_cons]

namespace Entries

theorem subst_eq_map (entries : Entries) :
    subst env entries = entries.map fun entry => (entry.1, entry.2.subst env) := by
  induction entries with
  | nil => rfl
  | cons entry entries ih =>
    obtain ⟨key, value⟩ := entry
    rw [subst, ih, List.map_cons]

@[simp] theorem keys_subst (entries : Entries) : keys (subst env entries) = keys entries := by
  rw [subst_eq_map, keys, List.map_map]
  rfl

@[simp] theorem has_subst (entries : Entries) (key : Key) :
    has (subst env entries) key = has entries key := by
  rw [has_eq, get?_subst, Option.isSome_map, has_eq]

/-- Entries are chosen by their keys before and after. -/
theorem subst_filter (keep : Key → Bool) (entries : Entries) :
    subst env (entries.filter fun entry => keep entry.1) =
      (subst env entries).filter fun entry => keep entry.1 := by
  rw [subst_eq_map, subst_eq_map, List.filter_map]
  rfl

end Entries

namespace Value

/-- **What stands at a place** is what stood there, with the environment put in. -/
theorem inside?_subst (value : Value) (place : Place) :
    (value.subst env).inside? place = (value.inside? place).map (subst env) := by
  induction place generalizing value with
  | nil => rw [inside?_nil, inside?_nil, Option.map_some]
  | cons turn place ih =>
    cases turn with
    | key key =>
      cases value with
      | map entries =>
        rw [subst, inside?, inside?, Entries.get?_subst, Option.bind_map, Option.map_bind]
        exact congrArg _ (funext fun inner => ih inner)
      | _ => rfl
    | item index =>
      cases value with
      | list items =>
        rw [subst, inside?, inside?, substItems_eq_map, List.getElem?_map, Option.bind_map,
          Option.map_bind]
        exact congrArg _ (funext fun inner => ih inner)
      | _ => rfl
    | _ => cases value <;> rfl

/-- **The frame of a value** is the same afterwards. -/
theorem frame_subst (value : Value) : (value.subst env).frame = value.frame := by
  cases value with
  | map entries => exact congrArg Frame.keys (Entries.keys_subst env entries)
  | list items =>
    rw [subst, substItems_eq_map, frame, frame, List.length_map]
  | _ => rfl

end Value

/-! ### Layers -/

/-- What is no mapping becomes none. -/
theorem Value.plain_subst {value : Value} (plain : value.entries? = none) :
    (value.subst env).entries? = none := by
  rw [entries?_subst, plain, Option.map_none]

mutual

theorem Value.subst_under (lower upper : Value) :
    (lower.under upper).subst env = (lower.subst env).under (upper.subst env) := by
  cases lower with
  | map below =>
    obtain ⟨above, rfl⟩ | plain := upper.map_or_plain
    · have new := Entries.subst_filter env (fun key => !Entries.has below key) above
      have old := Entries.subst_covered below above
      rw [Entries.subst_eq_map] at old new
      rw [Value.under_map, Value.subst, Value.subst, Value.subst, Value.under_map, Entries.merge, Entries.merge,
        Entries.subst_eq_map, List.map_append, old, new]
      simp only [Entries.has_subst]
    · rw [Value.under_plain plain, Value.under_plain (Value.plain_subst env plain)]
  | _ => rfl

theorem Entries.subst_covered (lower upper : Entries) :
    Entries.subst env (Entries.covered lower upper) =
      Entries.covered (Entries.subst env lower) (Entries.subst env upper) := by
  cases lower with
  | nil => rfl
  | cons entry rest =>
    obtain ⟨key, value⟩ := entry
    rw [Entries.covered, Entries.subst, Entries.subst, Entries.covered,
      Entries.subst_covered rest upper, Entries.get?_subst]
    cases upper.get? key with
    | none => rfl
    | some laid => exact congrArg (fun changed => (key, changed) :: _) (Value.subst_under value laid)

end

namespace Entries

/-- **Laying one layer over another one** and putting the environment in can change places. -/
theorem subst_merge (lower upper : Entries) :
    subst env (lower.merge upper) = merge (subst env lower) (subst env upper) := by
  have laid := Value.subst_under env (.map lower) (.map upper)
  rw [Value.under_map, Value.subst, Value.subst, Value.subst, Value.under_map] at laid
  exact Value.map.inj laid

theorem subst_put (entries : Entries) (key : Key) (value : Value) :
    subst env (put entries key value) = put (subst env entries) key (value.subst env) := by
  induction entries with
  | nil => rfl
  | cons entry entries ih =>
    obtain ⟨head, held⟩ := entry
    rw [put, subst, put]
    split
    · rfl
    · rw [subst, ih]

/-- A change by one entry after the other, with the environment put in before or after. -/
theorem subst_foldl {change : Entries → Key × Value → Entries}
    (each : ∀ entries entry, subst env (change entries entry) =
      change (subst env entries) (entry.1, entry.2.subst env)) (entries changes : Entries) :
    subst env (changes.foldl change entries) =
      (subst env changes).foldl change (subst env entries) := by
  rw [subst_eq_map env changes, List.foldl_map]
  exact (List.foldl_hom (subst env) fun entries entry => (each entries entry).symm).symm

theorem subst_update (lower upper : Entries) :
    subst env (lower.update upper) = update (subst env lower) (subst env upper) :=
  subst_foldl env (fun entries entry => subst_put env entries entry.1 entry.2) lower upper

theorem subst_overridden (below? : Option Value) (laid : Value) :
    (Value.overridden below? laid).subst env =
      Value.overridden (below?.map (Value.subst env)) (laid.subst env) := by
  have below : (below?.map (Value.subst env)).bind Value.entries? =
      (below?.bind Value.entries?).map (subst env) := by
    rw [Option.bind_map, Option.map_bind]
    exact congrArg _ (funext fun value => Value.entries?_subst env value)
  unfold Value.overridden
  rw [below, Value.entries?_subst]
  cases below?.bind Value.entries? with
  | none => rfl
  | some lower =>
    cases laid.entries? with
    | none => rfl
    | some upper => exact congrArg Value.map (subst_update env lower upper)

theorem subst_overrideSection (entries : Entries) (part : Key × Value) :
    subst env (overrideSection entries part) =
      overrideSection (subst env entries) (part.1, part.2.subst env) := by
  rw [overrideSection_eq, overrideSection_eq, subst_put, subst_overridden, get?_subst]

theorem subst_override (entries overrides : Entries) :
    subst env (entries.override overrides) = override (subst env entries) (subst env overrides) :=
  subst_foldl env (subst_overrideSection env) entries overrides

/-- **Overrides and the environment put in** can change places, if every mapping that is updated
stands in one place. -/
theorem subst_overrideAll {entries overrides : Entries} {ties : Ties} (once : Once overrides)
    (alone : ties.Alone entries overrides) :
    subst env (entries.overrideAll ties overrides).1 =
      (overrideAll (subst env entries) [] (subst env overrides)).1 := by
  rw [overrideAll_alone once alone, subst_override, overrideAll_nil]

end Entries

/-! ### The environment put in twice -/

variable {env}

mutual

/-- **Putting a final environment in twice** is putting it in once. -/
theorem Value.subst_subst (final : env.Final) (value : Value) :
    (value.subst env).subst env = value.subst env := by
  cases value with
  | text t => exact congrArg Value.text (final.subst_subst t)
  | list items => exact congrArg Value.list (Value.substItems_substItems final items)
  | map entries => exact congrArg Value.map (Entries.subst_subst final entries)
  | _ => rfl

theorem Value.substItems_substItems (final : env.Final) (items : List Value) :
    Value.substItems env (Value.substItems env items) = Value.substItems env items := by
  cases items with
  | nil => rfl
  | cons item rest =>
    rw [Value.substItems, Value.substItems, Value.subst_subst final item,
      Value.substItems_substItems final rest]

theorem Entries.subst_subst (final : env.Final) (entries : Entries) :
    Entries.subst env (Entries.subst env entries) = Entries.subst env entries := by
  cases entries with
  | nil => rfl
  | cons entry rest =>
    obtain ⟨key, value⟩ := entry
    rw [Entries.subst, Entries.subst, Value.subst_subst final value,
      Entries.subst_subst final rest]

end

end Environment

/-- **The laws of putting the environment in.** What stands at a place is what stood there, with the
environment put in, whether the way there is given by turns or by keys: in the same frame, and a
text as what it stands for. It comes to the same to put the environment into a layer over another
one or into both before; for overrides too, if every mapping that they update stands in one place.
If the values of variables name no variables, it comes to the same to do it twice. -/
theorem Environment.subst_laws (env : Environment) :
    (∀ (value : Value) (place : Place),
      (value.subst env).inside? place = (value.inside? place).map (Value.subst env)) ∧
    (∀ (value : Value) (path : List Key),
      (value.subst env).at? path = (value.at? path).map (Value.subst env)) ∧
    (∀ (value : Value) (place : Place),
      ((value.subst env).inside? place).map Value.frame = (value.inside? place).map Value.frame) ∧
    (∀ (value : Value) (place : Place) (t : Text), value.inside? place = some (.text t) →
      (value.subst env).inside? place = some (.text (env.subst t))) ∧
    (∀ lower upper : Entries, Entries.subst env (lower.merge upper) =
      Entries.merge (Entries.subst env lower) (Entries.subst env upper)) ∧
    (∀ (entries overrides : Entries) (ties : Ties), overrides.Once → ties.Alone entries overrides →
      Entries.subst env (entries.overrideAll ties overrides).1 =
        (Entries.overrideAll (Entries.subst env entries) [] (Entries.subst env overrides)).1) ∧
    (env.Final → ∀ value : Value, (value.subst env).subst env = value.subst env) := by
  refine ⟨Value.inside?_subst env, ?path, ?frame, ?text, Entries.subst_merge env, ?overrides,
    fun final => Value.subst_subst final⟩
  case path =>
    intro value path
    rw [Value.at?_eq_inside?, Value.at?_eq_inside?, Value.inside?_subst]
  case frame =>
    intro value place
    rw [Value.inside?_subst, Option.map_map]
    exact congrArg (Option.map · _) (funext fun inner => Value.frame_subst env inner)
  case text =>
    intro value place t found
    rw [Value.inside?_subst, found]
    rfl
  case overrides =>
    exact fun entries overrides ties once alone => Entries.subst_overrideAll env once alone

namespace Environment

/-! ### Mappings in two places -/

/-- An environment with one variable. -/
def oneVariable : Environment := [("A", "1")]

theorem final_oneVariable : oneVariable.Final := by
  intro name held known other named
  rw [oneVariable, List.lookup_cons] at known
  split at known
  · obtain rfl := Option.some_inj.mp known
    cases named
  · cases known

/-- Overrides that update the mapping `custom`. -/
def customOverrides : Entries := [(.text "custom", .map [(.text "k", .int 2)])]

/-- A layer that names the variable in `custom` and in a list of `log`. -/
def tagsLayer : Entries :=
  let log := Value.map [(.text "tags", .list [.text "B", .text (reference "A")])]
  [(.text "custom", .map [(.text "k", .text (reference "A"))]), (.text "log", log),
    (.text "again", log)]

/-- Its mapping `log` is `again` as well. -/
def tagsTies : Ties := [[Place.ofKey (.text "log"), Place.ofKey (.text "again")]]

theorem alone_tags : tagsTies.Alone tagsLayer customOverrides := by
  intro part member lower upper _ _
  rw [List.mem_singleton.mp member]
  rfl

/-- The place of the text in the list that names the variable. -/
def tagPlace : Place := [.key (.text "log"), .key (.text "tags"), .item 1]

theorem subst_laws_tags :
    (Value.map tagsLayer).inside? tagPlace = some (.text (reference "A")) ∧
    ((Value.map tagsLayer).subst oneVariable).inside? tagPlace = some (.text "1") ∧
    customOverrides.Once ∧ tagsTies.Alone tagsLayer customOverrides ∧
    Entries.subst oneVariable (tagsLayer.overrideAll tagsTies customOverrides).1 =
      (Entries.overrideAll (Entries.subst oneVariable tagsLayer) []
        (Entries.subst oneVariable customOverrides)).1 ∧
    oneVariable.Final ∧
    ((Value.map tagsLayer).subst oneVariable).subst oneVariable =
      (Value.map tagsLayer).subst oneVariable := by
  obtain ⟨-, -, -, text, -, overrides, twice⟩ := subst_laws oneVariable
  have once : customOverrides.Once := by decide
  have known : oneVariable.lookup ("A" : Text) = some ("1" : Text) := rfl
  refine ⟨rfl, ?_, once, alone_tags, overrides _ _ _ once alone_tags, final_oneVariable,
    twice final_oneVariable _⟩
  rw [text _ tagPlace _ rfl, subst_reference known]

/-- A settings file in which the mapping `custom`, with the variable in it, is `other` as well. -/
def aliasText : Text := "custom: &x \x7bk: '$\x7bA\x7d'\x7d\nother: *x\n"

/-- **A mapping in two places is updated in both**, but in one of them only once the environment has
been put in. -/
theorem subst_overrideAll_ne : ∃ (lower : Entries) (ties : Ties),
    TiedValue.ofYaml 1 (Yaml.Supply.ofBytes (Utf8.encode aliasText)) = .ok ⟨.map lower, ties⟩ ∧
      customOverrides.Once ∧
      Entries.subst oneVariable (lower.overrideAll ties customOverrides).1 ≠
        (Entries.overrideAll (Entries.subst oneVariable lower) []
          (Entries.subst oneVariable customOverrides)).1 := by
  have computed : (Entries.ofYaml? aliasText).any (fun read => decide (
      (Value.map (Entries.subst oneVariable
        (read.1.overrideAll read.2 customOverrides).1)).literal ≠
      (Value.map (Entries.overrideAll (Entries.subst oneVariable read.1) []
        (Entries.subst oneVariable customOverrides)).1).literal)) = true := by
    decide +kernel
  obtain ⟨⟨lower, ties⟩, spelled, differ⟩ := (Option.any_eq_true _ _).mp computed
  refine ⟨lower, ties, Entries.of_ofYaml? spelled, by decide, fun same => ?_⟩
  rw [same] at differ
  exact of_decide_eq_true differ rfl

end Environment

end Scenarist
