/-
**What a layer over another one has at a path of keys.** The walk along the path in the upper layer
decides. Where it arrives, what it finds is laid over what the lower layer has there, if it has
anything (`Value.at?_under`); where it stops at a mapping, the lower layer goes on
(`Entries.at?_merge_absent`), and where it stops at anything else, nothing is behind that
(`Entries.at?_merge_plain`). A layer that adds no key and changes no value changes nothing
(`Entries.merge_eq_self`), so that laying a settled layer over itself, or twice over another one, is
idle.
-/

import Scenarist.Proofs.Settings.Setting
import Scenarist.Proofs.Settings.Settled

namespace Scenarist

namespace Value

/-! ### One value over another one -/

/-- A value is a mapping or none. -/
theorem map_or_plain (value : Value) :
    (∃ entries : Entries, value = .map entries) ∨ value.entries? = none := by
  cases value with
  | map entries => exact Or.inl ⟨entries, rfl⟩
  | _ => exact Or.inr rfl

/-- Of mappings the layers are merged. -/
theorem under_map (lower upper : Entries) :
    (map lower).under (map upper) = .map (lower.merge upper) := by
  rw [under]
  rfl

/-- What is no mapping hides what is under it. -/
theorem under_plain {laid : Value} (plain : laid.entries? = none) (value : Value) :
    value.under laid = laid := by
  cases laid with
  | map entries => cases plain
  | _ => cases value <;> rfl

/-! ### Walks along a path -/

@[simp] theorem at?_nil (value : Value) : value.at? [] = some value := by
  cases value <;> rfl

theorem at?_map_cons (entries : Entries) (key : Key) (path : List Key) :
    (map entries).at? (key :: path) = (entries.get? key).bind (·.at? path) := by
  rw [at?]
  cases entries.get? key <;> rfl

/-- Only in a mapping a walk goes on. -/
theorem at?_cons_of_plain {value : Value} (plain : value.entries? = none) (key : Key)
    (path : List Key) : value.at? (key :: path) = none := by
  cases value with
  | map entries => cases plain
  | _ => rfl

/-- A walk along two paths in a row goes on where the first one arrives. -/
theorem at?_append (value : Value) (path rest : List Key) :
    value.at? (path ++ rest) = (value.at? path).bind (·.at? rest) := by
  induction path generalizing value with
  | nil => rw [List.nil_append, at?_nil, Option.bind_some]
  | cons key path ih =>
    obtain ⟨entries, rfl⟩ | plain := value.map_or_plain
    · rw [List.cons_append, at?_map_cons, at?_map_cons, Option.bind_assoc]
      exact congrArg _ (funext fun inner => ih inner)
    · rw [List.cons_append, at?_cons_of_plain plain, at?_cons_of_plain plain, Option.bind_none]

/-- The walk along the path stops: it comes before a key to a value that has nothing there, because
it is no mapping or does not have the key. -/
def Stops (value : Value) (path : List Key) : Prop :=
  ∃ front key rest, path = front ++ key :: rest ∧ ∃ found, value.at? front = some found ∧
    ∀ inner : Entries, found = .map inner → inner.get? key = none

/-- A walk that stops does so behind a first key as well. -/
theorem Stops.cons {value inner : Value} {key : Key}
    (onward : ∀ path, value.at? (key :: path) = inner.at? path) {path : List Key}
    (stops : inner.Stops path) : value.Stops (key :: path) := by
  obtain ⟨front, other, rest, rfl, found, arrives, absent⟩ := stops
  exact ⟨key :: front, other, rest, rfl, found, (onward front).trans arrives, absent⟩

/-- A walk arrives or stops. -/
theorem at?_some_or_stops (value : Value) (path : List Key) :
    (∃ found, value.at? path = some found) ∨ value.Stops path := by
  induction path generalizing value with
  | nil => exact Or.inl ⟨value, at?_nil value⟩
  | cons key path ih =>
    by_cases here : ∀ inner : Entries, value = .map inner → inner.get? key = none
    · exact Or.inr ⟨[], key, path, rfl, value, at?_nil value, here⟩
    · simp only [not_forall] at here
      obtain ⟨entries, rfl, next⟩ := here
      obtain ⟨inner, next⟩ := Option.ne_none_iff_exists'.mp next
      have onward (more : List Key) : (map entries).at? (key :: more) = inner.at? more := by
        rw [at?_map_cons, next, Option.bind_some]
      rw [onward]
      exact (ih inner).imp_right (Stops.cons onward)

/-- **Where the walk arrives in the upper value**, what it finds is laid over what the lower one has
there. -/
theorem at?_under {below above laid : Value} {path : List Key}
    (found : above.at? path = some laid) :
    (below.under above).at? path = some (((below.at? path).map (·.under laid)).getD laid) := by
  -- both values change along the path: the lower one is walked through as far as it has the keys
  induction path generalizing below above with
  | nil =>
    obtain rfl := Option.some_inj.mp ((at?_nil above).symm.trans found)
    rw [at?_nil, at?_nil]
    rfl
  | cons key path ih =>
    obtain ⟨upper, rfl⟩ | plain := above.map_or_plain
    · obtain ⟨inner, here, onward⟩ :=
        Option.bind_eq_some_iff.mp ((at?_map_cons upper key path).symm.trans found)
      obtain ⟨lower, rfl⟩ | plain := below.map_or_plain
      · rw [under_map, at?_map_cons, at?_map_cons, Entries.get?_merge, here]
        cases lower.get? key with
        | none => exact onward
        | some value => exact ih onward
      · rw [under_of_plain plain, at?_cons_of_plain plain, found]
        rfl
    · rw [at?_cons_of_plain plain] at found
      cases found

end Value

namespace Entries

/-- What a layer has at a path of keys. -/
def at? (entries : Entries) (path : List Key) : Option Value := (Value.map entries).at? path

theorem at?_append (entries : Entries) (front rest : List Key) :
    entries.at? (front ++ rest) = (entries.at? front).bind (·.at? rest) :=
  Value.at?_append _ front rest

section Paths

variable {lower upper : Entries} {path front : List Key} {key : Key}

theorem at?_merge {laid : Value} (found : upper.at? path = some laid) :
    (lower.merge upper).at? path =
      some (((lower.at? path).map (·.under laid)).getD laid) := by
  rw [at?, ← Value.under_map]
  exact Value.at?_under found

/-- **What is no mapping in the upper layer is there**, and nothing behind it. -/
theorem at?_merge_plain {laid : Value} (found : upper.at? path = some laid)
    (plain : laid.entries? = none) :
    (lower.merge upper).at? path = some laid ∧
    ∀ key rest, (lower.merge upper).at? (path ++ key :: rest) = none := by
  have here : (lower.merge upper).at? path = some laid := by
    rw [at?_merge found]
    cases lower.at? path with
    | none => rfl
    | some value => exact congrArg some (Value.under_plain plain value)
  refine ⟨here, fun key rest => ?_⟩
  rw [at?_append, here, Option.bind_some, Value.at?_cons_of_plain plain]

/-- **A mapping in the upper layer** is merged with the one of the lower layer, if there is one. -/
theorem at?_merge_map {above : Entries} (found : upper.at? path = some (.map above)) :
    (∀ below, lower.at? path = some (.map below) →
      (lower.merge upper).at? path = some (.map (merge below above))) ∧
    ((∀ below, lower.at? path ≠ some (.map below)) →
      (lower.merge upper).at? path = some (.map above)) := by
  rw [at?_merge found]
  refine ⟨fun below under => ?_, fun none => ?_⟩
  · rw [under]
    exact congrArg some (Value.under_map below above)
  · cases under : lower.at? path with
    | none => rfl
    | some value =>
      obtain ⟨below, rfl⟩ | plain := value.map_or_plain
      · exact absurd under (none below)
      · exact congrArg some (Value.under_of_plain plain _)

/-- **Where a mapping of the upper layer lacks the next key**, the lower layer is kept. -/
theorem at?_merge_absent {above : Entries} (found : upper.at? front = some (.map above))
    (absent : above.get? key = none) (rest : List Key) :
    (lower.merge upper).at? (front ++ key :: rest) = lower.at? (front ++ key :: rest) := by
  have blocked : (Value.map above).at? (key :: rest) = none := by
    rw [Value.at?_map_cons, absent, Option.bind_none]
  rw [at?_append, at?_append, at?_merge found]
  cases lower.at? front with
  | none => exact blocked
  | some value =>
    rw [Option.map_some, Option.getD_some, Option.bind_some, Option.bind_some]
    obtain ⟨below, rfl⟩ | plain := value.map_or_plain
    · have same : (below.merge above).get? key = below.get? key := by
        rw [get?_merge, absent]
        cases below.get? key <;> rfl
      rw [Value.under_map, Value.at?_map_cons, Value.at?_map_cons, same]
    · rw [Value.under_of_plain plain, blocked, Value.at?_cons_of_plain plain]

end Paths

/-! ### The order of keys -/

/-- The keys of a layer, in their order. -/
def keys (entries : Entries) : List Key := entries.map (·.1)

theorem covered_eq_map (lower upper : Entries) :
    covered lower upper = lower.map fun entry =>
      (entry.1, ((upper.get? entry.1).map entry.2.under).getD entry.2) := by
  induction lower with
  | nil => rfl
  | cons entry lower ih =>
    rw [covered, ih, List.map_cons]
    cases upper.get? entry.1 <;> rfl

/-- **The keys of the lower layer come first, then the new ones of the upper one.** -/
theorem keys_merge (lower upper : Entries) :
    (lower.merge upper).keys = lower.keys ++ upper.keys.filter fun key => !lower.has key := by
  rw [keys, merge, covered_eq_map, List.map_append, List.map_map, keys, keys, List.filter_map]
  rfl

/-! ### Layers that change nothing -/

/-- A layer that adds no key and changes no value changes nothing. -/
theorem merge_eq_self {lower upper : Entries} (present : ∀ entry ∈ upper, lower.has entry.1 = true)
    (same : ∀ entry ∈ lower, ∀ laid, upper.get? entry.1 = some laid →
      entry.2.under laid = entry.2) : lower.merge upper = lower := by
  have old : covered lower upper = lower := by
    rw [covered_eq_map]
    refine (List.map_congr_left fun entry member => ?_).trans lower.map_id
    cases laid : upper.get? entry.1 with
    | none => rfl
    | some value => exact congrArg (Prod.mk entry.1) (same entry member value laid)
  have new : upper.filter (fun entry => !lower.has entry.1) = [] :=
    List.filter_eq_nil_iff.mpr fun entry member => by simp [present entry member]
  rw [merge, old, new, List.append_nil]

/-- Over nothing a layer is itself. -/
theorem nil_merge (upper : Entries) : merge [] upper = upper :=
  List.filter_eq_self.mpr fun _ _ => rfl

end Entries

namespace Value.Settled

open Entries (Once)

/-- A settled value over itself is itself. -/
theorem under_self {value : Value} (settled : value.Settled) : value.under value = value := by
  induction settled with
  | plain noMapping => exact under_plain noMapping _
  | @map entries once inner ih =>
    rw [under_map]
    refine congrArg Value.map (Entries.merge_eq_self (fun entry member => ?_) ?_)
    · rw [Entries.has_eq, once.get?_of_mem member]
      rfl
    · intro entry member laid found
      obtain rfl := Option.some_inj.mp ((once.get?_of_mem member).symm.trans found)
      exact ih entry member

/-- **A settled value over another one a second time** changes nothing more. -/
theorem under_under {upper : Value} (settled : upper.Settled) (lower : Value) :
    (lower.under upper).under upper = lower.under upper := by
  induction settled generalizing lower with
  | plain noMapping => rw [under_plain noMapping, under_plain noMapping]
  | @map above once inner ih =>
    obtain ⟨below, rfl⟩ | plain := lower.map_or_plain
    · rw [under_map, under_map]
      refine congrArg Value.map (Entries.merge_eq_self (fun entry member => ?_) ?_)
      · rw [Entries.has_eq, Entries.get?_merge, once.get?_of_mem member]
        cases Entries.get? below entry.1 <;> rfl
      · intro entry member laid found
        rw [Entries.merge, Entries.covered_eq_map] at member
        -- an entry of the lower layer is laid over already, one of the upper layer is itself
        rcases List.mem_append.mp member with old | new
        · obtain ⟨entry, -, rfl⟩ := List.mem_map.mp old
          obtain ⟨there, among, -, rfl⟩ := Entries.mem_of_get? found
          rw [found]
          exact ih there among entry.2
        · have among : entry ∈ above := (List.mem_filter.mp new).1
          obtain rfl := Option.some_inj.mp ((once.get?_of_mem among).symm.trans found)
          exact (inner entry among).under_self
    · rw [under_of_plain plain]
      exact under_self (.map once inner)

end Value.Settled

namespace Entries

/-- **The laws of a layer over another one.** What the walk along a path finds in the upper layer
decides what is there in the merged one: a value that is no mapping is there, and nothing behind it;
where a mapping lacks the next key, the lower layer is kept; a mapping is merged with the one of the
lower layer, the keys of that one first, or is there as it is if that has none; and these are all the
ways in which a walk can end. So an empty layer changes nothing, over an empty one a layer is itself,
and a settled layer changes nothing over itself, nor a second time over another one. -/
theorem merge_laws (lower upper : Entries) :
    (∀ path laid, upper.at? path = some laid → laid.entries? = none →
      (lower.merge upper).at? path = some laid) ∧
    (∀ front key rest laid, upper.at? front = some laid → laid.entries? = none →
      (lower.merge upper).at? (front ++ key :: rest) = none) ∧
    (∀ front key rest above, upper.at? front = some (.map above) → get? above key = none →
      (lower.merge upper).at? (front ++ key :: rest) = lower.at? (front ++ key :: rest)) ∧
    (∀ path above, upper.at? path = some (.map above) →
      (∀ below, lower.at? path = some (.map below) →
        (lower.merge upper).at? path = some (.map (merge below above)) ∧
        keys (merge below above) = keys below ++ (keys above).filter fun key => !has below key) ∧
      ((∀ below, lower.at? path ≠ some (.map below)) →
        (lower.merge upper).at? path = some (.map above))) ∧
    (∀ path, (∃ laid, upper.at? path = some laid) ∨ (Value.map upper).Stops path) ∧
    lower.merge [] = lower ∧
    merge [] upper = upper ∧
    ((Value.map lower).Settled → lower.merge lower = lower) ∧
    ((Value.map upper).Settled → (lower.merge upper).merge upper = lower.merge upper) := by
  refine ⟨?plain, ?behind, ?absent, ?mapping, ?all, merge_nil lower, nil_merge upper, ?self, ?twice⟩
  case plain => exact fun path laid found plain => (at?_merge_plain found plain).1
  case behind => exact fun front key rest laid found plain => (at?_merge_plain found plain).2 key rest
  case absent => exact fun front key rest above found absent => at?_merge_absent found absent rest
  case mapping =>
    intro path above found
    refine ⟨fun below under => ⟨?_, keys_merge below above⟩, (at?_merge_map found).2⟩
    exact (at?_merge_map found).1 below under
  case all => exact (Value.map upper).at?_some_or_stops
  case self =>
    intro settled
    have same := settled.under_self
    rw [Value.under_map] at same
    exact Value.map.inj same
  case twice =>
    intro settled
    have same := settled.under_under (.map lower)
    rw [Value.under_map, Value.under_map] at same
    exact Value.map.inj same

/-- A layer to be laid over. -/
def groundLayer : Entries :=
  [(.text "log", .map [(.text "level", .text "INFO")]),
   (.text "paths", .map [(.text "output", .text "generated"), (.text "features", .text "features")])]

/-- A layer that is laid over it: a text over a mapping, and a mapping with a new key. -/
def upperLayer : Entries :=
  [(.text "paths", .map [(.text "cache", .null), (.text "output", .text "out")]),
   (.text "log", .text "DEBUG")]

theorem settled_upperLayer : (Value.map upperLayer).Settled := by
  have paths : (Value.map [(.text "cache", .null), (.text "output", .text "out")]).Settled :=
    .map (by decide)
      (List.forall_mem_cons.mpr ⟨.plain rfl, List.forall_mem_singleton.mpr (.plain rfl)⟩)
  exact .map (by decide)
    (List.forall_mem_cons.mpr ⟨paths, List.forall_mem_singleton.mpr (.plain rfl)⟩)

theorem merge_laws_sample :
    (groundLayer.merge upperLayer).at? [.text "log"] = some (.text "DEBUG") ∧
    (groundLayer.merge upperLayer).at? [.text "log", .text "level"] = none ∧
    (groundLayer.merge upperLayer).at? [.text "paths", .text "features"] =
      groundLayer.at? [.text "paths", .text "features"] ∧
    (groundLayer.merge upperLayer).at? [.text "paths"] =
      some (.map (merge [(.text "output", .text "generated"), (.text "features", .text "features")]
        [(.text "cache", .null), (.text "output", .text "out")])) ∧
    upperLayer.merge upperLayer = upperLayer ∧
    (groundLayer.merge upperLayer).merge upperLayer = groundLayer.merge upperLayer := by
  have laws := merge_laws groundLayer upperLayer
  obtain ⟨plain, behind, absent, mapping, -, -, -, -, twice⟩ := laws
  have itself := (merge_laws upperLayer upperLayer).2.2.2.2.2.2.2.1 settled_upperLayer
  refine ⟨plain [.text "log"] (.text "DEBUG") rfl rfl, ?_, ?_, ?_, itself, twice settled_upperLayer⟩
  · exact behind [.text "log"] (.text "level") [] (.text "DEBUG") rfl rfl
  · exact absent [.text "paths"] (.text "features") [] _ rfl rfl
  · exact ((mapping [.text "paths"] _ rfl).1 _ rfl).1

end Entries

end Scenarist
