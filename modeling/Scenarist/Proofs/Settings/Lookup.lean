/-
**What is found at a key.** Every way of putting settings together is told by what is then found at a
key: an entry that is put, an update, a layer over another one, the environment put in.
-/

import Scenarist.Settings.Layer

namespace Scenarist

/-! ### Keys -/

theorem Key.same_iff {k l : Key} : k.same l = true ↔ k.canonical = l.canonical :=
  decide_eq_true_iff

@[simp] theorem Key.same_refl (k : Key) : k.same k = true := Key.same_iff.mpr rfl

theorem Key.same_comm (k l : Key) : k.same l = l.same k := by
  rw [Bool.eq_iff_iff, Key.same_iff, Key.same_iff, eq_comm]

/-- What is the same as one of two keys that are one is the same as the other. -/
theorem Key.same_right {k l : Key} (same : k.same l = true) (m : Key) : m.same k = m.same l := by
  rw [Bool.eq_iff_iff, Key.same_iff, Key.same_iff, Key.same_iff.mp same]

/-- A text is one key only with itself. -/
theorem Key.same_text {k : Key} {t : Text} : k.same (.text t) = true ↔ k = .text t := by
  rw [Key.same_iff]
  cases k with
  | bool value => cases value <;> simp [Key.canonical]
  | real value => cases whole : value.integer? <;> simp [Key.canonical, whole]
  | _ => simp [Key.canonical]

namespace Entries

/-! ### One layer -/

@[simp] theorem get?_nil (key : Key) : get? [] key = none := rfl

theorem get?_cons (entry : Key × Value) (rest : Entries) (key : Key) :
    get? (entry :: rest) key = if entry.1.same key then some entry.2 else get? rest key := by
  unfold get?
  by_cases same : entry.1.same key = true <;> simp [same]

theorem get?_append (first second : Entries) (key : Key) :
    get? (first ++ second) key = (get? first key).or (get? second key) := by
  rw [get?, List.find?_append, Option.map_or]
  rfl

/-- The same is found at keys that are one. -/
theorem get?_congr {k l : Key} (same : k.same l = true) (entries : Entries) :
    get? entries k = get? entries l := by
  unfold get?
  simp only [Key.same_right same]

theorem has_eq (entries : Entries) (key : Key) : has entries key = (get? entries key).isSome := by
  rw [get?, Option.isSome_map, List.isSome_find?]
  rfl

theorem mem_of_get? {entries : Entries} {key : Key} {value : Value}
    (found : get? entries key = some value) : ∃ entry ∈ entries, entry.1.same key = true ∧
      entry.2 = value := by
  obtain ⟨entry, first, rfl⟩ := Option.map_eq_some_iff.mp found
  exact ⟨entry, List.mem_of_find?_eq_some first, by simpa using List.find?_some first, rfl⟩

/-- The same is found where only entries at other keys are left out. -/
theorem get?_filter {keep : Key × Value → Bool} {key : Key}
    (kept : ∀ entry : Key × Value, entry.1.same key = true → keep entry = true)
    (entries : Entries) : get? (entries.filter keep) key = get? entries key := by
  induction entries with
  | nil => rfl
  | cons entry entries ih =>
    rw [List.filter_cons]
    by_cases same : entry.1.same key = true
    · rw [if_pos (kept entry same), get?_cons, get?_cons, if_pos same, if_pos same]
    · split
      · rw [get?_cons, get?_cons, if_neg same, if_neg same, ih]
      · rw [get?_cons, if_neg same, ih]

/-- Where the values at one key are changed, the changed one is found there. -/
theorem get?_change (entries : Entries) (at' key : Key) (change : Value → Value) :
    get? (entries.map fun entry =>
      if entry.1.same at' then (entry.1, change entry.2) else entry) key =
      if key.same at' then (get? entries key).map change else get? entries key := by
  induction entries with
  | nil => simp
  | cons entry entries ih =>
    rw [List.map_cons, get?_cons, get?_cons, ih]
    by_cases here : entry.1.same key = true
    · have both : entry.1.same at' = key.same at' := by
        rw [Key.same_comm, Key.same_right here, Key.same_comm]
      by_cases same : key.same at' = true <;> simp [here, both, same]
    · by_cases same : entry.1.same at' = true <;> by_cases other : key.same at' = true <;>
        simp [here, same, other]

/-! ### Entries put in -/

theorem get?_put (entries : Entries) (key other : Key) (value : Value) :
    get? (put entries key value) other =
      if key.same other then some value else get? entries other := by
  induction entries with
  | nil => rw [put, get?_cons]
  | cons entry entries ih =>
    rw [put]
    by_cases same : entry.1.same key = true
    · have both : entry.1.same other = key.same other := by
        rw [Key.same_comm, Key.same_right same, Key.same_comm]
      rw [if_pos same, get?_cons, get?_cons, both]
      by_cases here : key.same other = true <;> simp [here]
    · rw [if_neg same, get?_cons, get?_cons, ih]
      by_cases here : entry.1.same other = true
      · have apart : key.same other = false := by
          rw [← Bool.not_eq_true, ← Key.same_right here, Key.same_comm]
          exact same
        simp [here, apart]
      · simp [here]

/-- No key is there twice. -/
def Once (entries : Entries) : Prop := entries.Pairwise fun a b => a.1.same b.1 = false

instance (entries : Entries) : Decidable entries.Once := inferInstanceAs (Decidable (List.Pairwise ..))

/-- In a layer that has every key once each entry is the one that is found. -/
theorem Once.get?_of_mem {entries : Entries} (once : Once entries) {entry : Key × Value}
    (member : entry ∈ entries) : entries.get? entry.1 = some entry.2 := by
  induction entries with
  | nil => cases member
  | cons first rest ih =>
    obtain ⟨apart, onceBelow⟩ := List.pairwise_cons.mp once
    rw [get?_cons]
    rcases List.mem_cons.mp member with rfl | below
    · rw [if_pos (Key.same_refl entry.1)]
    · rw [apart entry below, if_neg Bool.false_ne_true, ih onceBelow below]

/-- Below the entry of a key nothing is found at it. -/
theorem Once.get?_tail {entry : Key × Value} {rest : Entries} (once : Once (entry :: rest))
    {key : Key} (same : entry.1.same key = true) : get? rest key = none := by
  rw [← get?_congr same, get?, Option.map_eq_none_iff, List.find?_eq_none]
  intro other member
  rw [Key.same_comm, (List.pairwise_cons.mp once).1 other member]
  exact Bool.false_ne_true

/-- **After an update the new entries are found, and where there is none, the old ones.** -/
theorem get?_update {upper : Entries} (once : Once upper) (lower : Entries) (key : Key) :
    get? (update lower upper) key = (get? upper key).or (get? lower key) := by
  unfold update
  induction upper generalizing lower with
  | nil => rfl
  | cons entry upper ih =>
    rw [List.foldl_cons, ih (List.Pairwise.of_cons once), get?_put, get?_cons]
    by_cases same : entry.1.same key = true
    · simp [same, once.get?_tail same]
    · simp [same]

/-! ### A layer over another one -/

theorem get?_covered (lower upper : Entries) (key : Key) :
    get? (covered lower upper) key = (get? lower key).map fun value =>
      match get? upper key with
      | some laid => value.under laid
      | none => value := by
  induction lower with
  | nil => rfl
  | cons entry lower ih =>
    obtain ⟨head, value⟩ := entry
    rw [covered, get?_cons, get?_cons, ih]
    by_cases same : head.same key = true
    · rw [if_pos same, if_pos same, get?_congr same]
      rfl
    · rw [if_neg same, if_neg same]

/-- **In a layer over another one** the value of the upper layer is found, over that of the lower one
if both have one. -/
theorem get?_merge (lower upper : Entries) (key : Key) :
    get? (merge lower upper) key =
      match get? lower key, get? upper key with
      | some value, some laid => some (value.under laid)
      | some value, none => some value
      | none, laid => laid := by
  rw [merge, get?_append, get?_covered]
  cases below : get? lower key with
  | some value => cases get? upper key <;> rfl
  | none =>
    have absent (entry : Key × Value) (same : entry.1.same key = true) :
        (!has lower entry.1) = true := by
      rw [has_eq, get?_congr same, below]
      rfl
    rw [Option.map_none, Option.none_or, get?_filter absent]

theorem covered_nil (lower : Entries) : covered lower [] = lower := by
  induction lower with
  | nil => rfl
  | cons entry lower ih => rw [covered, ih, get?_nil]

/-- An empty layer changes nothing. -/
@[simp] theorem merge_nil (lower : Entries) : merge lower [] = lower := by
  rw [merge, covered_nil, List.filter_nil, List.append_nil]

/-! ### The environment put in -/

theorem get?_subst (env : Environment) (entries : Entries) (key : Key) :
    get? (subst env entries) key = (get? entries key).map (Value.subst env) := by
  induction entries with
  | nil => rfl
  | cons entry entries ih =>
    obtain ⟨head, value⟩ := entry
    rw [subst, get?_cons, get?_cons, ih]
    split <;> rfl

end Entries

/-- A mapping stays one when the environment is put in, and nothing else becomes one. -/
theorem Value.entries?_subst (env : Environment) (value : Value) :
    (value.subst env).entries? = value.entries?.map (Entries.subst env) := by
  cases value <;> simp [Value.subst, Value.entries?]

end Scenarist
