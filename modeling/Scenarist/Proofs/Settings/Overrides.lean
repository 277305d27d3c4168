/-
**Overrides of a setting.** Overrides change their own places, and with a mapping that stands in
several places all of those (`Entries.overrideTied`). A setting of the layer below is left alone by
this unless it holds such a mapping, so that the overrides come before the layer below and nothing
else of it is seen (`Entries.overrideAll_flat`). Where every mapping that is updated stands in one
place, the overrides change their own places only (`Entries.overrideAll_alone`).
-/

import Scenarist.Proofs.Settings.Setting
import Scenarist.Settings.Parse
import Scenarist.Settings.Tie

namespace Scenarist

/-- The place of a part of the settings. -/
def Place.ofPart (part : Text) : Place := [.key (.text part)]

/-- The place of a setting. -/
def Place.ofSetting (part name : Text) : Place := [.key (.text part), .key (.text name)]

namespace Ties

/-- The other places of a mapping are places of a group. -/
theorem mem_of_mem_others {ties : Ties} {place other : Place} (member : other ∈ ties.others place) :
    ∃ group ∈ ties, place ∈ group ∧ other ∈ group := by
  rw [others, List.mem_filter] at member
  cases found : ties.find? fun group => group.contains place with
  | none =>
    rw [found] at member
    cases member.1
  | some group =>
    rw [found] at member
    exact ⟨group, List.mem_of_find?_eq_some found, by simpa using List.find?_some found, member.1⟩

theorem others_cons (group : List Place) (ties : Ties) (place : Place) :
    others (group :: ties) place =
      if place ∈ group then group.filter (· != place) else others ties place := by
  by_cases member : place ∈ group <;> simp [others, member]

/-- Where places are left out, no other places come in. -/
theorem others_filter (keep : Place → Bool) (ties : Ties) (place : Place) :
    others (ties.map (·.filter keep)) place ⊆ others ties place := by
  by_cases kept : keep place = true
  · induction ties with
    | nil => exact fun _ member => member
    | cons group ties ih =>
      rw [List.map_cons, others_cons, others_cons]
      have same : place ∈ group.filter keep ↔ place ∈ group := by
        rw [List.mem_filter, and_iff_left kept]
      by_cases member : place ∈ group
      · rw [if_pos member, if_pos (same.mpr member)]
        intro other inside
        rw [List.mem_filter, List.mem_filter] at inside
        exact List.mem_filter.mpr ⟨inside.1.1, inside.2⟩
      · rw [if_neg member, if_neg (same.not.mpr member)]
        exact ih
  · intro other member
    obtain ⟨group, among, here, -⟩ := mem_of_mem_others member
    obtain ⟨whole, -, rfl⟩ := List.mem_map.mp among
    exact absurd (List.mem_filter.mp here).2 kept

/-- Neither the settings nor the part of them stands in several places. -/
def Clear (ties : Ties) (part : Text) : Prop :=
  ∀ group ∈ ties, ∀ place ∈ group, ¬ place <+: Place.ofPart part

theorem Clear.filter {ties : Ties} {part : Text} (clear : ties.Clear part)
    (keep : Place → Bool) : Clear (ties.map (·.filter keep)) part := by
  intro group among place member
  obtain ⟨whole, inTies, rfl⟩ := List.mem_map.mp among
  exact clear whole inTies place (List.mem_filter.mp member).1

/-- Over a lower layer with a mapping at the part, the part stands in one place. -/
theorem clear_above (ties : Ties) {lower inner : Entries} {part : Text}
    (found : lower.get? (.text part) = some (.map inner)) : (ties.above lower).Clear part := by
  intro group among place member within
  obtain ⟨whole, -, rfl⟩ := List.mem_map.mp among
  have isNew := (List.mem_filter.mp member).2
  rcases List.prefix_cons_iff.mp within with rfl | ⟨below, rfl, nothing⟩
  · simp [hasMapping, Value.entries?] at isNew
  · rw [List.prefix_nil.mp nothing] at isNew
    simp [hasMapping, Value.entries?, found] at isNew

/-- An override changes the setting as well: a mapping that it updates stands inside the setting. -/
def Leak (ties : Ties) (overrides : Entries) (part name : Text) : Prop :=
  ∃ entry ∈ overrides, ∃ other ∈ ties.others (Place.ofKey entry.1),
    Place.ofSetting part name <+: other

instance (ties : Ties) (overrides : Entries) (part name : Text) :
    Decidable (ties.Leak overrides part name) :=
  inferInstanceAs (Decidable (∃ entry ∈ overrides, ∃ other ∈ ties.others (Place.ofKey entry.1),
    Place.ofSetting part name <+: other))

end Ties

namespace Entries

variable {entries overrides : Entries} {part name : Text}

/-! ### A change in another place -/

/-- The key at the part is the part. -/
theorem same_text {key : Key} (same : (Key.text part).same key = true) : key = .text part := by
  rw [Key.same_comm] at same
  exact Key.same_text.mp same

/-- **A change in a place apart from a setting** leaves the setting as it is. -/
theorem Flat.changeAt (flat : entries.Flat part name) (change : Entries → Entries) {place : Place}
    (above : ¬ place <+: Place.ofPart part) (below : ¬ Place.ofSetting part name <+: place) :
    ∃ changed, (Value.map entries).changeAt change place = .map changed ∧
      Flat changed part name ∧ setting? changed part name = setting? entries part name := by
  cases place with
  | nil => exact absurd List.nil_prefix above
  | cons turn rest =>
    cases turn with
    | key key =>
      refine ⟨_, rfl, ?_⟩
      have found := get?_change entries key (.text part) (Value.changeAt change rest)
      by_cases here : (Key.text part).same key = true
      · obtain rfl := same_text here
        rw [if_pos here] at found
        rcases flat.absent_or_found with absent | ⟨inner, whole, plain⟩
        · rw [absent] at found
          exact ⟨flat.congr (found.trans absent.symm), setting?_congr (found.trans absent.symm)⟩
        · rw [whole, Option.map_some] at found
          -- inside the part, a way to another name or to no name
          have inside : ∃ changed, Value.changeAt change rest (.map inner) = .map changed ∧
              get? changed (.text name) = get? inner (.text name) := by
            cases rest with
            | nil => exact absurd (List.prefix_refl _) above
            | cons turn rest =>
              cases turn with
              | key key =>
                refine ⟨_, rfl, ?_⟩
                rw [get?_change, if_neg]
                intro named
                obtain rfl := same_text named
                exact below ⟨rest, rfl⟩
              | _ => exact ⟨inner, rfl, rfl⟩
          obtain ⟨changed, changes, same⟩ := inside
          rw [changes] at found
          rw [setting?_eq found, setting?_eq whole]
          exact ⟨Flat.of_found found fun value at' => plain value (same ▸ at'), same⟩
      · rw [if_neg here] at found
        exact ⟨flat.congr found, setting?_congr found⟩
    | _ => exact ⟨entries, rfl, flat, rfl⟩

/-- Changes in places apart from a setting leave the setting as it is. -/
theorem Flat.changeAll (flat : entries.Flat part name) (change : Entries → Entries)
    {places : List Place} (above : ∀ place ∈ places, ¬ place <+: Place.ofPart part)
    (below : ∀ place ∈ places, ¬ Place.ofSetting part name <+: place) :
    ∃ changed, places.foldl (fun value place => value.changeAt change place) (Value.map entries) =
        .map changed ∧
      Flat changed part name ∧ setting? changed part name = setting? entries part name := by
  induction places generalizing entries with
  | nil => exact ⟨entries, rfl, flat, rfl⟩
  | cons place places ih =>
    obtain ⟨middle, first, middleFlat, middleSame⟩ :=
      flat.changeAt change (above place List.mem_cons_self) (below place List.mem_cons_self)
    obtain ⟨changed, others, changedFlat, changedSame⟩ := ih middleFlat
      (fun other member => above other (List.mem_cons_of_mem _ member))
      (fun other member => below other (List.mem_cons_of_mem _ member))
    refine ⟨changed, ?_, changedFlat, changedSame.trans middleSame⟩
    rw [List.foldl_cons, first, others]

/-! ### One section of overrides -/

section Section

variable {key : Key} {value : Value}

/-- A section takes the place of what was there, unless both are mappings. -/
theorem overrideTied_replace (ties : Ties)
    (plain : ∀ lower upper, get? entries key = some (.map lower) → value ≠ .map upper) :
    ∃ gone, overrideTied (entries, ties) (key, value) = (put entries key value, ties.cut gone) := by
  refine ⟨[Place.ofKey key], ?_⟩
  cases below : (get? entries key).bind Value.entries? with
  | none => simp only [overrideTied, overrideSection, below]
  | some lower =>
    cases laid : value.entries? with
    | none => simp only [overrideTied, overrideSection, below, laid]
    | some upper =>
      obtain ⟨there, found, isMap⟩ := Option.bind_eq_some_iff.mp below
      rw [Value.entries?_eq_some.mp isMap] at found
      exact absurd (Value.entries?_eq_some.mp laid) (plain lower upper found)

/-- A mapping over a mapping updates it, and it is updated in all its other places. -/
theorem overrideTied_update (ties : Ties) {lower : Entries} (upper : Entries)
    (below : get? entries key = some (.map lower)) :
    ∃ gone, overrideTied (entries, ties) (key, .map upper) =
      ((((ties.others (Place.ofKey key)).foldl
          (fun value place => value.changeAt (·.update upper) place)
          (Value.map (put entries key (.map (lower.update upper))))).entries?).getD [],
        ties.cut gone) := by
  refine ⟨(Place.ofKey key :: ties.others (Place.ofKey key)).flatMap fun place =>
    upper.map fun entry => place ++ Place.ofKey entry.1, ?_⟩
  simp only [overrideTied, overrideSection, below, Option.bind_some, Value.entries?]

variable {ties : Ties} (flat : entries.Flat part name) (clear : ties.Clear part)
include flat clear

/-- A mapping laid over the part of a setting comes before what is there. -/
theorem overrideTied_part {upper : Entries} (once : Once upper)
    (plain : ∀ inner, get? upper (.text name) = some inner → inner.entries? = none) :
    ∃ changed gone, overrideTied (entries, ties) (.text part, .map upper) =
        (changed, ties.cut gone) ∧
      Flat changed part name ∧ setting? changed part name =
        (get? upper (.text name)).or (setting? entries part name) := by
  rcases flat.absent_or_found with absent | ⟨lower, below, lowerPlain⟩
  · have nothing (lower above : Entries) (there : get? entries (.text part) = some (.map lower)) :
        Value.map upper ≠ .map above := by
      rw [absent] at there
      cases there
    obtain ⟨gone, replaced⟩ := overrideTied_replace ties nothing
    have changed := get?_put entries (.text part) (.text part) (.map upper)
    rw [if_pos (Key.same_refl _)] at changed
    rw [setting?_eq_none absent, Option.or_none]
    exact ⟨_, gone, replaced, Flat.of_found changed plain, setting?_eq changed⟩
  · -- the part stands in one place, so nothing else is changed
    have alone : ties.others (Place.ofKey (.text part)) = [] := by
      refine List.eq_nil_iff_forall_not_mem.mpr fun other member => ?_
      obtain ⟨group, among, within, -⟩ := Ties.mem_of_mem_others member
      exact clear group among _ within (List.prefix_refl _)
    obtain ⟨gone, updated⟩ := overrideTied_update ties upper below
    rw [alone] at updated
    have changed := get?_put entries (.text part) (.text part) (.map (update lower upper))
    rw [if_pos (Key.same_refl _)] at changed
    have updates := get?_update once lower (.text name)
    refine ⟨_, gone, updated, Flat.of_found changed fun value inside => ?_, ?_⟩
    · rw [updates, Option.or_eq_some_iff] at inside
      rcases inside with inside | ⟨-, inside⟩
      · exact plain value inside
      · exact lowerPlain value inside
    · exact (setting?_eq changed).trans (updates.trans (by rw [setting?_eq below]))

/-- An override of something else leaves a setting alone that it does not leak into. -/
theorem overrideTied_elsewhere (elsewhere : key.same (.text part) ≠ true)
    (apart : ∀ other ∈ ties.others (Place.ofKey key), ¬ Place.ofSetting part name <+: other) :
    ∃ changed gone, overrideTied (entries, ties) (key, value) = (changed, ties.cut gone) ∧
      Flat changed part name ∧ setting? changed part name = setting? entries part name := by
  have same (value : Value) : get? (put entries key value) (.text part) =
      get? entries (.text part) := by
    rw [get?_put, if_neg elsewhere]
  by_cases both : ∃ lower upper, get? entries key = some (.map lower) ∧ value = .map upper
  · obtain ⟨lower, upper, below, rfl⟩ := both
    have above : ∀ other ∈ ties.others (Place.ofKey key), ¬ other <+: Place.ofPart part := by
      intro other member
      obtain ⟨group, among, -, within⟩ := Ties.mem_of_mem_others member
      exact clear group among other within
    obtain ⟨gone, updated⟩ := overrideTied_update ties upper below
    obtain ⟨changed, changes, changedFlat, changedSame⟩ :=
      (flat.congr (same (.map (update lower upper)))).changeAll (update · upper) above apart
    rw [changes] at updated
    exact ⟨changed, gone, updated, changedFlat, changedSame.trans (setting?_congr (same _))⟩
  · obtain ⟨gone, replaced⟩ := overrideTied_replace ties fun lower upper below isMap =>
      both ⟨lower, upper, below, isMap⟩
    exact ⟨_, gone, replaced, flat.congr (same value), setting?_congr (same value)⟩

/-- **An override comes before what it is laid over**, and nothing else of that is seen in the
setting. -/
theorem overrideTied_flat
    (apart : ∀ other ∈ ties.others (Place.ofKey key), ¬ Place.ofSetting part name <+: other)
    (laid : Flat [(key, value)] part name) (once : ∀ upper, value = .map upper → Once upper) :
    ∃ changed gone, overrideTied (entries, ties) (key, value) = (changed, ties.cut gone) ∧
      Flat changed part name ∧ setting? changed part name =
        (setting? [(key, value)] part name).or (setting? entries part name) := by
  have alone := get?_cons (key, value) [] (.text part)
  by_cases here : key.same (.text part) = true
  · rw [if_pos here] at alone
    obtain rfl := Key.same_text.mp here
    obtain ⟨upper, rfl⟩ := laid.isMapping value alone
    rw [setting?_eq alone]
    exact overrideTied_part flat clear (once upper rfl) fun inner inside =>
      laid.plain inner ((setting?_eq alone).trans inside)
  · rw [if_neg here] at alone
    rw [setting?_eq_none alone, Option.none_or]
    exact overrideTied_elsewhere flat clear here apart

end Section

/-! ### All overrides -/

/-- The first section of flat overrides is flat, and so are the others. -/
theorem Flat.of_cons {entry : Key × Value} {rest : Entries} (once : Once (entry :: rest))
    (flat : Flat (entry :: rest) part name) :
    Flat [entry] part name ∧ Flat rest part name ∧ setting? (entry :: rest) part name =
      (setting? rest part name).or (setting? [entry] part name) := by
  have whole := get?_cons entry rest (.text part)
  have alone := get?_cons entry [] (.text part)
  by_cases here : entry.1.same (.text part) = true
  · have absent := once.get?_tail here
    rw [if_pos here] at whole alone
    have same := alone.trans whole.symm
    rw [setting?_eq_none absent, Option.none_or]
    exact ⟨flat.congr same, Flat.of_absent absent, (setting?_congr same).symm⟩
  · rw [if_neg here] at whole alone
    rw [setting?_eq_none alone, Option.or_none]
    exact ⟨Flat.of_absent alone, flat.congr whole.symm, setting?_congr whole⟩

/-- **Overrides come before the layer below them**, if none of them leaks into the setting. -/
theorem overrideAll_flat {ties : Ties} (flat : entries.Flat part name) (clear : ties.Clear part)
    (laid : overrides.Flat part name) (once : Once overrides)
    (inner : ∀ entry ∈ overrides, ∀ upper, entry.2 = .map upper → Once upper)
    (noLeak : ¬ ties.Leak overrides part name) :
    Flat (overrideAll entries ties overrides).1 part name ∧
      setting? (overrideAll entries ties overrides).1 part name =
        (setting? overrides part name).or (setting? entries part name) := by
  unfold overrideAll
  induction overrides generalizing entries ties with
  | nil => exact ⟨flat, rfl⟩
  | cons entry overrides ih =>
    obtain ⟨key, value⟩ := entry
    obtain ⟨firstFlat, restFlat, first⟩ := Flat.of_cons once laid
    obtain ⟨changed, gone, overridden, changedFlat, same⟩ := overrideTied_flat flat clear
      (fun other member leaks => noLeak ⟨_, List.mem_cons_self, other, member, leaks⟩) firstFlat
      (inner _ List.mem_cons_self)
    have noLeakBelow : ¬ (ties.cut gone).Leak overrides part name := by
      rintro ⟨entry, among, other, member, leaks⟩
      exact noLeak ⟨entry, List.mem_cons_of_mem _ among, other,
        Ties.others_filter _ ties _ member, leaks⟩
    have clearBelow : (ties.cut gone).Clear part := clear.filter _
    obtain ⟨allFlat, all⟩ := ih changedFlat clearBelow restFlat (List.Pairwise.of_cons once)
      (fun entry among => inner entry (List.mem_cons_of_mem _ among)) noLeakBelow
    rw [List.foldl_cons, overridden]
    refine ⟨allFlat, ?_⟩
    rw [all, same, first, Option.or_assoc]

end Entries

/-- What stands at a key after a section of overrides for it. -/
def Value.overridden (below? : Option Value) (laid : Value) : Value :=
  match below?.bind entries?, laid.entries? with
  | some lower, some upper => .map (lower.update upper)
  | _, _ => laid

/-- A section of overrides is put in as an entry. -/
theorem Entries.overrideSection_eq (entries : Entries) (part : Key × Value) :
    entries.overrideSection part =
      entries.put part.1 (Value.overridden (entries.get? part.1) part.2) := by
  unfold overrideSection Value.overridden
  cases (entries.get? part.1).bind Value.entries? <;> cases part.2.entries? <;> rfl

/-! ### Mappings of a document -/

/-- The mapping that a YAML document spells, with the mappings in it that are one. -/
def Entries.ofYaml? (text : Text) : Option (Entries × Ties) :=
  (TiedValue.ofYaml 1 (Yaml.Supply.ofBytes (Utf8.encode text))).toOption.bind fun tied =>
    tied.value.entries?.map (·, tied.ties)

theorem Entries.of_ofYaml? {text : Text} {entries : Entries} {ties : Ties}
    (spelled : ofYaml? text = some (entries, ties)) :
    TiedValue.ofYaml 1 (Yaml.Supply.ofBytes (Utf8.encode text)) = .ok ⟨.map entries, ties⟩ := by
  obtain ⟨⟨value, inside⟩, read, found⟩ := Option.bind_eq_some_iff.mp spelled
  obtain ⟨below, isMap, same⟩ := Option.map_eq_some_iff.mp found
  obtain ⟨rfl, rfl⟩ := Prod.mk.inj same
  obtain rfl := Value.entries?_eq_some.mp isMap
  cases parsed : TiedValue.ofYaml 1 (Yaml.Supply.ofBytes (Utf8.encode text)) with
  | error flaw =>
    rw [parsed] at read
    cases read
  | ok tied =>
    rw [parsed] at read
    exact congrArg Except.ok (Option.some_inj.mp read)

/-! ### Mappings that stand in one place -/

/-- Every mapping that the overrides update stands in one place. -/
def Ties.Alone (ties : Ties) (entries overrides : Entries) : Prop :=
  ∀ part ∈ overrides, ∀ lower upper : Entries, entries.get? part.1 = some (.map lower) →
    part.2 = .map upper → ties.others (Place.ofKey part.1) = []

namespace Entries

variable {entries overrides : Entries} {ties : Ties} {part : Key × Value}

/-- What stands in one place is overridden there, and nothing else is. -/
theorem overrideTied_alone
    (alone : ∀ lower upper : Entries, get? entries part.1 = some (.map lower) →
      part.2 = .map upper → ties.others (Place.ofKey part.1) = []) :
    ∃ gone, overrideTied (entries, ties) part = (overrideSection entries part, ties.cut gone) := by
  unfold overrideTied
  dsimp only
  split
  · next lower upper below isMap =>
    obtain ⟨value, found, isLower⟩ := Option.bind_eq_some_iff.mp below
    rw [Value.entries?_eq_some.mp isLower] at found
    rw [alone lower upper found (Value.entries?_eq_some.mp isMap)]
    exact ⟨_, rfl⟩
  · exact ⟨_, rfl⟩

/-- **Where every mapping that is updated stands in one place**, the overrides are applied section
by section. -/
theorem overrideAll_alone (once : Once overrides) (alone : ties.Alone entries overrides) :
    (overrideAll entries ties overrides).1 = override entries overrides := by
  unfold overrideAll override
  induction overrides generalizing entries ties with
  | nil => rfl
  | cons first rest ih =>
    obtain ⟨apart, onceBelow⟩ := List.pairwise_cons.mp once
    obtain ⟨gone, overridden⟩ := overrideTied_alone (alone first List.mem_cons_self)
    rw [List.foldl_cons, List.foldl_cons, overridden]
    refine ih onceBelow fun part member lower upper below laid => ?_
    rw [overrideSection_eq, get?_put, apart part member, if_neg Bool.false_ne_true] at below
    have before := alone part (List.mem_cons_of_mem _ member) lower upper below laid
    exact List.eq_nil_of_subset_nil (before ▸ Ties.others_filter _ ties _)

end Entries

end Scenarist
