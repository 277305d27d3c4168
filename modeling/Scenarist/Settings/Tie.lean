/-
Mappings that stand in several places of the settings at once. A change of such a mapping in one of
its places is a change in all of them. Places are ways down from the top, with the canonical form of
every key.
-/

import Scenarist.Settings.Layer

namespace Scenarist

/-- A turn on the way down into a value. -/
inductive Turn where
  | key (key : Key)
  | item (index : Nat)
  | first
  | second
  deriving DecidableEq, Repr

/-- The way from the top to a value inside. -/
abbrev Place := List Turn

/-- The place of a key at the top. -/
def Place.ofKey (key : Key) : Place := [.key key.canonical]

/-- Groups of places; the places of a group hold one mapping. -/
abbrev Ties := List (List Place)

/-- The value with the mapping at a place changed. -/
def Value.changeAt (change : Entries → Entries) : Place → Value → Value
  | [], .map entries => .map (change entries)
  | .key key :: place, .map entries =>
    .map (entries.map fun entry =>
      if entry.1.same key then (entry.1, changeAt change place entry.2) else entry)
  | .item index :: place, .list items => .list (items.modify index (changeAt change place))
  | .first :: place, .pair first second => .pair (changeAt change place first) second
  | .second :: place, .pair first second => .pair first (changeAt change place second)
  | _, value => value

namespace Ties

/-- The other places of the mapping at a place. -/
def others (ties : Ties) (place : Place) : List Place :=
  ((ties.find? fun group => group.contains place).getD []).filter fun other => other != place

/-- The groups without the places at and below one of `gone`. -/
def cut (ties : Ties) (gone : List Place) : Ties :=
  ties.map fun group => group.filter fun place => !gone.any fun above => above.isPrefixOf place

/-- Is there a mapping at a place that lies in mappings only? -/
def hasMapping (value : Value) : Place → Bool
  | [] => value.entries?.isSome
  | .key key :: place =>
    match value.entries?.bind fun entries => Entries.get? entries key with
    | some inner => hasMapping inner place
    | none => false
  | _ => false

/-- The groups of a layer after it has been laid over `lower`: a mapping over a mapping makes a new
one. -/
def above (ties : Ties) (lower : Entries) : Ties :=
  ties.map fun group => group.filter fun place => !hasMapping (.map lower) place

end Ties

/-- One section of overrides, in all places of what it changes. -/
def Entries.overrideTied (base : Entries × Ties) (part : Key × Value) : Entries × Ties :=
  let (entries, ties) := base
  let place := Place.ofKey part.1
  let changed := entries.overrideSection part
  match (entries.get? part.1).bind Value.entries?, part.2.entries? with
  | some _, some upper =>
    let others := ties.others place
    let inAll := others.foldl (fun value place => value.changeAt (·.update upper) place)
      (Value.map changed)
    let gone := (place :: others).flatMap fun place =>
      upper.map fun entry => place ++ Place.ofKey entry.1
    (inAll.entries?.getD [], ties.cut gone)
  | _, _ => (changed, ties.cut [place])

/-- The base with all sections of the overrides applied in order, in all places of what they
change. -/
def Entries.overrideAll (entries : Entries) (ties : Ties) (overrides : Entries) : Entries × Ties :=
  overrides.foldl Entries.overrideTied (entries, ties)

/-! ### Settings without ties -/

/-- Where no mapping stands in several places, a section of overrides changes its own place only. -/
theorem Entries.overrideTied_nil (entries : Entries) (part : Key × Value) :
    Entries.overrideTied (entries, []) part = (entries.overrideSection part, []) := by
  simp only [Entries.overrideTied, Ties.others, Ties.cut, List.find?_nil, Option.getD_none,
    List.filter_nil, List.foldl_nil, List.map_nil]
  split <;> rfl

/-- Where no mapping stands in several places, the overrides are applied section by section. -/
theorem Entries.overrideAll_nil (entries overrides : Entries) :
    entries.overrideAll [] overrides = (entries.override overrides, []) := by
  unfold Entries.overrideAll Entries.override
  induction overrides generalizing entries with
  | nil => rfl
  | cons part rest ih => rw [List.foldl_cons, List.foldl_cons, Entries.overrideTied_nil, ih]

end Scenarist
