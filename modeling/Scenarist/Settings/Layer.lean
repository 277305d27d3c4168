/-
Layers of settings. A layer is laid over another one key by key, mappings into mappings; overrides
reach only one level down; substitution puts the environment into values of the form `${NAME}`.
-/

import Scenarist.Settings.Value

namespace Scenarist

mutual

/-- The value at a key of the lower layer under the value there of the upper one. -/
def Value.under : Value → Value → Value
  | .map lower, .map upper =>
    .map (Entries.covered lower upper ++ upper.filter fun entry => !lower.any (·.1.same entry.1))
  | _, upper => upper

/-- The entries of the lower layer, each under what the upper one has at its key. -/
def Entries.covered : List (Key × Value) → Entries → Entries
  | [], _ => []
  | (key, value) :: rest, upper =>
    (key, match upper.get? key with
      | some upper => value.under upper
      | none => value) :: Entries.covered rest upper

end

/-- The layer `upper` over the layer `lower`: the keys of `lower` in their order, then the new ones
of `upper` in theirs. -/
def Entries.merge (lower upper : Entries) : Entries :=
  Entries.covered lower upper ++ upper.filter fun entry => !lower.has entry.1

/-- The entries of `upper` put into `lower` one by one, without looking into mappings. -/
def Entries.update (lower upper : Entries) : Entries :=
  upper.foldl (fun entries entry => entries.put entry.1 entry.2) lower

/-- One section of overrides: a mapping over a mapping updates it, anything else replaces it. -/
def Entries.overrideSection (base : Entries) (part : Key × Value) : Entries :=
  match (base.get? part.1).bind Value.entries?, part.2.entries? with
  | some lower, some upper => base.put part.1 (.map (lower.update upper))
  | _, _ => base.put part.1 part.2

/-- The base with all sections of the overrides applied in order. -/
def Entries.override (base overrides : Entries) : Entries :=
  overrides.foldl Entries.overrideSection base

/-- Variables of the environment with their values. -/
abbrev Environment := List (Text × Text)

/-- The name in a text of the form `${NAME}`. -/
def variableName? (t : Text) : Option Text :=
  match Text.afterLead? ['$', '\x7b'] t with
  | some rest =>
    match rest.getLast? with
    | some '\x7d' => some rest.dropLast
    | _ => none
  | none => none

/-- The value of the variable that a text names, or the text itself. -/
def Environment.subst (env : Environment) (t : Text) : Text :=
  match variableName? t with
  | some name => (env.lookup name).getD t
  | none => t

mutual

/-- The value with the environment put into every text of it. -/
def Value.subst (env : Environment) : Value → Value
  | .text t => .text (env.subst t)
  | .list items => .list (Value.substItems env items)
  | .map entries => .map (Entries.subst env entries)
  | value => value

/-- The items with the environment put into them. -/
def Value.substItems (env : Environment) : List Value → List Value
  | [] => []
  | item :: rest => item.subst env :: Value.substItems env rest

/-- The entries with the environment put into their values. -/
def Entries.subst (env : Environment) : List (Key × Value) → List (Key × Value)
  | [] => []
  | (key, value) :: rest => (key, value.subst env) :: Entries.subst env rest

end

/-- The value at the end of a path of keys. -/
def Value.at? : Value → List Key → Option Value
  | value, [] => some value
  | .map entries, key :: path =>
    match Entries.get? entries key with
    | some value => value.at? path
    | none => none
  | _, _ :: _ => none

/-- The value at a path written with points, or `fallback`. -/
def Value.setting (value : Value) (path : Text) (fallback : Value) : Value :=
  (value.at? ((Text.cut '.' path).map Key.text)).getD fallback

end Scenarist
