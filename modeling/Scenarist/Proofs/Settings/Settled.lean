/-
**Settings that are read have every key once.** A mapping is settled when it is begun to be filled,
so that no mapping of the values that YAML spells has two entries at one key
(`Configuration.settled_mappingAt`).
-/

import Scenarist.Proofs.Settings.Lookup
import Scenarist.Run.Configuration

namespace Scenarist

open Entries (Once)

/-- No mapping that is reached through mappings has a key twice. -/
inductive Value.Settled : Value → Prop
  | map {entries : Entries} (once : Once entries)
      (inner : ∀ entry ∈ entries, Settled entry.2) : Settled (.map entries)
  | plain {value : Value} (noMapping : value.entries? = none) : Settled value

namespace Value.Settled

theorem once {entries : Entries} (settled : (Value.map entries).Settled) : Once entries := by
  cases settled with
  | map once _ => exact once
  | plain noMapping => cases noMapping

/-- What is found in a settled mapping is settled. -/
theorem get? {entries : Entries} (settled : (Value.map entries).Settled) {key : Key}
    {value : Value} (found : entries.get? key = some value) : value.Settled := by
  cases settled with
  | map _ inner =>
    obtain ⟨entry, member, -, rfl⟩ := Entries.mem_of_get? found
    exact inner entry member
  | plain noMapping => cases noMapping

end Value.Settled

/-- Settling keeps one entry for each key. -/
theorem Yaml.Key.once_settle {α : Type} (pairs : List (Key × α)) :
    (settle pairs).Pairwise fun a b => a.1.same b.1 = false := by
  unfold settle
  refine List.foldlRecOn pairs _ List.Pairwise.nil fun settled once pair _ => ?_
  split
  · rw [List.pairwise_map]
    refine once.imp fun {a b} apart => ?_
    split <;> split <;> exact apart
  · next absent =>
    rw [Bool.not_eq_true, List.any_eq_false] at absent
    rw [List.pairwise_append]
    refine ⟨once, List.pairwise_singleton _ _, fun a member b last => ?_⟩
    rw [List.mem_singleton.mp last, ← Bool.not_eq_true]
    exact absent a member

/-- **What is built is settled**, whatever stands around it. -/
theorem Yaml.Build.settled_value (build : Build) (fuel : Nat) (above : List NodeId)
    (made : Made) : (build.value fuel above made).Settled := by
  induction fuel generalizing above made with
  | zero =>
    cases made with
    | atom key => exact .plain (by cases key <;> rfl)
    | whole id => exact .plain rfl
  | succ fuel ih =>
    cases made with
    | atom key => exact .plain (by cases key <;> rfl)
    | whole id =>
      rw [Build.value]
      split
      · exact .plain rfl
      · split
        · exact .plain rfl
        · exact .plain rfl
        · exact .plain rfl
        · next entries _ =>
          refine .map ?_ ?_
          · rw [Once, List.pairwise_map]
            exact Yaml.Key.once_settle entries
          · intro entry member
            obtain ⟨made, -, rfl⟩ := List.mem_map.mp member
            exact ih _ _
        · exact .plain rfl

/-- The value that YAML spells is settled. -/
theorem TiedValue.settled_ofYaml {file : Nat} {supply : Yaml.Supply} {tied : TiedValue}
    (spelled : TiedValue.ofYaml file supply = .ok tied) : tied.value.Settled := by
  unfold TiedValue.ofYaml at spelled
  cases read : Yaml.Graph.ofSupply? supply with
  | error flaw =>
    rw [read] at spelled
    cases spelled
  | ok graph? =>
    rw [read] at spelled
    cases graph? with
    | none =>
      cases spelled
      exact .plain rfl
    | some graph =>
      cases built : (Yaml.Builder.document graph.root).run {
          file := file
          nodes := graph.nodes
          made := Array.replicate graph.nodes.size none
          bodies := Array.replicate graph.nodes.size none } with
      | error flaw =>
        simp only [bind, Except.bind, built] at spelled
        cases spelled
      | ok result =>
        simp only [bind, Except.bind, built] at spelled
        cases spelled
        exact result.2.settled_value _ _ _

/-- **The mapping in a settings file is settled.** -/
theorem Configuration.settled_mappingAt {disk : Disk} {file : Nat} {path : Path}
    {layer : Entries × Ties} (held : mappingAt disk file path = .ok layer) :
    (Value.map layer.1).Settled := by
  unfold mappingAt at held
  cases read : disk.read path with
  | error e =>
    rw [read] at held
    cases held
  | ok bytes =>
    rw [read] at held
    dsimp only [Except.mapError, bind, Except.bind] at held
    split at held
    · cases held
      exact .map List.Pairwise.nil fun entry member => absurd member List.not_mem_nil
    · next entries ties spelled =>
      cases held
      exact TiedValue.settled_ofYaml spelled
    all_goals cases held

end Scenarist
