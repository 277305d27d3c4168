/-
**Which layer a setting comes from.** After loading a setting is that of the first layer that has it
in the order of the environment's file, its overrides, the main file and the defaults, with the
environment put in, and a target that is asked for goes before them all
(`Configuration.load_precedence`). A mapping that the main file has in several places is changed in
all of them by overrides, also inside the value of another setting; this is what is left out
(`Ties.Leak`).
-/

import Scenarist.Proofs.Run.Loading
import Scenarist.Proofs.Run.Resolving
import Scenarist.Proofs.Settings.Overrides

namespace Scenarist.Configuration

/-- The parts of the settings. -/
def parts : List Text := ["paths", "generator", "logging"]

/-- The layers from the one that goes before all others down to the defaults. -/
def layers (main : Entries × Ties) (overlay : Entries) : List Entries :=
  [restOf overlay, overridesOf overlay, main.1, defaults]

section Layers

variable {part name : Text}

/-- The defaults have a mapping at every part, and no mapping in it. -/
theorem defaults_part (isPart : part ∈ parts) :
    ∃ inner, defaults.get? (.text part) = some (.map inner) ∧
      ∀ entry ∈ inner, entry.2.entries? = none := by
  have among : part = "paths" ∨ part = "generator" ∨ part = "logging" := by
    simpa [parts] using isPart
  rcases among with rfl | rfl | rfl
  all_goals exact ⟨_, rfl, by decide⟩

theorem defaults_flat (isPart : part ∈ parts) (name : Text) : defaults.Flat part name := by
  obtain ⟨inner, found, plain⟩ := defaults_part isPart
  refine Entries.Flat.of_found found fun value here => ?_
  obtain ⟨entry, member, -, rfl⟩ := Entries.mem_of_get? here
  exact plain entry member

/-- No key stands twice in overrides, nor in a section of them. -/
theorem once_overridesOf {overlay : Entries} (settled : (Value.map overlay).Settled) :
    Entries.Once (overridesOf overlay) ∧
      ∀ entry ∈ overridesOf overlay, ∀ upper, entry.2 = .map upper → Entries.Once upper := by
  unfold overridesOf
  cases found : overlay.get? overridesKey with
  | none => exact ⟨List.Pairwise.nil, fun entry member => absurd member List.not_mem_nil⟩
  | some value =>
    have inside := settled.get? found
    cases inside with
    | map once inner =>
      exact ⟨once, fun entry member upper isMap => (isMap ▸ inner entry member).once⟩
    | plain noMapping =>
      rw [Option.bind_some, noMapping]
      exact ⟨List.Pairwise.nil, fun entry member => absurd member List.not_mem_nil⟩

/-- **The first layer that has a setting gives it**, if no override leaks into it. -/
theorem setting?_layered {main : Entries × Ties} {overlay : Entries}
    (settled : (Value.map overlay).Settled) (isPart : part ∈ parts)
    (flat : ∀ layer ∈ layers main overlay, layer.Flat part name)
    (noLeak : ¬ (main.2.above defaults).Leak (overridesOf overlay) part name) :
    (layered main overlay).setting? part name =
      (layers main overlay).findSome? (·.setting? part name) := by
  simp only [layers, List.forall_mem_cons] at flat
  obtain ⟨restFlat, overridesFlat, mainFlat, -⟩ := flat
  obtain ⟨basedFlat, based⟩ := (defaults_flat isPart name).merge mainFlat
  obtain ⟨inner, found, -⟩ := defaults_part isPart
  obtain ⟨once, innerOnce⟩ := once_overridesOf settled
  obtain ⟨overriddenFlat, overridden⟩ := Entries.overrideAll_flat basedFlat
    (Ties.clear_above main.2 found) overridesFlat once innerOnce noLeak
  rw [layered, (overriddenFlat.merge restFlat).2, overridden, based]
  simp only [layers, List.findSome?_cons, List.findSome?_nil]
  cases (restOf overlay).setting? part name <;> cases (overridesOf overlay).setting? part name <;>
    cases main.1.setting? part name <;> cases defaults.setting? part name <;> rfl

end Layers

/-- A target that is asked for goes before what is set. -/
theorem target_resolve {settings : Entries} {base : Path} {asked : Text} {run : RunSettings}
    (given : asked ≠ []) (resolved : resolve settings base (some asked) = .ok run) :
    run.target.name = asked :=
  (resolve_eq_ok.mp resolved).target_asked given

/-- **Precedence of the layers.** Where no override leaks into a setting, it is that of the first
layer that has it, with the environment put in, and the fallback if none has it. The settings stay
loaded, variables that were set before keep their values, and a target that is asked for goes before
all layers. -/
theorem load_precedence {source : Source} {world after : World} {settings : Entries}
    (loaded : (load source).perform world = (.ok settings, after))
    {main overlay : Entries × Ties} (mainAt : layerAt world.disk 1 source.path = .ok main)
    (overlayAt : layerAt world.disk 2 source.environmentPath = .ok overlay)
    {part name : Text} (isPart : part ∈ parts) (whole : '.' ∉ name)
    (flat : ∀ layer ∈ layers main overlay.1, layer.Flat part name)
    (noLeak : ¬ (main.2.above defaults).Leak (overridesOf overlay.1) part name) :
    (∀ fallback, setting settings (part ++ '.' :: name) fallback =
      (((layers main overlay.1).findSome? (·.setting? part name)).map
        (Value.subst after.env)).getD fallback) ∧
    after.settings = settings ∧
    (∀ name held, world.env.lookup name = some held → after.env.lookup name = some held) ∧
    ∀ base asked run, asked ≠ [] → resolve settings base (some asked) = .ok run →
      run.target.name = asked := by
  obtain ⟨loadedMain, loadedOverlay, loadedMainAt, loadedOverlayAt, known, rfl, kept⟩ :=
    of_perform_load loaded
  obtain rfl := Except.ok.inj (mainAt.symm.trans loadedMainAt)
  obtain rfl := Except.ok.inj (overlayAt.symm.trans loadedOverlayAt)
  have partWhole : '.' ∉ part := by
    have all : ∀ part ∈ parts, '.' ∉ part := by decide
    exact all part isPart
  refine ⟨fun fallback => ?_, kept, known, fun base asked run => target_resolve⟩
  rw [setting, Value.setting_map _ partWhole whole, Entries.setting?_subst,
    setting?_layered (settled_layerAt overlayAt) isPart flat noLeak]

/-! ### A mapping in two places -/

/-- The mapping `custom` of the main file is an item of `paths.output` as well. The environment
overrides the mapping and `paths.features`. -/
def sharingWorld : World where
  disk := {
    nodes :=
      [([("config.yaml" : Text)], .file (Utf8.encode
          "custom: &x \x7bk: 1\x7d\npaths: \x7bfeatures: docs, output: [*x]\x7d\n")),
       ([("environments" : Text)], .folder),
       ([("environments" : Text), "dev.yaml"], .file (Utf8.encode
          "overrides:\n  custom: \x7bk: 2\x7d\n  paths: \x7bfeatures: '$\x7bDOCS\x7d'\x7d\n"))] }
  env := [("DOCS", "e2e")]

/-- The main file and the environment there. -/
def sharingSource : Source := ⟨Path.ofText "config.yaml", "dev"⟩

/-- The value of the first layer that has a setting, as messages write it. -/
def firstLiteral (main : Entries × Ties) (overlay : Entries) (env : Environment)
    (part name : Text) : Text :=
  ((((layers main overlay).findSome? (·.setting? part name)).map (Value.subst env)).getD
    .null).literal

/-- There all layers are flat, and what leaks goes into `paths.output` only. -/
theorem sharing_loaded : ∃ settings after main overlay,
    (load sharingSource).perform sharingWorld = (.ok settings, after) ∧
      layerAt sharingWorld.disk 1 sharingSource.path = .ok main ∧
      layerAt sharingWorld.disk 2 sharingSource.environmentPath = .ok overlay ∧
      (∀ part ∈ parts, ∀ name ∈ [("features" : Text), "output"],
        ∀ layer ∈ layers main overlay.1, layer.Flat part name) ∧
      ¬ (main.2.above defaults).Leak (overridesOf overlay.1) "paths" "features" ∧
      firstLiteral main overlay.1 after.env "paths" "features" = "'e2e'" ∧
      (setting settings "paths.output" .null).literal = "[\x7b'k': 2\x7d]" ∧
      firstLiteral main overlay.1 after.env "paths" "output" = "[\x7b'k': 1\x7d]" := by
  have computed : (do
      let settings ← ((load sharingSource).perform sharingWorld).1
      let main ← layerAt sharingWorld.disk 1 sharingSource.path
      let overlay ← layerAt sharingWorld.disk 2 sharingSource.environmentPath
      let env := ((load sharingSource).perform sharingWorld).2.env
      return decide (
        (∀ part ∈ parts, ∀ name ∈ [("features" : Text), "output"],
          ∀ layer ∈ layers main overlay.1, layer.Flat part name) ∧
        ¬ (main.2.above defaults).Leak (overridesOf overlay.1) "paths" "features" ∧
        firstLiteral main overlay.1 env "paths" "features" = "'e2e'" ∧
        (setting settings "paths.output" .null).literal = "[\x7b'k': 2\x7d]" ∧
        firstLiteral main overlay.1 env "paths" "output" = "[\x7b'k': 1\x7d]")) = .ok true := by
    decide +kernel
  rcases loaded : (load sharingSource).perform sharingWorld with ⟨result, after⟩
  rw [loaded] at computed
  obtain ⟨settings, rfl, computed⟩ := of_bind_ok computed
  obtain ⟨main, mainAt, computed⟩ := of_bind_ok computed
  obtain ⟨overlay, overlayAt, computed⟩ := of_bind_ok computed
  exact ⟨settings, after, main, overlay, rfl, mainAt, overlayAt,
    of_decide_eq_true (Except.ok.inj computed)⟩

/-- What leaks elsewhere does not concern `paths.features`. -/
theorem load_precedence_sharing : ∃ settings after main overlay,
    (load sharingSource).perform sharingWorld = (.ok settings, after) ∧
      layerAt sharingWorld.disk 1 sharingSource.path = .ok main ∧
      layerAt sharingWorld.disk 2 sharingSource.environmentPath = .ok overlay ∧
      (∀ layer ∈ layers main overlay.1, layer.Flat "paths" "features") ∧
      ¬ (main.2.above defaults).Leak (overridesOf overlay.1) "paths" "features" ∧
      (setting settings "paths.features" .null).literal = "'e2e'" := by
  obtain ⟨settings, after, main, overlay, loaded, mainAt, overlayAt, flat, noLeak, first, -⟩ :=
    sharing_loaded
  have flatHere := flat "paths" (by decide) "features" (by decide)
  have value := (load_precedence loaded mainAt overlayAt (by decide) (by decide) flatHere noLeak).1
    .null
  exact ⟨settings, after, main, overlay, loaded, mainAt, overlayAt, flatHere, noLeak,
    (congrArg Value.literal value).trans first⟩

/-- Into `paths.output` the override of `custom` leaks, and the main file is not heard. -/
theorem setting_of_leak : ∃ settings after main overlay,
    (load sharingSource).perform sharingWorld = (.ok settings, after) ∧
      layerAt sharingWorld.disk 1 sharingSource.path = .ok main ∧
      layerAt sharingWorld.disk 2 sharingSource.environmentPath = .ok overlay ∧
      (∀ part ∈ parts, ∀ layer ∈ layers main overlay.1, layer.Flat part "output") ∧
      setting settings "paths.output" .null ≠
        (((layers main overlay.1).findSome? (·.setting? "paths" "output")).map
          (Value.subst after.env)).getD .null := by
  obtain ⟨settings, after, main, overlay, loaded, mainAt, overlayAt, flat, -, -, value, first⟩ :=
    sharing_loaded
  refine ⟨settings, after, main, overlay, loaded, mainAt, overlayAt,
    fun part isPart => flat part isPart "output" (by decide), fun same => ?_⟩
  have texts : ("[\x7b'k': 2\x7d]" : Text) = "[\x7b'k': 1\x7d]" :=
    value.symm.trans ((congrArg Value.literal same).trans first)
  revert texts
  decide

end Scenarist.Configuration
