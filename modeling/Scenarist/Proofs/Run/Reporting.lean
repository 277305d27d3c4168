/-
**What a malformed configuration leads to.** Where the files can be read as trees of values, loading
fails with a fault of the configuration, or since the overrides of the environment are no mapping;
and the settings that it returns are resolved, or refused with a fault of the configuration, or they
are not of the kinds that resolving takes for granted (`Configuration.load_reported`). So it is the
overrides and the kinds of settings (`Fits`) that nothing checks.
-/

import Mathlib.Control.Monad.Basic
import Scenarist.Proofs.Run.Loading
import Scenarist.Proofs.Run.Resolving
import Scenarist.Proofs.Settings.Endless

namespace Scenarist.Configuration

/-- Is the fault one of the configuration? -/
def LoadFault.isConfiguration : LoadFault → Bool
  | .invalidYaml _ => true
  | .notMapping _ => true
  | _ => false

/-! ### Files -/

/-- The file at a path, if there is one, holds a tree of values or is refused for what it holds. -/
structure Sound (disk : Disk) (file : Nat) (path : Path) : Prop where
  refused : ∀ fault, layerAt disk file path = .error fault → fault.isConfiguration = true
  ends : ∀ layer, layerAt disk file path = .ok layer → layer.1.End true

/-- The overrides of an environment, if it has any, are not a mapping. -/
def OverridesAstray (overlay : Entries) (e : NotMapping) : Prop :=
  ∃ value, overlay.get? overridesKey = some value ∧ value.entries? = none ∧ e = ⟨value.kindName⟩

/-! ### Failures while loading -/

section Failures

variable {world after : World} {fault : LoadFault}

theorem of_refuseEndless_error {lists : Bool}
    (performed : (refuseEndless lists).perform world = (.error fault, after)) :
    ¬world.settings.End lists := by
  unfold refuseEndless at performed
  rw [Act.perform_bind_ok (Act.perform_get world)] at performed
  intro ends
  rw [if_neg (by rw [Value.ends_map.mpr ends]; exact Bool.false_ne_true)] at performed
  cases performed

theorem of_isThere_error {path : Path}
    (performed : (isThere path).perform world = (.error fault, after)) :
    ∃ e, world.disk.look? path = .error e ∧ fault = .disk e := by
  unfold isThere at performed
  rcases Act.of_perform_bind_error performed with asked | ⟨node?, middle, -, answered⟩
  · rw [Act.perform_ask] at asked
    cases looked : world.disk.look? path with
    | error e =>
      rw [looked] at asked
      cases asked
      exact ⟨e, rfl, rfl⟩
    | ok node? =>
      rw [looked] at asked
      cases asked
  · cases answered

theorem of_readMapping_error {file : Nat} {path : Path}
    (performed : (readMapping file path).perform world = (.error fault, after)) :
    mappingAt world.disk file path = .error fault := by
  unfold readMapping at performed
  rw [Act.perform_bind_ok (Act.perform_get world)] at performed
  cases held : mappingAt world.disk file path with
  | error e =>
    rw [held] at performed
    cases performed
    rfl
  | ok layer =>
    rw [held] at performed
    cases performed

/-- A file is laid over the settings or fails as such. -/
theorem of_layFile_error {file : Nat} {path : Path} {lay : Entries × Ties → Act LoadFault Unit}
    {level : Log.Level} {missing : Text}
    (performed : (layFile file path lay level missing).perform world = (.error fault, after)) :
    layerAt world.disk file path = .error fault ∨
      ∃ layer, layerAt world.disk file path = .ok layer ∧
        (lay layer).perform world = (.error fault, after) := by
  unfold layFile at performed
  rcases Act.of_perform_bind_error performed with failed | ⟨there, middle, asked, performed⟩
  · obtain ⟨e, looked, rfl⟩ := of_isThere_error failed
    exact Or.inl (by rw [layerAt, looked])
  obtain ⟨rfl, node?, looked, rfl⟩ := of_perform_isThere asked
  cases node? with
  | none => cases performed
  | some node =>
    rw [Option.isSome_some, if_pos rfl] at performed
    rcases Act.of_perform_bind_error performed with failed | ⟨layer, middle, read, laid⟩
    · exact Or.inl (by rw [layerAt, looked, of_readMapping_error failed])
    · obtain ⟨rfl, mapping⟩ := of_perform_readMapping read
      exact Or.inr ⟨layer, by rw [layerAt, looked, mapping], laid⟩

theorem of_applyOverrides_error {overlay : Entries}
    (performed : (applyOverrides overlay).perform world = (.error fault, after)) :
    ∃ e, fault = .overrides e ∧ OverridesAstray overlay e := by
  unfold applyOverrides at performed
  cases found : overlay.get? overridesKey with
  | none =>
    rw [found] at performed
    cases performed
  | some value =>
    rw [found] at performed
    unfold Value.entries at performed
    cases isMap : value.entries? with
    | some overrides =>
      simp only [isMap] at performed
      cases performed
    | none =>
      simp only [isMap] at performed
      cases performed
      exact ⟨_, rfl, value, found, isMap, rfl⟩

theorem end_overridesOf {lists : Bool} {overlay : Entries} (ends : overlay.End lists) :
    (overridesOf overlay).End lists := by
  unfold overridesOf
  cases found : overlay.get? overridesKey with
  | none => exact fun entry member => absurd member List.not_mem_nil
  | some value =>
    rw [Option.bind_some]
    cases isMap : value.entries? with
    | none => exact fun entry member => absurd member List.not_mem_nil
    | some overrides => exact (ends.get? found).entries isMap

theorem of_applyEnvironment_error {overlay : Entries} (ends : world.settings.End false)
    (laid : overlay.End false)
    (performed : (applyEnvironment overlay).perform world = (.error fault, after)) :
    ∃ e, fault = .overrides e ∧ OverridesAstray overlay e := by
  unfold applyEnvironment at performed
  rcases Act.of_perform_bind_error performed with failed | ⟨⟨⟩, middle, overridden, performed⟩
  · exact of_applyOverrides_error failed
  · obtain ⟨-, -, settings⟩ := of_perform_applyOverrides overridden
    rcases Act.of_perform_bind_error performed with refused | ⟨⟨⟩, last, -, edited⟩
    · have overriddenEnds : middle.settings.End false := by
        rw [settings]
        exact ends.overrideAll _ (end_overridesOf laid)
      exact absurd overriddenEnds (of_refuseEndless_error refused)
    · cases edited

end Failures

theorem end_defaults {lists : Bool} : defaults.End lists :=
  Value.entriesEndless_eq_false.mp (by cases lists <;> rfl)

theorem end_layered {lists : Bool} {main : Entries × Ties} {overlay : Entries}
    (mainEnds : main.1.End lists) (overlayEnds : overlay.End lists) :
    (layered main overlay).End lists :=
  ((end_defaults.merge mainEnds).overrideAll _ (end_overridesOf overlayEnds)).merge
    (overlayEnds.filter _)

/-- **Loading fails for the configuration in a file**, or since the overrides are no mapping. -/
theorem of_load_error {source : Source} {world started after : World} {fault : LoadFault}
    (environment : loadEnvironment.perform world = (.ok (), started))
    (main : Sound world.disk 1 source.path) (overlay : Sound world.disk 2 source.environmentPath)
    (performed : (load source).perform world = (.error fault, after)) :
    fault.isConfiguration = true ∧
        (layerAt world.disk 1 source.path = .error fault ∨
          layerAt world.disk 2 source.environmentPath = .error fault) ∨
      ∃ layer e, layerAt world.disk 2 source.environmentPath = .ok layer ∧
        OverridesAstray layer.1 e ∧ fault = .overrides e := by
  obtain ⟨disk, -⟩ := of_perform_loadEnvironment environment
  unfold load at performed
  rw [Act.perform_bind_ok environment, Act.perform_bind_ok (perform_edit ..)] at performed
  rcases Act.of_perform_bind_error performed with failed | ⟨⟨⟩, based, laid, performed⟩
  · rcases of_layFile_error failed with unreadable | ⟨layer, -, applied⟩
    · have unreadable := disk ▸ unreadable
      exact Or.inl ⟨main.refused _ unreadable, Or.inl unreadable⟩
    · cases applied
  obtain ⟨mainLayer, mainAt, basedDisk, -, basedSettings, basedTies⟩ := of_perform_layMain rfl laid
  have mainEnds := main.ends _ (disk ▸ mainAt)
  rcases Act.of_perform_bind_error performed with failed | ⟨⟨⟩, overlaid, laid, performed⟩
  · rcases of_layFile_error failed with unreadable | ⟨layer, overlayAt, applied⟩
    · rw [basedDisk] at unreadable
      have unreadable := disk ▸ unreadable
      exact Or.inl ⟨overlay.refused _ unreadable, Or.inr unreadable⟩
    · rw [basedDisk] at overlayAt
      have overlayAt := disk ▸ overlayAt
      have basedEnds : based.settings.End false := by
        rw [basedSettings]
        exact end_defaults.merge mainEnds.inMappings
      obtain ⟨e, rfl, astray⟩ :=
        of_applyEnvironment_error basedEnds (overlay.ends _ overlayAt).inMappings applied
      exact Or.inr ⟨layer, e, overlayAt, astray, rfl⟩
  obtain ⟨overlayLayer, overlayAt, -, merged⟩ := of_perform_layOverlay laid
  rw [basedDisk] at overlayAt
  have overlayEnds := overlay.ends _ (disk ▸ overlayAt)
  rcases Act.of_perform_bind_error performed with refused | ⟨⟨⟩, last, -, finished⟩
  · have ends : overlaid.settings.End true := by
      rw [merged, basedSettings, basedTies]
      exact end_layered mainEnds overlayEnds
    exact absurd ends (of_refuseEndless_error refused)
  · rw [Act.perform_bind_ok (perform_substituteEnvironment _),
      Act.perform_bind_ok (Act.perform_note ..)] at finished
    cases finished

/-- Settings are resolved where they fit, and otherwise refused in one way or another. -/
theorem resolve_reported (settings : Entries) (base : Path) (asked : Option Text) :
    (∃ run, resolve settings base asked = .ok run ∧ Fits settings asked) ∨
      ∃ fault, resolve settings base asked = .error fault ∧
        (fault.isConfiguration = true ∧ Refused settings asked fault ∨ ¬Fits settings asked) := by
  by_cases fits : Fits settings asked
  · rcases resolve_expected fits base with ⟨run, resolved⟩ | ⟨fault, failed, refused⟩
    · exact Or.inl ⟨run, resolved, fits⟩
    · exact Or.inr ⟨fault, failed, Or.inl ⟨refused.isConfiguration, refused⟩⟩
  · cases resolved : resolve settings base asked with
    | ok run => exact absurd (resolve_eq_ok.mp resolved).fits fits
    | error fault => exact Or.inr ⟨fault, rfl, Or.inr fits⟩

/-- **A malformed configuration is reported**, unless it is for the overrides, which are taken to be
a mapping, or for the kind of a setting. Loading fails for the configuration in one of the files, or
for the overrides; otherwise it returns the layers of the files. These are resolved, or refused for
the target or the extension in them, or they do not fit. -/
theorem load_reported {source : Source} {world started : World}
    (environment : loadEnvironment.perform world = (.ok (), started))
    (main : Sound world.disk 1 source.path)
    (overlay : Sound world.disk 2 source.environmentPath) :
    (∃ fault after, (load source).perform world = (.error fault, after) ∧
        (fault.isConfiguration = true ∧
            (layerAt world.disk 1 source.path = .error fault ∨
              layerAt world.disk 2 source.environmentPath = .error fault) ∨
          ∃ layer e, layerAt world.disk 2 source.environmentPath = .ok layer ∧
            OverridesAstray layer.1 e ∧ fault = .overrides e)) ∨
      ∃ settings after mainLayer overlayLayer,
        (load source).perform world = (.ok settings, after) ∧
        layerAt world.disk 1 source.path = .ok mainLayer ∧
        layerAt world.disk 2 source.environmentPath = .ok overlayLayer ∧
        settings = Entries.subst after.env (layered mainLayer overlayLayer.1) ∧
        ∀ base asked,
          (∃ run, resolve settings base asked = .ok run ∧ Fits settings asked) ∨
            ∃ fault, resolve settings base asked = .error fault ∧
              (fault.isConfiguration = true ∧ Refused settings asked fault ∨
                ¬Fits settings asked) := by
  rcases performed : (load source).perform world with ⟨result, after⟩
  cases result with
  | error fault =>
    exact Or.inl ⟨fault, after, rfl, of_load_error environment main overlay performed⟩
  | ok settings =>
    obtain ⟨mainLayer, overlayLayer, mainAt, overlayAt, -, composed, -⟩ := of_perform_load performed
    exact Or.inr ⟨settings, after, mainLayer, overlayLayer, rfl, mainAt, overlayAt, composed,
      resolve_reported settings⟩

/-! ### Two configurations -/

/-- A main file and the file of an environment. -/
def configured (main overlay : Text) : World where
  disk :=
    { nodes :=
        [([("config.yaml" : Text)], .file (Utf8.encode main)),
         ([("environments" : Text)], .folder),
         ([("environments" : Text), "dev.yaml"], .file (Utf8.encode overlay))] }

/-- These files. -/
def configuredSource : Source := ⟨Path.ofText "config.yaml", "dev"⟩

/-- Do both files hold trees? -/
def holdTrees (world : World) : Except LoadFault Bool := do
  let main ← layerAt world.disk 1 configuredSource.path
  let overlay ← layerAt world.disk 2 configuredSource.environmentPath
  return !Value.entriesEndless true main.1 && !Value.entriesEndless true overlay.1

/-- A file that holds a tree is sound. -/
theorem sound_of_ends {disk : Disk} {file : Nat} {path : Path} {layer : Entries × Ties}
    (held : layerAt disk file path = .ok layer)
    (ends : (!Value.entriesEndless true layer.1) = true) : Sound disk file path where
  refused fault refused := by
    rw [held] at refused
    cases refused
  ends other same := by
    obtain rfl := Except.ok.inj (held.symm.trans same)
    rw [Bool.not_eq_true'] at ends
    exact Value.entriesEndless_eq_false.mp ends

theorem sound_of_holdTrees {world : World} (trees : holdTrees world = .ok true) :
    Sound world.disk 1 configuredSource.path ∧
      Sound world.disk 2 configuredSource.environmentPath := by
  obtain ⟨main, mainAt, trees⟩ := of_bind_ok trees
  obtain ⟨overlay, overlayAt, trees⟩ := of_bind_ok trees
  obtain ⟨mainEnds, overlayEnds⟩ := Bool.and_eq_true_iff.mp (Except.ok.inj trees)
  exact ⟨sound_of_ends mainAt mainEnds, sound_of_ends overlayAt overlayEnds⟩

/-- No environment file is there. -/
theorem loadEnvironment_configured (main overlay : Text) :
    loadEnvironment.perform (configured main overlay) = (.ok (), configured main overlay) := rfl

/-- The outcome of loading and resolving. -/
def outcome (world : World) (asked : Option Text) :
    Except LoadFault (Except ResolveFault RunSettings) :=
  ((load configuredSource).perform world).1.map (resolve · ⟨.here, []⟩ asked)

theorem loaded_of_outcome {world : World} {asked : Option Text}
    {result : Except ResolveFault RunSettings} (computed : outcome world asked = .ok result) :
    ∃ settings after, (load configuredSource).perform world = (.ok settings, after) := by
  unfold outcome at computed
  rcases loaded : (load configuredSource).perform world with ⟨outcome, after⟩
  rw [loaded] at computed
  cases outcome with
  | error fault => cases computed
  | ok settings => exact ⟨settings, after, rfl⟩

/-- Settings that were loaded have the outcome of resolving them. -/
theorem resolve_of_outcome {world after : World} {asked : Option Text} {settings : Entries}
    {result : Except ResolveFault RunSettings}
    (loaded : (load configuredSource).perform world = (.ok settings, after))
    (computed : outcome world asked = .ok result) :
    resolve settings ⟨.here, []⟩ asked = result := by
  unfold outcome at computed
  rw [loaded] at computed
  exact Except.ok.inj computed

/-- An unknown target is configured, and the environment overrides a folder. -/
def unknownTarget : World :=
  configured "generator: \x7btarget: cobol\x7d\n"
    "overrides: \x7bpaths: \x7bfeatures: docs\x7d\x7d\n"

/-- The unknown target is reported, unless another one is asked for, since the settings fit. -/
theorem load_reported_unknown : ∃ settings after,
    (load configuredSource).perform unknownTarget = (.ok settings, after) ∧
      resolve settings ⟨.here, []⟩ none = .error (.target ⟨"cobol"⟩) ∧
      Fits settings (some "pytest-playwright") := by
  have environment : loadEnvironment.perform unknownTarget = (.ok (), unknownTarget) :=
    loadEnvironment_configured _ _
  have trees : holdTrees unknownTarget = .ok true := by decide +kernel
  have unasked : outcome unknownTarget none = .ok (.error (.target ⟨"cobol"⟩)) := by
    decide +kernel
  have asked : outcome unknownTarget (some "pytest-playwright") =
      .ok (.ok ⟨⟨.here, []⟩, ⟨.here, ["docs"]⟩, ⟨.here, ["tests"]⟩, ".feature", .pytestPlaywright,
        "INFO"⟩) := by
    decide +kernel
  obtain ⟨main, overlay⟩ := sound_of_holdTrees trees
  rcases load_reported environment main overlay with
    ⟨fault, after, failed, -⟩ | ⟨settings, after, _, _, loaded, -, -, -, reported⟩
  · obtain ⟨settings, last, loaded⟩ := loaded_of_outcome unasked
    rw [loaded] at failed
    cases failed
  · refine ⟨settings, after, loaded, resolve_of_outcome loaded unasked, ?_⟩
    rcases reported ⟨.here, []⟩ (some "pytest-playwright") with
      ⟨run, -, fits⟩ | ⟨fault, refused, -⟩
    · exact fits
    · rw [resolve_of_outcome loaded asked] at refused
      cases refused

/-- A number is configured for the folder of documents. -/
def numberedFolder : World := configured "paths: \x7bfeatures: 5\x7d\n" ""

/-- The number is not reported as a fault of the configuration. -/
theorem load_numbered :
    loadEnvironment.perform numberedFolder = (.ok (), numberedFolder) ∧
      Sound numberedFolder.disk 1 configuredSource.path ∧
      Sound numberedFolder.disk 2 configuredSource.environmentPath ∧
      ∃ settings after, (load configuredSource).perform numberedFolder = (.ok settings, after) ∧
        ∃ fault, resolve settings ⟨.here, []⟩ none = .error fault ∧
          fault.isConfiguration = false := by
  have trees : holdTrees numberedFolder = .ok true := by decide +kernel
  have computed : outcome numberedFolder none = .ok (.error (.folderKind "int")) := by
    decide +kernel
  obtain ⟨main, overlay⟩ := sound_of_holdTrees trees
  obtain ⟨settings, after, loaded⟩ := loaded_of_outcome computed
  exact ⟨loadEnvironment_configured _ _, main, overlay, settings, after, loaded, _,
    resolve_of_outcome loaded computed, rfl⟩

end Scenarist.Configuration
