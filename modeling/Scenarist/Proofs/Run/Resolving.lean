/-
**What resolving takes for granted.** Settings are resolved to a run, or refused for a target or an
extension that is no good, where their other values are of the kinds that resolving takes for
granted (`resolve_expected`), and only there they are resolved to a run (`Resolved.fits`).
-/

import Scenarist.Run.Configuration

namespace Scenarist.Configuration

/-- What succeeds in two steps succeeds in the first one. -/
theorem of_bind_ok {ε α β : Type} {first : Except ε α} {next : α → Except ε β} {value : β}
    (done : (first >>= next) = .ok value) :
    ∃ middle, first = .ok middle ∧ next middle = .ok value := by
  cases first with
  | error e => cases done
  | ok middle => exact ⟨middle, rfl, done⟩

variable {settings : Entries} {base : Path} {asked : Option Text} {run : RunSettings}

/-! ### Settings that were resolved -/

/-- The settings of a run, each from its own. -/
structure Resolved (settings : Entries) (base : Path) (asked : Option Text) (run : RunSettings) :
    Prop where
  base : baseFolder settings base = .ok run.base
  target : chosenTarget settings asked = .ok run.target
  extension : chosenExtension settings = .ok run.extension
  features : folder run.base (setting settings "paths.features" (.text "features")) =
    .ok run.features
  output : folder run.base (setting settings "paths.output" (.text "tests")) = .ok run.output
  level : (setting settings "logging.level" (.text "INFO")).isWritable = true
  logLevel : (setting settings "logging.level" (.text "INFO")).shown = run.logLevel

/-- **Resolving takes each setting of a run from its own.** -/
theorem resolve_eq_ok :
    resolve settings base asked = .ok run ↔ Resolved settings base asked run := by
  constructor
  · intro resolved
    unfold resolve at resolved
    obtain ⟨top, atBase, resolved⟩ := of_bind_ok resolved
    obtain ⟨target, chosen, resolved⟩ := of_bind_ok resolved
    obtain ⟨extension, extended, resolved⟩ := of_bind_ok resolved
    obtain ⟨features, atFeatures, resolved⟩ := of_bind_ok resolved
    obtain ⟨output, atOutput, resolved⟩ := of_bind_ok resolved
    dsimp only at resolved
    split at resolved
    · cases resolved
    · next writable =>
      cases resolved
      exact ⟨atBase, chosen, extended, atFeatures, atOutput, by simpa using writable, rfl⟩
  · intro resolved
    unfold resolve
    rw [resolved.base]
    simp only [bind, Except.bind, resolved.target, resolved.extension, resolved.features,
      resolved.output, resolved.level, resolved.logLevel, Bool.not_true, Bool.false_eq_true,
      if_false]
    rfl

/-- Documents have an extension. -/
theorem Resolved.extended (resolved : Resolved settings base asked run) : run.extension ≠ [] := by
  have chosen := resolved.extension
  unfold chosenExtension at chosen
  split at chosen
  · rw [← Except.ok.inj chosen]
    exact List.cons_ne_nil _ _
  · cases chosen

/-! ### Settings that fit -/

/-- May the value be asked for among names? -/
def isHashable : Value → Bool
  | .list _ => false
  | .set _ => false
  | .map _ => false
  | _ => true

/-- What the target is taken from: what is asked for, or else the setting. -/
def targetSetting (settings : Entries) (asked : Option Text) : Value :=
  if asked.getD [] = [] then setting settings "generator.target" (.text Target.default.name)
  else .text (asked.getD [])

/-- The settings are of the kinds that resolving takes for granted: a base folder, if there is one,
and the folders below it are texts, the target can be asked for among the names of targets, and it
and the level can be written. -/
structure Fits (settings : Entries) (asked : Option Text) : Prop where
  base : (setting settings "paths.base_dir" .null).isTruthy = true →
    ∃ t, setting settings "paths.base_dir" .null = .text t
  target : isHashable (targetSetting settings asked) = true ∧
    (targetSetting settings asked).isWritable = true
  features : ∃ t, setting settings "paths.features" (.text "features") = .text t
  output : ∃ t, setting settings "paths.output" (.text "tests") = .text t
  level : (setting settings "logging.level" (.text "INFO")).isWritable = true

theorem baseFolder_eq_ok : (∃ top, baseFolder settings base = .ok top) ↔
    ((setting settings "paths.base_dir" .null).isTruthy = true →
      ∃ t, setting settings "paths.base_dir" .null = .text t) := by
  unfold baseFolder
  generalize setting settings "paths.base_dir" .null = configured
  dsimp only
  by_cases truthy : configured.isTruthy = true
  · rw [if_pos truthy]
    cases configured <;> simp [truthy]
  · rw [if_neg truthy]
    exact iff_of_true ⟨base, rfl⟩ fun isTruthy => absurd isTruthy truthy

theorem folder_eq_ok {value : Value} : (∃ path, folder base value = .ok path) ↔
    ∃ t, value = .text t := by
  cases value <;> simp [folder]

/-- The target that a value names. -/
def targetOf (value : Value) : Except ResolveFault Target :=
  match value with
  | .list _ => .error (.targetKind value.kindName)
  | .set _ => .error (.targetKind value.kindName)
  | .map _ => .error (.targetKind value.kindName)
  | .text name =>
    match Target.ofName? name with
    | some target => .ok target
    | none => .error (.target ⟨name⟩)
  | other =>
    if other.isWritable then .error (.target ⟨other.shown⟩) else .error .digitCount

/-- A value that can be asked for and written names a target or is refused for naming none. -/
theorem targetOf_cases {value : Value} (hashable : isHashable value = true)
    (writable : value.isWritable = true) :
    (∃ target, targetOf value = .ok target) ∨
      targetOf value = .error (.target ⟨value.shown⟩) ∧
        ∀ target : Target, value ≠ .text target.name := by
  cases value with
  | text name =>
    rw [targetOf]
    cases named : Target.ofName? name with
    | some target => exact Or.inl ⟨target, rfl⟩
    | none =>
      refine Or.inr ⟨rfl, fun target same => ?_⟩
      obtain rfl := Value.text.inj same
      cases target <;> cases named
  | list items => cases hashable
  | set members => cases hashable
  | map entries => cases hashable
  | _ =>
    unfold targetOf
    dsimp only
    rw [if_pos writable]
    exact Or.inr ⟨rfl, fun target same => by cases same⟩

/-- Only texts name targets. -/
theorem of_targetOf {value : Value} {target : Target} (named : targetOf value = .ok target) :
    ∃ t, value = .text t := by
  cases value with
  | text name => exact ⟨name, rfl⟩
  | list items => cases named
  | set members => cases named
  | map entries => cases named
  | _ =>
    unfold targetOf at named
    dsimp only at named
    split at named <;> cases named

theorem chosenTarget_eq (settings : Entries) (asked : Option Text) :
    chosenTarget settings asked = targetOf (targetSetting settings asked) := by
  cases asked with
  | none => rfl
  | some text =>
    cases text with
    | nil => rfl
    | cons c name => rfl

/-- The target of a run is the one that is asked for. -/
theorem Resolved.target_asked (resolved : Resolved settings base asked run)
    (asks : asked.getD [] ≠ []) : run.target.name = asked.getD [] := by
  have named := resolved.target
  rw [chosenTarget_eq, targetSetting, if_neg asks, targetOf] at named
  split at named
  · next target found =>
    cases named
    simpa using List.find?_some found
  · cases named

/-! ### Resolving -/

/-- Is the fault one of the configuration, as opposed to the kind of a value? -/
def ResolveFault.isConfiguration : ResolveFault → Bool
  | .target _ => true
  | .extension => true
  | _ => false

/-- The settings are refused for what they say: no target has the name, or documents have no
extension. -/
inductive Refused (settings : Entries) (asked : Option Text) : ResolveFault → Prop
  | target (unknown : ∀ target : Target, targetSetting settings asked ≠ .text target.name) :
      Refused settings asked (.target ⟨(targetSetting settings asked).shown⟩)
  | extension (unset : ∀ t, t ≠ [] →
      setting settings "generator.feature_extension" (.text ".feature") ≠ .text t) :
      Refused settings asked .extension

theorem Refused.isConfiguration {fault : ResolveFault} (refused : Refused settings asked fault) :
    fault.isConfiguration = true := by
  cases refused <;> rfl

theorem chosenExtension_error {fault : ResolveFault}
    (refused : chosenExtension settings = .error fault) : Refused settings asked fault := by
  unfold chosenExtension at refused
  split at refused
  · cases refused
  · next unset =>
    cases refused
    refine .extension fun t nonempty isText => ?_
    cases t with
    | nil => exact nonempty rfl
    | cons c rest => exact unset c rest isText

/-- What resolves is of the kinds that are taken for granted. -/
theorem Resolved.fits (resolved : Resolved settings base asked run) : Fits settings asked where
  base := baseFolder_eq_ok.mp ⟨_, resolved.base⟩
  target := by
    have named := resolved.target
    rw [chosenTarget_eq] at named
    obtain ⟨t, isText⟩ := of_targetOf named
    rw [isText]
    exact ⟨rfl, rfl⟩
  features := folder_eq_ok.mp ⟨_, resolved.features⟩
  output := folder_eq_ok.mp ⟨_, resolved.output⟩
  level := resolved.level

/-- **Settings that fit are resolved**, or refused for their target or extension. -/
theorem resolve_expected (fits : Fits settings asked) (base : Path) :
    (∃ run, resolve settings base asked = .ok run) ∨
      ∃ fault, resolve settings base asked = .error fault ∧ Refused settings asked fault := by
  obtain ⟨top, atBase⟩ : ∃ top, baseFolder settings base = .ok top :=
    baseFolder_eq_ok.mpr fits.base
  have target := targetOf_cases fits.target.1 fits.target.2
  rw [← chosenTarget_eq] at target
  rcases target with ⟨target, chosen⟩ | ⟨refused, unknown⟩
  · cases extended : chosenExtension settings with
    | error fault =>
      refine Or.inr ⟨fault, ?_, chosenExtension_error extended⟩
      unfold resolve
      simp only [bind, Except.bind, atBase, chosen, extended]
    | ok extension =>
      obtain ⟨features, atFeatures⟩ : ∃ path,
          folder top (setting settings "paths.features" (.text "features")) = .ok path :=
        folder_eq_ok.mpr fits.features
      obtain ⟨output, atOutput⟩ : ∃ path,
          folder top (setting settings "paths.output" (.text "tests")) = .ok path :=
        folder_eq_ok.mpr fits.output
      exact Or.inl ⟨⟨top, features, output, extension, target, _⟩, resolve_eq_ok.mpr
        ⟨atBase, chosen, extended, atFeatures, atOutput, fits.level, rfl⟩⟩
  · refine Or.inr ⟨_, ?_, .target unknown⟩
    unfold resolve
    simp only [bind, Except.bind, atBase, refused]

end Scenarist.Configuration
