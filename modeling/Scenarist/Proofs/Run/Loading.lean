/-
**What the settings are made of.** Where settings are loaded, they are the mapping of the main file
over the defaults, the overrides of the environment's file over that, and the rest of its mapping
over them all, with the variables of the environment put in at the end
(`Configuration.of_perform_load`).
-/

import Scenarist.Proofs.Run.Perform
import Scenarist.Proofs.Settings.Settled

namespace Scenarist

/-! ### The environment -/

namespace EnvFile

/-- Setting a variable leaves the other ones. -/
theorem lookup_set {env after : Environment} {name value : Text}
    (done : set env name value = .ok after) {other : Text} (different : other ≠ name) :
    after.lookup other = env.lookup other := by
  unfold set at done
  split at done
  · cases done
  · split at done
    · cases done
    · split at done
      · cases done
      · cases done
        have apart : (other == name) = false := beq_eq_false_iff_ne.mpr different
        rw [List.lookup_append, List.lookup_cons, apart]
        refine (Option.or_none ..).trans ?_
        induction env with
        | nil => rfl
        | cons pair env ih =>
          obtain ⟨head, held⟩ := pair
          rw [List.filter_cons]
          by_cases here : head = name
          · subst here
            rw [if_neg (by simp), ih, List.lookup_cons, apart]
          · rw [if_pos (by simpa using here), List.lookup_cons, List.lookup_cons, ih]

/-- **A variable that is set stays as it is** when an environment file is loaded. -/
theorem lookup_setAll {env : Environment} {name held : Text} (known : env.lookup name = some held)
    (vars : List (Text × Option Text)) : (setAll env vars).1.lookup name = some held := by
  induction vars generalizing env with
  | nil => exact known
  | cons pair vars ih =>
    obtain ⟨other, value⟩ := pair
    unfold setAll
    split
    · next value absent =>
      have different : name ≠ other := by
        rintro rfl
        rw [known] at absent
        cases absent
      split
      · next after done => exact ih ((lookup_set done different).trans known)
      · exact known
    · exact ih known

end EnvFile

namespace Configuration

/-! ### The layers -/

/-- The mapping in the file at a path. A file that is not there has an empty one. -/
def layerAt (disk : Disk) (file : Nat) (path : Path) : Except LoadFault (Entries × Ties) :=
  match disk.look? path with
  | .ok none => .ok ([], [])
  | .ok (some _) => mappingAt disk file path
  | .error e => .error (.disk e)

/-- The mapping is settled. -/
theorem settled_layerAt {disk : Disk} {file : Nat} {path : Path} {layer : Entries × Ties}
    (held : layerAt disk file path = .ok layer) : (Value.map layer.1).Settled := by
  unfold layerAt at held
  split at held
  · cases held
    exact .map List.Pairwise.nil fun entry member => absurd member List.not_mem_nil
  · exact settled_mappingAt held
  · cases held

/-- The overrides in the mapping of an environment. -/
def overridesOf (overlay : Entries) : Entries :=
  ((overlay.get? overridesKey).bind Value.entries?).getD []

/-- The rest of the mapping of an environment. -/
def restOf (overlay : Entries) : Entries := overlay.drop overridesKey

/-- The mappings of the main file and of the environment over the defaults. -/
def layered (main : Entries × Ties) (overlay : Entries) : Entries :=
  ((defaults.merge main.1).overrideAll (main.2.above defaults) (overridesOf overlay)).1.merge
    (restOf overlay)

/-! ### The steps of loading -/

section Steps

variable {source : Source} {world after : World}

/-- The environment file sets the variables that are not set, and nothing else. -/
theorem of_perform_loadEnvironment (performed : loadEnvironment.perform world = (.ok (), after)) :
    after.disk = world.disk ∧
      ∀ name held, world.env.lookup name = some held → after.env.lookup name = some held := by
  unfold loadEnvironment at performed
  rw [Act.perform_bind_ok (Act.perform_get world)] at performed
  split at performed
  · cases performed
    exact ⟨rfl, fun _ _ known => known⟩
  · split at performed
    · cases performed
    · next text _ =>
      obtain ⟨⟨⟩, middle, modified, performed⟩ := Act.of_perform_bind performed
      cases modified
      split at performed
      · cases performed
      · cases performed
        exact ⟨rfl, fun name held known => EnvFile.lookup_setAll known _⟩

theorem perform_edit (change : Entries × Ties → Entries × Ties) (world : World) :
    (edit change).perform world = (.ok (), { world with
      settings := (change (world.settings, world.ties)).1,
      ties := (change (world.settings, world.ties)).2 }) := rfl

theorem perform_substituteEnvironment (world : World) :
    substituteEnvironment.perform world = (.ok (), { world with
      settings := Entries.subst world.env world.settings, ties := [] }) := rfl

theorem of_perform_isThere {path : Path} {there : Bool}
    (performed : (isThere path).perform world = (.ok there, after)) :
    after = world ∧ ∃ node?, world.disk.look? path = .ok node? ∧ there = node?.isSome := by
  unfold isThere at performed
  obtain ⟨node?, middle, asked, performed⟩ := Act.of_perform_bind performed
  rw [Act.perform_ask] at asked
  cases looked : world.disk.look? path with
  | error e =>
    rw [looked] at asked
    cases asked
  | ok found =>
    rw [looked] at asked
    cases asked
    cases performed
    exact ⟨rfl, _, rfl, rfl⟩

theorem of_perform_readMapping {file : Nat} {path : Path} {layer : Entries × Ties}
    (performed : (readMapping file path).perform world = (.ok layer, after)) :
    after = world ∧ mappingAt world.disk file path = .ok layer := by
  unfold readMapping at performed
  rw [Act.perform_bind_ok (Act.perform_get world)] at performed
  cases held : mappingAt world.disk file path with
  | error fault =>
    rw [held] at performed
    cases performed
  | ok found =>
    rw [held] at performed
    cases performed
    exact ⟨rfl, rfl⟩

theorem of_perform_refuseEndless {lists : Bool}
    (performed : (refuseEndless lists).perform world = (.ok (), after)) : after = world := by
  unfold refuseEndless at performed
  rw [Act.perform_bind_ok (Act.perform_get world)] at performed
  split at performed
  · cases performed
  · cases performed
    rfl

/-- A file that is there is laid over the settings, and of another one only its absence is told. -/
theorem of_perform_layFile {file : Nat} {path : Path} {lay : Entries × Ties → Act LoadFault Unit}
    {level : Log.Level} {missing : Text}
    (performed : (layFile file path lay level missing).perform world = (.ok (), after)) :
    ∃ layer, layerAt world.disk file path = .ok layer ∧
      ((lay layer).perform world = (.ok (), after) ∨
        layer = ([], []) ∧ ∃ entry, after = world.note entry) := by
  unfold layFile at performed
  obtain ⟨there, middle, asked, performed⟩ := Act.of_perform_bind performed
  obtain ⟨rfl, node?, looked, rfl⟩ := of_perform_isThere asked
  cases node? with
  | none =>
    rw [Option.isSome_none, if_neg Bool.false_ne_true, Act.perform_note] at performed
    cases performed
    exact ⟨([], []), by rw [layerAt, looked], Or.inr ⟨rfl, _, rfl⟩⟩
  | some node =>
    rw [Option.isSome_some, if_pos rfl] at performed
    obtain ⟨layer, middle, read, laid⟩ := Act.of_perform_bind performed
    obtain ⟨rfl, mapping⟩ := of_perform_readMapping read
    exact ⟨layer, by rw [layerAt, looked, mapping], Or.inl laid⟩

/-- The overrides of an environment are applied in all places of what they change. -/
theorem of_perform_applyOverrides {overlay : Entries}
    (performed : (applyOverrides overlay).perform world = (.ok (), after)) :
    after.disk = world.disk ∧ after.env = world.env ∧
      after.settings = (world.settings.overrideAll world.ties (overridesOf overlay)).1 := by
  unfold applyOverrides at performed
  unfold overridesOf
  cases found : overlay.get? overridesKey with
  | none =>
    rw [found] at performed
    cases performed
    exact ⟨rfl, rfl, rfl⟩
  | some value =>
    rw [found] at performed
    unfold Value.entries at performed
    rw [Option.bind_some]
    cases isMap : value.entries? with
    | none =>
      simp only [isMap] at performed
      cases performed
    | some overrides =>
      simp only [isMap] at performed
      cases performed
      exact ⟨rfl, rfl, rfl⟩

/-- The mapping of an environment is laid over the settings, its overrides first. -/
theorem of_perform_applyEnvironment {overlay : Entries}
    (performed : (applyEnvironment overlay).perform world = (.ok (), after)) :
    after.disk = world.disk ∧ after.env = world.env ∧ after.settings =
      (world.settings.overrideAll world.ties (overridesOf overlay)).1.merge (restOf overlay) := by
  unfold applyEnvironment at performed
  obtain ⟨⟨⟩, middle, overridden, performed⟩ := Act.of_perform_bind performed
  obtain ⟨⟨⟩, last, checked, edited⟩ := Act.of_perform_bind performed
  obtain rfl := of_perform_refuseEndless checked
  obtain ⟨disk, env, settings⟩ := of_perform_applyOverrides overridden
  rw [perform_edit] at edited
  cases edited
  exact ⟨disk, env, congrArg (·.merge (restOf overlay)) settings⟩

/-- The main file is a layer over the settings. -/
theorem of_perform_layMain {path : Path} {level : Log.Level} {missing : Text}
    (untied : world.ties = [])
    (performed : (layFile 1 path applyMain level missing).perform world = (.ok (), after)) :
    ∃ main, layerAt world.disk 1 path = .ok main ∧ after.disk = world.disk ∧ after.env = world.env ∧
      after.settings = world.settings.merge main.1 ∧
      after.ties = main.2.above world.settings := by
  obtain ⟨main, mainAt, applied⟩ := of_perform_layFile performed
  refine ⟨main, mainAt, ?_⟩
  rcases applied with applied | ⟨rfl, entry, rfl⟩
  · cases applied
    exact ⟨rfl, rfl, rfl, rfl⟩
  · simp [Ties.above, untied]

/-- The environment's file is a layer over the settings, its overrides first. -/
theorem of_perform_layOverlay {path : Path} {level : Log.Level} {missing : Text}
    (performed : (layFile 2 path (applyEnvironment ·.1) level missing).perform world =
      (.ok (), after)) :
    ∃ overlay, layerAt world.disk 2 path = .ok overlay ∧ after.env = world.env ∧ after.settings =
      (world.settings.overrideAll world.ties (overridesOf overlay.1)).1.merge
        (restOf overlay.1) := by
  obtain ⟨overlay, overlayAt, applied⟩ := of_perform_layFile performed
  refine ⟨overlay, overlayAt, ?_⟩
  rcases applied with applied | ⟨rfl, entry, rfl⟩
  · exact (of_perform_applyEnvironment applied).2
  · rw [World.settings_note, World.env_note]
    exact ⟨rfl, (Entries.merge_nil _).symm⟩

end Steps

/-- **Settings that are loaded** are the layers of the files over the defaults, with the environment
put in. -/
theorem of_perform_load {source : Source} {world after : World} {settings : Entries}
    (performed : (load source).perform world = (.ok settings, after)) :
    ∃ main overlay, layerAt world.disk 1 source.path = .ok main ∧
      layerAt world.disk 2 source.environmentPath = .ok overlay ∧
      (∀ name held, world.env.lookup name = some held → after.env.lookup name = some held) ∧
      settings = Entries.subst after.env (layered main overlay.1) ∧ after.settings = settings := by
  unfold load at performed
  obtain ⟨⟨⟩, started, environment, performed⟩ := Act.of_perform_bind performed
  obtain ⟨disk, known⟩ := of_perform_loadEnvironment environment
  rw [Act.perform_bind_ok (perform_edit ..)] at performed
  obtain ⟨⟨⟩, based, laid, performed⟩ := Act.of_perform_bind performed
  obtain ⟨main, mainAt, basedDisk, basedEnv, basedSettings, basedTies⟩ :=
    of_perform_layMain rfl laid
  obtain ⟨⟨⟩, overlaid, laid, performed⟩ := Act.of_perform_bind performed
  obtain ⟨overlay, overlayAt, env, merged⟩ := of_perform_layOverlay laid
  obtain ⟨⟨⟩, last, checked, finished⟩ := Act.of_perform_bind performed
  obtain rfl := of_perform_refuseEndless checked
  rw [Act.perform_bind_ok (perform_substituteEnvironment _),
    Act.perform_bind_ok (Act.perform_note ..)] at finished
  cases finished
  rw [World.env_note, World.settings_note, merged, basedSettings, basedTies, env, basedEnv]
  rw [basedDisk, disk] at overlayAt
  exact ⟨main, overlay, disk ▸ mainAt, overlayAt, known, rfl, rfl⟩

end Configuration

end Scenarist
