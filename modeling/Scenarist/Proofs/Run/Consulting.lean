/-
**What loading looks at.** Loading the settings leaves the disk alone, and it looks at three files
only: on disks on which these are the same it does the same, whatever else the disks hold
(`load_indifferent`).
-/

import Scenarist.Proofs.Run.Perform
import Scenarist.Run.Configuration

namespace Scenarist

namespace Act

variable {ε δ α β : Type} {disk other : Disk}

/-- The action does the same on both disks and leaves them alone. -/
def Indifferent (disk other : Disk) (act : Act ε α) : Prop :=
  ∀ world : World, world.disk = disk → ∃ result after,
    act.perform world = (result, after) ∧ after.disk = disk ∧
      act.perform { world with disk := other } = (result, { after with disk := other })

theorem indifferent_pure (value : α) : (pure value : Act ε α).Indifferent disk other :=
  fun world there => ⟨.ok value, world, rfl, there, rfl⟩

theorem indifferent_throw (e : ε) : (throw e : Act ε α).Indifferent disk other :=
  fun world there => ⟨.error e, world, rfl, there, rfl⟩

/-- Actions that are indifferent are so one after another. -/
theorem Indifferent.bind {act : Act ε α} {next : α → Act ε β} (first : act.Indifferent disk other)
    (later : ∀ value, (next value).Indifferent disk other) :
    (act >>= next).Indifferent disk other := by
  intro world there
  obtain ⟨result, middle, performed, kept, performedThere⟩ := first world there
  rw [perform_bind, perform_bind, performed, performedThere]
  cases result with
  | error e => exact ⟨.error e, middle, rfl, kept, rfl⟩
  | ok value => exact later value middle kept

/-- The world may be looked at where the disk makes no difference. -/
theorem indifferent_get {next : World → Act ε α}
    (later : ∀ world, world.disk = disk → ∃ result after,
      (next world).perform world = (result, after) ∧ after.disk = disk ∧
        (next { world with disk := other }).perform { world with disk := other } =
          (result, { after with disk := other })) :
    ((get : Act ε World) >>= next).Indifferent disk other := by
  intro world there
  rw [perform_bind_ok (perform_get world), perform_bind_ok (perform_get _)]
  exact later world there

/-- The world may be changed where the disk is left alone. -/
theorem indifferent_modify {change : World → World}
    (kept : ∀ world, (change world).disk = world.disk)
    (apart : ∀ world, change { world with disk := other } = { change world with disk := other }) :
    (modify change : Act ε Unit).Indifferent disk other :=
  fun world there => ⟨.ok (), change world, rfl, (kept world).trans there,
    Prod.ext rfl (apart world)⟩

theorem indifferent_note (channel : Log.Channel) (level : Log.Level) (text : Text) :
    (note channel level text : Act ε Unit).Indifferent disk other := by
  refine indifferent_modify (fun world => World.disk_note world _) fun world => ?_
  unfold World.note
  dsimp only
  split <;> rfl

/-- A question may be asked that has the same answer on both disks. -/
theorem indifferent_ask (fault : Disk.Error → ε) {query : Disk → Except Disk.Error α}
    (same : query other = query disk) : (ask fault query).Indifferent disk other := by
  intro world there
  rw [perform_ask, perform_ask, there]
  exact ⟨_, world, rfl, there, by rw [same]⟩

theorem perform_adapt (fault : δ → ε) (act : Act δ α) (world : World) :
    perform (ExceptT.adapt fault act : Act ε α) world =
      ((act.perform world).1.mapError fault, (act.perform world).2) := rfl

theorem Indifferent.adapt {act : Act δ α} (same : act.Indifferent disk other) (fault : δ → ε) :
    Indifferent disk other (ExceptT.adapt fault act : Act ε α) := by
  intro world there
  obtain ⟨result, after, performed, kept, performedThere⟩ := same world there
  rw [perform_adapt, perform_adapt, performed, performedThere]
  exact ⟨_, after, rfl, kept, rfl⟩

end Act

namespace Configuration

open Act

variable {disk other : Disk}

theorem loadEnvironment_indifferent (same : other.look environmentFile = disk.look environmentFile) :
    loadEnvironment.Indifferent disk other := by
  have read : other.read environmentFile = disk.read environmentFile := by
    rw [Disk.read, Disk.read, same]
  unfold loadEnvironment
  refine indifferent_get fun world there => ?_
  dsimp only
  rw [there, read]
  cases disk.read environmentFile with
  | error e => exact indifferent_pure _ world there
  | ok bytes =>
    dsimp only
    cases Utf8.decode bytes with
    | error e => exact indifferent_throw _ world there
    | ok text =>
      dsimp only
      generalize EnvFile.load world.env (Text.unifyBreaks text) = loaded
      have set : Indifferent disk other
          (modify fun world => { world with env := loaded.1 } : Act LoadFault Unit) :=
        indifferent_modify (fun _ => rfl) fun _ => rfl
      refine set.bind (fun _ => ?_) world there
      cases loaded.2 with
      | none => exact indifferent_pure _
      | some e => exact indifferent_throw _

theorem edit_indifferent (change : Entries × Ties → Entries × Ties) :
    (edit change).Indifferent disk other :=
  indifferent_modify (fun _ => rfl) fun _ => rfl

theorem refuseEndless_indifferent (lists : Bool) :
    (refuseEndless lists).Indifferent disk other := by
  unfold refuseEndless
  refine indifferent_get fun world there => ?_
  dsimp only
  split
  · exact indifferent_throw _ world there
  · exact indifferent_pure _ world there

theorem substituteEnvironment_indifferent : substituteEnvironment.Indifferent disk other := by
  unfold substituteEnvironment
  exact indifferent_get fun world there => edit_indifferent _ world there

theorem isThere_indifferent {path : Path} (same : other.look path = disk.look path) :
    (isThere path).Indifferent disk other := by
  unfold isThere
  refine (indifferent_ask _ ?_).bind fun seen => indifferent_pure _
  rw [Disk.look?, Disk.look?, same]

theorem readMapping_indifferent {path : Path} (same : other.look path = disk.look path) (file : Nat) :
    (readMapping file path).Indifferent disk other := by
  have mapping : mappingAt other file path = mappingAt disk file path := by
    rw [mappingAt, mappingAt, Disk.read, Disk.read, same]
  unfold readMapping
  refine indifferent_get fun world there => ?_
  dsimp only
  rw [there, mapping]
  cases mappingAt disk file path with
  | error fault => exact indifferent_throw _ world there
  | ok layer => exact indifferent_pure _ world there

theorem applyEnvironment_indifferent (layer : Entries) :
    (applyEnvironment layer).Indifferent disk other := by
  unfold applyEnvironment
  have overrides : (applyOverrides layer).Indifferent disk other := by
    unfold applyOverrides
    split
    · split
      · exact edit_indifferent _
      · exact indifferent_throw _
    · exact indifferent_pure _
  exact overrides.bind fun _ => (refuseEndless_indifferent _).bind fun _ => edit_indifferent _

theorem layFile_indifferent {path : Path} (same : other.look path = disk.look path) (file : Nat)
    {lay : Entries × Ties → Act LoadFault Unit} (laid : ∀ layer, (lay layer).Indifferent disk other)
    (level : Log.Level) (missing : Text) :
    (layFile file path lay level missing).Indifferent disk other := by
  unfold layFile
  refine (isThere_indifferent same).bind fun there => ?_
  split
  · exact (readMapping_indifferent same file).bind laid
  · exact indifferent_note _ _ _

/-- **Loading looks at three files** and leaves the disk alone. -/
theorem load_indifferent {source : Source}
    (environment : other.look environmentFile = disk.look environmentFile)
    (main : other.look source.path = disk.look source.path)
    (overlay : other.look source.environmentPath = disk.look source.environmentPath) :
    (load source).Indifferent disk other := by
  unfold load
  refine (loadEnvironment_indifferent environment).bind fun _ => ?_
  refine (edit_indifferent _).bind fun _ => ?_
  refine (layFile_indifferent main 1 (fun _ => edit_indifferent _) _ _).bind fun _ => ?_
  refine (layFile_indifferent overlay 2 (fun _ => applyEnvironment_indifferent _) _ _).bind
    fun _ => ?_
  refine (refuseEndless_indifferent true).bind fun _ => ?_
  refine substituteEnvironment_indifferent.bind fun _ => ?_
  refine (indifferent_note _ _ _).bind fun _ => ?_
  exact indifferent_get fun world there => ⟨.ok world.settings, world, rfl, there, rfl⟩

end Configuration

end Scenarist
