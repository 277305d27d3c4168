/-
**What actions do to the world.** The outcome of every kind of action and the world after it, so
that a run is followed action by action.
-/

import Scenarist.Run.World

namespace Scenarist

/-- Logging leaves the disk alone. -/
@[simp] theorem World.disk_note (world : World) (entry : Log.Entry) :
    (world.note entry).disk = world.disk := by
  unfold World.note
  split <;> rfl

/-- It leaves the environment alone. -/
@[simp] theorem World.env_note (world : World) (entry : Log.Entry) :
    (world.note entry).env = world.env := by
  unfold World.note
  split <;> rfl

/-- It leaves the settings alone. -/
@[simp] theorem World.settings_note (world : World) (entry : Log.Entry) :
    (world.note entry).settings = world.settings := by
  unfold World.note
  split <;> rfl

@[simp] theorem World.ties_note (world : World) (entry : Log.Entry) :
    (world.note entry).ties = world.ties := by
  unfold World.note
  split <;> rfl

@[simp] theorem World.disk_foldl_note (entries : List Log.Entry) (world : World) :
    (entries.foldl World.note world).disk = world.disk := by
  induction entries generalizing world with
  | nil => rfl
  | cons entry entries ih => rw [List.foldl_cons, ih, World.disk_note]

namespace Act

variable {ε δ α β : Type}

theorem perform_pure (value : α) (world : World) :
    (pure value : Act ε α).perform world = (.ok value, world) := rfl

/-- An action goes on in the world that the one before it leaves, unless that failed. -/
theorem perform_bind (act : Act ε α) (next : α → Act ε β) (world : World) :
    (act >>= next).perform world =
      match act.perform world with
      | (.ok value, after) => (next value).perform after
      | (.error e, after) => (.error e, after) := by
  show (ExceptT.bind act next).run.run world = _
  unfold ExceptT.bind ExceptT.run perform
  simp only [ExceptT.mk, ExceptT.run, StateT.run, bind, StateT.bind]
  rcases act world with ⟨result, after⟩
  cases result <;> rfl

theorem perform_bind_ok {act : Act ε α} {world middle : World} {value : α}
    (performed : act.perform world = (.ok value, middle)) (next : α → Act ε β) :
    (act >>= next).perform world = (next value).perform middle := by
  rw [perform_bind, performed]

theorem perform_get (world : World) : (get : Act ε World).perform world = (.ok world, world) := rfl

theorem perform_note (channel : Log.Channel) (level : Log.Level) (text : Text) (world : World) :
    (note channel level text : Act ε Unit).perform world =
      (.ok (), world.note ⟨channel, level, text⟩) := rfl

theorem perform_noteAll (entries : List Log.Entry) (world : World) :
    (noteAll entries : Act ε Unit).perform world = (.ok (), entries.foldl World.note world) := rfl

theorem perform_attempt (act : Act δ α) (world : World) :
    (attempt act : Act ε (Except δ α)).perform world =
      (.ok (act.perform world).1, (act.perform world).2) := rfl

theorem perform_ask (fault : Disk.Error → ε) (query : Disk → Except Disk.Error α) (world : World) :
    (ask fault query).perform world = ((query world.disk).mapError fault, world) := by
  rw [ask, perform_bind_ok (perform_get world)]
  cases query world.disk <;> rfl

theorem perform_change (fault : Disk.Error → ε) (edit : Disk → Except Disk.Error Disk)
    (world : World) : (change fault edit).perform world =
      match edit world.disk with
      | .ok disk => (.ok (), { world with disk := disk })
      | .error e => (.error (fault e), world) := by
  rw [change, perform_bind_ok (perform_get world)]
  cases edit world.disk <;> rfl

theorem perform_makeFolders (fault : Disk.Error → ε) (path : Path) (world : World) :
    (makeFolders fault path).perform world =
      ((world.disk.makeFolders path).2.mapError fault,
        { world with disk := (world.disk.makeFolders path).1 }) := by
  rw [makeFolders, perform_bind_ok (perform_get world)]
  rcases world.disk.makeFolders path with ⟨disk, outcome⟩
  cases outcome <;> rfl

/-- An action that succeeds succeeded up to where the next one began. -/
theorem of_perform_bind {act : Act ε α} {next : α → Act ε β} {world after : World} {value : β}
    (performed : (act >>= next).perform world = (.ok value, after)) :
    ∃ first middle, act.perform world = (.ok first, middle) ∧
      (next first).perform middle = (.ok value, after) := by
  rw [perform_bind] at performed
  rcases done : act.perform world with ⟨result, middle⟩
  rw [done] at performed
  cases result with
  | error e => cases performed
  | ok first => exact ⟨first, middle, rfl, performed⟩

/-- An action that fails fails in its first part or in the rest. -/
theorem of_perform_bind_error {act : Act ε α} {next : α → Act ε β} {world after : World} {e : ε}
    (performed : (act >>= next).perform world = (.error e, after)) :
    act.perform world = (.error e, after) ∨
      ∃ first middle, act.perform world = (.ok first, middle) ∧
        (next first).perform middle = (.error e, after) := by
  rw [perform_bind] at performed
  rcases done : act.perform world with ⟨result, middle⟩
  rw [done] at performed
  cases result with
  | error fault =>
    cases performed
    exact Or.inl rfl
  | ok first => exact Or.inr ⟨first, middle, rfl, performed⟩

end Act

end Scenarist
