/-
The world of a run: the disk, the environment, the settings and the log. An action may fail, and
what it did before it failed stays done.
-/

import Scenarist.Disk.Tree
import Scenarist.Log.Level
import Scenarist.Settings.Tie

namespace Scenarist

/-- Disk, environment, settings and log. -/
structure World where
  disk : Disk
  env : Environment := []
  /-- The level that loggers are set to. -/
  level : Log.Level := Log.Level.info
  /-- The entries that passed, the latest last. -/
  log : List Log.Entry := []
  /-- The settings loaded so far. -/
  settings : Entries := []
  /-- The mappings that stand in several places of them. -/
  ties : Ties := []

/-- The world with an entry logged if it passes. -/
def World.note (world : World) (entry : Log.Entry) : World :=
  if entry.passes world.level then { world with log := world.log ++ [entry] } else world

/-- An action on the world that may fail for a cause of type `ε`. -/
abbrev Act (ε : Type) := ExceptT ε (StateM World)

namespace Act

variable {ε : Type}

/-- Logs an entry. -/
def note (channel : Log.Channel) (level : Log.Level) (text : Text) : Act ε Unit :=
  modify fun world => world.note ⟨channel, level, text⟩

/-- Logs entries in order. -/
def noteAll (entries : List Log.Entry) : Act ε Unit :=
  modify fun world => entries.foldl World.note world

/-- An answer of the disk. -/
def ask {α : Type} (fault : Disk.Error → ε) (query : Disk → Except Disk.Error α) : Act ε α := do
  match query (← get).disk with
  | .ok answer => return answer
  | .error e => throw (fault e)

/-- A change of the disk that happens in whole or not at all. -/
def change (fault : Disk.Error → ε) (edit : Disk → Except Disk.Error Disk) : Act ε Unit := do
  match edit (← get).disk with
  | .ok disk => modify fun world => { world with disk := disk }
  | .error e => throw (fault e)

/-- Makes a folder and the missing ones above it. -/
def makeFolders (fault : Disk.Error → ε) (path : Path) : Act ε Unit := do
  let (disk, outcome) := (← get).disk.makeFolders path
  modify fun world => { world with disk := disk }
  match outcome with
  | .ok () => return ()
  | .error e => throw (fault e)

/-- The outcome of an action that may fail in a way of its own. -/
def attempt {δ α : Type} (act : Act δ α) : Act ε (Except δ α) := ExceptT.lift act.run

/-- The outcome of an action and the world after it. -/
def perform {α : Type} (act : Act ε α) (world : World) : Except ε α × World :=
  act.run.run world

end Act

end Scenarist
