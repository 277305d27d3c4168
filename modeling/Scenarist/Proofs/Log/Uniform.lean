/-
**All loggers that are set up are alike.**

What a registry holds is told by the logger that it finds for each id. Setting a name up and setting
the level each change this in a known way (`find?_setup`, `find?_setLevel`), and keep a registry
uniform (`Uniform.perform`): whatever has been set up has the level of the registry, one handler and
no propagation, and the root logger is the only other one. The level that a logger goes by is then
the same for all of them, whichever loggers stand above it (`Uniform.level_line`).
-/

import Mathlib.Data.List.Induction
import Scenarist.Log.Session

namespace Scenarist.Log

namespace Registry

/-! ### What is found after a change -/

theorem find?_ensure (registry : Registry) (id other : Text) :
    (registry.ensure id).find? other =
      if other = id then some ((registry.find? id).getD ⟨id, Level.notSet, 0, true⟩)
      else registry.find? other := by
  unfold ensure
  cases found : registry.find? id with
  | some logger =>
    by_cases same : other = id
    · simp [same, found]
    · simp [same]
  | none =>
    unfold find? at found ⊢
    by_cases same : other = id
    · simp [same, found]
    · simp [same, List.find?_append, Ne.symm same]

/-- Changing loggers without their ids does not change which one is found. -/
theorem find?_map_loggers {edit : Logger → Logger} (kept : ∀ logger, (edit logger).id = logger.id)
    (loggers : List Logger) (id : Text) :
    (loggers.map edit).find? (·.id == id) = (loggers.find? (·.id == id)).map edit := by
  rw [List.find?_map]
  congr 2
  funext logger
  simp [kept]

/-- A change of one logger that keeps its id leaves the others. -/
theorem find?_change (registry : Registry) (id other : Text) {edit : Logger → Logger}
    (kept : ∀ logger, (edit logger).id = logger.id) :
    (registry.change id edit).find? other =
      if other = id then (registry.find? id).map edit else registry.find? other := by
  have found : (registry.change id edit).find? other = (registry.find? other).map
      fun logger => if logger.id = id then edit logger else logger :=
    find?_map_loggers (fun logger => by split <;> simp [kept]) _ _
  rw [found]
  cases known : registry.find? other with
  | none => by_cases same : other = id <;> simp_all
  | some logger =>
    have isOther : logger.id = other := by simpa using List.find?_some known
    by_cases same : other = id <;> simp_all

/-- A name that is set up gets a logger at the level of the registry. -/
theorem find?_setup {registry : Registry} {name : Text} (fresh : name ∉ registry.names)
    (id : Text) :
    (registry.setup name).find? id =
      if id = loggerId name then
        some (((registry.find? id).getD ⟨id, Level.notSet, 0, true⟩).prepared registry.level)
      else registry.find? id := by
  have found : (registry.setup name).find? id =
      ((registry.ensure (loggerId name)).change (loggerId name) (·.prepared registry.level)).find?
        id := by
    rw [setup, if_neg (by simpa using fresh)]
    rfl
  have kept : ∀ logger : Logger, (logger.prepared registry.level).id = logger.id := fun _ => rfl
  rw [found, find?_change _ _ _ kept, find?_ensure, find?_ensure]
  by_cases same : id = loggerId name <;> simp [same]

theorem names_setup (registry : Registry) (name : Text) :
    ∀ other, other ∈ (registry.setup name).names ↔ other ∈ registry.names ∨ other = name := by
  intro other
  unfold setup
  by_cases known : name ∈ registry.names
  · rw [if_pos (by simpa using known)]
    exact ⟨.inl, fun either => either.elim id fun same => same ▸ known⟩
  · rw [if_neg (by simpa using known)]
    have kept : ((registry.ensure (loggerId name)).change (loggerId name)
        (·.prepared registry.level)).names = registry.names := by
      unfold change ensure
      split <;> rfl
    simp [kept]

theorem level_setup (registry : Registry) (name : Text) :
    (registry.setup name).level = registry.level := by
  unfold setup change ensure
  split
  · rfl
  · dsimp only
    split <;> rfl

/-- What a level that is accepted does. -/
theorem of_setLevel_ok {registry changed : Registry} {request : Request}
    (accepted : registry.setLevel request = .ok changed) :
    request.resolve = .ok changed.level ∧ changed.names = registry.names ∧
      ∀ id, changed.find? id = (registry.find? id).map fun logger =>
        if id ∈ registry.names.map loggerId then { logger with level := changed.level }
        else logger := by
  unfold setLevel at accepted
  cases resolved : request.resolve with
  | error e => simp [resolved, bind, Except.bind] at accepted
  | ok level =>
    simp only [resolved, bind, Except.bind, pure, Except.pure, Except.ok.injEq] at accepted
    subst accepted
    refine ⟨rfl, rfl, fun id => ?_⟩
    refine (find?_map_loggers (fun logger => by split <;> rfl) registry.loggers id).trans ?_
    unfold find?
    cases known : registry.loggers.find? (·.id == id) with
    | none => rfl
    | some logger =>
      have isHere : logger.id = id := by simpa using List.find?_some known
      simp [isHere]

/-- A level is refused for its name. -/
theorem resolve_of_setLevel_error {registry : Registry} {request : Request} {e : UnknownLevel}
    (refused : registry.setLevel request = .error e) : request.resolve = .error e := by
  unfold setLevel at refused
  cases resolved : request.resolve with
  | error other => simpa [resolved, bind, Except.bind] using refused
  | ok level => simp [resolved, bind, Except.bind, pure, Except.pure] at refused

/-! ### Uniform registries -/

/-- What is set up has the level of the registry, one handler and no propagation, and besides there
is the root logger as it was at first. -/
def Uniform (registry : Registry) : Prop :=
  ∀ id, registry.find? id =
    if id ∈ registry.names.map loggerId then some ⟨id, registry.level, 1, false⟩
    else if id = "root" then some ⟨"root", Level.warning, 0, true⟩
    else none

theorem uniform_empty : ({} : Registry).Uniform := by
  intro id
  by_cases isRoot : id = "root"
  · rw [isRoot]
    rfl
  · rw [if_neg (by simp), if_neg isRoot]
    simpa [find?] using Ne.symm isRoot

theorem Uniform.setup {registry : Registry} (uniform : registry.Uniform) (name : Text) :
    (registry.setup name).Uniform := by
  by_cases known : name ∈ registry.names
  · rw [Registry.setup, if_pos (by simpa using known)]
    exact uniform
  · intro id
    have ids : id ∈ (registry.setup name).names.map loggerId ↔
        id ∈ registry.names.map loggerId ∨ id = loggerId name := by
      simp only [List.mem_map, names_setup]
      constructor
      · rintro ⟨other, among | rfl, rfl⟩
        · exact .inl ⟨other, among, rfl⟩
        · exact .inr rfl
      · rintro (⟨other, among, rfl⟩ | rfl)
        · exact ⟨other, .inl among, rfl⟩
        · exact ⟨name, .inr rfl, rfl⟩
    rw [find?_setup known, level_setup, uniform id]
    by_cases same : id = loggerId name
    · rw [if_pos same, if_pos (ids.mpr (.inr same))]
      -- the logger is new, the root logger as it was at first, or known by another name
      split
      · rfl
      · split
        · next isRoot => rw [isRoot]; rfl
        · rfl
    · simp only [if_neg same, ids, or_iff_left same]

theorem Uniform.setLevel {registry changed : Registry} (uniform : registry.Uniform)
    {request : Request} (accepted : registry.setLevel request = .ok changed) : changed.Uniform := by
  obtain ⟨-, names, found⟩ := of_setLevel_ok accepted
  intro id
  rw [found, names, uniform id]
  by_cases among : id ∈ registry.names.map loggerId
  · simp only [if_pos among, Option.map_some]
  · simp only [if_neg among, Option.map_id']

/-- **One call keeps a registry uniform.** -/
theorem Uniform.perform {registry : Registry} (uniform : registry.Uniform) (call : Call) :
    (registry.perform call).2.Uniform := by
  cases call with
  | setup name => exact uniform.setup name
  | setLevel request =>
    cases accepted : registry.setLevel request with
    | ok changed =>
      rw [perform_setLevel_ok accepted]
      exact uniform.setLevel accepted
    | error e =>
      rw [perform_setLevel_error accepted]
      exact uniform

/-- **A registry is uniform after any calls.** -/
theorem uniform_after (calls : List Call) : (after calls).Uniform := by
  induction calls using List.reverseRecOn with
  | nil => exact uniform_empty
  | append_singleton calls call ih =>
    rw [after_concat]
    exact ih.perform call

/-- The level of a registry is the one that was accepted last. -/
theorem level_after (calls : List Call) : (after calls).level = lastAccepted calls := by
  induction calls using List.reverseRecOn with
  | nil => rfl
  | append_singleton calls call ih =>
    rw [after_concat, lastAccepted_concat]
    cases call with
    | setup name => exact (level_setup _ name).trans ih
    | setLevel request =>
      rw [Call.accepted?]
      cases accepted : (after calls).setLevel request with
      | ok changed =>
        rw [perform_setLevel_ok accepted, (of_setLevel_ok accepted).1]
        rfl
      | error e =>
        rw [perform_setLevel_error accepted, resolve_of_setLevel_error accepted, ih]
        rfl

/-- The names that are set up are those of the calls. -/
theorem mem_names_after (calls : List Call) (name : Text) :
    name ∈ (after calls).names ↔ Call.setup name ∈ calls := by
  induction calls using List.reverseRecOn with
  | nil => simp [after]
  | append_singleton calls call ih =>
    rw [after_concat, List.mem_append, List.mem_singleton, ← ih]
    cases call with
    | setup other =>
      rw [Call.setup.injEq]
      exact names_setup _ _ _
    | setLevel request =>
      have same : ((after calls).perform (.setLevel request)).2.names = (after calls).names := by
        cases accepted : (after calls).setLevel request with
        | ok changed =>
          rw [perform_setLevel_ok accepted]
          exact (of_setLevel_ok accepted).2.1
        | error e => rw [perform_setLevel_error accepted]
      simp [same]

/-! ### The level that a logger goes by -/

/-- The level that everything set up goes by: the one of the registry, or the root logger's if that
is none. -/
def common (registry : Registry) : Level :=
  if registry.level ≠ Level.notSet then registry.level
  else if "root".toList ∈ registry.names.map loggerId then Level.notSet
  else Level.warning

/-- In a uniform registry without a level only the root logger, as it was at first, has one. -/
theorem Uniform.level_of_unset {registry : Registry} (uniform : registry.Uniform)
    (unset : registry.level = Level.notSet) {id : Text} {logger : Logger}
    (found : registry.find? id = some logger) :
    logger.level = Level.notSet ∨
      logger.level = Level.warning ∧ "root".toList ∉ registry.names.map loggerId := by
  rw [uniform id] at found
  split at found
  · cases found
    exact .inl unset
  · next apart =>
    split at found
    · next isRoot =>
      cases found
      exact .inr ⟨rfl, isRoot ▸ apart⟩
    · cases found

/-- The levels of the loggers found on a line of ids. -/
def levelsOn (registry : Registry) (line : List Text) : List Level :=
  (line.filterMap registry.find?).map Logger.level

/-- Where only one level is set, it is the first one set. -/
theorem find?_of_only {levels : List Level} {level : Level} (set : level ≠ Level.notSet)
    (among : level ∈ levels)
    (only : ∀ other ∈ levels, other = Level.notSet ∨ other = level) :
    levels.find? (· ≠ Level.notSet) = some level := by
  cases chosen : levels.find? (· ≠ Level.notSet) with
  | none =>
    have impossible := List.find?_eq_none.mp chosen level among
    simp [set] at impossible
  | some other =>
    have otherSet : other ≠ Level.notSet := by simpa using List.find?_some chosen
    rw [(only other (List.mem_of_find?_eq_some chosen)).resolve_left otherSet]

theorem Uniform.of_mem_levelsOn {registry : Registry} (uniform : registry.Uniform)
    (unset : registry.level = Level.notSet) {line : List Text} {level : Level}
    (member : level ∈ registry.levelsOn line) :
    level = Level.notSet ∨
      level = Level.warning ∧ "root".toList ∉ registry.names.map loggerId := by
  obtain ⟨logger, isFound, rfl⟩ := List.mem_map.mp member
  obtain ⟨id, -, found⟩ := List.mem_filterMap.mp isFound
  exact uniform.level_of_unset unset found

/-- **Everything set up goes by one level**, whichever loggers stand between it and the root. -/
theorem Uniform.level_line {registry : Registry} (uniform : registry.Uniform) {id : Text}
    (among : id ∈ registry.names.map loggerId) (between : List Text) :
    ((registry.levelsOn (id :: between ++ [("root" : Text)])).find? (· ≠ Level.notSet)).getD
      Level.notSet = registry.common := by
  have first : registry.find? id = some ⟨id, registry.level, 1, false⟩ := by
    rw [uniform id, if_pos among]
  by_cases unset : registry.level = Level.notSet
  · rw [common, if_neg (by simpa using unset)]
    -- no logger on the line has a level, but for the root logger when it is not set up
    by_cases rootSet : "root".toList ∈ registry.names.map loggerId
    · rw [if_pos rootSet, List.find?_eq_none.mpr]
      · rfl
      · intro level member
        rcases uniform.of_mem_levelsOn unset member with none | ⟨-, apart⟩
        · simp [none]
        · exact absurd rootSet apart
    · have root : registry.find? "root" = some ⟨"root", Level.warning, 0, true⟩ := by
        rw [uniform, if_neg rootSet, if_pos rfl]
      have shows : Level.warning ∈ registry.levelsOn (id :: between ++ [("root" : Text)]) :=
        List.mem_map.mpr ⟨_, List.mem_filterMap.mpr ⟨"root", by simp, root⟩, rfl⟩
      rw [if_neg rootSet, find?_of_only (by decide) shows fun level member =>
        (uniform.of_mem_levelsOn unset member).imp_right And.left]
      rfl
  · simp [levelsOn, first, unset, common]

/-- Whether a message passes is the same for everything that is set up. -/
theorem Uniform.isEnabled_eq {registry : Registry} (uniform : registry.Uniform) {name : Text}
    (known : name ∈ registry.names) (level : Level) :
    registry.isEnabled name level = (0 < level && registry.common ≤ level) := by
  have goes : registry.effectiveLevel (loggerId name) = registry.common :=
    uniform.level_line (List.mem_map_of_mem known) _
  rw [isEnabled, goes]

/-- **All loggers that are set up are alike.** After any calls, setting a name up answers the logger
of the name, at the level accepted last, with one handler and without propagation. A name that has
been set up has this logger, and setting it up again changes nothing. A level of an unknown name is
refused, and changes nothing. And messages of the same levels pass at all names set up. -/
theorem alike_after (calls : List Call) :
    let registry := after calls
    (∀ name, (registry.perform (.setup name)).1 =
      .ok (some ⟨loggerId name, lastAccepted calls, 1, false⟩)) ∧
    (∀ name, .setup name ∈ calls →
      registry.find? (loggerId name) = some ⟨loggerId name, lastAccepted calls, 1, false⟩ ∧
        (registry.perform (.setup name)).2 = registry) ∧
    (∀ name, Level.ofName? name = none →
      registry.perform (.setLevel (.named name)) = (.error ⟨name⟩, registry)) ∧
    ∀ one two, .setup one ∈ calls → .setup two ∈ calls →
      ∀ level, registry.isEnabled one level = registry.isEnabled two level := by
  intro registry
  have uniform : registry.Uniform := uniform_after calls
  have level : registry.level = lastAccepted calls := level_after calls
  refine ⟨fun name => ?_, fun name called => ?_, fun name unknown => ?_, fun one two one' two' => ?_⟩
  · have known : name ∈ (registry.setup name).names := (names_setup _ _ _).mpr (.inr rfl)
    have found := uniform.setup name (loggerId name)
    rw [if_pos (List.mem_map_of_mem known), level_setup, level] at found
    exact congrArg _ found
  · have known : name ∈ registry.names := (mem_names_after calls name).mpr called
    refine ⟨?_, ?_⟩
    · rw [uniform, if_pos (List.mem_map_of_mem known), level]
    · show registry.setup name = registry
      rw [setup, if_pos (by simpa using known)]
  · apply perform_setLevel_error
    simp [setLevel, Request.resolve, unknown, bind, Except.bind]
  · intro level
    rw [uniform.isEnabled_eq ((mem_names_after calls one).mpr one'),
      uniform.isEnabled_eq ((mem_names_after calls two).mpr two')]

/-- A name, the root logger under both of its names, and levels by name, unknown, and none. -/
def sampleCalls : List Call :=
  [.setup "a.b", .setLevel (.named "debug"), .setup "", .setLevel (.named "chatty"),
    .setup "root", .setLevel (.numbered 0), .setup "a"]

theorem alike_after_sample :
    (after sampleCalls).find? "a.b" = some ⟨"a.b", 0, 1, false⟩ ∧
      (after sampleCalls).perform (.setLevel (.named "chatty")) =
        (.error ⟨"chatty"⟩, after sampleCalls) ∧
      ∀ level, (after sampleCalls).isEnabled "a.b" level = (after sampleCalls).isEnabled "" level :=
  have alike := alike_after sampleCalls
  ⟨(alike.2.1 "a.b" (by simp [sampleCalls])).1, alike.2.2.1 "chatty" (by decide),
    alike.2.2.2 "a.b" "" (by simp [sampleCalls]) (by simp [sampleCalls])⟩

end Registry

end Scenarist.Log
