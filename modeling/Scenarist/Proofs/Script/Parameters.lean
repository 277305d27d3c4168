/-
**What statements need, and that steps give it.** The statement of an action shows parameters of the
action, and which ones is a matter of its kind (`Action.needed`): an action is read by these, one
after another (`Action.reads_command`), and they are what can be read off its statement
(`Script.Dialect.params_read`). A module fails to be written exactly when an action lacks one of
them, and then for the first that is lacking, in the order of scenarios, blocks, actions and places
in the statement (`Target.fault?_moduleText`). The actions that stand in the place of a step lack
none (`Step.missing_interpret`), so the module of a feature is always written.
-/

import Scenarist.Proofs.Script.Interpreted
import Scenarist.Proofs.Script.Statement

namespace Scenarist

/-! ### The first fault -/

section Fault

variable {ε α β γ : Type}

/-- Why there is no answer, if there is none. -/
def fault? : Except ε α → Option ε
  | .ok _ => none
  | .error e => some e

theorem fault?_eq_some {answer : Except ε α} {e : ε} :
    fault? answer = some e ↔ answer = .error e := by
  cases answer <;> simp [fault?]

/-- What follows with an answer cannot fail any more. -/
theorem fault?_map (f : α → β) (answer : Except ε α) :
    fault? (do return f (← answer)) = fault? answer := by
  cases answer <;> rfl

/-- Of two questions the first one fails first. -/
theorem fault?_bind (answer : Except ε α) (next : α → Except ε β)
    (later : Option ε) (same : ∀ value, fault? (next value) = later) :
    fault? (answer >>= next) = (fault? answer).or later := by
  cases answer with
  | ok value => exact same value
  | error e => rfl

/-- **Of many questions the first to fail fails.** -/
theorem fault?_mapM (ask : α → Except ε β) (items : List α) :
    fault? (items.mapM ask) = items.findSome? fun item => fault? (ask item) := by
  induction items with
  | nil => rfl
  | cons item items ih =>
    rw [List.mapM_cons, List.findSome?_cons]
    cases asked : ask item with
    | error e => rfl
    | ok value =>
      show fault? (do return value :: (← items.mapM ask)) = _
      rw [fault?_map, ih]
      rfl

end Fault

/-! ### What an action lacks -/

namespace Action

/-- The parameters that the statement of an action of this kind shows, in their order there. -/
def needed (kind : Text) : List Text :=
  if kind = "goto" then ["url"]
  else if kind = "fill" then ["selector", "value"]
  else if kind = "click" then ["label"]
  else if kind = "wait_for_load_state" then ["state"]
  else if kind = "expect_text" then ["text"]
  else if kind = "expect_visible" then []
  else if kind = "expect_url" then []
  else if kind = "press" then ["selector", "key"]
  else ["note"]

/-- The parameters that an action should show and does not have, in their order. -/
def missing (action : Action) : List Text :=
  (needed action.kind).filter fun name => (action.param? name).isNone

/-- The value of a parameter as a statement shows it: a note stands in a comment. -/
def shownAs (name value : Text) : Text := if name = "note" then Literal.comment value else value

/-- A parameter as the statement shows it, if it is there. -/
def display? (action : Action) (name : Text) : Option (Text × Text) :=
  (action.param? name).map fun value => (name, shownAs name value)

/-- The parameters that an action should show and has, in their order. -/
def displayed (action : Action) : List (Text × Text) :=
  (needed action.kind).filterMap action.display?

/-- How an action is read strictly: these parameters are asked for one after another, and the
statement of the command shows them, in this order, and no others. -/
inductive Reads (action : Action) : List Text → Except MissingParam Command → Prop
  | none {command : Command} (shows : (Script.Dialect.shown command).params = []) :
    Reads action [] (.ok command)
  | one {name : Text} {f : Text → Command}
    (shows : ∀ value, (Script.Dialect.shown (f value)).params = [(name, shownAs name value)]) :
    Reads action [name] (do return f (← action.param name))
  | two {first second : Text} {f : Text → Text → Command}
    (shows : ∀ one two, (Script.Dialect.shown (f one two)).params =
      [(first, shownAs first one), (second, shownAs second two)]) :
    Reads action [first, second] (do return f (← action.param first) (← action.param second))

/-- Where the kind decides, it decides what is asked for and what is read. -/
theorem Reads.ite {action : Action} {isKind : Prop} [Decidable isKind] {names others : List Text}
    {answer other : Except MissingParam Command} (yes : Reads action names answer)
    (no : Reads action others other) :
    Reads action (if isKind then names else others) (if isKind then answer else other) := by
  by_cases kind : isKind
  · rwa [if_pos kind, if_pos kind]
  · rwa [if_neg kind, if_neg kind]

/-- **Every action is read by the parameters that its kind needs.** -/
theorem reads_command (action : Action) : action.Reads (needed action.kind) action.command := by
  have fill : action.Reads ["selector", "value"] (do
      let selector ← action.param "selector"
      let value ← action.param "value"
      return .fill selector value (action.param? "field")) :=
    .two fun selector value => by cases action.param? "field" <;> rfl
  unfold needed command
  -- one branch for each kind, in the order in which kinds are told apart
  exact .ite (.one fun _ => rfl) (.ite fill (.ite (.one fun _ => rfl) (.ite (.one fun _ => rfl)
    (.ite (.one fun _ => rfl) (.ite (.none rfl) (.ite (.none rfl) (.ite (.two fun _ _ => rfl)
      (.one fun _ => rfl))))))))

theorem fault?_param (action : Action) (name : Text) :
    fault? (action.param name) = if (action.param? name).isNone then some ⟨name⟩ else none := by
  unfold param
  cases action.param? name <;> rfl

/-- **Reading fails for the first parameter asked for that is lacking.** -/
theorem Reads.fault?_eq {action : Action} {names : List Text} {answer : Except MissingParam Command}
    (reads : action.Reads names answer) :
    fault? answer =
      (names.filter fun name => (action.param? name).isNone).head?.map MissingParam.mk := by
  cases reads with
  | none => rfl
  | @one name f =>
    rw [fault?_map, fault?_param]
    cases found : action.param? name <;> simp [found]
  | @two first second f =>
    rw [fault?_bind _ _ _ fun value => fault?_map (f value) _, fault?_param, fault?_param]
    cases one : action.param? first <;> cases two : action.param? second <;> simp [one, two]

/-- What is read after a parameter was asked for is read with its value. -/
theorem of_param_bind {α : Type} {action : Action} {name : Text}
    {next : Text → Except MissingParam α} {answer : α}
    (isRead : action.param name >>= next = .ok answer) :
    ∃ value, action.param? name = some value ∧ next value = .ok answer := by
  unfold param at isRead
  cases found : action.param? name with
  | none =>
    rw [found] at isRead
    cases isRead
  | some value =>
    rw [found] at isRead
    exact ⟨value, rfl, isRead⟩

/-- **The statement shows the parameters asked for**, in their order, and no others. -/
theorem Reads.params_shown {action : Action} {names : List Text}
    {answer : Except MissingParam Command} (reads : action.Reads names answer) {command : Command}
    (isRead : answer = .ok command) :
    (Script.Dialect.shown command).params = names.filterMap action.display? := by
  cases reads with
  | none shows =>
    cases isRead
    exact shows
  | one shows =>
    obtain ⟨value, found, isRead⟩ := of_param_bind isRead
    cases isRead
    simp [shows, display?, found]
  | two shows =>
    obtain ⟨one, isFirst, isRead⟩ := of_param_bind isRead
    obtain ⟨two, isSecond, isRead⟩ := of_param_bind isRead
    cases isRead
    simp [shows, display?, isFirst, isSecond]

/-- An action is read strictly unless it lacks a parameter, and the first one it lacks is named. -/
theorem fault?_command (action : Action) :
    fault? action.command = action.missing.head?.map MissingParam.mk :=
  action.reads_command.fault?_eq

/-- What an action lacks it should show. -/
theorem mem_missing {action : Action} {name : Text} :
    name ∈ action.missing ↔ name ∈ needed action.kind ∧ action.param? name = none := by
  rw [missing, List.mem_filter, Option.isNone_iff_eq_none]

end Action

/-- **A statement is read back with the parameters that its kind needs**, in their order and with
their values, in whatever dialect it is written. -/
theorem Script.Dialect.params_read (dialect : Dialect) {action : Action} {command : Command}
    (isRead : action.command = .ok command) :
    (dialect.read (dialect.write command)).map Action.params = some action.displayed := by
  rw [dialect.read_write, Option.map_some, action.reads_command.params_shown isRead,
    Action.displayed]

/-! ### What a suite lacks -/

/-- The parameters that the actions of blocks lack, in their order. -/
def Block.missing (blocks : List Block) : List Text :=
  blocks.flatMap fun block => block.actions.flatMap Action.missing

/-- The parameters that the actions of named lists of blocks lack, in their order. -/
def Suite.missing (named : List (Text × List Block)) : List Text :=
  named.flatMap fun scenario => Block.missing scenario.2

/-- A parameter is lacking in a suite when it is lacking in an action of a block of a scenario. -/
theorem Suite.mem_missing {named : List (Text × List Block)} {name : Text} :
    name ∈ Suite.missing named ↔ ∃ scenario ∈ named, ∃ block ∈ scenario.2,
      ∃ action ∈ block.actions, name ∈ Action.needed action.kind ∧ action.param? name = none := by
  simp only [Suite.missing, Block.missing, List.mem_flatMap, Action.mem_missing]

theorem Block.fault?_plain (block : Block) :
    fault? block.plain = (block.actions.flatMap Action.missing).head?.map MissingParam.mk := by
  rw [plain, fault?_map, fault?_mapM, List.head?_flatMap, List.map_findSome?]
  exact congrArg (List.findSome? · block.actions) (funext Action.fault?_command)

theorem Case.fault?_plain (case : Case) :
    fault? case.plain = (Block.missing case.blocks).head?.map MissingParam.mk := by
  rw [plain, fault?_map, fault?_mapM, Block.missing, List.head?_flatMap, List.map_findSome?]
  exact congrArg (List.findSome? · case.blocks) (funext Block.fault?_plain)

/-- The cases of a suite have the blocks of the scenarios, in their order. -/
theorem Suite.map_blocks_assemble (title description : Text) (named : List (Text × List Block)) :
    (Suite.assemble title description named).cases.map Case.blocks = named.map (·.2) := by
  have same : (Naming.methods (named.map (·.1))).length = named.length := by
    rw [Naming.length_methods, List.length_map]
  calc (Suite.assemble title description named).cases.map Case.blocks
      = ((named.zip (Naming.methods (named.map (·.1)))).map Prod.fst).map (·.2) := by
        rw [assemble, List.map_map, List.map_map]
        rfl
    _ = named.map (·.2) := by rw [List.map_fst_zip (Nat.le_of_eq same.symm)]

/-- **A module fails for the first parameter that is lacking, whatever its target.** -/
theorem Target.fault?_moduleText (target : Target) (title description : Text)
    (named : List (Text × List Block)) :
    fault? (target.moduleText (Suite.assemble title description named)) =
      (Suite.missing named).head?.map MissingParam.mk := by
  have cases (suite : Suite) : fault? suite.plain =
      ((suite.cases.map Case.blocks).flatMap Block.missing).head?.map MissingParam.mk := by
    rw [Suite.plain, fault?_map, fault?_mapM, List.flatMap_map, List.head?_flatMap,
      List.map_findSome?]
    exact congrArg (List.findSome? · suite.cases) (funext Case.fault?_plain)
  rw [moduleText, fault?_map, cases, Suite.map_blocks_assemble, List.flatMap_map, Suite.missing]

/-! ### What steps give -/

/-- The action of a command lacks nothing. -/
theorem Command.missing_action (command : Command) : command.action.missing = [] := by
  have read : fault? command.action.command = none := by
    rw [command.command_action]
    rfl
  rwa [Action.fault?_command, Option.map_eq_none_iff, List.head?_eq_none_iff] at read

/-- **The actions in the place of a step lack nothing.** -/
theorem Step.missing_interpret {step : Text} {action : Action}
    (member : action ∈ (Step.interpret step).actions) : action.missing = [] := by
  obtain ⟨command, -, rfl⟩ := List.mem_map.mp member
  exact command.missing_action

/-- **Mapper and modules agree on the parameters.** For each target, a module of scenarios with any
blocks fails exactly when an action lacks a parameter that its statement shows, and names the first
such parameter in the order of scenarios, blocks, actions and places in the statement. Whatever a
step says, the actions in its place have all these parameters; so the module of a feature is written
for each target. -/
theorem Target.moduleText_strict :
    (∀ (target : Target) (title description : Text) (named : List (Text × List Block)),
      ((∃ e, target.moduleText (Suite.assemble title description named) = .error e) ↔
        ∃ scenario ∈ named, ∃ block ∈ scenario.2, ∃ action ∈ block.actions,
          ∃ name ∈ Action.needed action.kind, action.param? name = none) ∧
      ∀ name, target.moduleText (Suite.assemble title description named) = .error ⟨name⟩ ↔
        (named.flatMap fun scenario => scenario.2.flatMap fun block =>
          block.actions.flatMap fun action => (Action.needed action.kind).filter fun name =>
            (action.param? name).isNone).head? = some name) ∧
    (∀ (step : Text), ∀ action ∈ (Step.interpret step).actions,
      ∀ name ∈ Action.needed action.kind, ∃ value, action.param? name = some value) ∧
    ∀ (target : Target) (feature : Feature), ∃ text, target.emit feature = .ok text := by
  refine ⟨fun target title description named => ?_, fun step action member name needed => ?_,
    fun target feature => ⟨_, target.emit_eq feature⟩⟩
  · have first := target.fault?_moduleText title description named
    refine ⟨⟨?_, ?_⟩, fun name => ?_⟩
    · rintro ⟨e, failed⟩
      rw [← fault?_eq_some, first, Option.map_eq_some_iff] at failed
      obtain ⟨name, lacking, -⟩ := failed
      obtain ⟨scenario, among, block, inside, action, within, needed, absent⟩ :=
        Suite.mem_missing.mp (List.mem_of_head? lacking)
      exact ⟨scenario, among, block, inside, action, within, name, needed, absent⟩
    · rintro ⟨scenario, among, block, inside, action, within, name, needed, absent⟩
      have lacking : name ∈ Suite.missing named :=
        Suite.mem_missing.mpr ⟨scenario, among, block, inside, action, within, needed, absent⟩
      obtain ⟨lead, rest, whole⟩ := List.exists_cons_of_ne_nil (List.ne_nil_of_mem lacking)
      rw [whole] at first
      exact ⟨⟨lead⟩, fault?_eq_some.mp first⟩
    · rw [← fault?_eq_some, first]
      show _ ↔ (Suite.missing named).head? = some name
      cases (Suite.missing named).head? <;> simp
  · have none : name ∉ action.missing := by
      rw [Step.missing_interpret member]
      exact List.not_mem_nil
    rw [Action.mem_missing, not_and] at none
    exact Option.ne_none_iff_exists'.mp (none needed)

end Scenarist
