/-
Settings from YAML. The nodes of a document become values level by level: a collection is begun
where it stands, and filled when the whole level above it is done. So of two flaws the one on the
higher level comes first. A node that stands in several places is one value in all of them. A key
given twice keeps its first place and its last value.
-/

import Scenarist.Settings.Number
import Scenarist.Settings.Tie
import Scenarist.Text.Bytes
import Scenarist.Yaml.Node

namespace Scenarist

namespace Yaml

/-! ### Building values -/

/-- What a node has become: a value without parts, or the collection that is filled under the
node's number. -/
inductive Made where
  | atom (key : Key)
  | whole (id : NodeId)

/-- What is in a collection. -/
inductive Body where
  | list (items : List Made)
  | pairs (items : List (Made × Made))
  | set (members : List Key)
  | map (entries : List (Key × Made))

/-- The nodes, what they have become, the collections filled and those to be filled on the next
level, the last one first. -/
structure Build where
  /-- The number of the file among those that are read together. -/
  file : Nat
  nodes : Array Node
  made : Array (Option Made)
  bodies : Array (Option Body)
  waiting : List NodeId := []

/-- Building values of nodes. -/
abbrev Builder := StateT Build (Except Flaw)

namespace Builder

/-- Gives up. -/
def refuse {α : Type} : Builder α := throw .malformed

/-- A node by its number. -/
def node (id : NodeId) : Builder Node := do
  return (← get).nodes[id]?.getD default

/-- Puts another node in the place of one. -/
def setNode (id : NodeId) (node : Node) : Builder Unit :=
  modify fun build => { build with nodes := build.nodes.setIfInBounds id node }

/-- The tag of a node. -/
def tag (id : NodeId) : Builder Tag := do return (← node id).tag

/-- More steps than there are nodes. -/
def fuel : Builder Nat := do return (← get).nodes.size + 1

/-! ### Merge keys -/

/-- The first pair whose key is a merge key, and the pairs before and behind it. -/
def cutMerge (pairs : List (NodeId × NodeId)) :
    Builder (Option (List (NodeId × NodeId) × NodeId × List (NodeId × NodeId))) := do
  match pairs with
  | [] => return none
  | (key, value) :: rest =>
    if (← tag key) = .merge then return some ([], value, rest)
    else
      return (← cutMerge rest).map fun (before, found, after) =>
        ((key, value) :: before, found, after)

/-- The pairs of a mapping. -/
def pairsOf (id : NodeId) : Builder (List (NodeId × NodeId)) := do
  match ← node id with
  | .mapping _ pairs => return pairs
  | _ => refuse

/-- Puts pairs in the place of those of a mapping. -/
def setPairs (id : NodeId) (pairs : List (NodeId × NodeId)) : Builder Unit := do
  setNode id (.mapping (← tag id) pairs)

/-- Makes the key `=` of a mapping the text that it looks like. -/
def nameValueKeys (pairs : List (NodeId × NodeId)) : Builder Unit :=
  pairs.forM fun (key, _) => do
    let node ← node key
    if node.tag = .value then setNode key (node.tagged .str)

/-- Takes the merge keys out of a mapping, and puts the pairs of the mappings that they name in
front of the other pairs; of a list of mappings the first one comes last. Every step takes a merge
key away from the document, so `fuel` may be their number. -/
def flatten (fuel : Nat) (id : NodeId) (gathered : List (NodeId × NodeId)) : Builder Unit := do
  match fuel with
  | 0 => refuse
  | fuel + 1 =>
    match ← cutMerge (← pairsOf id) with
    | none =>
      let own ← pairsOf id
      nameValueKeys own
      setPairs id (gathered ++ own)
    | some (before, source, after) =>
      setPairs id (before ++ after)
      match ← node source with
      | .mapping _ _ =>
        flatten fuel source []
        flatten fuel id (gathered ++ (← pairsOf source))
      | .sequence _ items =>
        let brought ← items.mapM fun item => do
          flatten fuel item []
          pairsOf item
        flatten fuel id (gathered ++ brought.reverse.flatten)
      | .scalar _ _ => refuse

/-- The number of pairs in all mappings, and one more. -/
def pairCount : Builder Nat := do
  return (← get).nodes.foldl (fun count node => match node with
    | .mapping _ pairs => count + pairs.length
    | _ => count) 1

/-! ### Scalars -/

/-- The text of a scalar. A mapping stands for the scalar at its key `=`. -/
def scalarText : Nat → NodeId → Builder Text
  | 0, _ => throw .tooDeep
  | fuel + 1, id => do
    match ← node id with
    | .scalar _ text => return text
    | .sequence _ _ => refuse
    | .mapping _ pairs =>
      match ← pairs.findM? fun pair => return (← tag pair.1) = .value with
      | some (_, value) => scalarText fuel value
      | none => refuse

/-- The moment of a scalar. -/
def moment (id : NodeId) : Builder Key := do
  match ← node id with
  | .scalar _ text =>
    match Moment.read? (Tag.withoutBreak text) with
    | none => throw .momentForm
    | some value =>
      match value.fault? with
      | some fault => throw (.moment fault)
      | none => return .moment value
  | _ => throw .momentKind

/-- The value of a scalar of this kind. -/
def scalarKey (id : NodeId) (tag : Tag) (text : Text) : Builder Key := do
  match tag with
  | .null => return .null
  | .bool =>
    match Tag.truths.lookup (Text.lower text) with
    | some value => return .bool value
    | none => throw (.truth (Text.lower text))
  | .int => return .int (← integer text)
  | .float =>
    let file := (← get).file
    match ← lowerDecimal (decimalBody text) with
    | .nan => return if isSharedNan text then .undefined 0 0 else .undefined file (id + 1)
    | value => return .real value
  | .binary =>
    match Base64.decode? text with
    | some bytes => return .bytes bytes
    | none => refuse
  | .timestamp => moment id
  | .str => return .text text
  | _ => refuse

/-! ### Levels -/

/-- Is the kind that of a collection? -/
def isCollection (tag : Tag) : Bool :=
  tag = .seq || tag = .map || tag = .omap || tag = .pairs || tag = .set

/-- What a node becomes. A collection is only begun. -/
def make (id : NodeId) : Builder Made := do
  match (← get).made[id]?.getD none with
  | some made => return made
  | none =>
    let tag ← tag id
    if isCollection tag then
      modify fun build => { build with
        made := build.made.setIfInBounds id (some (.whole id)), waiting := id :: build.waiting }
      return .whole id
    else if tag = .merge || tag = .value || tag = .other then refuse
    else
      let key ← scalarKey id tag (← scalarText (← fuel) id)
      modify fun build => { build with
        made := build.made.setIfInBounds id (some (.atom key)) }
      return .atom key

/-- The key that a node becomes. Collections are none. -/
def makeKey (id : NodeId) : Builder Key := do
  match ← make id with
  | .atom key => return key
  | .whole _ => refuse

/-- The entries of a mapping, with its merge keys followed. -/
def entries (id : NodeId) : Builder (List (Key × Made)) := do
  flatten (← pairCount) id []
  (← pairsOf id).mapM fun (key, value) => do
    let key ← makeKey key
    return (key, ← make value)

/-- The items of a sequence of mappings with one pair each. -/
def pairItems (id : NodeId) : Builder (List (Made × Made)) := do
  match ← node id with
  | .sequence _ items => items.mapM fun item => do
    match ← pairsOf item with
    | [(key, value)] => do
      let key ← make key
      return (key, ← make value)
    | _ => refuse
  | _ => refuse

/-- What is in the collection of a node. -/
def body (id : NodeId) : Builder Body := do
  match ← tag id with
  | .seq =>
    match ← node id with
    | .sequence _ items => return .list (← items.mapM make)
    | _ => refuse
  | .map => return .map (← entries id)
  | .set => return .set ((← entries id).map (·.1))
  | _ => return .pairs (← pairItems id)

/-- Fills the collections of one level after the other. -/
def levels : Nat → Builder Unit
  | 0 => return ()
  | fuel + 1 => do
    let level := (← get).waiting.reverse
    if level.isEmpty then return ()
    modify fun build => { build with waiting := [] }
    level.forM fun id => do
      let body ← body id
      modify fun build => { build with bodies := build.bodies.setIfInBounds id (some body) }
    levels fuel

/-- What the root becomes, with all that is in it. -/
def document (root : NodeId) : Builder Made := do
  let made ← make root
  levels (← fuel)
  return made

end Builder

/-! ### Values and places -/

/-- The pairs, each key in its first place with its last value. -/
def Key.settle {α : Type} (pairs : List (Key × α)) : List (Key × α) :=
  pairs.foldl (fun settled pair =>
    if settled.any fun entry => entry.1.same pair.1 then
      settled.map fun entry => if entry.1.same pair.1 then (entry.1, pair.2) else entry
    else settled ++ [pair]) []

/-- The value of what a node has become. `above` are the collections around it. -/
def Build.value (build : Build) : Nat → List NodeId → Made → Value
  | _, _, .atom key => key.value
  | 0, _, .whole _ => .endless
  | fuel + 1, above, .whole id =>
    if above.contains id then .endless
    else
      let inner := build.value fuel (id :: above)
      match build.bodies[id]?.getD none with
      | some (.list items) => .list (items.map inner)
      | some (.pairs items) => .list (items.map fun item => .pair (inner item.1) (inner item.2))
      | some (.set members) => .set ((Key.settle (members.map (·, ()))).map (·.1))
      | some (.map entries) =>
        .map ((Key.settle entries).map fun entry => (entry.1, inner entry.2))
      | none => .endless

/-- The places of all mappings, with the nodes that they come from. `above` are the collections
around them. -/
def Build.places (build : Build) : Nat → List NodeId → Made → List (NodeId × Place)
  | _, _, .atom _ => []
  | 0, _, .whole _ => []
  | fuel + 1, above, .whole id =>
    if above.contains id then []
    else
      let inner (turns : List Turn) (made : Made) :=
        (build.places fuel (id :: above) made).map fun found => (found.1, turns ++ found.2)
      match build.bodies[id]?.getD none with
      | some (.list items) =>
        items.zipIdx.flatMap fun (item, index) => inner [.item index] item
      | some (.pairs items) =>
        items.zipIdx.flatMap fun (item, index) =>
          inner [.item index, .first] item.1 ++ inner [.item index, .second] item.2
      | some (.map entries) =>
        (id, []) :: (Key.settle entries).flatMap fun entry =>
          inner [.key entry.1.canonical] entry.2
      | _ => []

/-- The places by node, where a node has several. -/
def tiesOf (found : List (NodeId × Place)) : Ties :=
  let ids := (found.map (·.1)).eraseDups
  (ids.map fun id => (found.filter fun place => place.1 = id).map (·.2)).filter fun group =>
    1 < group.length

end Yaml

/-- A value with the places of the mappings that stand in it several times. -/
structure TiedValue where
  value : Value
  ties : Ties := []

/-- The value that a YAML text spells; a text without a document is null. `file` is the number of
its file among those that are read together. -/
def TiedValue.ofYaml (file : Nat) (supply : Yaml.Supply) : Except Yaml.Flaw TiedValue := do
  match ← Yaml.Graph.ofSupply? supply with
  | none => return { value := .null }
  | some graph =>
    let size := graph.nodes.size
    let (made, build) ← (Yaml.Builder.document graph.root).run {
      file := file
      nodes := graph.nodes
      made := Array.replicate size none
      bodies := Array.replicate size none }
    return {
      value := build.value (size + 1) [] made
      ties := Yaml.tiesOf (build.places (size + 1) [] made) }

end Scenarist
