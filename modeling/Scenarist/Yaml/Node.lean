/-
Nodes: the scalars, sequences and mappings that the tokens of a document spell, by number. An alias
is the number of the node that its anchor names, so a node may stand in several places, and inside
itself.
-/

import Scenarist.Yaml.Scan
import Scenarist.Yaml.Tag

namespace Scenarist.Yaml

/-- The number of a node. -/
abbrev NodeId := Nat

/-- A tagged scalar, sequence or mapping. -/
inductive Node where
  | scalar (tag : Tag) (text : Text)
  | sequence (tag : Tag) (items : List NodeId)
  | mapping (tag : Tag) (pairs : List (NodeId × NodeId))

/-- The node of nothing. -/
instance : Inhabited Node := ⟨.scalar .null []⟩

/-- The tag of a node. -/
def Node.tag : Node → Tag
  | .scalar tag _ => tag
  | .sequence tag _ => tag
  | .mapping tag _ => tag

/-- The node with another tag. -/
def Node.tagged (node : Node) (tag : Tag) : Node :=
  match node with
  | .scalar _ text => .scalar tag text
  | .sequence _ items => .sequence tag items
  | .mapping _ pairs => .mapping tag pairs

/-- A document: its nodes, and the one that holds the others. -/
structure Graph where
  nodes : Array Node
  root : NodeId

/-- The tokens still to come, the nodes so far, the anchors met and the tag handles declared. -/
structure Reading where
  scan : Scan
  /-- More steps than reading a token can take. -/
  fuel : Nat
  nodes : Array Node := #[]
  anchors : List (Text × NodeId) := []
  handles : List (Text × Text) := [(['!'], ['!']), (['!', '!'], Tag.lead)]

/-- Reading nodes off the tokens. -/
abbrev Reader := StateT Reading (Except Flaw)

namespace Reader

/-- Gives up. -/
def refuse {α : Type} : Reader α := throw .malformed

/-- The next token, which stays. -/
def peek : Reader Token := do
  let reading ← get
  let scan ← reading.scan.ready reading.fuel
  set { reading with scan := scan }
  return scan.queue.headD .streamEnd

/-- Takes the next token away. -/
def drop : Reader Unit := modify fun reading => { reading with scan := reading.scan.drop }

/-- Is the next token one of `kinds`? -/
def next (kinds : List Token) : Reader Bool := do return kinds.contains (← peek)

/-- Takes the next token away if it is `kind`. -/
def accept (kind : Token) : Reader Bool := do
  if (← peek) = kind then drop; return true else return false

/-- Takes the next token away, which must be `kind`. -/
def expect (kind : Token) : Reader Unit := do
  if !(← accept kind) then refuse

/-- Gives a node its number. -/
def number (node : Node) : Reader NodeId :=
  modifyGet fun reading =>
    (reading.nodes.size, { reading with nodes := reading.nodes.push node })

/-- Gives a node its number, and its anchor, which must be new. -/
def enter (anchor : Option Text) (node : Node) : Reader NodeId := do
  match anchor with
  | none => number node
  | some name =>
    if ((← get).anchors.lookup name).isSome then refuse
    let id ← number node
    modify fun reading => { reading with anchors := (name, id) :: reading.anchors }
    return id

/-- Puts the parts of a collection into its node. -/
def fill (id : NodeId) (node : Node) : Reader NodeId := do
  modify fun reading => { reading with nodes := reading.nodes.setIfInBounds id node }
  return id

/-- The node of nothing. -/
def empty : Reader NodeId := enter none default

/-- The node that an alias stands for. -/
def resolve (name : Text) : Reader NodeId := do
  match (← get).anchors.lookup name with
  | some id => return id
  | none => refuse

/-- The full name of a tag. -/
def tagName (handle : Option Text) (suffix : Text) : Reader Text := do
  match handle with
  | none => return suffix
  | some handle =>
    match (← get).handles.lookup handle with
    | some lead => return lead ++ suffix
    | none => refuse

/-- Anchor and tag before a node, in either order. -/
def properties : Reader (Option Text × Option Text) := do
  match ← peek with
  | .anchor anchor => do
    drop
    match ← peek with
    | .tag handle suffix => drop; return (some anchor, some (← tagName handle suffix))
    | _ => return (some anchor, none)
  | .tag handle suffix => do
    drop
    match ← peek with
    | .anchor anchor => drop; return (some anchor, some (← tagName handle suffix))
    | _ => return (none, some (← tagName handle suffix))
  | _ => return (none, none)

/-- The kind of a scalar. The lone mark asks for the kind of a plain scalar. -/
def scalarTag (tag : Option Text) (plain : Bool) (text : Text) : Tag :=
  match tag with
  | none => if plain then Tag.ofPlain text else .str
  | some name => if name = ['!'] then Tag.ofPlain text else Tag.ofText name

/-- The kind of a collection. -/
def collectionTag (tag : Option Text) (usual : Tag) : Tag :=
  match tag with
  | none => usual
  | some name => if name = ['!'] then usual else Tag.ofText name

/-- How many collections may still stand inside one another. -/
structure Room where
  levels : Nat

/-- The room at the top of a document. It stands for a stack of a thousand calls, counted in
collections. Of all that goes through a tree of settings the reader alone is bounded here: merging,
overriding, substituting and writing go as deep as the trees do, on a stack that never ends. -/
def topRoom : Room := ⟨487⟩

/-- The room that is left inside a collection. -/
def inside (room : Room) : Reader Room :=
  match room.levels with
  | 0 => throw .tooDeep
  | left + 1 => return ⟨left⟩

mutual

/-- A node. `block` allows block collections, `unindented` a block sequence at the indentation of
the mapping around it; `room` is what is left for collections. -/
def node (block unindented : Bool) (room : Room) : Nat → Reader NodeId
  | 0 => refuse
  | fuel + 1 => do
    match ← peek with
    | .reference name => do
      drop
      resolve name
    | _ => do
      let (anchor, tag) ← properties
      let sequence := Node.sequence (collectionTag tag .seq)
      let mapping := Node.mapping (collectionTag tag .map)
      match ← peek with
      | .scalar text plain => do
        let id ← enter anchor (.scalar (scalarTag tag plain text) text)
        drop
        return id
      | .flowSequenceStart => do
        let id ← enter anchor (sequence [])
        let room ← inside room
        drop
        fill id (sequence (← flowItems true room fuel))
      | .flowMappingStart => do
        let id ← enter anchor (mapping [])
        let room ← inside room
        drop
        fill id (mapping (← flowPairs true room fuel))
      | .blockSequenceStart => do
        if !block then refuse
        let id ← enter anchor (sequence [])
        let room ← inside room
        drop
        fill id (sequence (← blockItems room fuel))
      | .blockMappingStart => do
        if !block then refuse
        let id ← enter anchor (mapping [])
        let room ← inside room
        drop
        fill id (mapping (← blockPairs room fuel))
      | token => do
        if unindented && token = .blockEntry then
          let id ← enter anchor (sequence [])
          fill id (sequence (← unindentedItems (← inside room) fuel))
        else if anchor.isSome || tag.isSome then
          enter anchor (.scalar (scalarTag tag true []) [])
        else refuse

/-- A node, or nothing before one of `ends`. -/
def nodeUnless (ends : List Token) (block unindented : Bool) (room : Room) : Nat → Reader NodeId
  | 0 => refuse
  | fuel + 1 => do
    if ← next ends then empty else node block unindented room fuel

/-- The items of a block sequence and its end. -/
def blockItems (room : Room) : Nat → Reader (List NodeId)
  | 0 => refuse
  | fuel + 1 => do
    if ← accept .blockEntry then
      let item ← nodeUnless [.blockEntry, .blockEnd] true false room fuel
      return item :: (← blockItems room fuel)
    else
      expect .blockEnd
      return []

/-- The items of a block sequence without an indentation of its own. -/
def unindentedItems (room : Room) : Nat → Reader (List NodeId)
  | 0 => refuse
  | fuel + 1 => do
    if ← accept .blockEntry then
      let item ← nodeUnless [.blockEntry, .key, .value, .blockEnd] true false room fuel
      return item :: (← unindentedItems room fuel)
    else return []

/-- The pairs of a block mapping and its end. -/
def blockPairs (room : Room) : Nat → Reader (List (NodeId × NodeId))
  | 0 => refuse
  | fuel + 1 => do
    let ends := [Token.key, .value, .blockEnd]
    if ← accept .key then
      let key ← nodeUnless ends true true room fuel
      let value ← if ← accept .value then nodeUnless ends true true room fuel else empty
      return (key, value) :: (← blockPairs room fuel)
    else
      expect .blockEnd
      return []

/-- The items of a flow sequence and its end. A pair may stand in it as a mapping of its own. -/
def flowItems (first : Bool) (room : Room) : Nat → Reader (List NodeId)
  | 0 => refuse
  | fuel + 1 => do
    if ← accept .flowSequenceEnd then return []
    else
      if !first then expect .flowEntry
      if ← accept .key then
        let id ← enter none (.mapping .map [])
        let within ← inside room
        let key ← nodeUnless [.value, .flowEntry, .flowSequenceEnd] false false within fuel
        let value ←
          if ← accept .value then nodeUnless [.flowEntry, .flowSequenceEnd] false false within fuel
          else empty
        let id ← fill id (.mapping .map [(key, value)])
        return id :: (← flowItems false room fuel)
      else if ← accept .flowSequenceEnd then return []
      else
        let item ← node false false room fuel
        return item :: (← flowItems false room fuel)

/-- The pairs of a flow mapping and its end. A lone key has an empty value. -/
def flowPairs (first : Bool) (room : Room) : Nat → Reader (List (NodeId × NodeId))
  | 0 => refuse
  | fuel + 1 => do
    if ← accept .flowMappingEnd then return []
    else
      if !first then expect .flowEntry
      if ← accept .key then
        let key ← nodeUnless [.value, .flowEntry, .flowMappingEnd] false false room fuel
        let value ←
          if ← accept .value then nodeUnless [.flowEntry, .flowMappingEnd] false false room fuel
          else empty
        return (key, value) :: (← flowPairs false room fuel)
      else if ← accept .flowMappingEnd then return []
      else
        let key ← node false false room fuel
        let value ← empty
        return (key, value) :: (← flowPairs false room fuel)

end

/-- The directives before a document. There may be one version, which must be 1, and each handle
may be declared once. -/
def directives : Nat → Bool → List Text → Reader Unit
  | 0, _, _ => refuse
  | fuel + 1, versioned, handles => do
    match ← peek with
    | .versionDirective major => do
      drop
      if versioned || major ≠ 1 then refuse
      directives fuel true handles
    | .tagDirective handle lead => do
      drop
      if handles.contains handle then refuse
      modify fun reading => { reading with handles := (handle, lead) :: reading.handles }
      directives fuel versioned (handle :: handles)
    | .otherDirective => do
      drop
      directives fuel versioned handles
    | _ => return ()

/-- Skips the marks of a document's end. -/
def documentEnds : Nat → Reader Unit
  | 0 => return ()
  | fuel + 1 => do
    if ← accept .documentEnd then documentEnds fuel

/-- Is the next token a directive? -/
def atDirective : Reader Bool := do
  match ← peek with
  | .versionDirective _ => return true
  | .tagDirective _ _ => return true
  | .otherDirective => return true
  | _ => return false

/-- The end of the text, behind the only document. -/
def noMore (fuel : Nat) : Reader Unit := do
  documentEnds fuel
  if !(← accept .streamEnd) then
    directives fuel false []
    expect .documentStart
    refuse

/-- The node of the only document, or none if there is no document. -/
def document (fuel : Nat) : Reader (Option NodeId) := do
  if ← accept .streamEnd then return none
  let marked := (← atDirective) || (← next [.documentStart])
  if marked then
    directives fuel false []
    expect .documentStart
  let root ←
    if marked && ((← atDirective) || (← next [.documentStart, .documentEnd, .streamEnd])) then
      empty
    else node true false topRoom fuel
  noMore fuel
  return some root

end Reader

/-- The document that can be read, or none if there is no document. -/
def Graph.ofSupply? (supply : Supply) : Except Flaw (Option Graph) := do
  let size := supply.text.length
  let (root, reading) ← (Reader.document (16 * size + 32)).run
    { scan := Scan.ofSupply supply, fuel := size + 3 }
  return root.map fun root => ⟨reading.nodes, root⟩

end Scenarist.Yaml
