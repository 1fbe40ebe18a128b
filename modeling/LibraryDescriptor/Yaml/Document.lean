import LibraryDescriptor.Yaml.Tag
import LibraryDescriptor.Yaml.Token

/-!
# YAML documents

* `Node` — a scalar, a sequence or a mapping with its tag. Collections refer to their parts by
  number, since an alias makes one node stand in several places, also inside of itself.
* `Document` — the nodes of a document.
* `parseDocument` — the only document of a text.
-/

namespace LibraryDescriptor

namespace Yaml

abbrev NodeId := Nat

inductive Content where
  | scalar (value : Text)
  | sequence (items : List NodeId)
  | mapping (entries : List (NodeId × NodeId))
  deriving DecidableEq

structure Node where
  tag : Tag
  content : Content
  deriving DecidableEq

namespace Node

/-- The node that stands where nothing is written. -/
def empty : Node := ⟨.null, .scalar []⟩

def entries? (n : Node) : Option (List (NodeId × NodeId)) :=
  match n.content with
  | .mapping entries => some entries
  | .scalar _ | .sequence _ => none

end Node

structure Document where
  nodes : Array Node
  root : NodeId

/-- What a parse has left and what it knows. -/
structure ParseState where
  scan : ScanState
  nodes : Array Node
  /-- The nodes with a name. -/
  anchors : List (Text × NodeId)
  /-- What the handles of tags stand for. -/
  handles : List (Text × Text)

abbrev DocumentParser := StateT ParseState (Except YamlError)

namespace DocumentParser

/-! ## Tokens -/

def scanning {α : Type} (scan : Scanner α) : DocumentParser α := do
  let s ← get
  let (found, after) ← scan.run s.scan
  set { s with scan := after }
  return found

/-- The next token; none at the end. -/
def peek : DocumentParser (Option Token) := scanning Scanner.peek

def pop : DocumentParser Unit := scanning Scanner.pop

def nextIs (ts : List Token) : DocumentParser Bool := do
  return (← peek).any ts.contains

def accept (t : Token) : DocumentParser Bool := do
  let found ← nextIs [t]
  if found then pop
  return found

def expect (t : Token) : DocumentParser Unit := do
  if !(← accept t) then throw .malformed

/-- Takes the next token if a function is defined for it. -/
def acceptSome {α : Type} (view? : Token → Option α) : DocumentParser (Option α) := do
  let found := (← peek).bind view?
  if found.isSome then pop
  return found

/-! ## Properties -/

def anchor? : DocumentParser (Option Text) :=
  acceptSome fun
    | .anchor name => some name
    | _ => none

def tag? : DocumentParser (Option (Option Text × Text)) :=
  acceptSome fun
    | .tag handle name => some (handle, name)
    | _ => none

def properties : DocumentParser (Option Text × Option (Option Text × Text)) := do
  match ← anchor? with
  | some name => return (some name, ← tag?)
  | none =>
    match ← tag? with
    | some tag => return (← anchor?, some tag)
    | none => return (none, none)

def tagName (handle : Option Text) (name : Text) : DocumentParser Text := do
  match handle with
  | none => return name
  | some handle =>
    match (← get).handles.lookup handle with
    | some start => return start ++ name
    | none => throw .malformed

/-- The tag that is written, unless it is the one for "as usual". -/
def writtenTag (tag : Option (Option Text × Text)) : DocumentParser (Option (Option Tag)) := do
  match tag with
  | none => return none
  | some (handle, name) =>
    let full ← tagName handle name
    return some (if full = Text.ofString "!" then none else some (Tag.ofName full))

/-- The tag of a scalar. A plain one, or one with the tag for "as usual", has the tag of its
spelling. -/
def scalarTag (written : Option (Option Tag)) (value : Text) (isPlain : Bool) : Tag :=
  match written with
  | some (some tag) => tag
  | some none => .ofSpelling value
  | none => if isPlain then .ofSpelling value else .text

def collectionTag (written : Option (Option Tag)) (usual : Tag) : Tag :=
  (written.bind id).getD usual

/-! ## Nodes -/

def add (n : Node) : DocumentParser NodeId := do
  let s ← get
  set { s with nodes := s.nodes.push n }
  return s.nodes.size

/-- Adds a node with a name, if one is given, which no other node may have. -/
def addNamed (name : Option Text) (n : Node) : DocumentParser NodeId := do
  match name with
  | none => add n
  | some name =>
    if ((← get).anchors.lookup name).isSome then throw .malformed
    let id ← add n
    modify fun s => { s with anchors := (name, id) :: s.anchors }
    return id

/-- Adds a collection. Its name is known inside of it, so the node comes before its parts. -/
def addCollection (name : Option Text) (tag : Tag) (parts : DocumentParser Content) :
    DocumentParser NodeId := do
  let id ← addNamed name ⟨tag, .sequence []⟩
  let content ← parts
  modify fun s => { s with nodes := s.nodes.setIfInBounds id ⟨tag, content⟩ }
  return id

def named (name : Text) : DocumentParser NodeId := do
  match (← get).anchors.lookup name with
  | some id => return id
  | none => throw .malformed

structure Place where
  /-- Blocks may stand here. -/
  isBlock : Bool
  /-- A sequence may stand here without being indented. -/
  admitsEntries : Bool

def Place.flow : Place := ⟨false, false⟩

def Place.block : Place := ⟨true, false⟩

def Place.inMapping : Place := ⟨true, true⟩

mutual

def node : Nat → Place → DocumentParser NodeId
  | 0, _ => throw .malformed
  | fuel + 1, place => do
    let referred ← acceptSome fun
      | .aliasOf name => some name
      | _ => none
    if let some name := referred then return ← named name
    let (name, tag) ← properties
    let written ← writtenTag tag
    let sequenceTag := collectionTag written .sequence
    let mappingTag := collectionTag written .mapping
    match ← peek with
    | some (.scalar value isPlain) =>
      pop
      addNamed name ⟨scalarTag written value isPlain, .scalar value⟩
    | some .flowSequenceStart =>
      pop
      addCollection name sequenceTag (.sequence <$> flowItems fuel true)
    | some .flowMappingStart =>
      pop
      addCollection name mappingTag (.mapping <$> flowEntries fuel true)
    | t =>
      if place.admitsEntries && t == some .blockEntry then
        addCollection name sequenceTag (.sequence <$> looseItems fuel)
      else if place.isBlock && t == some .blockSequenceStart then
        pop
        addCollection name sequenceTag (.sequence <$> blockItems fuel)
      else if place.isBlock && t == some .blockMappingStart then
        pop
        addCollection name mappingTag (.mapping <$> blockEntries fuel)
      else if name.isSome || tag.isSome then
        addNamed name ⟨scalarTag written [] true, .scalar []⟩
      else throw .malformed

def nodeUnless : Nat → List Token → Place → DocumentParser NodeId
  | 0, _, _ => throw .malformed
  | fuel + 1, stops, place => do
    if ← nextIs stops then add .empty else node fuel place

def value : Nat → List Token → Place → DocumentParser NodeId
  | 0, _, _ => throw .malformed
  | fuel + 1, stops, place => do
    if ← accept .value then nodeUnless fuel stops place else add .empty

def blockItems : Nat → DocumentParser (List NodeId)
  | 0 => throw .malformed
  | fuel + 1 => do
    if ← accept .blockEntry then
      let item ← nodeUnless fuel [.blockEntry, .blockEnd] .block
      return item :: (← blockItems fuel)
    expect .blockEnd
    return []

/-- The items of a sequence that is not indented. -/
def looseItems : Nat → DocumentParser (List NodeId)
  | 0 => throw .malformed
  | fuel + 1 => do
    if ← accept .blockEntry then
      let item ← nodeUnless fuel [.blockEntry, .key, .value, .blockEnd] .block
      return item :: (← looseItems fuel)
    return []

def blockEntries : Nat → DocumentParser (List (NodeId × NodeId))
  | 0 => throw .malformed
  | fuel + 1 => do
    if ← accept .key then
      let key ← nodeUnless fuel [.key, .value, .blockEnd] .inMapping
      let value ← value fuel [.key, .value, .blockEnd] .inMapping
      return (key, value) :: (← blockEntries fuel)
    expect .blockEnd
    return []

/-- The items of a sequence between brackets. An item may be a single entry of a mapping. -/
def flowItems : Nat → Bool → DocumentParser (List NodeId)
  | 0, _ => throw .malformed
  | fuel + 1, isFirst => do
    if ← accept .flowSequenceEnd then return []
    if !isFirst then expect .flowEntry
    if ← accept .key then
      let item ← addCollection none .mapping do
        let key ← nodeUnless fuel [.value, .flowEntry, .flowSequenceEnd] .flow
        let value ← value fuel [.flowEntry, .flowSequenceEnd] .flow
        return .mapping [(key, value)]
      return item :: (← flowItems fuel false)
    if ← accept .flowSequenceEnd then return []
    let item ← node fuel .flow
    return item :: (← flowItems fuel false)

def flowEntries : Nat → Bool → DocumentParser (List (NodeId × NodeId))
  | 0, _ => throw .malformed
  | fuel + 1, isFirst => do
    if ← accept .flowMappingEnd then return []
    if !isFirst then expect .flowEntry
    if ← accept .key then
      let key ← nodeUnless fuel [.value, .flowEntry, .flowMappingEnd] .flow
      let value ← value fuel [.flowEntry, .flowMappingEnd] .flow
      return (key, value) :: (← flowEntries fuel false)
    if ← accept .flowMappingEnd then return []
    let key ← node fuel .flow
    let value ← add .empty
    return (key, value) :: (← flowEntries fuel false)

end

/-! ## Documents -/

/-- The handles that need no directive. -/
def commonHandles : List (Text × Text) := [("!", "!"), ("!!", Tag.commonStart)]

/-- Takes the directives in front of a document, after some that gave `handles` and maybe the
version, and gives their handles. -/
def directives : Nat → Bool → List (Text × Text) → DocumentParser (List (Text × Text))
  | 0, _, _ => throw .malformed
  | fuel + 1, hasVersion, handles => do
    match ← peek with
    | some (.versionDirective major) =>
      pop
      if hasVersion || major != 1 then throw .malformed
      directives fuel true handles
    | some (.tagDirective handle expansion) =>
      pop
      if (handles.lookup handle).isSome then throw .malformed
      directives fuel hasVersion (handles ++ [(handle, expansion)])
    | some .otherDirective =>
      pop
      directives fuel hasVersion handles
    | _ => return handles

def skipEnds : Nat → DocumentParser Unit
  | 0 => return
  | fuel + 1 => do
    if ← accept .documentEnd then skipEnds fuel

def atDirective : DocumentParser Bool := do
  match ← peek with
  | some (.versionDirective _) | some (.tagDirective _ _) | some .otherDirective => return true
  | _ => return false

def atEnd : DocumentParser Bool := do return (← peek).isNone

def header (fuel : Nat) : DocumentParser Unit := do
  let handles ← directives fuel false []
  modify fun s => { s with handles := handles ++ s.handles }
  expect .documentStart

def markedDocument (fuel : Nat) : DocumentParser NodeId := do
  header fuel
  if (← atEnd) || (← atDirective) || (← nextIs [.documentStart, .documentEnd]) then add .empty
  else node fuel .block

/-- The root of the only document, if there is one. What follows it is read up to the marker of the
next one. -/
def document (fuel : Nat) : DocumentParser (Option NodeId) := do
  if ← atEnd then return none
  let root ←
    if (← atDirective) || (← nextIs [.documentStart]) then markedDocument fuel
    else node fuel .block
  skipEnds fuel
  if ← atEnd then return some root
  header fuel
  throw .malformed

end DocumentParser

/-- The only document of a text, if there is one. -/
def parseDocument (text : Text) : Except YamlError (Option Document) := do
  match ScanState.start? text with
  | none => throw .malformed
  | some scan =>
    let fuel := 16 * text.length + 16
    let (root, s) ← (DocumentParser.document fuel).run ⟨scan, #[], [], DocumentParser.commonHandles⟩
    return root.map fun id => ⟨s.nodes, id⟩

end Yaml

end LibraryDescriptor
