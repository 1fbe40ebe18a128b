import LibraryDescriptor.Yaml.Document
import LibraryDescriptor.Yaml.Scalar

/-!
# YAML values

* `Value` — what a node says, seen from outside: a collection is a value, its parts are not.
* `Entry` — a key and what stands under it.
* `parseMapping` — the entries of the mapping that a text spells.

Scalars are read where they stand. A collection is opened only after all the values beside it: the
collections that were met wait in a row, and each that is opened adds those among its parts to the
end. So of several things that are wrong with a document, the one nearest to its root is reported,
and of those the first.
-/

namespace LibraryDescriptor

namespace Yaml

/-- What a node says, seen from outside. -/
inductive Value where
  | scalar (value : Scalar)
  | collection
  deriving DecidableEq

/-- A key and what stands under it. -/
abbrev Entry := Scalar × Value

def putEntry : List Entry → Entry → List Entry
  | [], entry => [entry]
  | first :: rest, entry =>
    if first.1.same entry.1 then (first.1, entry.2) :: rest else first :: putEntry rest entry

/-- A document that is being read. -/
structure ReadState where
  /-- The nodes; in mappings that are open, merged entries are in place. -/
  nodes : Array Node
  /-- The collections that are not open yet, in order. -/
  waiting : List NodeId
  /-- The collections that were met. -/
  met : List NodeId

abbrev Reader := StateT ReadState (Except YamlError)

namespace Reader

/-! ## Nodes -/

def node (id : NodeId) : Reader Node := do return (← get).nodes.getD id .empty

def update (id : NodeId) (change : Node → Node) : Reader Unit :=
  modify fun s => { s with nodes := s.nodes.modify id change }

def entries (id : NodeId) : Reader (List (NodeId × NodeId)) := do
  match (← node id).entries? with
  | some entries => return entries
  | none => throw .malformed

def items (id : NodeId) : Reader (List NodeId) := do
  match (← node id).content with
  | .sequence items => return items
  | .scalar _ | .mapping _ => throw .malformed

def findTag (tag : Tag) : List (NodeId × NodeId) → Reader (Option (NodeId × NodeId))
  | [] => return none
  | entry :: rest => do
    if (← node entry.1).tag = tag then return some entry else findTag tag rest

/-! ## Merged mappings -/

/-- Puts the entries that are merged into a mapping in front of its own. A key that is written like
the one of a default value is a text from then on. -/
def putMerged (id : NodeId) (merged : List (NodeId × NodeId)) : Reader Unit := do
  for (key, _) in ← entries id do
    update key fun n => if n.tag = .default then { n with tag := .text } else n
  update id fun n => { n with content := .mapping (merged ++ n.entries?.getD []) }

/-- Takes the merge keys out of a mapping and collects what they contribute, after what others did:
the entries of a mapping, or those of the mappings of a sequence, where the first one counts most.
What is merged may have merge keys itself; `fuel` bounds the number of all. -/
def takeMerged : Nat → NodeId → List (NodeId × NodeId) → Reader (List (NodeId × NodeId))
  | 0, _, merged => return merged
  | fuel + 1, id, merged => do
    let own ← entries id
    match ← findTag .merge own with
    | none => return merged
    | some entry =>
      update id fun n => { n with content := .mapping (own.erase entry) }
      let contribution (part : NodeId) : Reader (List (NodeId × NodeId)) := do
        putMerged part (← takeMerged fuel part [])
        entries part
      let parts ←
        match (← node entry.2).content with
        | .sequence parts => parts.mapM contribution
        | .mapping _ => pure [← contribution entry.2]
        | .scalar _ => throw .malformed
      takeMerged fuel id (merged ++ parts.reverse.flatten)

def merge (id : NodeId) : Reader Unit := do
  let total := (← get).nodes.foldl (fun n node => n + (node.entries?.getD []).length) 0
  putMerged id (← takeMerged (total + 1) id [])

/-! ## Values -/

/-- The text of a node that has to be a scalar. A mapping stands for its default value. -/
def scalarText : Nat → NodeId → Reader Text
  | 0, _ => throw (.unfit .endless)
  | fuel + 1, id => do
    match (← node id).content with
    | .scalar text => return text
    | .sequence _ => throw .malformed
    | .mapping entries =>
      match ← findTag .default entries with
      | some (_, value) => scalarText fuel value
      | none => throw .malformed

/-- What a node says. A collection that was not met before waits from then on. -/
def value (id : NodeId) : Reader Value := do
  let n ← node id
  match n.tag with
  | .merge | .default | .unknown => throw .malformed
  | .sequence | .mapping | .set | .orderedMapping | .pairs =>
    modify fun s =>
      if s.met.contains id then s
      else { s with waiting := s.waiting ++ [id], met := id :: s.met }
    return .collection
  | tag =>
    let text ← scalarText ((← get).nodes.size + 1) id
    if tag = .timestamp && n.entries?.isSome then throw (.unfit .notScalar)
    return .scalar (← Scalar.read tag text)

def key (id : NodeId) : Reader Scalar := do
  match ← value id with
  | .scalar s => return s
  | .collection => throw .malformed

/-- Opens a mapping. Of two entries with the same key the last one counts, in the place of the
first. -/
def openMapping (id : NodeId) : Reader (List Entry) := do
  merge id
  let found ← (← entries id).mapM fun (k, v) => do
    let k ← key k
    return (k, ← value v)
  return found.foldl putEntry []

def openPairs (id : NodeId) : Reader Unit := do
  for item in ← items id do
    match ← entries item with
    | [(k, v)] =>
      discard (value k)
      discard (value v)
    | _ => throw .malformed

def openCollection (id : NodeId) : Reader (Option (List Entry)) := do
  match (← node id).tag with
  | .mapping => some <$> openMapping id
  | .set => discard (openMapping id); return none
  | .orderedMapping | .pairs => openPairs id; return none
  | _ =>
    for item in ← items id do discard (value item)
    return none

def openNext : Reader (Option (List Entry)) := do
  let s ← get
  match s.waiting with
  | [] => return none
  | id :: rest =>
    set { s with waiting := rest }
    openCollection id

/-- Opens collections until none is waiting; `fuel` bounds their number. -/
def openAll : Nat → Reader Unit
  | 0 => return
  | fuel + 1 => do
    if (← get).waiting.isEmpty then return
    discard openNext
    openAll fuel

def document (d : Document) : Reader (Option (List Entry)) := do
  discard (value d.root)
  let entries ← openNext
  openAll d.nodes.size
  return entries

end Reader

def Document.entries? (d : Document) : Except YamlError (Option (List Entry)) := do
  let (found, _) ← (Reader.document d).run ⟨d.nodes, [], []⟩
  return found

/-- The entries of the mapping that a text spells; none if it spells something else, or nothing. -/
def parseMapping (text : Text) : Except YamlError (Option (List Entry)) := do
  match ← parseDocument text with
  | some d => d.entries?
  | none => return none

end Yaml

end LibraryDescriptor
