import Substitute.Document.Basic
import Substitute.Value.Slots
import Substitute.Yaml.Node
import Substitute.Yaml.ScalarValue

/-!
# Documents of YAML texts

The nodes of a text become the parts of a document. Their values are read level by level: the scalars of a collection come before anything inside its collections, so of several faults the outermost one counts. A merge key lays the entries of other mappings below those of its own.
-/

namespace Substitute.Yaml

def Node.isMapping : Node → Bool
  | .mapping _ _ _ => true
  | .again _ tag => tag == .map || tag == .set
  | _ => false

/-- Whether a node is something that can be merged into a mapping: a mapping or a sequence of them. -/
def Node.isMergeable : Node → Bool
  | .mapping _ _ _ | .again _ _ => true
  | .sequence _ _ items => items.all Node.isMapping
  | .scalar _ _ _ => false

def Node.entries : Node → List (Node × Node)
  | .mapping _ _ entries => entries
  | _ => []

/-- A key as it counts in a mapping: an equals sign on its own is a text there. -/
def Node.asKey : Node → Node
  | .scalar id .value t => .scalar id .text t
  | .mapping id .value entries => .mapping id .text entries
  | n => n

def isMergeEntry (entry : Node × Node) : Bool :=
  entry.1.tag == .merge

/-- Whether a merge key of a mapping has something that cannot be merged. -/
def hasWrongMerge (entries : List (Node × Node)) : Bool :=
  entries.any fun entry => isMergeEntry entry && !entry.2.isMergeable

/-- The entries of a mapping below those that its merge keys contribute. Where a merge is wrong, here or in what is merged, its keys alone are kept, which have no value. -/
def layMerged (entries merged own : List (Node × Node)) : List (Node × Node) :=
  if hasWrongMerge entries || merged.any isMergeEntry then (entries ++ merged).filter isMergeEntry
  else merged ++ own

mutual

/-- The node with the merge keys carried out in all mappings that are read as such. -/
def Node.flattened : Node → Node
  | .scalar id tag t => .scalar id tag t
  | .sequence id tag items =>
    .sequence id tag (if tag == .seq then flattenedItems items else flattenedPairs items)
  | .mapping id tag entries =>
    .mapping id tag
      (if tag == .map || tag == .set then
        layMerged entries (mergedEntries entries) (ownEntries entries)
      else entries)
  | .again id tag => .again id tag

def flattenedItems : List Node → List Node
  | [] => []
  | item :: rest => item.flattened :: flattenedItems rest

/-- The items of a list of pairs. Nothing is merged into a pair. -/
def flattenedPairs : List Node → List Node
  | [] => []
  | .mapping id tag entries :: rest =>
    .mapping id tag (flattenedParts entries) :: flattenedPairs rest
  | item :: rest => item :: flattenedPairs rest

def flattenedParts : List (Node × Node) → List (Node × Node)
  | [] => []
  | (key, value) :: rest => (key.flattened, value.flattened) :: flattenedParts rest

/-- The entries that the merge keys of a mapping contribute. -/
def mergedEntries : List (Node × Node) → List (Node × Node)
  | [] => []
  | (key, .mapping _ _ entries) :: rest =>
    if key.tag == .merge then
      layMerged entries (mergedEntries entries) (ownEntries entries) ++ mergedEntries rest
    else mergedEntries rest
  | (key, .sequence _ _ items) :: rest =>
    if key.tag == .merge then mergedItems items ++ mergedEntries rest else mergedEntries rest
  | _ :: rest => mergedEntries rest

/-- The entries that merging several mappings contributes; the last comes first, so the first wins. -/
def mergedItems : List Node → List (Node × Node)
  | [] => []
  | .mapping _ _ entries :: rest =>
    mergedItems rest ++ layMerged entries (mergedEntries entries) (ownEntries entries)
  | _ :: rest => mergedItems rest

def ownEntries : List (Node × Node) → List (Node × Node)
  | [] => []
  | (key, value) :: rest =>
    if key.tag == .merge then ownEntries rest
    else (key.flattened.asKey, value.flattened) :: ownEntries rest

end

def Tag.isCollection : Tag → Bool
  | .seq | .map | .set | .omap | .pairs => true
  | _ => false

mutual

/-- The text of a node as a scalar. A mapping has the text of its entry under an equals sign. -/
def Node.scalarText? : Node → Option Text
  | .scalar _ _ t => some t
  | .sequence _ _ _ => none
  | .mapping _ _ entries => entryText? entries
  | .again _ _ => none

def entryText? : List (Node × Node) → Option Text
  | [] => none
  | (key, value) :: rest => if key.tag == .value then value.scalarText? else entryText? rest

end

/-- The value of a node with a scalar's tag. A time is read off a scalar only. -/
def Node.scalarValue? (n : Node) : Except Fault Value :=
  match n, n.scalarText? with
  | .mapping _ .timestamp _, some _ => .error .notText
  | n, some t => scalarValue n.tag t
  | _, none => .error .malformed

/-- What is wrong with a node before anything inside it is looked at. -/
def Node.outerFault? (n : Node) : Option Fault :=
  if n.tag.isCollection then none
  else match n.scalarValue? with
    | .ok _ => none
    | .error fault => some fault

/-- What is wrong with the entries of a mapping. Collections are no keys. -/
def entriesFault? : List (Node × Node) → Option Fault
  | [] => none
  | (key, value) :: rest =>
    (((key.outerFault?).or (if key.tag.isCollection then some .malformed else none)).or
      value.outerFault?).or (entriesFault? rest)

/-- What is wrong with the items of a list of pairs, each a mapping of one entry. -/
def pairsFault? : List Node → Option Fault
  | [] => none
  | .mapping _ _ [(key, value)] :: rest =>
    ((key.outerFault?).or value.outerFault?).or (pairsFault? rest)
  | _ :: _ => some .malformed

/-- What is wrong with the content of a collection, not looking into the collections there. -/
def Node.innerFault? : Node → Option Fault
  | .scalar _ tag _ => if tag.isCollection then some .malformed else none
  | .sequence _ tag items =>
    match tag with
    | .seq => items.findSome? Node.outerFault?
    | .omap | .pairs => pairsFault? items
    | .map | .set => some .malformed
    | _ => none
  | .mapping _ tag entries =>
    match tag with
    | .map | .set => entriesFault? entries
    | .seq | .omap | .pairs => some .malformed
    | _ => none
  | .again _ _ => none

/-- The nodes that make up a node. Those of a list of pairs are the parts of the pairs. -/
def Node.children : Node → List Node
  | .scalar _ _ _ => []
  | .sequence _ tag items =>
    if tag == .seq then items
    else (items.flatMap Node.entries).flatMap fun entry => [entry.1, entry.2]
  | .mapping _ _ entries => entries.flatMap fun entry => [entry.1, entry.2]
  | .again _ _ => []

/-- The first thing wrong below some nodes, level by level. -/
def levelsFault? : Nat → List Node → Option Fault
  | 0, _ => none
  | fuel + 1, level =>
    if level.isEmpty then none
    else (level.findSome? Node.innerFault?).or
      (levelsFault? fuel ((level.flatMap Node.children).filter fun n => n.tag.isCollection))

mutual

def Node.depth : Node → Nat
  | .scalar _ _ _ => 1
  | .sequence _ _ items => itemsDepth items + 1
  | .mapping _ _ entries => entriesDepth entries + 1
  | .again _ _ => 1

def itemsDepth : List Node → Nat
  | [] => 0
  | item :: rest => max item.depth (itemsDepth rest)

def entriesDepth : List (Node × Node) → Nat
  | [] => 0
  | (key, value) :: rest => max (max key.depth value.depth) (entriesDepth rest)

end

def Node.fault? (n : Node) : Option Fault :=
  n.outerFault?.or (if n.tag.isCollection then levelsFault? (n.depth + 1) [n] else none)

/-- The value of a node that is no collection and nothing is wrong with. -/
def Node.atomValue (n : Node) : Value :=
  n.scalarValue?.toOption.getD .null

/-- The parts that have been made of nodes, each with its place, and the next free place. -/
structure Builder where
  parts : List (Ref × Part) := []
  next : Ref

/-- Puts a part at a place, unless it has been put there before. -/
def Builder.note (b : Builder) (r : Ref) (p : Part) : Builder :=
  if (b.parts.lookup r).isSome then b else { b with parts := (r, p) :: b.parts }

def Builder.store (b : Builder) : Store :=
  (List.range b.next).map fun r => (b.parts.lookup r).getD (.atom .null)

/-- The keys of a mapping with the places of their nodes and those of their values; a repeated key keeps its place and takes the last value. -/
def keyedRefs (entries : List (Node × Node)) : List (Value × Ref × Ref) :=
  entries.foldl (fun found entry =>
    let key := entry.1.atomValue
    if found.any fun e : Value × Ref × Ref => e.1.sameKey key then
      found.map fun e => if e.1.sameKey key then (e.1, e.2.1, entry.2.id) else e
    else found ++ [(key, entry.1.id, entry.2.id)]) []

/-- The members of a set, which are written as the keys of a mapping. -/
def memberRefs (entries : List (Node × Node)) : List Ref :=
  (SetOrder.slotOrder Prod.fst (keyedRefs entries)).map fun e => e.2.1

mutual

/-- Adds the parts of a node and of the nodes below it. -/
def collect : Node → Builder → Builder
  | .scalar id tag t, b => b.note id (.atom (Node.scalar id tag t).atomValue)
  | .sequence id tag items, b =>
    if tag == .seq then collectItems items (b.note id (.list (items.map Node.id)))
    else
      let (refs, b) := collectPairs items b
      b.note id (.list refs)
  | .mapping id tag entries, b =>
    match tag with
    | .map => collectEntries entries (b.note id (.map ((keyedRefs entries).map Prod.snd)))
    | .set => collectEntries entries (b.note id (.set (memberRefs entries)))
    | _ => b.note id (.atom (Node.mapping id tag entries).atomValue)
  | .again _ _, b => b

def collectItems : List Node → Builder → Builder
  | [], b => b
  | item :: rest, b => collectItems rest (collect item b)

def collectEntries : List (Node × Node) → Builder → Builder
  | [], b => b
  | (key, value) :: rest, b => collectEntries rest (collect value (collect key b))

/-- Adds the tuples that stand for the items of a list of pairs, each a mapping of one entry. -/
def collectPairs : List Node → Builder → List Ref × Builder
  | .mapping _ _ [(key, value)] :: rest, b =>
    let pair := b.next
    let b := { b with next := pair + 1 }.note pair (.tuple [key.id, value.id])
    let (refs, b) := collectPairs rest (collect value (collect key b))
    (pair :: refs, b)
  | _ :: rest, b => collectPairs rest b
  | [], b => ([], b)

end

def Node.document (n : Node) (count : Nat) : Document where
  parts := (collect n { next := count }).store
  root := n.id

/-- The document of a text; null when it holds none. -/
def read (t : Text) : Except Fault Document := do
  match ← Node.ofText t with
  | (none, _) => return .ofValue .null
  | (some node, count) =>
    let node := node.flattened
    match node.fault? with
    | some fault => throw fault
    | none => return node.document count

end Substitute.Yaml
