import Substitute.Yaml.Tag
import Substitute.Yaml.Token

/-!
# YAML nodes

The tree that the tokens of a document describe. An alias stands for the very node that carries the anchor, so both have one number, which keeps them apart from nodes of equal content. Inside that node the alias leads back to it. A text holds at most one document.
-/

namespace Substitute.Yaml

inductive Node where
  | scalar (id : Nat) (tag : Tag) (text : Text)
  | sequence (id : Nat) (tag : Tag) (items : List Node)
  | mapping (id : Nat) (tag : Tag) (entries : List (Node × Node))
  /-- A collection met again inside itself. -/
  | again (id : Nat) (tag : Tag)

namespace Node

def tag : Node → Tag
  | scalar _ tag _ => tag
  | sequence _ tag _ => tag
  | mapping _ tag _ => tag
  | again _ tag => tag

def id : Node → Nat
  | scalar id _ _ => id
  | sequence id _ _ => id
  | mapping id _ _ => id
  | again id _ => id

end Node

/-- What is known while nodes are read: the tokens left, the tag handles, the anchors so far and the next number. -/
structure Reader where
  tokens : List Token
  handles : List (Text × Text) := []
  anchors : List (Text × Node) := []
  nextId : Nat := 0

/-- The handles that need no directive. -/
def standardHandles : List (Text × Text) :=
  [("!", "!"), ("!!", Tag.commonPrefix)]

namespace Reader

def peek (r : Reader) : Option Token :=
  r.tokens.head?

def pop (r : Reader) : Reader :=
  { r with tokens := r.tokens.drop 1 }

/-- Refuses the next token; where the scanner stopped, its fault is the cause. -/
def refuse {α : Type} (r : Reader) : Except Fault α :=
  match r.peek with
  | some (.stop fault) => .error fault
  | _ => .error .malformed

def fresh (r : Reader) : Nat × Reader :=
  (r.nextId, { r with nextId := r.nextId + 1 })

def empty (r : Reader) : Node × Reader :=
  let (id, r) := r.fresh
  (.scalar id .null [], r)

def tagName (r : Reader) : Option Text → Text → Except Fault Text
  | none, suffix => .ok suffix
  | some handle, suffix =>
    match r.handles.lookup handle with
    | some expansion => .ok (expansion ++ suffix)
    | none => .error .malformed

/-- Reads the anchor and the tag before a node, in either order. -/
def properties (r : Reader) : Except Fault (Option Text × Option Text × Reader) := do
  match r.peek with
  | some (.anchor name) =>
    let r := r.pop
    match r.peek with
    | some (.tag handle suffix) => return (some name, some (← r.tagName handle suffix), r.pop)
    | _ => return (some name, none, r)
  | some (.tag handle suffix) =>
    let tag ← r.tagName handle suffix
    let r := r.pop
    match r.peek with
    | some (.anchor name) => return (some name, some tag, r.pop)
    | _ => return (none, some tag, r)
  | _ => return (none, none, r)

def checkNew (r : Reader) (anchor : Option Text) : Except Fault Unit :=
  match anchor.bind fun name => r.anchors.lookup name with
  | some _ => .error .malformed
  | none => .ok ()

def bind (r : Reader) (anchor : Option Text) (node : Node) : Reader :=
  match anchor with
  | none => r
  | some name => { r with anchors := (name, node) :: r.anchors }

end Reader

/-- The tag of a scalar. An exclamation mark alone asks for the pattern, quotes or not. -/
def scalarTag (plain : Bool) (text : Text) : Option Text → Tag
  | none => if plain then Tag.ofPlain text else .text
  | some name => if name == ['!'] then Tag.ofPlain text else Tag.ofName name

def collectionTag (usual : Tag) : Option Text → Tag
  | none => usual
  | some name => if name == ['!'] then usual else Tag.ofName name

/-- Where a node stands, which decides how it may be written. -/
inductive NodePlace where
  | flow
  | block
  /-- A block that may be a sequence without an indentation of its own. -/
  | value
deriving DecidableEq

/-- Whether a token ends an entry before its node is written. -/
def endsEntry : Option Token → Bool
  | some .blockEntry | some .blockEnd => true
  | _ => false

/-- Whether a token ends the entry of a sequence without indentation before its node is written. -/
def endsLooseEntry : Option Token → Bool
  | some .blockEntry | some .key | some .value | some .blockEnd => true
  | _ => false

/-- Whether a token ends a part of a block mapping before its node is written. -/
def endsPart : Option Token → Bool
  | some .key | some .value | some .blockEnd => true
  | _ => false

/-- Whether a token ends a part of a flow entry before its node is written. -/
def endsFlowPart : Option Token → Bool
  | some .value | some .flowEntry | some .flowSequenceEnd | some .flowMappingEnd => true
  | _ => false

mutual

def readNode : Nat → NodePlace → Reader → Except Fault (Node × Reader)
  | 0, _, _ => .error .malformed
  | fuel + 1, place, r => do
    match r.peek with
    | some (.alias name) =>
      match r.anchors.lookup name with
      | some node => return (node, r.pop)
      | none => throw .malformed
    | _ =>
      let (anchor, tag, r) ← r.properties
      r.checkNew anchor
      let (id, r) := r.fresh
      let inBlock := place != .flow
      let sequenceTag := collectionTag .seq tag
      let mappingTag := collectionTag .map tag
      match r.peek with
      | some (.scalar text plain) =>
        let node := Node.scalar id (scalarTag plain text tag) text
        return (node, r.pop.bind anchor node)
      | some .flowSequenceStart =>
        let (items, r) ← readFlowItems fuel true (r.pop.bind anchor (.again id sequenceTag))
        let node := Node.sequence id sequenceTag items
        return (node, r.bind anchor node)
      | some .flowMappingStart =>
        let (entries, r) ← readFlowEntries fuel true (r.pop.bind anchor (.again id mappingTag))
        let node := Node.mapping id mappingTag entries
        return (node, r.bind anchor node)
      | next =>
        match inBlock, place == .value, next with
        | _, true, some .blockEntry =>
          let (items, r) ← readLooseItems fuel (r.bind anchor (.again id sequenceTag))
          let node := Node.sequence id sequenceTag items
          return (node, r.bind anchor node)
        | true, _, some .blockSequenceStart =>
          let (items, r) ← readBlockItems fuel (r.pop.bind anchor (.again id sequenceTag))
          let node := Node.sequence id sequenceTag items
          return (node, r.bind anchor node)
        | true, _, some .blockMappingStart =>
          let (entries, r) ← readBlockEntries fuel (r.pop.bind anchor (.again id mappingTag))
          let node := Node.mapping id mappingTag entries
          return (node, r.bind anchor node)
        | _, _, _ =>
          if anchor.isNone && tag.isNone then r.refuse
          else
            let node := Node.scalar id (scalarTag true [] tag) []
            return (node, r.bind anchor node)

def readBlockItems : Nat → Reader → Except Fault (List Node × Reader)
  | 0, _ => .error .malformed
  | fuel + 1, r => do
    match r.peek with
    | some .blockEntry =>
      let r := r.pop
      let (item, r) ← if endsEntry r.peek then pure r.empty else readNode fuel .block r
      let (items, r) ← readBlockItems fuel r
      return (item :: items, r)
    | some .blockEnd => return ([], r.pop)
    | _ => r.refuse

/-- Reads the items of a sequence that has no indentation of its own. -/
def readLooseItems : Nat → Reader → Except Fault (List Node × Reader)
  | 0, _ => .error .malformed
  | fuel + 1, r => do
    match r.peek with
    | some .blockEntry =>
      let r := r.pop
      let (item, r) ← if endsLooseEntry r.peek then pure r.empty else readNode fuel .block r
      let (items, r) ← readLooseItems fuel r
      return (item :: items, r)
    | _ => return ([], r)

def readBlockEntries : Nat → Reader → Except Fault (List (Node × Node) × Reader)
  | 0, _ => .error .malformed
  | fuel + 1, r => do
    match r.peek with
    | some .blockEnd => return ([], r.pop)
    | some .key =>
      let r := r.pop
      let (key, r) ← if endsPart r.peek then pure r.empty else readNode fuel .value r
      let (value, r) ← match r.peek with
        | some .value =>
          let r := r.pop
          if endsPart r.peek then pure r.empty else readNode fuel .value r
        | _ => pure r.empty
      let (entries, r) ← readBlockEntries fuel r
      return ((key, value) :: entries, r)
    | _ => r.refuse

def readFlowValue : Nat → Reader → Except Fault (Node × Reader)
  | 0, _ => .error .malformed
  | fuel + 1, r =>
    match r.peek with
    | some .value =>
      let r := r.pop
      if endsFlowPart r.peek then .ok r.empty else readNode fuel .flow r
    | _ => .ok r.empty

/-- Reads the items of a flow sequence. An item with a key is a mapping of one entry. -/
def readFlowItems : Nat → Bool → Reader → Except Fault (List Node × Reader)
  | 0, _, _ => .error .malformed
  | fuel + 1, first, r => do
    match r.peek with
    | some .flowSequenceEnd => return ([], r.pop)
    | next =>
      let r ← match first, next with
        | true, _ => pure r
        | false, some .flowEntry => pure r.pop
        | false, _ => r.refuse
      match r.peek with
      | some .flowSequenceEnd => return ([], r.pop)
      | some .key =>
        let (id, r) := r.pop.fresh
        let (key, r) ← if endsFlowPart r.peek then pure r.empty else readNode fuel .flow r
        let (value, r) ← readFlowValue fuel r
        let (items, r) ← readFlowItems fuel false r
        return (.mapping id .map [(key, value)] :: items, r)
      | _ =>
        let (item, r) ← readNode fuel .flow r
        let (items, r) ← readFlowItems fuel false r
        return (item :: items, r)

def readFlowEntries : Nat → Bool → Reader → Except Fault (List (Node × Node) × Reader)
  | 0, _, _ => .error .malformed
  | fuel + 1, first, r => do
    match r.peek with
    | some .flowMappingEnd => return ([], r.pop)
    | next =>
      let r ← match first, next with
        | true, _ => pure r
        | false, some .flowEntry => pure r.pop
        | false, _ => r.refuse
      match r.peek with
      | some .flowMappingEnd => return ([], r.pop)
      | some .key =>
        let r := r.pop
        let (key, r) ← if endsFlowPart r.peek then pure r.empty else readNode fuel .flow r
        let (value, r) ← readFlowValue fuel r
        let (entries, r) ← readFlowEntries fuel false r
        return ((key, value) :: entries, r)
      | _ =>
        let (key, r) ← readNode fuel .flow r
        let (value, r) := r.empty
        let (entries, r) ← readFlowEntries fuel false r
        return ((key, value) :: entries, r)

end

def readDirectives : Nat → Bool → Reader → Except Fault Reader
  | 0, _, _ => .error .malformed
  | fuel + 1, versioned, r =>
    match r.peek with
    | some (.directive (.version major)) =>
      if versioned || major != 1 then .error .malformed else readDirectives fuel true r.pop
    | some (.directive (.tagPrefix handle replacement)) =>
      if (r.handles.lookup handle).isSome then .error .malformed
      else readDirectives fuel versioned
        { r.pop with handles := (handle, replacement) :: r.handles }
    | some (.directive .other) => readDirectives fuel versioned r.pop
    | _ => .ok { r with handles := r.handles ++ standardHandles }

/-- Reads the node of a document, which may be left out after a document marker. -/
def readDocument (fuel : Nat) (r : Reader) : Except Fault (Option Node × Reader) := do
  match r.peek with
  | some .streamEnd => return (none, r)
  | some .documentStart | some (.directive _) =>
    let r ← readDirectives fuel false r
    match r.peek with
    | some .documentStart =>
      let r := r.pop
      match r.peek with
      | some (.directive _) | some .documentStart | some .documentEnd | some .streamEnd =>
        let (node, r) := r.empty
        return (some node, r)
      | _ =>
        let (node, r) ← readNode fuel .block r
        return (some node, r)
    | _ => r.refuse
  | _ =>
    let (node, r) ← readNode fuel .block { r with handles := standardHandles }
    return (some node, r)

/-- The reader after any markers of the document's end. -/
def Reader.skipDocumentEnds (r : Reader) : Reader :=
  { r with tokens := r.tokens.dropWhile fun t => match t with | .documentEnd => true | _ => false }

/-- The node of a text, if it holds one, and how many numbers its nodes have taken. -/
def Node.ofText (t : Text) : Except Fault (Option Node × Nat) := do
  let ts := tokens t
  let (node, r) ← readDocument (3 * ts.length + 4) { tokens := ts }
  let r := r.skipDocumentEnds
  match r.peek with
  | some .streamEnd => return (node, r.nextId)
  | _ => r.refuse

end Substitute.Yaml
