import Substitute.Document.Basic
import Substitute.Yaml.Form

/-!
# Forms of documents

A collection, or a time, that stands in several places is written in the first of them with an anchor, and as an alias in the others. Anchors are numbered in the order in which a second place is met.
-/

namespace Substitute.Yaml

/-- Whether a part is written once only when it stands in several places. -/
def isWrittenOnce : Part → Bool
  | .atom (.date _) | .atom (.moment _) => true
  | .atom _ | .tuple [] => false
  | .list _ | .tuple _ | .set _ | .map _ => true

/-- What has been met on a walk through a document, and what of it again, in the order of the second meetings. -/
structure Meetings where
  met : List Ref := []
  again : List Ref := []

def Meetings.meet (m : Meetings) (r : Ref) : Meetings :=
  if !m.met.contains r then { m with met := r :: m.met }
  else if m.again.contains r then m
  else { m with again := m.again ++ [r] }

/-- The meetings on a walk; what is met again is not entered again. -/
def meetings (s : Store) : Nat → Meetings → Ref → Meetings
  | 0, m, _ => m
  | fuel + 1, m, r =>
    let part := s.part r
    if !isWrittenOnce part then m
    else if m.met.contains r then m.meet r
    else part.refs.foldl (meetings s fuel) (m.meet r)

/-- The number of the anchor of something that is met again. -/
def anchorOf (again : List Ref) (r : Ref) : Option Nat :=
  (again.findIdx? (· == r)).map (· + 1)

/-- The forms of items, given how one is formed; what has been written is handed on. -/
def itemForms (one : List Ref → Ref → Form × List Ref) :
    List Ref → List Ref → List Form × List Ref
  | written, [] => ([], written)
  | written, item :: rest =>
    let (f, written) := one written item
    let (forms, written) := itemForms one written rest
    (f :: forms, written)

def entryForms (one : List Ref → Ref → Form × List Ref) :
    List Ref → List (Ref × Ref) → List (Form × Form) × List Ref
  | written, [] => ([], written)
  | written, (key, value) :: rest =>
    let (k, written) := one written key
    let (v, written) := one written value
    let (forms, written) := entryForms one written rest
    ((k, v) :: forms, written)

/-- The form of what stands at a place, and what has been written after it. -/
def form (s : Store) (again : List Ref) : Nat → List Ref → Ref → Form × List Ref
  | 0, written, _ => (.scalar none (ScalarForm.ofValue .null), written)
  | fuel + 1, written, r =>
    match (if written.contains r then anchorOf again r else none) with
    | some anchor => (.alias anchor, written)
    | none =>
      let anchor := anchorOf again r
      let part := s.part r
      let written := if isWrittenOnce part then r :: written else written
      match part with
      | .atom v => (.scalar anchor (ScalarForm.ofValue v), written)
      | .list items =>
        let (forms, written) := itemForms (form s again fuel) written items
        (.sequence anchor .plain forms, written)
      | .tuple items =>
        let (forms, written) := itemForms (form s again fuel) written items
        (.sequence anchor .tuple forms, written)
      | .set members =>
        let (forms, written) := itemForms (form s again fuel) written members
        let keys := forms.map fun f => (f, Form.scalar none (ScalarForm.ofValue .null))
        (.mapping anchor .set keys, written)
      | .map entries =>
        let (forms, written) := entryForms (form s again fuel) written entries
        (.mapping anchor .plain forms, written)

def Form.ofDocument (d : Document) : Form :=
  let fuel := d.parts.length + 2
  (form d.parts (meetings d.parts fuel {} d.root).again fuel [] d.root).1

end Substitute.Yaml
