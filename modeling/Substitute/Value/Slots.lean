import Substitute.Value.Copying

/-!
# Sets in slots

A small set of natural numbers keeps its members in eight slots and is walked through slot by slot. A member goes to the slot of its number modulo eight; where that is taken, further slots follow, each determined by the one before and by the higher digits of the number. How other sets are ordered is not known, and they are left as they are.
-/

namespace Substitute

namespace SetOrder

def freeSlot (taken : List Nat) : Nat → Nat → Nat → Nat
  | 0, _, slot => slot
  | fuel + 1, digits, slot =>
    if taken.contains slot then freeSlot taken fuel (digits / 32) ((slot * 5 + 1 + digits / 32) % 8)
    else slot

/-- The number of a member that has a place in a small set. -/
def slotNumber? (v : Value) : Option Nat :=
  match v.asInt? with
  | some (.ofNat n) => if n < Nat.pow 2 60 then some n else none
  | _ => none

section

variable {α : Type}

def insertBySlot (entry : Nat × α) : List (Nat × α) → List (Nat × α)
  | [] => [entry]
  | other :: rest =>
    if entry.1 < other.1 then entry :: other :: rest else other :: insertBySlot entry rest

/-- The members of a set by their slots, as they are entered one after the other. -/
def enterMembers (value : α → Value) : List (Nat × α) → List α → List (Nat × α)
  | table, [] => table
  | table, member :: rest =>
    let number := (slotNumber? (value member)).getD 0
    let slot := freeSlot (table.map Prod.fst) 64 number (number % 8)
    enterMembers value (insertBySlot (slot, member) table) rest

/-- The members of a set in the order of their slots, given the value of each. -/
def slotOrder (value : α → Value) (members : List α) : List α :=
  if members.length ≤ 4 && members.all fun m => (slotNumber? (value m)).isSome then
    (enterMembers value [] members).map Prod.snd
  else members

private theorem insertBySlot_perm (entry : Nat × α) (table : List (Nat × α)) :
    (insertBySlot entry table).Perm (entry :: table) := by
  induction table with
  | nil => exact .refl _
  | cons other rest ih =>
    rw [insertBySlot]
    split
    · exact .refl _
    · exact (ih.cons other).trans (.swap entry other rest)

private theorem map_snd_enterMembers_perm (value : α → Value) (table : List (Nat × α))
    (members : List α) :
    ((enterMembers value table members).map Prod.snd).Perm (members ++ table.map Prod.snd) := by
  induction members generalizing table with
  | nil => exact .refl _
  | cons v rest ih =>
    refine (ih _).trans ?_
    refine (((insertBySlot_perm _ table).map Prod.snd).append_left rest).trans ?_
    exact List.perm_middle

theorem slotOrder_perm (value : α → Value) (members : List α) :
    (slotOrder value members).Perm members := by
  rw [slotOrder]
  split
  · simpa using map_snd_enterMembers_perm value [] members
  · exact .refl members

end

def bySlots : SetOrder where
  order := slotOrder id
  perm := slotOrder_perm id

end SetOrder

end Substitute
