import Mathlib.Data.List.Forall2
import Substitute.Proofs.Document.Unfolding
import Substitute.Proofs.Value.Identity
import Substitute.Proofs.Value.Unordered
import Substitute.Settings.Source

/-!
# Documents that are alike

A document that is written and loaded again has the same data: the parts are in other places, but each is what it was, and what stood in several places still does. Sets may have their members in another order. Documents that are alike hold the same configuration up to that order.
-/

namespace Substitute

/-- Parts of two stores that are the same as far as related places are. Keys and members of sets are no collections. -/
inductive Part.Matches (s t : Store) (R : Ref → Ref → Prop) : Part → Part → Prop
  | atom (v : Value) : Matches s t R (.atom v) (.atom v)
  | list {items items' : List Ref} (hitems : List.Forall₂ R items items') :
    Matches s t R (.list items) (.list items')
  | tuple {items items' : List Ref} (hitems : List.Forall₂ R items items') :
    Matches s t R (.tuple items) (.tuple items')
  | set {members members' : List Ref} {vs ws : List Value}
      (hmembers : members.map s.part = vs.map .atom)
      (hmembers' : members'.map t.part = ws.map .atom) (hperm : vs.Perm ws) :
    Matches s t R (.set members) (.set members')
  | map {entries entries' : List (Ref × Ref)}
      (hentries : List.Forall₂ (fun e e' =>
        (∃ key, s.part e.1 = .atom key ∧ t.part e'.1 = .atom key) ∧ R e.2 e'.2) entries entries') :
    Matches s t R (.map entries) (.map entries')

/-- Places of two stores with the same data: the parts match, and collections correspond one to one. -/
structure Store.Alike (s t : Store) (R : Ref → Ref → Prop) : Prop where
  part {a b : Ref} (hab : R a b) : Part.Matches s t R (s.part a) (t.part b)
  one_one {a b a' b' : Ref} (hab : R a b) (hab' : R a' b')
    (hcollection : (s.part a).isCollection = true) (hcollection' : (s.part a').isCollection = true) :
    a = a' ↔ b = b'

def Document.Alike (d e : Document) : Prop :=
  ∃ R, d.parts.Alike e.parts R ∧ R d.root e.root

namespace Store

variable {s t : Store} {R : Ref → Ref → Prop}

theorem value_of_atom {r : Ref} {v : Value} (hatom : s.part r = .atom v) (fresh : Nat) :
    s.value fresh r = v := by
  rw [value, unfold, hatom]
  split <;> rfl

private theorem map_eq_of_readsAtoms {f : Ref → Value} (hf : s.ReadsAtoms f) {refs : List Ref}
    {vs : List Value} (hparts : refs.map s.part = vs.map .atom) : refs.map f = vs := by
  induction refs generalizing vs with
  | nil =>
    cases vs with
    | nil => rfl
    | cons v rest => exact nomatch hparts
  | cons r rest ih =>
    cases vs with
    | nil => exact nomatch hparts
    | cons v vs =>
      obtain ⟨hhead, htail⟩ := List.cons_eq_cons.mp hparts
      rw [List.map_cons, hf r v hhead, ih htail]

private theorem map_unordered_eq {f g : Ref → Value} {items items' : List Ref}
    (hitems : List.Forall₂ R items items')
    (hbelow : ∀ a b, R a b → (f a).unordered = (g b).unordered) :
    Value.unorderedItems (items.map f) = Value.unorderedItems (items'.map g) := by
  induction hitems with
  | nil => rfl
  | cons hhead _ ih =>
    rw [List.map_cons, List.map_cons, Value.unorderedItems, Value.unorderedItems,
      hbelow _ _ hhead, ih]

private theorem map_entries_eq {f g : Ref → Value} (hf : s.ReadsAtoms f) (hg : t.ReadsAtoms g)
    {entries entries' : List (Ref × Ref)}
    (hentries : List.Forall₂ (fun e e' =>
      (∃ key, s.part e.1 = .atom key ∧ t.part e'.1 = .atom key) ∧ R e.2 e'.2) entries entries')
    (hbelow : ∀ a b, R a b → (f a).unordered = (g b).unordered) :
    Value.unorderedEntries (entries.map fun e => (f e.1, f e.2)) =
      Value.unorderedEntries (entries'.map fun e => (g e.1, g e.2)) := by
  induction hentries with
  | nil => rfl
  | cons hhead _ ih =>
    obtain ⟨⟨key, hkey, hkey'⟩, hvalue⟩ := hhead
    rw [List.map_cons, List.map_cons, Value.unorderedEntries, Value.unorderedEntries,
      hf _ key hkey, hg _ key hkey', hbelow _ _ hvalue, ih]

theorem Alike.matches (h : s.Alike t R) :
    s.Matches t R fun v w => v.unordered = w.unordered where
  collection {a b} hab := by
    have hpart := h.part hab
    generalize s.part a = p, t.part b = q at hpart ⊢
    cases hpart <;> rfl
  one_one := h.one_one
  ringed {a b} hab := by
    have hpart := h.part hab
    generalize s.part a = p, t.part b = q at hpart ⊢
    cases hpart <;> rfl
  filled {a b f g} hab hf hg hbelow := by
    have hpart := h.part hab
    generalize s.part a = p, t.part b = q at hpart ⊢
    cases hpart with
    | atom v => rfl
    | list hitems => exact congrArg Value.list (map_unordered_eq hitems hbelow)
    | tuple hitems => exact congrArg Value.tuple (map_unordered_eq hitems hbelow)
    | set hmembers hmembers' hperm =>
      rw [Part.filled, Part.filled, map_eq_of_readsAtoms hf hmembers,
        map_eq_of_readsAtoms hg hmembers']
      exact Value.unordered_set_congr (hperm.map Value.unordered)
    | map hentries => exact congrArg Value.map (map_entries_eq hf hg hentries hbelow)

private theorem config_entries_eq (h : s.Alike t R) {entries entries' : List (Ref × Ref)}
    (hentries : List.Forall₂ (fun e e' =>
      (∃ key, s.part e.1 = .atom key ∧ t.part e'.1 = .atom key) ∧ R e.2 e'.2) entries entries') :
    Value.unorderedEntries
        (entries.map fun e => (s.value 0 e.1, s.value (levelsWalked (s.value 0 e.1)) e.2)) =
      Value.unorderedEntries
        (entries'.map fun e => (t.value 0 e.1, t.value (levelsWalked (t.value 0 e.1)) e.2)) := by
  induction hentries with
  | nil => rfl
  | cons hhead _ ih =>
    obtain ⟨⟨key, hkey, hkey'⟩, hbelow⟩ := hhead
    rw [List.map_cons, List.map_cons, Value.unorderedEntries, Value.unorderedEntries,
      value_of_atom hkey, value_of_atom hkey', h.matches.value hbelow, ih]

end Store

namespace Document

variable {d e : Document}

/-- Documents with the same data hold the same configuration, up to the order of sets. -/
theorem Alike.config (h : d.Alike e) : d.config.unordered = e.config.unordered := by
  obtain ⟨R, hparts, hroot⟩ := h
  have hpart := hparts.part hroot
  have hvalue : d.value.unordered = e.value.unordered := hparts.matches.value hroot 0
  rw [Document.config, Document.config, Store.entries?, Store.entries?]
  generalize d.parts.part d.root = p, e.parts.part e.root = q at hpart ⊢
  cases hpart with
  | map hentries => exact congrArg Value.map (Store.config_entries_eq hparts hentries)
  | _ => exact hvalue

end Document

/-! ### Walking through two documents -/

namespace Store

/-- The pairs of places that a walk through two stores meets at the same time. -/
def pairs (s t : Store) : Nat → Ref → Ref → List (Ref × Ref)
  | 0, a, b => [(a, b)]
  | fuel + 1, a, b =>
    let below := fun pair : Ref × Ref => pairs s t fuel pair.1 pair.2
    (a, b) :: match s.part a, t.part b with
      | .list items, .list items' | .tuple items, .tuple items' => (items.zip items').flatMap below
      | .map entries, .map entries' =>
        ((entries.map Prod.snd).zip (entries'.map Prod.snd)).flatMap below
      | _, _ => []

def sameAtom : Part → Part → Bool
  | .atom v, .atom w => decide (v = w)
  | _, _ => false

/-- Whether two parts without sets match, with the listed pairs of places as related. -/
def matchesBy (s t : Store) (related : List (Ref × Ref)) : Part → Part → Bool
  | .atom v, .atom w => decide (v = w)
  | .list items, .list items' | .tuple items, .tuple items' =>
    items.all₂ (fun a b => related.contains (a, b)) items'
  | .map entries, .map entries' =>
    entries.all₂ (fun e e' => sameAtom (s.part e.1) (t.part e'.1) && related.contains (e.2, e'.2))
      entries'
  | _, _ => false

private theorem sameAtom_eq_true_iff {p q : Part} :
    sameAtom p q = true ↔ ∃ v, p = .atom v ∧ q = .atom v := by
  cases p <;> cases q <;> simp [sameAtom, eq_comm]

private theorem matches_of_matchesBy {related : List (Ref × Ref)} {p q : Part}
    (h : s.matchesBy t related p q = true) :
    Part.Matches s t (fun a b => (a, b) ∈ related) p q := by
  have hitems : ∀ {items items' : List Ref},
      items.all₂ (fun a b => related.contains (a, b)) items' = true →
        List.Forall₂ (fun a b => (a, b) ∈ related) items items' := by
    intro items items' hall
    simpa using (List.all₂_eq_true ..).mp hall
  unfold matchesBy at h
  split at h
  · obtain rfl := of_decide_eq_true h
    exact .atom _
  · exact .list (hitems h)
  · exact .tuple (hitems h)
  · refine .map ?_
    simpa only [Bool.and_eq_true, sameAtom_eq_true_iff, List.contains_iff_mem] using
      (List.all₂_eq_true ..).mp h
  · exact absurd h Bool.false_ne_true

end Store

namespace Document

/-- Whether a walk finds two documents without sets alike. -/
def isAlike (d e : Document) : Bool :=
  let related := d.parts.pairs e.parts (d.parts.length + 1) d.root e.root
  related.all (fun pair => d.parts.matchesBy e.parts related (d.parts.part pair.1) (e.parts.part pair.2)) &&
    related.all fun pair => related.all fun pair' =>
      decide (pair.1 = pair'.1 ↔ pair.2 = pair'.2)

theorem alike_of_isAlike {d e : Document} (h : d.isAlike e = true) : d.Alike e := by
  simp only [isAlike, Bool.and_eq_true, List.all_eq_true, decide_eq_true_eq] at h
  obtain ⟨hmatches, hone⟩ := h
  refine ⟨_, ⟨fun hab => Store.matches_of_matchesBy (hmatches _ hab), ?_⟩, ?_⟩
  · exact fun hab hab' _ _ => hone _ hab _ hab'
  · rw [Store.pairs]
    exact List.mem_cons_self

end Document

end Substitute
