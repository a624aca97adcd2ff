import Substitute.Proofs.Value.Mapping

/-!
# Merged mappings, path by path

What a merged mapping holds at a path is told by the upper mapping as far down as it holds something: a value there replaces what was below, a mapping there is merged with a mapping below. Where the upper mapping ends, the lower one shows through, provided that both were mappings there.
-/

namespace Substitute

/-- A value in which every mapping, however deep among mappings, has keys of a given kind and at most one entry for a key. -/
inductive Value.Keyed (P : Value → Prop) : Value → Prop where
  | map {entries : Entries} (keys : ∀ e ∈ entries, P e.1) (distinct : entries.Distinct)
      (inside : ∀ e ∈ entries, Value.Keyed P e.2) : Value.Keyed P (.map entries)
  | leaf {v : Value} (hleaf : ∀ entries, v ≠ .map entries) : Value.Keyed P v

/-- The value at a path of keys, or none when a key is missing or the path runs through no mapping. -/
def Value.follow? : List Value → Value → Option Value
  | [], v => some v
  | key :: path, .map entries => (Entries.get? entries key).bind (Value.follow? path)
  | _ :: _, _ => none

/-- The mapping at a path, empty when there is none. -/
def Value.entriesAt (v : Value) (path : List Value) : Entries :=
  match v.follow? path with
  | some (.map entries) => entries
  | _ => []

/-- Whether a value holds a mapping at a path. -/
def Value.HoldsMap (v : Value) (path : List Value) : Prop :=
  ∃ entries, v.follow? path = some (.map entries)

/-- Whether the second path is the longest beginning of the first at which a value holds something. -/
structure Value.Reaches (v : Value) (path reached : List Value) : Prop where
  isPrefix : reached <+: path
  isSome : (v.follow? reached).isSome = true
  longest : ∀ other, other <+: path → (v.follow? other).isSome = true → other <+: reached

namespace Value

variable {P : Value → Prop} {v : Value} {entries : Entries}

theorem Keyed.of_map (h : (Value.map entries).Keyed P) :
    (∀ e ∈ entries, P e.1) ∧ entries.Distinct ∧ ∀ e ∈ entries, e.2.Keyed P := by
  cases h with
  | map keys distinct inside => exact ⟨keys, distinct, inside⟩
  | leaf hleaf => exact absurd rfl (hleaf entries)

private theorem keyed_map_iff :
    (Value.map entries).Keyed P ↔
      (∀ e ∈ entries, P e.1) ∧ entries.Distinct ∧ ∀ e ∈ entries, e.2.Keyed P :=
  ⟨Keyed.of_map, fun ⟨keys, distinct, inside⟩ => .map keys distinct inside⟩

mutual

/-- Whether a value has such keys, decided mapping by mapping. -/
def decideKeyed [DecidablePred P] : (v : Value) → Decidable (v.Keyed P)
  | .map entries =>
    have := decideInside entries
    decidable_of_iff' _ keyed_map_iff
  | .null | .bool _ | .int _ | .float _ | .text _ | .bytes _ | .date _ | .moment _ | .list _
  | .tuple _ | .set _ | .again _ => .isTrue (.leaf nofun)

/-- Whether every value of a mapping has such keys. -/
def decideInside [DecidablePred P] :
    (entries : List (Value × Value)) → Decidable (∀ e ∈ entries, e.2.Keyed P)
  | [] => .isTrue (List.forall_mem_nil _)
  | (_, v) :: rest =>
    have := decideKeyed v
    have := decideInside rest
    decidable_of_iff' _ List.forall_mem_cons

end

instance [DecidablePred P] : DecidablePred (Keyed P) := decideKeyed

theorem Keyed.get? {key : Value} (h : (Value.map entries).Keyed P) (hfound : entries.get? key = some v) :
    v.Keyed P := by
  obtain ⟨e, he, -, rfl⟩ := Entries.mem_of_get? hfound
  exact h.of_map.2.2 e he

theorem Keyed.follow? {path : List Value} {w : Value} (h : v.Keyed P)
    (hfound : v.follow? path = some w) : w.Keyed P := by
  induction path generalizing v with
  | nil => exact Option.some.inj hfound ▸ h
  | cons key path ih =>
    cases v with
    | map entries =>
      rw [Value.follow?, Option.bind_eq_some_iff] at hfound
      obtain ⟨inner, hinner, hfound⟩ := hfound
      exact ih (h.get? hinner) hfound
    | _ => cases hfound

theorem follow?_append (path more : List Value) (v : Value) :
    v.follow? (path ++ more) = (v.follow? path).bind (follow? more) := by
  induction path generalizing v with
  | nil => rfl
  | cons key path ih =>
    cases v with
    | map entries =>
      rw [List.cons_append, follow?, follow?, Option.bind_assoc]
      exact congrArg _ (funext ih)
    | _ => rfl

end Value

namespace Entries

variable {base entries : Entries} {key other : Value}

/-! ### One level -/

theorem get?_congr (hentries : ∀ e ∈ entries, e.1.IsKey) (hkey : key.IsKey) (hother : other.IsKey)
    (hsame : key.sameKey other = true) : entries.get? key = entries.get? other := by
  induction entries with
  | nil => rfl
  | cons e rest ih =>
    obtain ⟨he, hrest⟩ := List.forall_mem_cons.mp hentries
    have hhead : e.1.sameKey key = e.1.sameKey other := by
      rw [Bool.eq_iff_iff]
      constructor
      · exact fun h => Value.sameKey_trans he hother h hsame
      · exact fun h => Value.sameKey_trans he hkey h (Value.sameKey_comm key other ▸ hsame)
    simp only [get?] at ih
    rw [get?, get?, List.find?_cons, List.find?_cons, hhead]
    cases e.1.sameKey other with
    | true => rfl
    | false => exact ih hrest

private theorem get?_newTo (hbase : ∀ e ∈ base, e.1.IsKey) (hkey : key.IsKey)
    (hnone : ∀ e ∈ base, e.1.sameKey key = false) :
    get? (newTo base entries) key = entries.get? key := by
  induction entries with
  | nil => rfl
  | cons e rest ih =>
    simp only [get?, newTo] at ih
    simp only [get?, newTo, List.filter_cons, List.find?_cons]
    by_cases hnew : base.any (·.1.sameKey e.1) = true
    · -- the entry is dropped, and it does not stand under the key
      obtain ⟨f, hf, hfound⟩ := List.any_eq_true.mp hnew
      have hskip : e.1.sameKey key = false := by
        by_contra hsame
        rw [Bool.not_eq_false] at hsame
        have h := Value.sameKey_trans (hbase f hf) hkey hfound hsame
        rw [hnone f hf] at h
        exact Bool.false_ne_true h
      rw [hnew, hskip]
      exact ih
    · rw [eq_false_of_ne_true hnew, Bool.not_false, if_pos rfl, List.find?_cons]
      cases e.1.sameKey key with
      | true => rfl
      | false => exact ih

/-- Under a key of the upper mapping its value lies over what was there, and everything else shows through. -/
theorem get?_merge (hbase : ∀ e ∈ base, e.1.IsKey) (hentries : ∀ e ∈ entries, e.1.IsKey)
    (hlower : Distinct base) (hupper : Distinct entries) (hkey : key.IsKey) :
    (merge base entries).get? key =
      ((entries.get? key).map (Value.over (base.get? key))).or (base.get? key) := by
  have hlaid : get? (base.map (laid entries)) key =
      (base.find? fun e => e.1.sameKey key).map fun e => (laid entries e).2 := by
    rw [get?, List.find?_map, Option.map_map]
    rfl
  rw [merge_eq_of_agree (.of_keys hbase hentries) hlower hupper, get?_append, hlaid]
  cases hfound : base.find? fun e => e.1.sameKey key with
  | none =>
    have hnone : ∀ e ∈ base, e.1.sameKey key = false := by
      simpa [List.find?_eq_none] using hfound
    rw [get?_eq_none_iff.mpr hnone, get?_newTo hbase hkey hnone]
    cases entries.get? key <;> simp
  | some e =>
    have hsame : e.1.sameKey key = true := by
      simpa using List.find?_some hfound
    have hbelow : base.get? key = some e.2 := by
      rw [get?, hfound]
      rfl
    have he : e.1.IsKey := hbase e (List.mem_of_find?_eq_some hfound)
    rw [hbelow, ← get?_congr hentries he hkey hsame, Option.map_some, Option.some_or, laid]
    cases entries.get? e.1 <;> rfl

theorem newTo_nil (entries : Entries) : newTo [] entries = entries :=
  List.filter_eq_self.mpr fun _ _ => rfl

theorem keys_merge (hagree : Agree base entries) (hlower : Distinct base)
    (hupper : Distinct entries) :
    (merge base entries).map Prod.fst = base.map Prod.fst ++ (newTo base entries).map Prod.fst := by
  rw [merge_eq_of_agree hagree hlower hupper, List.map_append, List.map_map]
  rfl

end Entries

namespace Value

variable {below above v : Value} {path : List Value}

/-! ### Whole paths -/

/-- A mapping is merged with a mapping below it and takes the place of anything else. -/
theorem over_map_cases (below : Option Value) (entries : Entries) :
    (∃ base, below = some (.map base) ∧
        Value.over below (.map entries) = .map (Entries.merge base entries)) ∨
      (∀ base, below ≠ some (.map base)) ∧ Value.over below (.map entries) = .map entries := by
  match below with
  | some (.map base) => exact .inl ⟨base, rfl, rfl⟩
  | none => exact .inr ⟨nofun, rfl⟩
  | some .null | some (.bool _) | some (.int _) | some (.float _) | some (.text _)
  | some (.bytes _) | some (.date _) | some (.moment _) | some (.list _) | some (.tuple _)
  | some (.set _) | some (.again _) =>
    exact .inr ⟨nofun, rfl⟩

private theorem entriesAt_of_follow? {entries : Entries} (h : v.follow? path = some (.map entries)) :
    v.entriesAt path = entries := by
  rw [entriesAt, h]

private theorem entriesAt_of_ne_map (h : ∀ entries, v.follow? path ≠ some (.map entries)) :
    v.entriesAt path = [] := by
  rw [entriesAt]
  split
  · exact absurd ‹_› (h _)
  · rfl

theorem over_of_ne_map (below : Option Value) (hv : ∀ entries, v ≠ .map entries) :
    Value.over below v = v := by
  cases v with
  | map entries => exact absurd rfl (hv entries)
  | _ => rfl

private theorem bind_follow?_cons_of_ne_map {below : Option Value}
    (hbelow : ∀ base, below ≠ some (.map base))
    (key : Value) (path : List Value) : below.bind (follow? (key :: path)) = none := by
  cases below with
  | none => rfl
  | some w =>
    cases w with
    | map base => exact absurd rfl (hbelow base)
    | _ => rfl

private theorem follow?_over_optional {below : Option Value} (hbelow : ∀ w ∈ below, w.Keyed IsKey)
    (habove : above.Keyed IsKey) (hpath : ∀ key ∈ path, key.IsKey)
    (hfound : above.follow? path = some v) :
    (Value.over below above).follow? path = some (Value.over (below.bind (follow? path)) v) := by
  induction path generalizing below above with
  | nil =>
    obtain rfl : above = v := Option.some.inj hfound
    cases below <;> rfl
  | cons key path ih =>
    obtain ⟨hkey, hrest⟩ := List.forall_mem_cons.mp hpath
    cases above with
    | map entries =>
      rcases over_map_cases below entries with ⟨base, rfl, hover⟩ | ⟨hbelow, hover⟩
      · rw [follow?, Option.bind_eq_some_iff] at hfound
        obtain ⟨inner, hinner, hfound⟩ := hfound
        have hbase := hbelow _ rfl
        obtain ⟨hlower_keys, hlower_distinct, -⟩ := hbase.of_map
        obtain ⟨hupper_keys, hupper_distinct, -⟩ := habove.of_map
        have hlower : ∀ w ∈ Entries.get? base key, Keyed IsKey w := fun w hw => hbase.get? hw
        rw [hover, follow?, Entries.get?_merge hlower_keys hupper_keys hlower_distinct
          hupper_distinct hkey, hinner, Option.map_some, Option.some_or, Option.bind_some,
          ih hlower (habove.get? hinner) hrest hfound]
        rfl
      · rw [hover, hfound, bind_follow?_cons_of_ne_map hbelow, over_none]
    | _ => cases hfound

/-- What the upper value holds at a path lies, in the merged one, over what the lower value holds there. -/
theorem follow?_over (hbelow : below.Keyed IsKey) (habove : above.Keyed IsKey)
    (hpath : ∀ key ∈ path, key.IsKey) (hfound : above.follow? path = some v) :
    (Value.over (some below) above).follow? path = some (Value.over (below.follow? path) v) := by
  refine follow?_over_optional ?_ habove hpath hfound
  rintro _ ⟨⟩
  exact hbelow

theorem follow?_cons_eq_none {key : Value}
    (hmissing : ∀ entries, v = .map entries → Entries.get? entries key = none) (more : List Value) :
    v.follow? (key :: more) = none := by
  cases v with
  | map entries => rw [follow?, hmissing entries rfl, Option.bind_none]
  | _ => rfl

theorem exists_missing (hnone : v.follow? path = none) :
    ∃ before key after u, path = before ++ key :: after ∧ v.follow? before = some u ∧
      ∀ entries, u = .map entries → Entries.get? entries key = none := by
  induction path generalizing v with
  | nil => cases hnone
  | cons key path ih =>
    cases v with
    | map entries =>
      rw [follow?] at hnone
      cases hfound : Entries.get? entries key with
      | none =>
        refine ⟨[], key, path, .map entries, rfl, rfl, ?_⟩
        rintro _ ⟨⟩
        exact hfound
      | some inner =>
        rw [hfound, Option.bind_some] at hnone
        obtain ⟨before, last, after, u, rfl, hu, hmissing⟩ := ih hnone
        exact ⟨key :: before, last, after, u, rfl, by rw [follow?, hfound, Option.bind_some, hu],
          hmissing⟩
    | _ => exact ⟨[], key, path, _, rfl, rfl, nofun⟩

theorem Reaches.unique {first second : List Value} (hfirst : v.Reaches path first)
    (hsecond : v.Reaches path second) : first = second :=
  (hsecond.longest first hfirst.isPrefix hfirst.isSome).eq_of_length_le
    (hfirst.longest second hsecond.isPrefix hsecond.isSome).length_le

theorem reaches_of_missing {key u : Value} {before after : List Value}
    (hfound : v.follow? before = some u)
    (hmissing : ∀ entries, u = .map entries → Entries.get? entries key = none) :
    v.Reaches (before ++ key :: after) before where
  isPrefix := List.prefix_append _ _
  isSome := by rw [hfound, Option.isSome_some]
  longest := by
    intro other hother hsome
    rcases List.prefix_or_prefix_of_prefix hother (List.prefix_append before (key :: after)) with
      hle | ⟨rest, rfl⟩
    · exact hle
    · -- a longer path would go through the missing key
      rw [List.prefix_append_right_inj] at hother
      cases rest with
      | nil => simp
      | cons next more =>
        obtain rfl : next = key := (List.cons_prefix_cons.mp hother).1
        rw [follow?_append, hfound, Option.bind_some, follow?_cons_eq_none hmissing] at hsome
        cases hsome

/-- The keys at a path where the upper value holds a mapping: those of the lower one at that path, and then the new ones. -/
theorem exists_follow?_over_map {inner : Entries} (hbelow : below.Keyed IsKey)
    (habove : above.Keyed IsKey) (hpath : ∀ key ∈ path, key.IsKey)
    (hfound : above.follow? path = some (.map inner)) :
    ∃ both, (Value.over (some below) above).follow? path = some (.map both) ∧
      both.map Prod.fst =
        (below.entriesAt path).map Prod.fst ++
          (Entries.newTo (below.entriesAt path) inner).map Prod.fst := by
  rw [follow?_over hbelow habove hpath hfound]
  rcases over_map_cases (below.follow? path) inner with ⟨lower, hlower, hover⟩ | ⟨hlower, hover⟩
  · obtain ⟨hlower_keys, hlower_distinct, -⟩ := (hbelow.follow? hlower).of_map
    obtain ⟨hinner_keys, hinner_distinct, -⟩ := (habove.follow? hfound).of_map
    rw [hover, entriesAt_of_follow? hlower]
    exact ⟨_, rfl,
      Entries.keys_merge (.of_keys hlower_keys hinner_keys) hlower_distinct hinner_distinct⟩
  · rw [hover, entriesAt_of_ne_map hlower, Entries.newTo_nil]
    exact ⟨inner, rfl, rfl⟩

/-- Behind the place where the upper value breaks off, the lower one shows through a mapping over a mapping, and nothing else does. -/
theorem follow?_over_append {key u : Value} {before after : List Value}
    (hbelow : below.Keyed IsKey) (habove : above.Keyed IsKey)
    (hpath : ∀ k ∈ before ++ key :: after, k.IsKey) (hfound : above.follow? before = some u)
    (hmissing : ∀ entries, u = .map entries → Entries.get? entries key = none) :
    (above.HoldsMap before ∧ below.HoldsMap before →
      (Value.over (some below) above).follow? (before ++ key :: after) =
        below.follow? (before ++ key :: after)) ∧
    (¬(above.HoldsMap before ∧ below.HoldsMap before) →
      (Value.over (some below) above).follow? (before ++ key :: after) = none) := by
  obtain ⟨hbefore, hafter⟩ := List.forall_mem_append.mp hpath
  have hkey : key.IsKey := hafter key List.mem_cons_self
  have hover : (Value.over (some below) above).follow? (before ++ key :: after) =
      (Value.over (below.follow? before) u).follow? (key :: after) := by
    rw [follow?_append, follow?_over hbelow habove hbefore hfound, Option.bind_some]
  rw [hover, follow?_append, HoldsMap, HoldsMap, hfound]
  constructor
  · rintro ⟨⟨inner, hinner⟩, lower, hlower⟩
    obtain rfl := Option.some.inj hinner
    obtain ⟨hlower_keys, hlower_distinct, -⟩ := (hbelow.follow? hlower).of_map
    obtain ⟨hinner_keys, hinner_distinct, -⟩ := (habove.follow? hfound).of_map
    rw [hlower, Value.over, follow?, Entries.get?_merge hlower_keys hinner_keys hlower_distinct
      hinner_distinct hkey, hmissing inner rfl, Option.map_none, Option.none_or, Option.bind_some,
      follow?]
  · intro hnot
    refine follow?_cons_eq_none (fun entries hentries => ?_) after
    cases u with
    | map inner =>
      rcases over_map_cases (below.follow? before) inner with ⟨lower, hlower, -⟩ | ⟨-, hover⟩
      · exact absurd ⟨⟨inner, rfl⟩, lower, hlower⟩ hnot
      · exact hmissing entries (hover.symm.trans hentries)
    | _ => cases hentries

end Value

namespace Entries

open Value

variable {base entries : Entries} {path : List Value}

/-- A path through a merged mapping. Where the upper mapping holds a value that is no mapping, that value is there. Where it holds a mapping, a mapping is there, with the keys that the lower one holds at the path in their order and after them the new ones in theirs. Where it holds nothing, the longest part of the path at which it does decides: the lower mapping shows through if both hold a mapping there, and otherwise there is nothing. -/
theorem follow?_merge_path (hbase : (Value.map base).Keyed IsKey)
    (hentries : (Value.map entries).Keyed IsKey) (hpath : ∀ key ∈ path, key.IsKey) :
    let below := Value.map base
    let above := Value.map entries
    let merged := Value.map (merge base entries)
    (∀ v, above.follow? path = some v → (∀ inner, v ≠ .map inner) →
        merged.follow? path = some v) ∧
      (∀ inner, above.follow? path = some (.map inner) →
        ∃ both, merged.follow? path = some (.map both) ∧
          both.map Prod.fst =
            (below.entriesAt path).map Prod.fst ++
              (newTo (below.entriesAt path) inner).map Prod.fst) ∧
      (above.follow? path = none →
        ∃ reached, above.Reaches path reached ∧
          (above.HoldsMap reached ∧ below.HoldsMap reached →
            merged.follow? path = below.follow? path) ∧
          (¬(above.HoldsMap reached ∧ below.HoldsMap reached) → merged.follow? path = none)) := by
  intro below above merged
  refine ⟨fun v hv hleaf => ?_, fun inner hinner => ?_, fun hnone => ?_⟩
  · have hover := follow?_over hbase hentries hpath hv
    rwa [over_of_ne_map _ hleaf] at hover
  · exact exists_follow?_over_map hbase hentries hpath hinner
  · obtain ⟨reached, key, after, u, rfl, hu, hmissing⟩ := exists_missing hnone
    exact ⟨reached, reaches_of_missing hu hmissing,
      follow?_over_append hbase hentries hpath hu hmissing⟩

theorem follow?_merge_path_section :
    let base : Entries :=
      [(.text "a", .map [(.int 1, .text "x"), (.text "b", .map [(.text "c", .int 1)])]),
        (.text "s", .map [(.text "t", .int 3)])]
    let entries : Entries :=
      [(.text "a", .map [(.bool true, .text "y"), (.text "n", .null)]), (.text "s", .int 2)]
    let merged := Value.map (merge base entries)
    merged.follow? [.text "a", .int 1] = some (.text "y") ∧
      (∃ both, merged.follow? [.text "a"] = some (.map both) ∧
        both.map Prod.fst = [.int 1, .text "b", .text "n"]) ∧
      merged.follow? [.text "a", .text "b", .text "c"] = some (.int 1) ∧
      merged.follow? [.text "s", .text "t"] = none := by
  intro base entries merged
  let above := Value.map entries
  have hpath := fun (path : List Value) (h : ∀ key ∈ path, key.IsKey) =>
    follow?_merge_path (by decide : (Value.map base).Keyed IsKey)
      (by decide : above.Keyed IsKey) h
  obtain ⟨hleaf, -, -⟩ := hpath [.text "a", .int 1] (by decide)
  obtain ⟨-, hmap, -⟩ := hpath [.text "a"] (by decide)
  obtain ⟨-, -, hthrough⟩ := hpath [.text "a", .text "b", .text "c"] (by decide)
  obtain ⟨-, -, hcut⟩ := hpath [.text "s", .text "t"] (by decide)
  refine ⟨hleaf _ rfl nofun, hmap _ rfl, ?_, ?_⟩
  · obtain ⟨reached, hreached, hshows, -⟩ := hthrough rfl
    have ha : above.Reaches ([.text "a"] ++ [.text "b", .text "c"]) [.text "a"] :=
      reaches_of_missing rfl fun inner hinner => by
        cases hinner
        rfl
    obtain rfl := hreached.unique ha
    exact hshows ⟨⟨_, rfl⟩, _, rfl⟩
  · obtain ⟨reached, hreached, -, hnothing⟩ := hcut rfl
    have hs : above.Reaches ([.text "s"] ++ [.text "t"]) [.text "s"] :=
      reaches_of_missing (u := .int 2) rfl nofun
    obtain rfl := hreached.unique hs
    refine hnothing ?_
    rintro ⟨⟨_, ⟨⟩⟩, -⟩

end Entries

end Substitute
