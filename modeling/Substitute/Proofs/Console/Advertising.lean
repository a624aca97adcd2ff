import Mathlib.Data.List.Forall2
import Substitute.Proofs.Console.Binding

/-!
# Keys that the panel shows

The panel has one line for every toggle that has a key, and the console binds the same toggles in the same order. What the panel does not look at is the switch for all key bindings: when they are off, nothing is bound and the lines still stand there.
-/

namespace Substitute

/-! ### Lines and bindings of an action -/

/-- What the panel says of an action under a key specification. Nothing is said of composing. -/
def actionHint? (spec : Text) : KeyAction → Option KeyHint
  | .compose => none
  | .toggle .flag none => none
  | .toggle .flag (some flag) => some (hint (some flag) (flagHintText flag))
  | .toggle .replace _ => some (hint none "Toggle replace term")
  | .toggle .range _ => some (hint none "Cycle range")
  | .toggle .separator _ => some (hint none "Cycle separator")
  | .toggle .dialect _ => some (hint none "Cycle magic mode")
  | .dashboard => some (hint none "Toggle dashboard")
where
  hint (flag : Option Text) (description : Text) : KeyHint :=
    { key := describeKey spec, flag, description }

/-- The line of the panel and the binding belong to one action, and the keys on the line are those of the specification that is bound. -/
def Advertises (s : Settings) (c : Command) (line : PanelLine) (binding : Binding) : Prop :=
  ∃ name spec hint, (name, binding.action) ∈ keymapActions s ∧ s.boundKey? name = some spec ∧
    keysOfSpec spec = .ok binding.keys ∧ actionHint? spec binding.action = some hint ∧
    line = hintLine s c hint

/-- The lines that the panel has more than it would have without any key. -/
def hintLines (s : Settings) (c : Command) : List PanelLine :=
  (panelLines s c).drop (panelLines { s with keymaps := [] } c).length

def toggleBindings (bindings : List Binding) : List Binding :=
  bindings.dropWhile fun binding => binding.action == .compose

/-- The toggles that may have a key, with the names of their keys. -/
def toggleActions (s : Settings) : List (Text × KeyAction) :=
  (keymapActions s).tail

/-- What the panel says of an action under the name of its key, if it has one. -/
def namedHint? (s : Settings) (action : Text × KeyAction) : Option KeyHint :=
  (s.boundKey? action.1).bind fun spec => actionHint? spec action.2

variable {s : Settings} {c : Command}

theorem exists_actionHint? {action : Text × KeyAction} (hmem : action ∈ toggleActions s)
    (spec : Text) : ∃ hint, actionHint? spec action.2 = some hint := by
  simp only [toggleActions, keymapActions, List.tail_cons, List.mem_append, List.mem_map] at hmem
  obtain ⟨flag, -, rfl⟩ | hother := hmem
  · exact ⟨_, rfl⟩
  · simp only [List.mem_cons, List.not_mem_nil, or_false] at hother
    obtain rfl | rfl | rfl | rfl | rfl := hother <;> exact ⟨_, rfl⟩

private theorem ne_compose_of_mem_toggleActions {action : Text × KeyAction} (hmem : action ∈ toggleActions s) :
    action.2 ≠ .compose := by
  intro hcompose
  obtain ⟨hint, hhint⟩ := exists_actionHint? hmem []
  rw [hcompose] at hhint
  exact nomatch hhint

/-- The panel goes through the toggles in the order in which they are bound. -/
theorem keyHints_eq (s : Settings) : keyHints s = (toggleActions s).filterMap (namedHint? s) := by
  have hflag : ∀ flag : Text, (s.boundKey? (Settings.flagKeymapName flag)).map (fun spec =>
      { key := describeKey spec, flag := some flag, description := flagHintText flag : KeyHint }) =
        namedHint? s (Settings.flagKeymapName flag, .toggle .flag (some flag)) := by
    intro flag
    rw [Option.map_eq_bind]
    rfl
  have hother : ∀ (name description : Text) (action : KeyAction),
      (∀ spec, actionHint? spec action = some (actionHint?.hint spec none description)) →
      (s.boundKey? name).map (fun spec =>
        { key := describeKey spec, flag := none, description : KeyHint }) =
        namedHint? s (name, action) := by
    intro name description action hshown
    rw [Option.map_eq_bind, namedHint?]
    exact congrArg _ (funext fun spec => (hshown spec).symm)
  rw [keyHints, toggleActions, keymapActions, List.tail_cons, List.filterMap_append,
    List.filterMap_map]
  refine congrArg₂ _ (congrArg (List.filterMap · s.flags) (funext hflag)) ?_
  simp only [actionHints, List.filterMap_cons, List.filterMap_nil]
  rw [hother "toggle_replace" _ (.toggle .replace none) fun _ => rfl,
    hother "toggle_range" _ (.toggle .range none) fun _ => rfl,
    hother "toggle_separator" _ (.toggle .separator none) fun _ => rfl,
    hother "toggle_dialect" _ (.toggle .dialect none) fun _ => rfl,
    hother "toggle_dashboard" _ .dashboard fun _ => rfl]

theorem hintLines_eq (s : Settings) (c : Command) :
    hintLines s c = (keyHints s).map (hintLine s c) := by
  have hbare : keyHints { s with keymaps := [] } = [] := by
    rw [keyHints_eq]
    exact List.filterMap_eq_nil_iff.mpr fun _ _ => rfl
  rw [hintLines, panelLines, panelLines, hbare]
  rfl

/-! ### One binding for each line -/

private theorem forall₂_bindingsOf {actions : List (Text × KeyAction)} {bindings : List Binding}
    (htoggles : ∀ action ∈ actions, action ∈ toggleActions s)
    (hbindings : bindingsOf s actions = .ok bindings) :
    List.Forall₂ (Advertises s c) ((actions.filterMap (namedHint? s)).map (hintLine s c)) bindings := by
  induction actions generalizing bindings with
  | nil =>
    cases hbindings
    exact .nil
  | cons action rest ih =>
    obtain ⟨hmem, hrest⟩ := List.forall_mem_cons.mp htoggles
    rw [bindingsOf] at hbindings
    cases hspec : s.boundKey? action.1 with
    | none =>
      have hnone : namedHint? s action = none := by rw [namedHint?, hspec, Option.bind_none]
      rw [List.filterMap_cons_none hnone]
      simp only [hspec] at hbindings
      exact ih hrest hbindings
    | some spec =>
      obtain ⟨hint, hhint⟩ := exists_actionHint? hmem spec
      have hsome : namedHint? s action = some hint := by
        rw [namedHint?, hspec, Option.bind_some, hhint]
      rw [List.filterMap_cons_some hsome, List.map_cons]
      simp only [hspec, bind_eq_ok_iff, pure_eq_ok_iff] at hbindings
      obtain ⟨keys, hkeys, more, hmore, rfl⟩ := hbindings
      exact .cons ⟨action.1, spec, hint, List.mem_of_mem_tail hmem, hspec, hkeys, hhint, rfl⟩
        (ih hrest hmore)

private theorem action_of_mem_bindingsOf {actions : List (Text × KeyAction)} {bindings : List Binding}
    (hbindings : bindingsOf s actions = .ok bindings) :
    ∀ binding ∈ bindings, binding.action ∈ actions.map Prod.snd := by
  induction actions generalizing bindings with
  | nil =>
    cases hbindings
    exact nofun
  | cons action rest ih =>
    rw [bindingsOf] at hbindings
    split at hbindings
    · intro binding hmem
      exact List.mem_cons_of_mem _ (ih hbindings binding hmem)
    · simp only [bind_eq_ok_iff, pure_eq_ok_iff] at hbindings
      obtain ⟨keys, -, more, hmore, rfl⟩ := hbindings
      refine List.forall_mem_cons.mpr ⟨List.mem_cons_self, fun binding hmem => ?_⟩
      exact List.mem_cons_of_mem _ (ih hmore binding hmem)

/-- Leaving out the binding for composing leaves the bindings of the toggles. -/
theorem bindingsOf_toggleBindings {bindings : List Binding}
    (hbindings : bindingsOf s (keymapActions s) = .ok bindings) :
    bindingsOf s (toggleActions s) = .ok (toggleBindings bindings) := by
  have hkept : ∀ {toggles}, bindingsOf s (toggleActions s) = .ok toggles →
      toggleBindings toggles = toggles := by
    intro toggles htoggles
    cases toggles with
    | nil => rfl
    | cons binding more =>
      have hmem := action_of_mem_bindingsOf htoggles binding List.mem_cons_self
      obtain ⟨action, haction, hsame⟩ := List.mem_map.mp hmem
      have hne := hsame ▸ ne_compose_of_mem_toggleActions haction
      exact List.dropWhile_cons_of_neg (by simpa using hne)
  have hcons : keymapActions s = ("populate".toList, .compose) :: toggleActions s := rfl
  rw [hcons, bindingsOf] at hbindings
  split at hbindings
  · rw [hkept hbindings]
    exact hbindings
  · simp only [bind_eq_ok_iff, pure_eq_ok_iff] at hbindings
    obtain ⟨keys, -, toggles, htoggles, rfl⟩ := hbindings
    have hdropped : toggleBindings ({ keys, action := .compose } :: toggles) = toggleBindings toggles :=
      List.dropWhile_cons_of_pos rfl
    rw [hdropped, hkept htoggles]
    exact htoggles

theorem ne_populate_of_mem_toggleActions {action : Text × KeyAction}
    (hmem : action ∈ toggleActions s) : action.1 ≠ "populate".toList := by
  have hstart : "toggle_".toList <+: action.1 := by
    simp only [toggleActions, keymapActions, List.tail_cons, List.mem_append, List.mem_map] at hmem
    obtain ⟨flag, -, rfl⟩ | hother := hmem
    · exact List.prefix_append _ flag
    · simp only [List.mem_cons, List.not_mem_nil, or_false] at hother
      obtain rfl | rfl | rfl | rfl | rfl := hother <;> decide
  intro hname
  rw [hname] at hstart
  exact absurd hstart (by decide)

private theorem mem_names_toggleActions_iff (s : Settings) (name : Text) :
    name ∈ (toggleActions s).map Prod.fst ↔ name ∈ s.knownKeymaps ∧ name ≠ "populate".toList := by
  have hnames : (keymapActions s).map Prod.fst =
      "populate".toList :: (toggleActions s).map Prod.fst := rfl
  rw [← mem_keymapActions_iff, hnames, List.mem_cons]
  constructor
  · intro hmem
    obtain ⟨action, haction, rfl⟩ := List.mem_map.mp hmem
    exact ⟨.inr hmem, ne_populate_of_mem_toggleActions haction⟩
  · rintro ⟨hpopulate | hmem, hne⟩
    · exact absurd hpopulate hne
    · exact hmem

private theorem hintLines_eq_nil_iff (s : Settings) (c : Command) :
    hintLines s c = [] ↔
      ∀ name ∈ s.knownKeymaps, name ≠ "populate".toList → s.boundKey? name = none := by
  have hhint : ∀ action ∈ toggleActions s,
      namedHint? s action = none ↔ s.boundKey? action.1 = none := by
    intro action hmem
    rw [namedHint?]
    cases hspec : s.boundKey? action.1 with
    | none => simp
    | some spec =>
      obtain ⟨hint, hhint⟩ := exists_actionHint? hmem spec
      simp [hhint]
  rw [hintLines_eq, List.map_eq_nil_iff, keyHints_eq, List.filterMap_eq_nil_iff]
  simp only [← and_imp, ← mem_names_toggleActions_iff, List.forall_mem_map]
  exact forall₂_congr hhint

/-- Once the key bindings exist, the panel's lines for keys stand one for one and in order with the bindings made after the one for composing, each of them showing the keys that are bound and belonging to the same toggle, exactly when the key bindings are switched on or no toggle has a key. -/
theorem hintLines_advertise_iff (s : Settings) (c : Command) (bindings : List Binding)
    (hbindings : keyBindings s = .ok bindings) :
    List.Forall₂ (Advertises s c) (hintLines s c) (toggleBindings bindings) ↔
      s.keymapsEnabled = true ∨
        ∀ name ∈ s.knownKeymaps, name ≠ "populate".toList → s.boundKey? name = none := by
  rw [keyBindings] at hbindings
  split at hbindings
  · rename_i henabled
    refine iff_of_true ?_ (.inl henabled)
    rw [hintLines_eq, keyHints_eq]
    exact forall₂_bindingsOf (fun _ hmem => hmem) (bindingsOf_toggleBindings hbindings)
  · rename_i hdisabled
    cases hbindings
    rw [or_iff_right hdisabled, ← hintLines_eq_nil_iff s c]
    exact List.forall₂_nil_right_iff

theorem hintLines_advertise_rebound :
    ∃ s bindings, Settings.ofConfig (.map [(.text "flags", .text "gcI"), (.text "keymaps",
        .map [(.text "toggle_c", .text "c-t"), (.text "toggle_range", .null)])]) = .ok s ∧
      keyBindings s = .ok bindings ∧
      (toggleBindings bindings).map Binding.keys =
        ([["escape", "g"], ["c-t"], ["escape", "d"], ["escape", "/"], ["escape", "m"],
          ["escape", "h"]] : List (List Text)) ∧
      ∀ c, List.Forall₂ (Advertises s c) (hintLines s c) (toggleBindings bindings) := by
  refine ⟨_, _, rfl, rfl, rfl, fun c => ?_⟩
  exact (hintLines_advertise_iff _ c _ rfl).mpr (.inl rfl)

/-- With the key bindings switched off nothing is bound, and the panel shows eight keys. -/
theorem hintLines_switched_off :
    ∃ s, Settings.ofConfig (.map [(.text "keymaps", .map [(.text "enable", .bool false)])]) = .ok s ∧
      keyBindings s = .ok [] ∧
      ∀ c, (hintLines s c).length = 8 ∧
        ¬ List.Forall₂ (Advertises s c) (hintLines s c) (toggleBindings []) := by
  refine ⟨_, rfl, rfl, fun c => ?_⟩
  have hlength := fun s : Settings => (congrArg List.length (hintLines_eq s c)).trans (List.length_map _)
  exact ⟨hlength _, fun hsame => nomatch (hlength _).symm.trans hsame.length_eq⟩

end Substitute
