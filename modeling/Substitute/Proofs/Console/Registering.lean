import Mathlib.Data.List.Induction
import Substitute.Console.Registry

/-!
# Refused registrations

The names of a command are entered one after the other, up to the first that is taken. So a refusal leaves the names before that one in the table, and the command answers to them although no list shows it. Nothing is left behind exactly when nobody can ask for any of these names, above all when the command's own name is the one that is taken.
-/

namespace Substitute

def CommandSpec.names (spec : CommandSpec) : List Text :=
  spec.name :: spec.aliases

namespace Registry

def known (r : Registry) : List Text :=
  r.names.map Prod.fst

/-- The names before the first one that is known or repeats one of them. -/
def freshNames (known : List Text) : List Text → List Text
  | [] => []
  | name :: rest => if name ∈ known then [] else name :: freshNames (known ++ [name]) rest

/-- The names that registering a command enters, whether or not it is refused in the end. -/
def entered (r : Registry) (spec : CommandSpec) : List Text :=
  freshNames r.known spec.names

def withNames (r : Registry) (spec : CommandSpec) (names : List Text) : Registry :=
  { r with names := r.names ++ names.map fun name => (name, spec) }

/-- The registry after some registrations, refused or not. -/
def registerAll (r : Registry) (specs : List CommandSpec) : Registry :=
  specs.foldl (fun r spec => (r.register spec).1) r

def after (specs : List CommandSpec) : Registry :=
  registerAll {} specs

/-- Whether two registries give the same answers to everything that they are asked. -/
structure SameAnswers (r r' : Registry) : Prop where
  lookup : ∀ name, r'.lookup name = r.lookup name
  subcommands : ∀ name, r'.subcommands name = r.subcommands name
  commands : r'.commands = r.commands

/-- None of the names that registering a command enters can be asked for: names are asked for in small letters. -/
def Untraced (r : Registry) (spec : CommandSpec) : Prop :=
  ∀ name ∈ r.entered spec, ∀ sought, lowercase sought ≠ name

variable {r : Registry} {spec : CommandSpec} {names : List Text}

/-! ### The names that are entered -/

private theorem freshNames_isInitial (known names : List Text) : freshNames known names <+: names := by
  induction names generalizing known with
  | nil => exact List.prefix_rfl
  | cons name rest ih =>
    rw [freshNames]
    split
    · exact List.nil_prefix
    · exact List.cons_prefix_cons.mpr ⟨rfl, ih _⟩

theorem not_mem_of_mem_freshNames {known : List Text} {name : Text}
    (hmem : name ∈ freshNames known names) : name ∉ known := by
  induction names generalizing known with
  | nil => exact nomatch hmem
  | cons first rest ih =>
    rw [freshNames] at hmem
    split at hmem
    · exact nomatch hmem
    · rename_i hfirst
      obtain rfl | hrest := List.mem_cons.mp hmem
      · exact hfirst
      · exact fun hknown => ih hrest (List.mem_append_left _ hknown)

theorem name_mem_entered (hne : r.entered spec ≠ []) : spec.name ∈ r.entered spec := by
  rw [entered, CommandSpec.names, freshNames] at hne ⊢
  split
  · rename_i hknown
    rw [if_pos hknown] at hne
    exact absurd rfl hne
  · exact List.mem_cons_self

/-! ### The table -/

theorem isSome_lookup_iff (table : List (Text × CommandSpec)) (name : Text) :
    (table.lookup name).isSome = true ↔ name ∈ table.map Prod.fst := by
  induction table with
  | nil => simp
  | cons entry rest ih =>
    obtain ⟨key, found⟩ := entry
    by_cases hkey : name = key
    · simp [hkey]
    · have hbeq : (name == key) = false := beq_false_of_ne hkey
      rw [List.lookup_cons, hbeq, ih, List.map_cons, List.mem_cons, or_iff_right hkey]

private theorem lookup_map_const (names : List Text) (spec : CommandSpec) (name : Text) :
    (names.map fun entry => (entry, spec)).lookup name = if name ∈ names then some spec else none := by
  induction names with
  | nil => rfl
  | cons first rest ih =>
    by_cases hfirst : name = first
    · simp [hfirst]
    · have hbeq : (name == first) = false := beq_false_of_ne hfirst
      rw [List.map_cons, List.lookup_cons, hbeq, ih]
      simp [hfirst]

@[simp] theorem known_withNames (r : Registry) (spec : CommandSpec) (names : List Text) :
    (r.withNames spec names).known = r.known ++ names := by
  simp [withNames, known, Function.comp_def]

@[simp] private theorem withNames_withNames (r : Registry) (spec : CommandSpec) (names more : List Text) :
    (r.withNames spec names).withNames spec more = r.withNames spec (names ++ more) := by
  simp [withNames]

theorem lookup_withNames (r : Registry) (spec : CommandSpec) (names : List Text) (name : Text) :
    (r.withNames spec names).lookup name =
      (r.lookup name).or (if lowercase name ∈ names then some spec else none) := by
  rw [lookup, withNames, List.lookup_append, lookup_map_const]
  rfl

/-! ### What a registration does -/

private theorem enter_eq (r : Registry) (spec : CommandSpec) (names : List Text) :
    r.enter spec names = (r.withNames spec (freshNames r.known names),
      (names.drop (freshNames r.known names).length).head?.map .taken) := by
  induction names generalizing r with
  | nil => simp [enter, freshNames, withNames]
  | cons name rest ih =>
    have hknown : (r.names.lookup name).isSome = true ↔ name ∈ r.known := isSome_lookup_iff _ _
    rw [enter, freshNames]
    by_cases hname : name ∈ r.known
    · rw [if_pos (hknown.mpr hname), if_pos hname]
      simp [withNames]
    · rw [if_neg (mt hknown.mp hname), if_neg hname]
      refine (ih (r.withNames spec [name])).trans ?_
      rw [known_withNames, withNames_withNames]
      rfl

/-- A registration enters all names and lists the command, or it is refused over a name after those that it has entered. -/
theorem register_cases (r : Registry) (spec : CommandSpec) :
    (spec.name ∈ r.entered spec ∧ r.register spec =
      ({ r.withNames spec (r.entered spec) with commands := r.commands ++ [spec] }, none)) ∨
    ∃ name, r.register spec = (r.withNames spec (r.entered spec), some (.taken name)) := by
  have henter : r.enter spec (spec.name :: spec.aliases) = (r.withNames spec (r.entered spec),
      (spec.names.drop (r.entered spec).length).head?.map .taken) := enter_eq r spec spec.names
  rw [register, henter]
  cases htaken : (spec.names.drop (r.entered spec).length).head? with
  | none =>
    have hall : r.entered spec = spec.names := by
      have hlength := List.drop_eq_nil_iff.mp (List.head?_eq_none_iff.mp htaken)
      exact (freshNames_isInitial _ _).eq_of_length_le hlength
    refine .inl ⟨?_, rfl⟩
    rw [hall]
    exact List.mem_cons_self
  | some name => exact .inr ⟨name, rfl⟩

theorem register_of_refused {error : RegistryError} (hrefused : (r.register spec).2 = some error) :
    (r.register spec).1 = r.withNames spec (r.entered spec) := by
  obtain ⟨-, haccepted⟩ | ⟨name, hname⟩ := register_cases r spec
  · rw [haccepted] at hrefused
    exact nomatch hrefused
  · rw [hname]

theorem lookup_register (r : Registry) (spec : CommandSpec) (name : Text) :
    (r.register spec).1.lookup name =
      (r.lookup name).or (if lowercase name ∈ r.entered spec then some spec else none) := by
  obtain ⟨-, haccepted⟩ | ⟨_, hrefused⟩ := register_cases r spec
  · rw [haccepted]
    exact lookup_withNames r spec _ name
  · rw [hrefused]
    exact lookup_withNames r spec _ name

theorem known_register (r : Registry) (spec : CommandSpec) :
    (r.register spec).1.known = r.known ++ r.entered spec := by
  obtain ⟨-, haccepted⟩ | ⟨_, hrefused⟩ := register_cases r spec
  · rw [haccepted]
    exact known_withNames r spec _
  · rw [hrefused]
    exact known_withNames r spec _

theorem lookup_registerAll {name : Text} {found : CommandSpec} (hfound : r.lookup name = some found)
    (specs : List CommandSpec) : (r.registerAll specs).lookup name = some found := by
  induction specs generalizing r with
  | nil => exact hfound
  | cons spec rest ih =>
    refine ih ?_
    rw [lookup_register, hfound, Option.some_or]

theorem lookup_eq_none {name : Text} (hname : lowercase name ∈ r.entered spec) :
    r.lookup name = none := by
  have hfresh : lowercase name ∉ r.known := not_mem_of_mem_freshNames hname
  rw [known, ← isSome_lookup_iff, Option.not_isSome_iff_eq_none] at hfresh
  exact hfresh

/-- A refusal leaves no trace exactly when it enters no name that can be asked for. -/
theorem sameAnswers_iff {error : RegistryError} (hrefused : (r.register spec).2 = some error) :
    SameAnswers r (r.register spec).1 ↔ r.Untraced spec := by
  constructor
  · rintro ⟨hlookup, -, -⟩ name hname sought rfl
    have hsame := hlookup sought
    rw [lookup_register, lookup_eq_none hname, if_pos hname] at hsame
    exact nomatch hsame
  · intro huntraced
    have hlookup : ∀ name, (r.register spec).1.lookup name = r.lookup name := by
      intro name
      have hnot : lowercase name ∉ r.entered spec := fun hname => huntraced _ hname name rfl
      rw [lookup_register, if_neg hnot, Option.or_none]
    refine ⟨hlookup, fun name => ?_, ?_⟩
    · rw [subcommands, subcommands, hlookup]
    · rw [register_of_refused hrefused]
      rfl

/-! ### Commands that no list shows -/

/-- Everything that can be found is listed. -/
def ListsAll (r : Registry) : Prop :=
  ∀ name found, r.lookup name = some found → found ∈ r.commands

def KnowsListed (r : Registry) : Prop :=
  ∀ spec ∈ r.commands, spec.name ∈ r.known

/-- A command whose name is known and that is not listed. -/
def Stray (r : Registry) (spec : CommandSpec) : Prop :=
  spec.name ∈ r.known ∧ spec ∉ r.commands

theorem KnowsListed.register (hknows : r.KnowsListed) (spec : CommandSpec) :
    (r.register spec).1.KnowsListed := by
  intro listed hlisted
  rw [known_register, List.mem_append]
  obtain ⟨hname, haccepted⟩ | ⟨_, hrefused⟩ := register_cases r spec
  · rw [haccepted] at hlisted
    obtain hold | hnew := List.mem_append.mp hlisted
    · exact .inl (hknows listed hold)
    · rw [List.mem_singleton.mp hnew]
      exact .inr hname
  · rw [hrefused] at hlisted
    exact .inl (hknows listed hlisted)

theorem KnowsListed.registerAll (hknows : r.KnowsListed) (specs : List CommandSpec) :
    (r.registerAll specs).KnowsListed := by
  induction specs generalizing r with
  | nil => exact hknows
  | cons spec rest ih => exact ih (hknows.register spec)

theorem Stray.register {stray : CommandSpec} (hstray : r.Stray stray) (spec : CommandSpec) :
    (r.register spec).1.Stray stray := by
  obtain ⟨hknown, hunlisted⟩ := hstray
  refine ⟨by rw [known_register]; exact List.mem_append_left _ hknown, ?_⟩
  obtain ⟨hname, haccepted⟩ | ⟨_, hrefused⟩ := register_cases r spec
  · rw [haccepted]
    intro hlisted
    obtain hold | hnew := List.mem_append.mp hlisted
    · exact hunlisted hold
    · -- the command would be entered under its own name, which is known
      rw [List.mem_singleton.mp hnew] at hknown
      exact not_mem_of_mem_freshNames hname hknown
  · rw [hrefused]
    exact hunlisted

theorem Stray.registerAll {stray : CommandSpec} (hstray : r.Stray stray) (specs : List CommandSpec) :
    (r.registerAll specs).Stray stray := by
  induction specs generalizing r with
  | nil => exact hstray
  | cons spec rest ih => exact ih (hstray.register spec)

private theorem stray_of_refused {error : RegistryError} (hknows : r.KnowsListed)
    (hrefused : (r.register spec).2 = some error) (hne : r.entered spec ≠ []) :
    (r.register spec).1.Stray spec := by
  have hname := name_mem_entered hne
  refine ⟨by rw [known_register]; exact List.mem_append_right _ hname, ?_⟩
  rw [register_of_refused hrefused]
  exact fun hlisted => not_mem_of_mem_freshNames hname (hknows spec hlisted)

theorem ListsAll.register (hlists : r.ListsAll)
    (huntraced : ∀ error, (r.register spec).2 = some error → r.Untraced spec) :
    (r.register spec).1.ListsAll := by
  intro name found hfound
  obtain ⟨-, haccepted⟩ | ⟨_, hrefused⟩ := register_cases r spec
  · rw [lookup_register, Option.or_eq_some_iff] at hfound
    rw [haccepted]
    obtain hold | ⟨-, hnew⟩ := hfound
    · exact List.mem_append_left _ (hlists name found hold)
    · obtain ⟨-, rfl⟩ : _ ∧ spec = found := by simpa using hnew
      exact List.mem_append_right _ List.mem_cons_self
  · have herror : (r.register spec).2 = some (.taken _) := congrArg Prod.snd hrefused
    have hsame := (sameAnswers_iff herror).mpr (huntraced _ herror)
    rw [hsame.lookup] at hfound
    rw [hsame.commands]
    exact hlists name found hfound

theorem after_append_cons (before later : List CommandSpec) (spec : CommandSpec) :
    after (before ++ spec :: later) = ((after before).register spec).1.registerAll later := by
  rw [after, registerAll, List.foldl_append]
  rfl

/-- A refused registration changes no answer exactly when none of the names before the one that is taken can be asked for. So everything that can be found is listed as long as all refusals are of this kind, and no longer. -/
theorem refused_leaves_no_trace_iff (specs : List CommandSpec) :
    (∀ spec error, ((after specs).register spec).2 = some error →
      (SameAnswers (after specs) ((after specs).register spec).1 ↔ (after specs).Untraced spec)) ∧
    ((∀ name found, (after specs).lookup name = some found → found ∈ (after specs).commands) ↔
      ∀ before spec later error, specs = before ++ spec :: later →
        ((after before).register spec).2 = some error → (after before).Untraced spec) := by
  refine ⟨fun spec error => sameAnswers_iff, ?_, ?_⟩
  · rintro hlists before spec later error rfl hrefused name hname sought rfl
    have hempty : KnowsListed {} := fun _ hlisted => nomatch hlisted
    have hknows : (after before).KnowsListed := hempty.registerAll before
    have hne : (after before).entered spec ≠ [] := List.ne_nil_of_mem hname
    have hstray := (stray_of_refused hknows hrefused hne).registerAll later
    have hfound : ((after before).register spec).1.lookup sought = some spec := by
      rw [lookup_register, lookup_eq_none hname, if_pos hname, Option.none_or]
    rw [after_append_cons] at hlists
    exact hstray.2 (hlists sought spec (lookup_registerAll hfound later))
  · intro huntraced
    -- one registration after the other, the last one apart
    induction specs using List.reverseRecOn with
    | nil =>
      intro name found hfound
      exact nomatch hfound
    | append_singleton before spec ih =>
      rw [after_append_cons]
      refine ListsAll.register (ih fun start refused later error hsplit => ?_) fun error => ?_
      · exact huntraced start refused (later ++ [spec]) error (by simp [hsplit])
      · exact huntraced before spec [] error rfl

/-- A command that is refused over an alias of an earlier one, after its own name has been entered. -/
def sharedAlias : List CommandSpec :=
  [{ name := "quit", aliases := ["exit"] }, { name := "leave", aliases := ["exit"] }]

/-- A command that is refused over its own name. -/
def sharedName : CommandSpec :=
  { name := "exit", aliases := ["halt"] }

/-- Refused over its name a command leaves no trace; refused over an alias it does, and can be found unlisted. -/
theorem refused_leaves_no_trace_iff_shared :
    ((after (sharedAlias.take 1)).register sharedName).2 = some (.taken "exit") ∧
      SameAnswers (after (sharedAlias.take 1)) ((after (sharedAlias.take 1)).register sharedName).1 ∧
      ¬ ∀ name found, (after sharedAlias).lookup name = some found →
        found ∈ (after sharedAlias).commands := by
  have hname : ((after (sharedAlias.take 1)).register sharedName).2 = some (.taken "exit") := rfl
  have halias : ((after (sharedAlias.take 1)).register { name := "leave", aliases := ["exit"] }).2 =
      some (.taken "exit") := rfl
  refine ⟨hname, ((refused_leaves_no_trace_iff _).1 _ _ hname).mpr ?_, fun hlists => ?_⟩
  · exact nofun
  · have huntraced := (refused_leaves_no_trace_iff sharedAlias).2.mp hlists _ _ [] _ rfl halias
    exact huntraced "leave" (by decide) "leave" (by decide)

/-- The name of a refused command answers, and no list shows it. -/
theorem refused_command_found :
    ((after (sharedAlias.take 1)).register { name := "leave", aliases := ["exit"] }).2 =
        some (.taken "exit") ∧
      ((after (sharedAlias.take 1)).lookup "leave").isNone = true ∧
      ((after sharedAlias).lookup "leave").map CommandSpec.name = some "leave".toList ∧
      (after sharedAlias).commands.map CommandSpec.name = ["quit".toList] := by
  exact ⟨rfl, rfl, rfl, rfl⟩

end Registry

end Substitute
