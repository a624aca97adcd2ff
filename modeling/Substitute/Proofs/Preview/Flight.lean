import Mathlib.Data.List.Basic
import Substitute.Proofs.Preview.Transitions

/-!
# Runs of the scheduler on any host

A host is known here only by what it does to a scheduler: it hands over requests and change events, it runs the callbacks it was given, in any order and as late as it likes, and it takes or refuses a deferred write and delivers echoes as a `Reception` says. A run is a finite history of such happenings from a new scheduler. A callback is named by its generation and leaves its queue when it runs.
-/

namespace Substitute

inductive Happening where
  | write (text : Text) (cursor : Int)
  | refresh
  | change (text : Text)
  | cancel
  /-- The host runs a callback of the next turn. -/
  | perform (generation : Nat) (reception : Reception)
  /-- The host runs a timeout; `line` is its line, if it is still there. -/
  | expire (generation : Nat) (line : Option Text)

def Scheduler.react (s : Scheduler) : Happening → Scheduler × List Effect
  | .write text cursor => s.requestWrite text cursor
  | .refresh => s.requestRefresh
  | .change text => s.lineChanged text
  | .cancel => s.cancel
  | .perform generation reception => s.perform generation reception
  | .expire generation line => s.expire generation line

/-- A scheduler and the callbacks that wait for it on a host. -/
structure Flight where
  scheduler : Scheduler := {}
  soon : List Nat := []
  later : List Nat := []
deriving DecidableEq

namespace Flight

def effects (f : Flight) (h : Happening) : List Effect :=
  (f.scheduler.react h).2

/-- The waiting callbacks of the next turn, without the one that runs. -/
def soonLeft (f : Flight) : Happening → List Nat
  | .perform generation _ => f.soon.erase generation
  | _ => f.soon

/-- The waiting timeouts, without the one that runs. -/
def laterLeft (f : Flight) : Happening → List Nat
  | .expire generation _ => f.later.erase generation
  | _ => f.later

def next (f : Flight) (h : Happening) : Flight :=
  { scheduler := (f.scheduler.react h).1
    soon := f.soonLeft h ++ (f.effects h).filterMap Effect.soon?
    later := f.laterLeft h ++ (f.effects h).filterMap Effect.later? }

/-- A host runs only callbacks that wait. -/
def Allows (f : Flight) : Happening → Prop
  | .perform generation _ => generation ∈ f.soon
  | .expire generation _ => generation ∈ f.later
  | _ => True

instance (f : Flight) : (h : Happening) → Decidable (f.Allows h)
  | .perform generation _ => inferInstanceAs (Decidable (generation ∈ f.soon))
  | .expire generation _ => inferInstanceAs (Decidable (generation ∈ f.later))
  | .write _ _ | .refresh | .change _ | .cancel => inferInstanceAs (Decidable True)

/-! ### The flight after each happening -/

variable (f : Flight)

@[simp] theorem next_write (text : Text) (cursor : Int) :
    f.next (.write text cursor) =
      { f with
        scheduler := (f.scheduler.requestWrite text cursor).1
        soon := f.soon ++ [f.scheduler.generation + 1] } := by
  change Flight.mk _ _ (f.later ++ []) = _
  rw [List.append_nil]
  rfl

@[simp] theorem next_refresh :
    f.next .refresh =
      { f with
        scheduler := f.scheduler.requestRefresh.1
        soon := f.soon ++ [f.scheduler.generation + 1] } := by
  have hgen : f.scheduler.requestRefresh.2 = [.soon (f.scheduler.generation + 1)] := by
    simp only [Scheduler.requestRefresh, Scheduler.schedule]
    split <;> rfl
  simp [next, effects, soonLeft, laterLeft, Scheduler.react, hgen]

@[simp] theorem next_cancel : f.next .cancel = { f with scheduler := f.scheduler.cancel.1 } := by
  change Flight.mk _ (f.soon ++ []) (f.later ++ []) = _
  rw [List.append_nil, List.append_nil]
  rfl

@[simp] theorem next_change (text : Text) :
    f.next (.change text) = { f with scheduler := (f.scheduler.lineChanged text).1 } := by
  rcases f.scheduler.lineChanged_effects text with h | h <;>
    simp [next, effects, soonLeft, laterLeft, Scheduler.react, h]

@[simp] theorem next_perform (generation : Nat) (r : Reception) :
    f.next (.perform generation r) =
      { scheduler := (f.scheduler.perform generation r).1
        soon := f.soon.erase generation
        later := f.later ++ (f.scheduler.perform generation r).2.filterMap Effect.later? } := by
  have hnone : (f.scheduler.perform generation r).2.filterMap Effect.soon? = [] :=
    f.scheduler.perform_queues_nothing generation r
  simp only [next, effects, soonLeft, laterLeft, Scheduler.react, hnone, List.append_nil]

@[simp] theorem next_expire (generation : Nat) (line : Option Text) :
    f.next (.expire generation line) =
      { f with
        scheduler := (f.scheduler.expire generation line).1
        later := f.later.erase generation } := by
  rcases f.scheduler.expire_cases generation line with ⟨-, h⟩ | ⟨-, -, h⟩ <;>
    cases line <;>
    simp [next, effects, soonLeft, laterLeft, Scheduler.react, h]

end Flight

structure Occurrence where
  before : Flight
  happening : Happening

namespace Occurrence

def effects (m : Occurrence) : List Effect :=
  m.before.effects m.happening

def after (m : Occurrence) : Flight :=
  m.before.next m.happening

end Occurrence

namespace Flight

/-- Happenings one after another, each with the flight it meets. -/
def occurrences (f : Flight) : List Happening → List Occurrence
  | [] => []
  | h :: rest => ⟨f, h⟩ :: (f.next h).occurrences rest

def after (f : Flight) (happenings : List Happening) : Flight :=
  happenings.foldl next f

/-- Whether only waiting callbacks run. -/
def Possible (f : Flight) : List Happening → Prop
  | [] => True
  | h :: rest => f.Allows h ∧ (f.next h).Possible rest

instance decidablePossible (f : Flight) : (happenings : List Happening) → Decidable (f.Possible happenings)
  | [] => inferInstanceAs (Decidable True)
  | h :: rest =>
    have := decidablePossible (f.next h) rest
    inferInstanceAs (Decidable (f.Allows h ∧ (f.next h).Possible rest))

end Flight

/-- The histories of a new scheduler, each with the flight it ends in. -/
inductive Run : List Occurrence → Flight → Prop
  | start : Run [] {}
  | next {past : List Occurrence} {f : Flight} (h : Happening) (run : Run past f) (allowed : f.Allows h) :
      Run (past ++ [⟨f, h⟩]) (f.next h)

namespace Run

theorem lookup_concat {past : List Occurrence} {last m : Occurrence} {j : Nat}
    (hj : (past ++ [last])[j]? = some m) :
    j < past.length ∧ past[j]? = some m ∨ j = past.length ∧ m = last := by
  rcases Nat.lt_or_ge j past.length with hlt | hge
  · rw [List.getElem?_append_left hlt] at hj
    exact .inl ⟨hlt, hj⟩
  · have hbound := (List.getElem?_eq_some_iff.mp hj).1
    rw [List.length_append, List.length_singleton] at hbound
    have hlast : j = past.length := by omega
    rw [hlast, List.getElem?_concat_length, Option.some.injEq] at hj
    exact .inr ⟨hlast, hj.symm⟩

theorem extend {past : List Occurrence} {f : Flight} (run : Run past f)
    {happenings : List Happening} (possible : f.Possible happenings) :
    Run (past ++ f.occurrences happenings) (f.after happenings) := by
  induction happenings generalizing past f with
  | nil => simpa [Flight.occurrences, Flight.after] using run
  | cons h rest ih =>
    have hrest := ih (run.next h possible.1) possible.2
    simpa [Flight.occurrences, Flight.after] using hrest

/-- What holds of a new scheduler and survives every happening holds at the end of every run. -/
theorem induct {Q : Flight → Prop} (init : Q {})
    (keep : ∀ f h, Q f → f.Allows h → Q (f.next h)) {history : List Occurrence} {f : Flight}
    (run : Run history f) : Q f := by
  induction run with
  | start => exact init
  | next h _ allowed ih => exact keep _ h ih allowed

/-- What comes before an occurrence is itself a run, which ends in the flight it meets. -/
theorem take {history : List Occurrence} {f : Flight} (run : Run history f) {j : Nat} {m : Occurrence}
    (hj : history[j]? = some m) : Run (history.take j) m.before ∧ m.before.Allows m.happening := by
  induction run with
  | start => simp at hj
  | @next past f h run allowed ih =>
    rcases lookup_concat hj with ⟨hlt, hj⟩ | ⟨rfl, rfl⟩
    · rw [List.take_append_of_le_length (by omega)]
      exact ih hj
    · rw [List.take_left]
      exact ⟨run, allowed⟩

/-- What an occurrence brings about and every happening keeps still holds at the end. -/
theorem since {Q : Flight → Prop} (keep : ∀ f h, Q f → Q (f.next h)) {history : List Occurrence}
    {f : Flight} (run : Run history f) {i : Nat} {m : Occurrence} (hi : history[i]? = some m)
    (hm : Q m.after) : Q f := by
  induction run with
  | start => simp at hi
  | @next past f h run allowed ih =>
    rcases lookup_concat hi with ⟨_, hi⟩ | ⟨_, rfl⟩
    · exact keep _ h (ih hi)
    · exact hm

end Run

end Substitute
