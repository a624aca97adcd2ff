import Substitute.Console.Binding
import Substitute.Console.Captured
import Substitute.Console.Edit
import Substitute.Preview.Composer

/-!
# The prompt

A prompt reads a line. Keys compose and toggle where they are bound, and edit the line otherwise. Keys that may still become a longer sequence wait for the next one; when no sequence comes of them, the longest one they open with counts, and a key that means nothing is dropped.

A selection reaches from the place where it was started to the cursor. It ends when the line changes or a compose takes it up, and while it lasts keys do not change the line.
-/

namespace Substitute

inductive ActionError where
  | compose (error : ComposeError)
  | toggle (error : ToggleError)

def ActionError.message : ActionError → Text
  | .compose error => error.message
  | .toggle error => error.message

/-- Does what a bound key does; `captured` is the text that a compose starts from. -/
def Composer.act (s : Settings) (c : Composer) (captured : Text) :
    KeyAction → Except ActionError (Composer × List Effect)
  | .compose => do
    let (c, effects, _) ← (c.compose s captured).mapError .compose
    return (c, effects)
  | .toggle toggle flag => do
    let (c, effects, _) ← (c.toggle s toggle flag).mapError .toggle
    return (c, effects)
  | .dashboard => .ok (c.toggleDashboard s)

inductive Ending where
  | accepted (line : Text)
  | interrupted
  | closed
deriving DecidableEq, Repr

inductive PromptAction where
  | bound (action : KeyAction)
  | edit (edit : Edit)
  | select
  | finish (ending : Ending)
  | nothing

structure Prompt where
  composer : Composer
  anchor : Option Nat := none
  waiting : List Text := []

namespace Prompt

def line (p : Prompt) : Text :=
  p.composer.editor.host.line

def cursor (p : Prompt) : Nat :=
  clipPosition p.line p.composer.editor.host.cursor

/-- A prompt with an empty line on a composer that has been at work before. -/
def opened (c : Composer) : Prompt :=
  { composer := { c with editor := { c.editor with host := {} } }.entered }

def unbound? (p : Prompt) : List Text → Option PromptAction
  | [key] =>
    if key = "c-m".toList || key = "c-j".toList then some (.finish (.accepted p.line))
    else if key = "c-c".toList then some (.finish .interrupted)
    else if key = "c-d".toList && p.line.isEmpty then some (.finish .closed)
    else if key = "c-@".toList then some .select
    else if key = "escape".toList then some .nothing
    else match Edit.ofKey? key with
      | some edit => if edit.isMove || p.anchor.isNone then some (.edit edit) else none
      | none => none
  | _ => none

/-- Whether keys open a longer sequence. Escape and control-x always do. -/
def opensSequence (bindings : List Binding) (keys : List Text) : Bool :=
  keys == ["escape".toList] || keys == ["c-x".toList] ||
    bindings.any fun b => keys.isPrefixOf b.keys && keys != b.keys

def meaning? (bindings : List Binding) (p : Prompt) (keys : List Text) : Option PromptAction :=
  match boundAction? bindings keys with
  | some action => some (.bound action)
  | none => p.unbound? keys

/-- What keys do with the most of them, at most `n`, and the keys that are left. -/
def longestMeaning (bindings : List Binding) (p : Prompt) (keys : List Text) :
    Nat → PromptAction × List Text
  | 0 => (.nothing, keys.drop 1)
  | n + 1 =>
    match meaning? bindings p (keys.take (n + 1)) with
    | some action => (action, keys.drop (n + 1))
    | none => longestMeaning bindings p keys n

/-- What waiting keys do, and the keys that are left; none while they have to wait. -/
def reading? (bindings : List Binding) (p : Prompt) (keys : List Text) :
    Option (PromptAction × List Text) :=
  match boundAction? bindings keys with
  | some action => some (.bound action, [])
  | none =>
    if keys.isEmpty || opensSequence bindings keys then none
    else some (longestMeaning bindings p keys keys.length)

/-- Takes over a line and a cursor. A line that changed is a change event and ends the selection. -/
def edited (s : Settings) (p : Prompt) (line : Text) (cursor : Nat) : Prompt :=
  let e := p.composer.editor
  if line = p.line then
    { p with composer :=
        { p.composer with editor := { e with host := { e.host with cursor := cursor } } } }
  else { p with composer := (p.composer.take s (e.typed line cursor)).1, anchor := none }

def captured (p : Prompt) : Text :=
  capturedText p.line p.cursor (p.anchor.map fun anchor => (.characters, anchor))

/-- Does what keys do; the prompt may end. -/
def act (s : Settings) (p : Prompt) :
    PromptAction → Except ActionError (Prompt × Option Ending)
  | .bound action => do
    let (composer, _) ← p.composer.act s p.captured action
    return ({ p with composer, anchor := if action = .compose then none else p.anchor }, none)
  | .edit edit =>
    let (line, cursor) := edit.apply p.line p.cursor
    .ok (p.edited s line cursor, none)
  | .select => .ok (if p.line.isEmpty then p else { p with anchor := some p.cursor }, none)
  | .finish ending => .ok (p, some ending)
  | .nothing => .ok (p, none)

/-- Does what the waiting keys do, in at most `fuel` steps. -/
def settleKeys (s : Settings) (bindings : List Binding) :
    Nat → Prompt → Except ActionError (Prompt × Option Ending)
  | 0, p => .ok (p, none)
  | fuel + 1, p =>
    match reading? bindings p p.waiting with
    | none => .ok (p, none)
    | some (action, rest) => do
      match ← act s { p with waiting := rest } action with
      | (p, none) => settleKeys s bindings fuel p
      | ended => return ended

/-- Takes keys until one ends the prompt; the keys after it are left. -/
def press (s : Settings) (bindings : List Binding) (p : Prompt) :
    List Text → Except ActionError (Prompt × Option (Ending × List Text))
  | [] => .ok (p, none)
  | key :: rest => do
    let waiting := p.waiting ++ [key]
    match ← settleKeys s bindings (waiting.length + 1) { p with waiting } with
    | (p, some ending) => return (p, some (ending, rest))
    | (p, none) => press s bindings p rest

/-- Carries out the write queued for a generation. Keys that follow it go unheard while a selection lasts that the write does not end. -/
def perform (s : Settings) (p : Prompt) (generation : Nat) : Prompt :=
  let e := p.composer.editor
  let target := (e.scheduler.pending.map Prod.fst).getD p.line
  let deaf := p.anchor.isSome && target = p.line
  let e := { e with host := { e.host with listens := !deaf } }
  let (e, effects) := e.runSoon generation
  let e := { e with host := { e.host with listens := true } }
  let fed := effects.contains .feed && !deaf
  { p with composer := (p.composer.take s (e, effects)).1, anchor := if fed then none else p.anchor }

def settle (s : Settings) (p : Prompt) : Prompt :=
  let e := p.composer.editor
  let p := { p with composer :=
    { p.composer with editor := { e with host := { e.host with soon := [] } } } }
  e.host.soon.foldl (perform s) p

end Prompt

end Substitute
