import Substitute.Console.Basic
import Substitute.Console.Input
import Substitute.Console.Prompt

/-!
# A console session

The console prompts for lines until it is told to quit or its input ends. Input arrives in chunks: the keys of a chunk are all taken before any queued write is carried out. Keys typed after the one that ends a prompt are kept for the next prompt.

An interrupted prompt is followed by another one. After every prompt the compose session ends and the preview closes.
-/

namespace Substitute

inductive ReplError where
  | key (error : KeyError)
  | action (error : ActionError)
  | markup (error : MarkupError)

def ReplError.message : ReplError → Text
  | .key error => error.message
  | .action error => error.message
  | .markup error => error.message

/-- What a prompt shows after a chunk of input. -/
structure Snapshot where
  line : Text
  cursor : Nat
  scheduler : Scheduler
  session : Session
  panel : Option Text

structure PromptRecord where
  steps : List Snapshot
  ending : Ending

/-- A console session between two prompts. -/
structure Repl where
  console : Console
  bindings : List Binding
  composer : Composer := {}
  typedAhead : List Text := []

structure Transcript where
  console : Console
  prompts : List PromptRecord := []
  output : List Text := []
  error : Option ReplError := none

/-- Adds output at the end of a transcript that nothing broke off. -/
def Transcript.followedBy (t : Transcript) (printed : Printed) : Transcript :=
  match t.error with
  | none =>
    { t with output := t.output ++ printed.lines, error := printed.failure.map .markup }
  | some _ => t

/-- What one prompt and the line it read come to, and whether there is to be another. -/
structure Turn where
  repl : Repl
  record : Option PromptRecord := none
  output : List Text := []
  goesOn : Bool := false
  error : Option ReplError := none

def Prompt.snapshot (p : Prompt) : Snapshot :=
  { line := p.line
    cursor := p.cursor
    scheduler := p.composer.editor.scheduler
    session := p.composer.session
    panel := p.composer.dashboard.panel.text? }

namespace Repl

/-- Takes chunks of input until the prompt ends; with the last chunk the input ends. -/
def readChunks (s : Settings) (bindings : List Binding) (p : Prompt) (steps : List Snapshot) :
    List Text → Except ActionError (Prompt × PromptRecord × List Text)
  | [] => .ok (p, { steps, ending := .closed }, [])
  | chunk :: rest => do
    match ← p.press s bindings (keysTyped chunk) with
    | (p, some (ending, left)) => return (p, { steps, ending }, left)
    | (p, none) =>
      let p := p.settle s
      readChunks s bindings p (steps ++ [p.snapshot]) rest

/-- Prompts once, with the keys typed ahead in front of the input. -/
def prompt (r : Repl) (chunks : List Text) : Except ActionError (Repl × PromptRecord) := do
  let s := r.console.settings
  let p := Prompt.opened r.composer
  let (p, record, left) ← match ← p.press s r.bindings r.typedAhead with
    | (p, some (ending, left)) => pure (p, ({ steps := [], ending } : PromptRecord), left)
    | (p, none) => readChunks s r.bindings p [] chunks
  let (composer, _) := p.composer.left s
  return ({ r with composer, typedAhead := left }, record)

def turn (p : Platform) (r : Repl) (chunks : List Text) : Turn :=
  match r.prompt chunks with
  | .error error => { repl := r, error := some (.action error) }
  | .ok (r, record) =>
    match record.ending with
    | .closed => { repl := r, record := some record }
    | .interrupted => { repl := r, record := some record, goesOn := true }
    | .accepted line =>
      let (console, printed) := r.console.handleLine p line
      { repl := { r with console }
        record := some record
        output := printed.lines
        goesOn := console.running && printed.failure.isNone
        error := printed.failure.map .markup }

/-- Prompts until the console quits or its input ends, and says farewell unless the session breaks off. -/
def loop (p : Platform) (r : Repl) : List (List Text) → Transcript
  | [] => ({ console := r.console } : Transcript).followedBy (Pages.farewell p.screen)
  | chunks :: rest =>
    let turn := r.turn p chunks
    let after :=
      if turn.goesOn then loop p turn.repl rest
      else ({ console := turn.repl.console, error := turn.error } : Transcript).followedBy
        (Pages.farewell p.screen)
    { after with prompts := turn.record.toList ++ after.prompts, output := turn.output ++ after.output }

end Repl

/-- A whole console session, with the typed chunks of every prompt. -/
def Console.session (p : Platform) (c : Console) (prompts : List (List Text)) : Transcript :=
  let banner := Pages.banner p.screen c.settings
  match banner.failure, keyBindings c.settings with
  | some error, _ => { console := c, output := banner.lines, error := some (.markup error) }
  | none, .error error => { console := c, output := banner.lines, error := some (.key error) }
  | none, .ok bindings =>
    let t := Repl.loop p { console := c, bindings } prompts
    { t with output := banner.lines ++ t.output }

end Substitute
