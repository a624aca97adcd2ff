import Substitute.Command.Toggle
import Substitute.Compose.Session
import Substitute.Settings.Basic

/-!
# Toggling the line

A toggle applies to the command on the line. A text that does not read as a command yet is still cut at the session's separator while a session is active. Composing builds a command from a word, under a separator that the word does not hold, and starts the session.
-/

namespace Substitute

inductive ToggleError where
  | missingFlag
  | noDialects
  | fields (error : FieldError)
deriving DecidableEq, Repr

def ToggleError.message : ToggleError → Text
  | .missingFlag => "Flag toggle requires a flag character"
  | .noDialects => "integer modulo by zero"
  | .fields error => error.message

inductive ComposeError where
  | session (error : SessionError)
  | noSeparators
deriving DecidableEq, Repr

def ComposeError.message : ComposeError → Text
  | .session error => error.message
  | .noSeparators => "list index out of range"

/-- A command with the text and cursor that put it on the line. -/
structure Revision where
  command : Command
  text : Text
  cursor : Int
deriving DecidableEq, Repr

/-- The revision that puts a command on the line, the cursor before the flags and their separator. -/
def Revision.ofCommand (c : Command) : Revision :=
  { command := c, text := c.serialize, cursor := c.cursorIn c.serialize }

namespace Session

/-- Whether a text is one that toggles act on. -/
def shouldProcess (s : Session) (t : Text) : Bool :=
  s.active || (Command.parse? t).isSome

/-- The command on the line with all four fields filled, if there is one. -/
def resolve (s : Session) (t : Text) : Except FieldError (Option Command) :=
  let separator? : Option Text :=
    match Command.parse? t with
    | some command => some command.separator
    | none => if s.active then some s.separator else none
  match separator? with
  | some separator => (Command.ofFields (splitCommand t separator) separator).map some
  | none => .ok none

/-- What an emptied replace term is restored to. -/
def restoreText (s : Session) (c : Command) : Text :=
  if s.active then s.captured else c.searchBody

def transform (s : Session) (settings : Settings) (c : Command) (flag : Option Text) :
    Toggle → Except ToggleError Command
  | .flag =>
    match flag with
    | some (f :: more) => .ok (c.toggleFlag (f :: more) settings.flags)
    | _ => .error .missingFlag
  | .replace => .ok (c.toggleReplace (s.restoreText c))
  | .range => .ok c.cycleRange
  | .separator => .ok (c.cycleSeparator settings.separators)
  | .dialect =>
    match c.cycleDialect? settings.dialects with
    | some command => .ok command
    | none => .error .noDialects

/-- Applies a toggle to the line. Without a command on it nothing happens. -/
def apply (s : Session) (settings : Settings) (toggle : Toggle) (t : Text) (flag : Option Text) :
    Except ToggleError (Option (Revision × Session)) := do
  match ← (s.resolve t).mapError .fields with
  | none => return none
  | some command =>
    let changed ← s.transform settings command flag toggle
    return some (Revision.ofCommand changed, s.remember changed.separator changed.dialect)

/-- Composes a command from a word and starts a session. -/
def compose (s : Session) (settings : Settings) (captured : Text) :
    Except ComposeError (Revision × Session) := do
  match uniqueSeparator? settings.separators captured with
  | none => throw .noSeparators
  | some separator =>
    let started ← (s.start captured separator settings.defaultDialect).mapError .session
    let search := settings.defaultDialect ++ captured
    let command :=
      Command.make separator settings.defaultRange search captured settings.defaultFlags
    return (Revision.ofCommand command, started)

end Session

end Substitute
