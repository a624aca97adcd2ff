import Substitute.Text.Basic

/-!
# Compose sessions

A session is active from the moment a command is composed from a word until the line is left. It remembers the word, and the separator and dialect that were used last. There is one session, so composing again while it is active is refused.
-/

namespace Substitute

structure Session where
  active : Bool := false
  captured : Text := []
  separator : Text := ['/']
  dialect : Text := []
deriving DecidableEq, Repr

inductive SessionError where
  | alreadyActive
deriving DecidableEq, Repr

def SessionError.message : SessionError → Text
  | .alreadyActive => "A compose session is already active"

namespace Session

def start (s : Session) (captured separator dialect : Text) : Except SessionError Session :=
  if s.active then .error .alreadyActive
  else .ok { active := true, captured, separator, dialect }

/-- Notes the separator and dialect of the latest command. -/
def remember (s : Session) (separator dialect : Text) : Session :=
  { s with separator, dialect }

/-- Ends the session; what it remembers stays. -/
def leave (s : Session) : Session :=
  { s with active := false }

end Session

end Substitute
