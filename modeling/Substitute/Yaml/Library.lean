import Substitute.Document.Basic

/-!
# Reading and writing YAML

The program leaves YAML to a library. Loading a text gives its document, with the parts that an alias shares in one place each, and dumping a document gives a text. Both may fail: in the way the library announces, on a text that is no YAML or data that cannot be written, and in other ways.
-/

namespace Substitute.Yaml

inductive Failure where
  /-- A failure that the library announces. -/
  | announced (message : Text)
  /-- A failure of another kind that comes out of the library. -/
  | other (kind message : Text)
deriving DecidableEq, Repr

def Failure.message : Failure → Text
  | announced message => message
  | other _ message => message

structure Library where
  /-- The document of a text; null when the text holds none. -/
  load : Text → Except Failure Document
  dump : Document → Except Failure Text

end Substitute.Yaml
