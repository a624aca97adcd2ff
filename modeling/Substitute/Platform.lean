import Substitute.Terminal.Screen
import Substitute.Value.Copying
import Substitute.Yaml.Library

/-!
# The platform

What the program is given and does not decide itself.
-/

namespace Substitute

/-- A screen to print on, a library that reads and writes YAML, and the order in which the members of sets come out. -/
structure Platform where
  screen : Screen
  yaml : Yaml.Library
  sets : SetOrder

end Substitute
