import Substitute.Platform
import Substitute.Terminal.Plain
import Substitute.Value.Slots
import Substitute.Yaml.Writing

/-!
# The usual platform

A terminal without colours, YAML as it is read and written here, and small sets by their slots.
-/

namespace Substitute

def Platform.usual : Platform :=
  { screen := .plain, yaml := Yaml.library, sets := .bySlots }

end Substitute
