import Substitute.Preview.Line
import Substitute.Terminal.Screen

/-!
# What is printed

Messages in their styles, and the parts of a command. Text that comes from a user is escaped first wherever a message quotes it.
-/

namespace Substitute

namespace Screen

variable (screen : Screen)

def print (t : Text) : Printed :=
  .ofRendering (screen.markup t)

def styled (style t : Text) : Printed :=
  screen.print ('[' :: style ++ ']' :: t ++ ['[', '/'] ++ style ++ [']'])

def error (message : Text) : Printed :=
  screen.styled "red" (screen.escape message)

def success (message : Text) : Printed :=
  screen.styled "green" (screen.escape message)

/-- The parts of a command with their meaning, under a title. -/
def command (c : Command) (title : Text) : Printed :=
  .ofRendering (screen.table
    { title
      columns :=
        [["Range", "Separator", "Magic", "Search", "Replace", "Flags"].map fun part =>
            .markup part.toList,
          [c.range, c.separator, orNone c.dialect, c.searchBody, c.replace, orNone c.flags].map
            .literal,
          [rangeDescription c.range, [], dialectDescription c.dialect, [], [], []].map .markup] })

end Screen

/-- Lines that are printed without a screen, as they are. -/
def Printed.raw (t : Text) : Printed :=
  { lines := (Text.cutAt '\n' t).map Text.trimRight }

end Substitute
