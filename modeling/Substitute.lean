import Substitute.Main
import Substitute.Console.Completion
import Substitute.Proofs.Command.Cycles
import Substitute.Proofs.Command.Splitting
import Substitute.Proofs.Command.FreeSeparators
import Substitute.Proofs.Command.RepeatedDialects
import Substitute.Proofs.Command.Switches
import Substitute.Proofs.Command.Grammar
import Substitute.Proofs.Compose.Calls
import Substitute.Proofs.Compose.Counting
import Substitute.Proofs.Compose.Restoring
import Substitute.Proofs.Compose.Unfinished
import Substitute.Proofs.Compose.BareRange
import Substitute.Proofs.Preview.Typing
import Substitute.Proofs.Preview.Caching
import Substitute.Proofs.Preview.Placement
import Substitute.Proofs.Preview.Delivery
import Substitute.Proofs.Preview.Coalescing
import Substitute.Proofs.Preview.Echoes
import Substitute.Proofs.Preview.Truthful
import Substitute.Proofs.Preview.Recovery
import Substitute.Proofs.Settings.Reloading
import Substitute.Proofs.Settings.Reporting
import Substitute.Proofs.Console.Binding
import Substitute.Proofs.Preview.Outstanding
import Substitute.Proofs.Console.Words
import Substitute.Proofs.Console.Advertising
import Substitute.Proofs.Console.Completing
import Substitute.Proofs.Console.Registering
import Substitute.Proofs.Console.Lines
import Substitute.Proofs.Console.Storing
import Substitute.Proofs.Console.Loadable
import Substitute.Proofs.Console.Showing
import Substitute.Proofs.CommandLine.Running
import Substitute.Proofs.Settings.Absorbing
import Substitute.Proofs.Settings.Unreadable
import Substitute.Proofs.Document.Lens
