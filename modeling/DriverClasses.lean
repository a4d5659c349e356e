import DriverClasses.Main
import DriverClasses.Loading.Lemmas
import DriverClasses.Registry.Lemmas
import DriverClasses.Setup.Interleaving
import DriverClasses.Proofs.Linking
import DriverClasses.Proofs.Loading.Scan
import DriverClasses.Proofs.Loading.Run
import DriverClasses.Proofs.Loading.Shape
import DriverClasses.Proofs.Loading.Growth
import DriverClasses.Proofs.Loading.Line
import DriverClasses.Proofs.Loading.Identity
import DriverClasses.Proofs.Loading.Answer
import DriverClasses.Proofs.Loading.Stability
import DriverClasses.Proofs.Loading.Tickets
import DriverClasses.Proofs.Loading.OneScan
import DriverClasses.Proofs.Loading.Progress
import DriverClasses.Proofs.Loading.Alone
import DriverClasses.Proofs.Loading.Overlap
import DriverClasses.Proofs.Loading.Alike
import DriverClasses.Proofs.Loading.Isolation
import DriverClasses.Proofs.ClassFile.Accepted
import DriverClasses.Proofs.Setup.Bindings
import DriverClasses.Proofs.ClassFile.InternalName
import DriverClasses.Proofs.Setup.Endings
import DriverClasses.Proofs.Setup.Reconnect
import DriverClasses.Proofs.Setup.Renumber
import DriverClasses.Proofs.Setup.Failures
import DriverClasses.Proofs.Loading.Gathered
import DriverClasses.Proofs.Setup.Steps
import DriverClasses.Proofs.Setup.Alone
import DriverClasses.Proofs.Setup.Loads
import DriverClasses.Proofs.Setup.Together
import DriverClasses.Proofs.Loading.Below
import DriverClasses.Proofs.Loading.Absence
import DriverClasses.Proofs.Location.Escape
import DriverClasses.Proofs.Setup.Entries
import DriverClasses.Proofs.Registry.Runs
import DriverClasses.Proofs.Settings.Precedence
import DriverClasses.Proofs.Settings.Padding
import DriverClasses.Proofs.Loading.Buffers
import DriverClasses.Proofs.Setup.Account
import DriverClasses.Proofs.ClassFile.Extension
import DriverClasses.Proofs.ClassFile.Encoding
import DriverClasses.Proofs.Loading.Spelled
import DriverClasses.Proofs.CommandLine.Probe
import DriverClasses.Proofs.Loading.Limits
import DriverClasses.Proofs.Setup.Shown
import DriverClasses.Proofs.Setup.Places
import DriverClasses.Proofs.Location.Spacing
import DriverClasses.Proofs.Location.Urls
import DriverClasses.Proofs.Archive.Reading
import DriverClasses.Proofs.Loading.Looser
import DriverClasses.Proofs.Setup.Creation
import DriverClasses.Proofs.Setup.Pairs
import DriverClasses.Proofs.Location.Wrapped
import DriverClasses.Proofs.Loading.Entries
