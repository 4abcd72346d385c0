import CommandTree.Main
import CommandTree.Output.Buffer
import CommandTree.Probe
import CommandTree.Session
import CommandTree.Proofs.Application.Help
import CommandTree.Proofs.Application.Links
import CommandTree.Proofs.Dispatcher.Validation
import CommandTree.Proofs.Node.Path
import CommandTree.Proofs.Probe.Mark
import CommandTree.Proofs.Session.Commands
import CommandTree.Proofs.Shell.Transcript
import CommandTree.Proofs.Node.Lockstep
import CommandTree.Proofs.Argument.Extract
import CommandTree.Proofs.Node.Reporting
import CommandTree.Proofs.Node.Ahead
import CommandTree.Proofs.Node.Tail
import CommandTree.Proofs.Dispatcher.Growth
import CommandTree.Proofs.Session.Growth
import CommandTree.Proofs.Node.Order
import CommandTree.Proofs.Argument.Numeral
import CommandTree.Proofs.Argument.Settings
import CommandTree.Proofs.Argument.Spelling
import CommandTree.Proofs.Config.Offences
import CommandTree.Proofs.Session.Help
import CommandTree.Proofs.Probe.Word
import CommandTree.Proofs.Diagnostic.Wording
import CommandTree.Proofs.Output.Buffer
import CommandTree.Proofs.Config.Json
