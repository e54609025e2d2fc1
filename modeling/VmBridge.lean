import VmBridge.Main
import VmBridge.Rehearsal.Binding
import VmBridge.Windows.Backend
import VmBridge.Proofs.Binding.FirstPath
import VmBridge.Proofs.Binding.Order
import VmBridge.Proofs.Windows.Closing
import VmBridge.Proofs.Windows.Lock
import VmBridge.Proofs.Windows.Outcome
import VmBridge.Proofs.Windows.PathSearch
import VmBridge.Proofs.Tap.NameField
import VmBridge.Proofs.Tap.Nobody
import VmBridge.Proofs.Tap.Session
import VmBridge.Proofs.Owner.NumericText
import VmBridge.Proofs.Verb.Exit
import VmBridge.Proofs.Sharing.FirstMatch
import VmBridge.Proofs.Sharing.Unordered
import VmBridge.Proofs.CommandLine.Rendering
import VmBridge.Proofs.Windows.ConnectionListing
import VmBridge.Proofs.CommandLine.Requesting
import VmBridge.Proofs.Settings.Overlay
import VmBridge.Proofs.Command.Handled
import VmBridge.Proofs.Binding.Token
import VmBridge.Proofs.Sharing.Spellings
import VmBridge.Proofs.Verb.Planning
