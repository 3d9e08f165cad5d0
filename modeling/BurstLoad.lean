import BurstLoad.Fault.Kinds
import BurstLoad.Frame.Decoder
import BurstLoad.Main
import BurstLoad.Journal.Runs
import BurstLoad.Settings.Source
import BurstLoad.Proofs.Settings.Again
import BurstLoad.Proofs.Settings.Refusals
import BurstLoad.Proofs.Session.Usable
import BurstLoad.Proofs.Settings.Promises
import BurstLoad.Proofs.Settings.RoundTrip
import BurstLoad.Proofs.Frame.Codec
import BurstLoad.Proofs.Frame.Decoder
import BurstLoad.Proofs.Frame.Reader
import BurstLoad.Proofs.Link
import BurstLoad.Proofs.Payload
import BurstLoad.Proofs.Correlation
import BurstLoad.Proofs.Simulation
import BurstLoad.Proofs.Course
import BurstLoad.Proofs.Frame.Receiving
import BurstLoad.Proofs.Gate
import BurstLoad.Proofs.Gate.Script
import BurstLoad.Proofs.Gate.Waiting
import BurstLoad.Proofs.Gate.Completion
import BurstLoad.Proofs.Gate.Failure
import BurstLoad.Proofs.Gate.Cancellation
import BurstLoad.Proofs.Inbox
import BurstLoad.Proofs.Pacer.Wire
import BurstLoad.Proofs.Pacer.Move
import BurstLoad.Proofs.Pacer.History
import BurstLoad.Proofs.Pacer.Accounts
import BurstLoad.Proofs.Pacer.Windows
import BurstLoad.Proofs.Pacer.Stopping
import BurstLoad.Proofs.Session.Wire
import BurstLoad.Proofs.Session.Stalled
import BurstLoad.Proofs.Session.Transactions
import BurstLoad.Proofs.Session.Order
import BurstLoad.Proofs.Session.StartUp
import BurstLoad.Proofs.Session.TearDown
import BurstLoad.Proofs.Session.Move
import BurstLoad.Proofs.Session.Stopping
import BurstLoad.Proofs.Record
import BurstLoad.Proofs.Session.Outcome
import BurstLoad.Proofs.Command
import BurstLoad.Proofs.Inbox.Aside
import BurstLoad.Proofs.Inbox.Fate
import BurstLoad.Proofs.Inbox.Isolation
import BurstLoad.Proofs.Inbox.Stopping
import BurstLoad.Proofs.Rest
import BurstLoad.Proofs.Session.Undisturbed
import BurstLoad.Proofs.Frame.Sending
import BurstLoad.Proofs.Numeral
import BurstLoad.Proofs.Settings.Entries
import BurstLoad.Proofs.Settings.Numerals
import BurstLoad.Proofs.Settings.Addresses
import BurstLoad.Proofs.Address.Literal
import BurstLoad.Proofs.Settings.Overlay
import BurstLoad.Proofs.Payload.Repetition
import BurstLoad.Proofs.Pacer.Limit
import BurstLoad.Proofs.Frame.Stuck
import BurstLoad.Proofs.Payload.Layout
import BurstLoad.Proofs.Payload.Mention
import BurstLoad.Proofs.Pacer.Observer
