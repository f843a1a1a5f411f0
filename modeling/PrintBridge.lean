import PrintBridge.Main
import PrintBridge.Routine.Script
import PrintBridge.Value.Boxing
import PrintBridge.Proofs.Stream.Reached
import PrintBridge.Proofs.Stream.Comparison
import PrintBridge.Proofs.Stream.Delivery
import PrintBridge.Proofs.Stream.Wrapping
import PrintBridge.Proofs.Sink.Sparing
import PrintBridge.Proofs.Routine.Rendering
import PrintBridge.Proofs.Slot.Lowered
import PrintBridge.Proofs.Slot.Plain
import PrintBridge.Proofs.Bridge.Stages
import PrintBridge.Proofs.Bridge.Requests
import PrintBridge.Proofs.Bridge.Output
import PrintBridge.Proofs.Bridge.Breakdown
import PrintBridge.Proofs.Bridge.Refusal
import PrintBridge.Proofs.Slot.Ownership
import PrintBridge.Proofs.Settings.Precedence
import PrintBridge.Proofs.Files.Steps
import PrintBridge.Proofs.Files.Components
import PrintBridge.Proofs.Settings.Nearest
import PrintBridge.Proofs.Settings.Agreement
import PrintBridge.Proofs.Threads.Interleaving
import PrintBridge.Proofs.Threads.Serial
import PrintBridge.Proofs.Threads.Progress
import PrintBridge.Proofs.Library.Caching
import PrintBridge.Proofs.Number.Digits
import PrintBridge.Proofs.Literal.Forms
import PrintBridge.Proofs.Literal.ReadBack
import PrintBridge.Proofs.Literal.Quoting
import PrintBridge.Proofs.Number.Denotation
import PrintBridge.Proofs.Literal.Spelling
import PrintBridge.Proofs.Literal.Integers
import PrintBridge.Proofs.Settings.Variables
import PrintBridge.Proofs.CommandLine.Printing
import PrintBridge.Proofs.Library.Searching
import PrintBridge.Proofs.Stream.Tracing
import PrintBridge.Proofs.Settings.Sources
import PrintBridge.Proofs.Text.Expansion
import PrintBridge.Proofs.Literal.Order
import PrintBridge.Proofs.Settings.Names
import PrintBridge.Proofs.Value.Identity
import PrintBridge.Proofs.Pattern.Searching
import PrintBridge.Proofs.Log.Filtering
