import TypedId.Main
import TypedId.Proofs.CommandLine.Drivers
import TypedId.Proofs.CommandLine.Listing
import TypedId.Proofs.Scan.Failure
import TypedId.Proofs.Selector
import TypedId.Proofs.CommandLine.Reporting
import TypedId.Proofs.Text.Snake
import TypedId.Proofs.Text.Words
import TypedId.Proofs.CommandLine.Confinement
import TypedId.Proofs.CommandLine.Order
import TypedId.Proofs.Scan.IntegerSelector
import TypedId.Proofs.Scan.Namespaces
import TypedId.Proofs.Scan.Outcome
import TypedId.Proofs.Scan.Printing
import TypedId.Proofs.CommandLine.Collision
import TypedId.Proofs.Choice
import TypedId.Proofs.Json.Description
import TypedId.Proofs.Json.Line
import TypedId.Proofs.Json.RoundTrip
import TypedId.Proofs.Editing
import TypedId.Proofs.Emit.Recovery
import TypedId.Proofs.CommandLine.MarkerSource
