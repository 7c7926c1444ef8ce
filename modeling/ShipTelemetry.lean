import ShipTelemetry.Main
import ShipTelemetry.Program
import ShipTelemetry.Proofs.Access.Decoding
import ShipTelemetry.Proofs.Access.OneEntry
import ShipTelemetry.Proofs.Access.Steps
import ShipTelemetry.Proofs.Decimal.Numeral
import ShipTelemetry.Proofs.Envelope
import ShipTelemetry.Proofs.Files.Exact
import ShipTelemetry.Proofs.Files.Prune
import ShipTelemetry.Proofs.Files.Retention
import ShipTelemetry.Proofs.Log.Durations
import ShipTelemetry.Proofs.Program.StartUp
import ShipTelemetry.Proofs.Program.WholeRun
import ShipTelemetry.Proofs.Report.Numbers
import ShipTelemetry.Proofs.Report.Resubmission
import ShipTelemetry.Proofs.Server.Lifecycle
import ShipTelemetry.Proofs.Server.Ownership
import ShipTelemetry.Proofs.Server.Soundness
import ShipTelemetry.Proofs.Service.AccessLines
import ShipTelemetry.Proofs.Service.Account
import ShipTelemetry.Proofs.Service.Alone
import ShipTelemetry.Proofs.Service.Announcement
import ShipTelemetry.Proofs.Service.ControlCharacters
import ShipTelemetry.Proofs.Service.Dependence
import ShipTelemetry.Proofs.Service.Interleaving
import ShipTelemetry.Proofs.Service.LogIntegrity
import ShipTelemetry.Proofs.Service.Mirror
import ShipTelemetry.Proofs.Service.Panics
import ShipTelemetry.Proofs.Service.RoundTrip
import ShipTelemetry.Proofs.Service.Table
import ShipTelemetry.Proofs.Settings
import ShipTelemetry.Proofs.Uri.Forms
import ShipTelemetry.Proofs.Uri.Front
