import SharedDesk.Proofs.Desk.Entry
import SharedDesk.Proofs.Layout.Editing
import SharedDesk.Proofs.Admission.Guess
import SharedDesk.Proofs.Admission.Standing
import SharedDesk.Proofs.Desk.Lockout
import SharedDesk.Proofs.Desk.Pairing
import SharedDesk.Proofs.Desk.Guessing
import SharedDesk.Proofs.Desk.References
import SharedDesk.Proofs.Address.RoundTrip
import SharedDesk.Proofs.Desk.Refusal
import SharedDesk.Proofs.Registry.Misses
import SharedDesk.Proofs.Desk.Focus
import SharedDesk.Proofs.Desk.Rate
import SharedDesk.Proofs.Desk.Answer
import SharedDesk.Proofs.Desk.Lapse
import SharedDesk.Proofs.Desk.Notices
import SharedDesk.Proofs.Admission.Independence
import SharedDesk.Proofs.Config.RoundTrip
import SharedDesk.Proofs.Desk.Arrangement
import SharedDesk.Proofs.Desk.Staging
import SharedDesk.Proofs.Registry.Lifecycle
import SharedDesk.Proofs.Registry.Sweep
import SharedDesk.Proofs.Admission.Settling
import SharedDesk.Proofs.Admission.Name
import SharedDesk.Proofs.Layout.Verdict
import SharedDesk.Proofs.Liveness
import SharedDesk.Proofs.Toml.Removal
import SharedDesk.Proofs.Config.Defaults
import SharedDesk.Proofs.Router.Conservation
import SharedDesk.Proofs.Telemetry.Grid
