import Rerun.Main
import Rerun.Rehearsal
import Rerun.Proofs.Session.Progress
import Rerun.Proofs.Session.Effect
import Rerun.Proofs.Session.Census
import Rerun.Proofs.Session.Delivery
import Rerun.Proofs.Session.Detection
import Rerun.Proofs.Session.Conservation
import Rerun.Proofs.Session.Integrity
import Rerun.Proofs.Desk.Run
import Rerun.Proofs.Desk.Quiescence
import Rerun.Proofs.Desk.Turn
import Rerun.Proofs.Desk.Policy
import Rerun.Proofs.Session.Hung
import Rerun.Proofs.Desk.Hung
import Rerun.Proofs.Desk.Loop
import Rerun.Proofs.Session.Handles
import Rerun.Proofs.Cycle.RoundTrip
import Rerun.Proofs.Cycle.Advance
import Rerun.Proofs.Session.Phases
import Rerun.Proofs.Session.Pool
import Rerun.Proofs.Desk.Pool
import Rerun.Proofs.Session.Drain
import Rerun.Proofs.Desk.Timed
import Rerun.Proofs.Text.Boundary
import Rerun.Proofs.Text.Position
import Rerun.Proofs.Text.Places
import Rerun.Proofs.Text.Lines
import Rerun.Proofs.Text.Cut
import Rerun.Proofs.Wasm.Entry
import Rerun.Proofs.Settings.Load
import Rerun.Proofs.Console.Status
import Rerun.Proofs.Wasm.Acceptance
import Rerun.Proofs.Session.Served
import Rerun.Proofs.Console.Agreement
import Rerun.Proofs.Console.Watch
import Rerun.Proofs.Diagnostic.Span
import Rerun.Proofs.Diagnostic.Header
import Rerun.Proofs.Json.Reader
import Rerun.Proofs.Json.RoundTrip
import Rerun.Proofs.Console.Line
import Rerun.Proofs.Source.Readability
import Rerun.Proofs.Frame.Slot
import Rerun.Proofs.Console.Lines
