import Beamline.Action
import Beamline.Cache
import Beamline.CallLog
import Beamline.Category
import Beamline.Clock
import Beamline.Composite.Basic
import Beamline.Composite.Operation
import Beamline.Composite.Plan
import Beamline.Controls
import Beamline.Decimal.Binary
import Beamline.Decimal.Layout
import Beamline.Decimal.Reading
import Beamline.Decimal.Shortest
import Beamline.Device
import Beamline.Driver
import Beamline.Error
import Beamline.Event
import Beamline.Faults
import Beamline.Geometry.Bragg
import Beamline.Geometry.DoubleCrystal
import Beamline.Geometry.Linear
import Beamline.Geometry.Planes
import Beamline.Instrument
import Beamline.Lab
import Beamline.Limits
import Beamline.Motor
import Beamline.Powers
import Beamline.Proofs.Admission
import Beamline.Proofs.Agreement
import Beamline.Proofs.Awaiting
import Beamline.Proofs.Building
import Beamline.Proofs.Checking
import Beamline.Proofs.Coherence
import Beamline.Proofs.Dispatch
import Beamline.Proofs.Drafting
import Beamline.Proofs.Elapsing
import Beamline.Proofs.Evolving
import Beamline.Proofs.FanOut
import Beamline.Proofs.Fractions
import Beamline.Proofs.Halting
import Beamline.Proofs.MoveTargets
import Beamline.Proofs.Injection
import Beamline.Proofs.Interlocking
import Beamline.Proofs.Operating
import Beamline.Proofs.Outcomes
import Beamline.Proofs.Polling
import Beamline.Proofs.Reaching
import Beamline.Proofs.ReadBack
import Beamline.Proofs.Reconciling
import Beamline.Proofs.Recording
import Beamline.Proofs.Registering
import Beamline.Proofs.SimulationMode
import Beamline.Proofs.Rounding
import Beamline.Proofs.Scanning
import Beamline.Proofs.Settling
import Beamline.Proofs.Spans
import Beamline.Proofs.ConstantAnswers
import Beamline.Proofs.NonStartSteps
import Beamline.Proofs.Timeline
import Beamline.Proofs.Travelling
import Beamline.Random.ChaCha
import Beamline.Random.Chance
import Beamline.Reconciler
import Beamline.Registry
import Beamline.Scalar
import Beamline.Scalar.Binary64
import Beamline.Setup.Assembly
import Beamline.Setup.Check
import Beamline.Setup.Load
import Beamline.Setup.Schema
import Beamline.Simulated
import Beamline.StandIn
import Beamline.Status
import Beamline.Switch
import Beamline.Text.Json
import Beamline.Text.Marks
import Beamline.Text.Quoted
import Beamline.Toml.Access
import Beamline.Toml.Basic
import Beamline.Toml.Document
import Beamline.Toml.Quotes
import Beamline.Toml.Scalar
import Beamline.Toml.Settings
import Beamline.Toml.Stored
import Beamline.Transform
import Beamline.Value
import Beamline.Proofs.Counting
import Beamline.Proofs.Departing
import Beamline.Proofs.RoundTrip
import Beamline.Proofs.Determining
import Beamline.Proofs.Relaying
import Beamline.Proofs.Replanning
import Beamline.Proofs.Reporting
import Beamline.Proofs.Indexing
import Beamline.Proofs.Sticking
import Beamline.Proofs.Deadlines
import Beamline.Proofs.Interpolating
import Beamline.Proofs.Confinement
import Beamline.Proofs.Declared
import Beamline.Proofs.Severity
import Beamline.Proofs.Drawing
import Beamline.Proofs.Naming
