import SensorSim.Text.Blank
import SensorSim.Text.Hidden
import SensorSim.Text.Quoted
import SensorSim.Text.Integer
import SensorSim.Decimal.Binary
import SensorSim.Decimal.Shortest
import SensorSim.Decimal.Layout
import SensorSim.Decimal.Reading
import SensorSim.Geometry.Space
import SensorSim.Geometry.Pixel
import SensorSim.Geometry.Depth
import SensorSim.Files.Path
import SensorSim.Files.FileSystem
import SensorSim.Config.Value
import SensorSim.Config.Section
import SensorSim.Field.Sample
import SensorSim.Field.Table
import SensorSim.Field.Fit
import SensorSim.Field.Analytic
import SensorSim.Field.TableFile
import SensorSim.Field.TableStore
import SensorSim.Files.Tree
import SensorSim.Sensor.Diagnostic
import SensorSim.Bus.Basic
import SensorSim.Order.Schedule
import SensorSim.Stage.Basic
import SensorSim.Stage.Standard
import SensorSim.Stage.Choice
import SensorSim.Stage.Script
import SensorSim.Stage.Trial
import SensorSim.Run.Simulation
import SensorSim.Run.Timing
import SensorSim.Run.Diagnostic
import SensorSim.Run.Reference
import SensorSim.Field.TableFile.Synthetic
import SensorSim.Proofs.Bus.Call
import SensorSim.Proofs.Bus.Declaration
import SensorSim.Proofs.Bus.Dispatch
import SensorSim.Proofs.Bus.Fetch
import SensorSim.Proofs.Order.Schedule
import SensorSim.Proofs.Order.Blocked
import SensorSim.Proofs.Order.Rounds
import SensorSim.Proofs.Run.Event
import SensorSim.Proofs.Stage.Conduct
import SensorSim.Proofs.Field.TableFile
import SensorSim.Proofs.Field.TableStore
import SensorSim.Proofs.Stage.Equipment
import SensorSim.Proofs.Run.Block
import SensorSim.Proofs.Run.Course
import SensorSim.Proofs.Run.History
import SensorSim.Proofs.Run.Precedence
import SensorSim.Proofs.Run.Isolation
import SensorSim.Proofs.Stage.Charge
import SensorSim.Proofs.Run.Acceptance
import SensorSim.Proofs.Run.Completion
import SensorSim.Proofs.Run.FullChain
import SensorSim.Proofs.Bus.Batch
import SensorSim.Proofs.Run.Site
import SensorSim.Proofs.Run.Frame
import SensorSim.Proofs.Run.Validity
import SensorSim.Proofs.Decimal.Parts
import SensorSim.Proofs.Decimal.Nearest
import SensorSim.Proofs.Decimal.Layout
import SensorSim.Proofs.Field.Synthetic
import SensorSim.Proofs.Field.Oversized
import SensorSim.Proofs.Stage.Tally
import SensorSim.Proofs.Field.Lookup
import SensorSim.Proofs.Run.Visit
import SensorSim.Proofs.Run.CallLog
import SensorSim.Proofs.Stage.Drift
import SensorSim.Proofs.Stage.Pairs
import SensorSim.Proofs.Bus.Registry
import SensorSim.Proofs.Run.Farewell
import SensorSim.Proofs.Order.Unknown
import SensorSim.Proofs.Config.Components
import SensorSim.Proofs.Stage.Profile
import SensorSim.Proofs.Stage.Refusal
import SensorSim.Proofs.Sensor.Matrix
