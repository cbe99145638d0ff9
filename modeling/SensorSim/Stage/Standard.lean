import SensorSim.Stage.Deposition
import SensorSim.Stage.Projection
import SensorSim.Stage.Induction
import SensorSim.Stage.FieldReader
import SensorSim.Stage.PotentialReader
import SensorSim.Stage.Relay
import SensorSim.Stage.Recorder

/-!
# The stages of the library

One type for all stages of the library, so that a pipeline can be made of any of them.
-/

namespace SensorSim.Stage

/-- A stage of the library. -/
inductive Standard where
  | deposition (stage : Deposition)
  | projection (stage : Projection)
  | transfer (stage : Induction)
  | potentialReader (stage : PotentialReader)
  | fieldReader (stage : FieldReader)
  | relay (stage : Relay)
  | recorder (stage : Recorder)

instance : Stage Standard where
  name
    | .deposition s => Stage.name s
    | .projection s => Stage.name s
    | .transfer s => Stage.name s
    | .potentialReader s => Stage.name s
    | .fieldReader s => Stage.name s
    | .relay s => Stage.name s
    | .recorder s => Stage.name s
  detector?
    | .deposition s => Stage.detector? s
    | .projection s => Stage.detector? s
    | .transfer s => Stage.detector? s
    | .potentialReader s => Stage.detector? s
    | .fieldReader s => Stage.detector? s
    | .relay s => Stage.detector? s
    | .recorder s => Stage.detector? s
  setUp ctx
    | .deposition s => Prod.map id .deposition <$> Stage.setUp ctx s
    | .projection s => Prod.map id .projection <$> Stage.setUp ctx s
    | .transfer s => Prod.map id .transfer <$> Stage.setUp ctx s
    | .potentialReader s => Prod.map id .potentialReader <$> Stage.setUp ctx s
    | .fieldReader s => Prod.map id .fieldReader <$> Stage.setUp ctx s
    | .relay s => Prod.map id .relay <$> Stage.setUp ctx s
    | .recorder s => Prod.map id .recorder <$> Stage.setUp ctx s
  run ctx
    | .deposition s => Prod.map id .deposition <$> Stage.run ctx s
    | .projection s => Prod.map id .projection <$> Stage.run ctx s
    | .transfer s => Prod.map id .transfer <$> Stage.run ctx s
    | .potentialReader s => Prod.map id .potentialReader <$> Stage.run ctx s
    | .fieldReader s => Prod.map id .fieldReader <$> Stage.run ctx s
    | .relay s => Prod.map id .relay <$> Stage.run ctx s
    | .recorder s => Prod.map id .recorder <$> Stage.run ctx s
  close ctx
    | .deposition s => Prod.map id .deposition (Stage.close ctx s)
    | .projection s => Prod.map id .projection (Stage.close ctx s)
    | .transfer s => Prod.map id .transfer (Stage.close ctx s)
    | .potentialReader s => Prod.map id .potentialReader (Stage.close ctx s)
    | .fieldReader s => Prod.map id .fieldReader (Stage.close ctx s)
    | .relay s => Prod.map id .relay (Stage.close ctx s)
    | .recorder s => Prod.map id .recorder (Stage.close ctx s)

end SensorSim.Stage
