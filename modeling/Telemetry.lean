import Telemetry.Broker.State
import Telemetry.Main
import Telemetry.Proofs.Attained
import Telemetry.Proofs.Changes
import Telemetry.Proofs.Codec.Documents
import Telemetry.Proofs.Dashboard.Schedule
import Telemetry.Proofs.Dispatch.Taken
import Telemetry.Proofs.Gateway
import Telemetry.Proofs.Joining
import Telemetry.Proofs.Naming.Identity
import Telemetry.Proofs.Naming.Sanitized
import Telemetry.Proofs.Naming.Topic
import Telemetry.Proofs.ObjectId.Generated
import Telemetry.Proofs.Overlay
import Telemetry.Proofs.Positions
import Telemetry.Proofs.Sensors
import Telemetry.Proofs.Series.Cells
import Telemetry.Proofs.Series.Ids
import Telemetry.Proofs.Series.Pieces
import Telemetry.Proofs.Series.Restriction
import Telemetry.Proofs.Series.Sections
import Telemetry.Proofs.Series.Tables
import Telemetry.Proofs.Store.Agreement
import Telemetry.Proofs.Store.Lookup
import Telemetry.Proofs.Store.Order
import Telemetry.Proofs.Store.Replacing
import Telemetry.Proofs.Strands
import Telemetry.Proofs.Sync.Bodies
import Telemetry.Proofs.Sync.Cancellation
import Telemetry.Proofs.Sync.Convergence
import Telemetry.Proofs.Sync.Course
import Telemetry.Proofs.Sync.Exclusion
import Telemetry.Proofs.Sync.InTurn
import Telemetry.Proofs.Sync.Keeper
import Telemetry.Proofs.Sync.LastBody
import Telemetry.Proofs.Sync.Outcomes
import Telemetry.Proofs.Sync.Remote
import Telemetry.Proofs.Sync.Replacement
import Telemetry.Proofs.Sync.RuleOrder
import Telemetry.Proofs.Sync.Schedule
import Telemetry.Proofs.Sync.Sequence
import Telemetry.Store.Memory
import Telemetry.Sync.Pool
