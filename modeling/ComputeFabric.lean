import ComputeFabric.Lib.OrdMap
import ComputeFabric.Lib.Lts
import ComputeFabric.Lib.Codec
import ComputeFabric.Lib.Crc
import ComputeFabric.Lib.Acyclic
import ComputeFabric.Lib.TopoSort
import ComputeFabric.Core.Basic
import ComputeFabric.Core.Digest
import ComputeFabric.Core.Checksum
import ComputeFabric.Task.Lifecycle
import ComputeFabric.Task.Task
import ComputeFabric.Task.Dag
import ComputeFabric.Resource.Reservation
import ComputeFabric.Scheduler.CostModel
import ComputeFabric.Scheduler.Scheduler
import ComputeFabric.Scheduler.Choice
import ComputeFabric.Scheduler.Admission
import ComputeFabric.Protocol.Messages
import ComputeFabric.Protocol.Wire
import ComputeFabric.Protocol.Serialize
import ComputeFabric.Protocol.MessageCodec
import ComputeFabric.Persist.Format
import ComputeFabric.Protocol.Frame
import ComputeFabric.Net.Channel
import ComputeFabric.Node.Workloads
import ComputeFabric.Node.Cuda
import ComputeFabric.Node.Executor
import ComputeFabric.Node.Runtime
import ComputeFabric.Coordinator.Ledger
import ComputeFabric.Coordinator.State
import ComputeFabric.Coordinator.Handlers
import ComputeFabric.Coordinator.Run
import ComputeFabric.Coordinator.Readers
import ComputeFabric.Net.Client
import ComputeFabric.Net.Outbound
import ComputeFabric.Launcher.CommandLine
import ComputeFabric.Fabric.Run
import ComputeFabric.Coordinator.View
import ComputeFabric.Coordinator.Steps
import ComputeFabric.Coordinator.Cascade
import ComputeFabric.Coordinator.SweepSteps
import ComputeFabric.Coordinator.SweepStates
import ComputeFabric.Coordinator.Clock
import ComputeFabric.Coordinator.TaskSteps
import ComputeFabric.Coordinator.GraphSteps
import ComputeFabric.Coordinator.Restart
import ComputeFabric.Coordinator.Invariants
import ComputeFabric.Coordinator.Crash
import ComputeFabric.Coordinator.Records
import ComputeFabric.Safety.Commit
import ComputeFabric.Safety.Authority
import ComputeFabric.Safety.Superseded
import ComputeFabric.Safety.Session
import ComputeFabric.Safety.Epoch
import ComputeFabric.Safety.Gating
import ComputeFabric.Safety.Slots
import ComputeFabric.Safety.Storage
import ComputeFabric.Safety.Finality
import ComputeFabric.Safety.Budget
import ComputeFabric.Safety.Cancellation
import ComputeFabric.Safety.Rerun
import ComputeFabric.Safety.Durability
import ComputeFabric.Safety.Acknowledged
import ComputeFabric.Safety.Retry
import ComputeFabric.Safety.Backoff
import ComputeFabric.Safety.Deadlines
import ComputeFabric.Safety.Finished
import ComputeFabric.Safety.Transports
import ComputeFabric.Safety.Blocked
import ComputeFabric.Safety.Propagation
import ComputeFabric.Safety.NodeLoss
import ComputeFabric.Safety.Overcommit
import ComputeFabric.Task.Acyclic
import ComputeFabric.Task.Cycles
import ComputeFabric.Task.Order
import ComputeFabric.Safety.Recovery
import ComputeFabric.Safety.Rebuild
import ComputeFabric.Safety.Cascades
import ComputeFabric.Safety.Placement
import ComputeFabric.Safety.Connectivity
import ComputeFabric.Safety.Idempotence
import ComputeFabric.Safety.Locality
import ComputeFabric.Safety.Executors
import ComputeFabric.Safety.Replies
import ComputeFabric.Safety.Corruption
import ComputeFabric.Node.Steps
import ComputeFabric.Node.Accounting
import ComputeFabric.Node.Verdicts
import ComputeFabric.Coordinator.Outbox
import ComputeFabric.Coordinator.Dispatches
import ComputeFabric.Safety.Correlation
import ComputeFabric.Fabric.Steps
import ComputeFabric.Fabric.Results
import ComputeFabric.Fabric.Once
import ComputeFabric.Net.Socket
import ComputeFabric.Net.Pipeline
import ComputeFabric.Persist.Disk
