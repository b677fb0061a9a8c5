import ComputeFabric.Scheduler.Scheduler
import ComputeFabric.Task.Lifecycle

/-!
# `Protocol.Messages` — the control messages

The payload records of `messages.h`, decoded. Incoming ones are the arguments of the coordinator's
handlers; everything the coordinator puts on a connection is a `Message`.
-/

namespace ComputeFabric

/-! ## The first message of a connection -/

structure Hello where
  protocolVersion : UInt16 := 1
  role : Text

/-! ## From nodes -/

structure NodeRegister (D : Type) where
  nodeId : NodeId
  label : Text := []
  address : Text := []
  capacity : NodeCapacity D

structure ExecutorRuntimeSnapshot where
  name : Text
  active : UInt32

structure NodeHeartbeat where
  nodeId : NodeId
  sessionId : NodeSessionId
  sessionEpoch : SessionEpoch
  coordinatorEpoch : CoordinatorEpoch
  activeCpuSlots : UInt32 := 0
  activeGpuSlots : UInt32 := 0
  executors : List ExecutorRuntimeSnapshot := []

structure NodeShutdown where
  nodeId : NodeId
  sessionId : NodeSessionId

structure DispatchAck where
  attemptId : ExecutionAttemptId
  accepted : Bool := false
  error : Text := []

structure AttemptStarted where
  attemptId : ExecutionAttemptId
  startedAtMs : Int64 := 0
  device : Text := []

structure AttemptProgress where
  attemptId : ExecutionAttemptId
  percent : UInt32 := 0

structure AttemptComplete (D : Type) where
  attemptId : ExecutionAttemptId
  taskId : ComputeTaskId := {}
  reservationId : ReservationId
  coordinatorEpoch : CoordinatorEpoch := 0
  resultCode : UInt8 := 0
  outputSize : UInt64 := 0
  outputIntegrity : Text := []
  durationMs : D
  cpuMillis : D
  bytesTransferred : UInt64 := 0
  device : Text := []
  notes : List Text := []

structure AttemptFailed (D : Type) where
  attemptId : ExecutionAttemptId
  taskId : ComputeTaskId := {}
  reservationId : ReservationId := {}
  coordinatorEpoch : CoordinatorEpoch := 0
  failureKind : UInt8 := 0
  failureReason : Text := []
  durationMs : D

structure AttemptCancelled where
  attemptId : ExecutionAttemptId
  taskId : ComputeTaskId := {}
  reservationId : ReservationId := {}
  coordinatorEpoch : CoordinatorEpoch := 0
  reason : Text := []

structure AttemptCancelAck where
  attemptId : ExecutionAttemptId
  accepted : Bool := false

structure ReservationRelease where
  reservationId : ReservationId
  taskId : ComputeTaskId := {}
  nodeId : NodeId := {}
  sessionId : NodeSessionId := {}
  coordinatorEpoch : CoordinatorEpoch := 0

/-! ## From clients -/

structure TaskSubmit (D : Type) where
  workloadId : WorkloadId := {}
  workloadName : Text := []
  task : ComputeTask D

structure TaskInspect where
  taskId : ComputeTaskId

/-- An empty filter asks for all tasks. -/
structure TaskList where
  filterState : Text

structure TaskCancel where
  taskId : ComputeTaskId

structure WorkloadInspect where
  workloadId : WorkloadId

structure FabricStatus where
  detail : Text

structure PlacementQuery (D : Type) where
  task : ComputeTask D

structure NodeList where

structure NodeDrain where
  nodeId : NodeId
  drain : Bool := true

structure CoordinatorShutdown where

/-! ## To nodes and clients -/

structure NodeRegisterAck where
  nodeId : NodeId
  sessionId : NodeSessionId
  coordinatorEpoch : CoordinatorEpoch
  sessionEpoch : SessionEpoch
  error : Text := []

structure NodeHeartbeatAck where
  accepted : Bool := true
  error : Text := []

structure NodeShutdownAck where
  accepted : Bool := true

structure DispatchAttempt (D : Type) where
  task : ComputeTask D
  attemptId : ExecutionAttemptId
  reservationId : ReservationId
  coordinatorEpoch : CoordinatorEpoch
  attemptNumber : UInt32

structure AttemptCancel where
  attemptId : ExecutionAttemptId
  reason : Text

structure ReservationGrant where
  reservationId : ReservationId
  taskId : ComputeTaskId
  executor : ExecutorType := .cpu
  slots : UInt32 := 0

structure ReservationReleaseAck where
  reservationId : ReservationId
  accepted : Bool := false
  error : Text := []

structure ErrorResponse where
  forMessageType : UInt16 := 0
  error : Text := []

/-- The acknowledgement of a completion or a failure. -/
structure AttemptAck where
  attemptId : ExecutionAttemptId
  accepted : Bool
  error : Text := []

structure TaskSubmitResponse where
  accepted : Bool := false
  taskId : ComputeTaskId
  error : Text := []

structure TaskInspectResponse (D : Type) where
  found : Bool
  taskId : ComputeTaskId
  name : Text := []
  taskClass : TaskClass := .generic
  state : TaskState := .submitted
  error : Text := []
  attempts : List (ExecutionAttempt D) := []
  retryCount : UInt32 := 0
  workloadIdHex : Text := []

structure TaskListEntry where
  taskId : ComputeTaskId
  name : Text
  state : TaskState
  taskClass : TaskClass
  priority : Priority

structure TaskListResponse where
  tasks : List TaskListEntry

structure TaskCancelResponse where
  found : Bool := false
  cancelled : Bool := false
  error : Text := []

structure WorkloadInspectResponse where
  found : Bool
  workloadId : WorkloadId
  name : Text := []
  tasks : List TaskListEntry := []
  error : Text := []

structure NodeStatusEntry where
  nodeId : NodeId
  label : Text
  address : Text
  health : NodeHealth
  connected : Bool
  cpuSlots : UInt32
  cpuUsed : UInt32
  sessionEpoch : SessionEpoch
  executors : List Text

structure FabricStatusResponse where
  coordinatorEpoch : CoordinatorEpoch
  policy : Text
  nodeCount : UInt32
  taskCount : UInt32
  runningCount : UInt32
  reservedCount : UInt32
  completedCount : UInt32
  nodes : List NodeStatusEntry
  error : Text := []

structure PlacementResponse (D : Type) where
  found : Bool := false
  decision : PlacementDecision D
  error : Text := []

structure NodeListResponse where
  nodes : List NodeStatusEntry

structure NodeDrainResponse where
  found : Bool
  accepted : Bool := false
  error : Text := []

structure CoordinatorShutdownResponse where
  accepted : Bool := false
  error : Text := []

/-- What the coordinator queues on a connection. -/
inductive Message (D : Type) where
  | nodeRegisterAck (ack : NodeRegisterAck)
  | nodeHeartbeatAck (accepted : Bool) (error : Text)
  | nodeShutdown (nodeId : NodeId) (sessionId : NodeSessionId)
  | nodeShutdownAck (accepted : Bool)
  | dispatchAttempt (da : DispatchAttempt D)
  | attemptCancel (attemptId : ExecutionAttemptId) (reason : Text)
  | attemptCompleteAck (ack : AttemptAck)
  | attemptFailedAck (ack : AttemptAck)
  | reservationReleaseAck (reservationId : ReservationId) (accepted : Bool)
  | taskSubmitResponse (resp : TaskSubmitResponse)
  | taskInspectResponse (resp : TaskInspectResponse D)
  | taskListResponse (tasks : List TaskListEntry)
  | taskCancelResponse (resp : TaskCancelResponse)
  | workloadInspectResponse (resp : WorkloadInspectResponse)
  | fabricStatusResponse (resp : FabricStatusResponse)
  | placementResponse (found : Bool) (decision : PlacementDecision D)
  | nodeListResponse (nodes : List NodeStatusEntry)
  | nodeDrainResponse (resp : NodeDrainResponse)
  | coordinatorShutdownResponse (accepted : Bool)

end ComputeFabric
