import ComputeFabric.Core.Basic

/-!
# `Task.Task` — task descriptions and execution attempts

The records of `task.h` and `attempt.h`. Enumerations that arrive from a peer are decoded with an
unchecked `static_cast` from a byte, so they carry an `unlisted` constructor: together with the named
values it is in bijection with the byte, and no received value is lost.

Records that hold doubles are generic in the type `D` of doubles.
-/

namespace ComputeFabric

/-- Semantic task class (metadata only). -/
inductive TaskClass where
  | generic | inference | prefill | decode | embedding | retrieval | agentStep | toolExecution
  | tensorKernel | trainingStep | checkpointTransform | applicationDefined
  | unlisted (v : Fin 244)
deriving DecidableEq, Inhabited

def TaskClass.toUInt8 : TaskClass → UInt8
  | generic => 0
  | inference => 1
  | prefill => 2
  | decode => 3
  | embedding => 4
  | retrieval => 5
  | agentStep => 6
  | toolExecution => 7
  | tensorKernel => 8
  | trainingStep => 9
  | checkpointTransform => 10
  | applicationDefined => 11
  | unlisted v => UInt8.ofNat (12 + v)

/-- `static_cast<TaskClass>(byte)`. -/
def TaskClass.ofUInt8 (b : UInt8) : TaskClass :=
  [generic, inference, prefill, decode, embedding, retrieval, agentStep, toolExecution, tensorKernel,
   trainingStep, checkpointTransform, applicationDefined].getD b.toNat (unlisted (Fin.ofNat 244 (b.toNat - 12)))

/-- Executor kind required by a task or available on a node. -/
inductive ExecutorType where
  | cpu | cuda | any | unlisted (v : Fin 253)
deriving DecidableEq, Inhabited

def ExecutorType.toUInt8 : ExecutorType → UInt8
  | cpu => 0
  | cuda => 1
  | any => 2
  | unlisted v => UInt8.ofNat (3 + v)

/-- `static_cast<ExecutorType>(byte)`. -/
def ExecutorType.ofUInt8 (b : UInt8) : ExecutorType :=
  [cpu, cuda, any].getD b.toNat (unlisted (Fin.ofNat 253 (b.toNat - 3)))

/-- Built-in deterministic workloads. -/
inductive KernelType where
  | none | hashInteger | vectorTransform | checksum | syntheticLoop | stateDependent
  | tensorArithmetic | unlisted (v : Fin 249)
deriving DecidableEq, Inhabited

def KernelType.toUInt8 : KernelType → UInt8
  | none => 0
  | hashInteger => 1
  | vectorTransform => 2
  | checksum => 3
  | syntheticLoop => 4
  | stateDependent => 5
  | tensorArithmetic => 6
  | unlisted v => UInt8.ofNat (7 + v)

/-- `static_cast<KernelType>(byte)`. -/
def KernelType.ofUInt8 (b : UInt8) : KernelType :=
  [none, hashInteger, vectorTransform, checksum, syntheticLoop, stateDependent, tensorArithmetic].getD
    b.toNat (unlisted (Fin.ofNat 249 (b.toNat - 7)))

/-- Scheduling priority; a smaller value is scheduled first. -/
inductive Priority where
  | critical | high | normal | low | background | unlisted (v : Fin 251)
deriving DecidableEq, Inhabited

def Priority.toUInt8 : Priority → UInt8
  | critical => 0
  | high => 1
  | normal => 2
  | low => 3
  | background => 4
  | unlisted v => UInt8.ofNat (5 + v)

/-- `static_cast<Priority>(byte)`. -/
def Priority.ofUInt8 (b : UInt8) : Priority :=
  [critical, high, normal, low, background].getD b.toNat (unlisted (Fin.ofNat 251 (b.toNat - 5)))

/-- `RetryPolicy`, with its default member values. -/
structure RetryPolicy where
  maxAttempts : UInt32 := 1
  retryOnNodeLoss : Bool := true
  retryOnExecutorFailure : Bool := true
  retryOnTimeout : Bool := false
  retryBackoffMs : UInt64 := 100
deriving DecidableEq

/-- A reusable-state dependency referenced by a task. -/
structure StateDependency (D : Type) where
  stateId : Text := []
  generation : Text := []
  sizeBytes : UInt64 := 0
  residentNodes : List NodeId := []
  localityQuality : D
  transferEstimateSeconds : D
  recomputeEstimateSeconds : D
  providerBacked : Bool := false
  compatibility : Text := []

structure ComputeTask (D : Type) where
  id : ComputeTaskId := {}
  workload : WorkloadId := {}
  name : Text := []
  taskClass : TaskClass := .generic
  requiredExecutor : ExecutorType := .any
  minComputeCapabilityMajor : Int32 := 0
  minComputeCapabilityMinor : Int32 := 0
  requiredCpuSlots : UInt32 := 1
  requiredGpuSlots : UInt32 := 1
  scratchMemoryBytes : UInt64 := 0
  dependencies : List ComputeTaskId := []
  stateDependencies : List (StateDependency D) := []
  expectedInputBytes : UInt64 := 0
  expectedOutputBytes : UInt64 := 0
  estimatedDurationSeconds : D
  hasDeadline : Bool := false
  deadlineEpochMs : Int64 := 0
  priority : Priority := .normal
  retry : RetryPolicy := {}
  preferredNodes : List NodeId := []
  forbiddenNodes : List NodeId := []
  requiredTags : List Text := []
  preferredTags : List Text := []
  antiAffinityGroup : Text := []
  sameNodeAsTask : Option ComputeTaskId := none
  differentNodeFromTask : Option ComputeTaskId := none
  expectedTransferGb : D
  expectedRecomputeCostSeconds : D
  costEstimate : D
  preemptible : Bool := false
  kernel : KernelType := .none
  kernelParamN : UInt64 := 0
  kernelParamA : UInt64 := 0
  kernelParamB : UInt64 := 0
  seed : UInt64 := 0
  userTags : TextMap Text := ∅
  payload : List UInt8 := []

/-- An immutable workload grouping. -/
structure Workload where
  id : WorkloadId := {}
  name : Text := []
  userTags : TextMap Text := ∅

/-! ## Attempts -/

inductive AttemptState where
  | dispatched | started | succeeded | failed | cancelled | lost | unlisted (v : Fin 250)
deriving DecidableEq, Inhabited

def AttemptState.toUInt8 : AttemptState → UInt8
  | dispatched => 0
  | started => 1
  | succeeded => 2
  | failed => 3
  | cancelled => 4
  | lost => 5
  | unlisted v => UInt8.ofNat (6 + v)

/-- `static_cast<AttemptState>(byte)`. -/
def AttemptState.ofUInt8 (b : UInt8) : AttemptState :=
  [dispatched, started, succeeded, failed, cancelled, lost].getD b.toNat
    (unlisted (Fin.ofNat 250 (b.toNat - 6)))

inductive FailureKind where
  | none | executorFailed | nodeLost | timeout | cancelled | invalidOutput | cudaError | preempted
  | internal | unlisted (v : Fin 247)
deriving DecidableEq, Inhabited

def FailureKind.toUInt8 : FailureKind → UInt8
  | none => 0
  | executorFailed => 1
  | nodeLost => 2
  | timeout => 3
  | cancelled => 4
  | invalidOutput => 5
  | cudaError => 6
  | preempted => 7
  | internal => 8
  | unlisted v => UInt8.ofNat (9 + v)

/-- `static_cast<FailureKind>(byte)`. -/
def FailureKind.ofUInt8 (b : UInt8) : FailureKind :=
  match b with
  | 0 => none
  | 1 => executorFailed
  | 2 => nodeLost
  | 3 => timeout
  | 4 => cancelled
  | 5 => invalidOutput
  | 6 => cudaError
  | 7 => preempted
  | 8 => internal
  | b => unlisted (Fin.ofNat 247 (b.toNat - 9))

/-- One execution attempt. `attemptNumber` is 0-based within the task's lineage; `committed` records that
    the coordinator committed the completion. -/
structure ExecutionAttempt (D : Type) where
  id : ExecutionAttemptId
  taskId : ComputeTaskId
  nodeId : NodeId
  nodeSession : NodeSessionId
  coordinatorEpoch : CoordinatorEpoch
  reservationId : ReservationId
  executor : ExecutorType
  attemptNumber : UInt32
  dispatchedAtMs : Int64
  startedAtMs : Int64
  completedAtMs : Int64
  state : AttemptState
  failureKind : FailureKind
  failureReason : Text
  outputSize : UInt64
  outputIntegrity : Text
  cpuMillis : D
  bytesTransferred : UInt64
  device : Text
  committed : Bool

/-- The attempt is handed out and not finished: `Started` or `Dispatched`. -/
def ExecutionAttempt.isOutstanding {D : Type} (a : ExecutionAttempt D) : Bool :=
  a.state = .started || a.state = .dispatched

/-- Outstanding and not committed: the attempt still carries execution authority. -/
def ExecutionAttempt.isLive {D : Type} (a : ExecutionAttempt D) : Bool :=
  !a.committed && a.isOutstanding

end ComputeFabric
