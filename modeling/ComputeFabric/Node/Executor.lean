import ComputeFabric.Node.Workloads
import ComputeFabric.Resource.Reservation

/-!
# `Node.Executor` — the CPU executor

`CpuExecutorBackend`: a bounded queue of work and a fixed number of worker threads. A worker takes the oldest
work item, announces the start, looks at the attempt's cancellation token once and then runs the kernel,
which looks at it again. What it hands back is an `AttemptOutcome`.

- `cancelledOutcome` — the token was requested before the kernel was entered: state `Cancelled`.
- `kernelOutcome` — the kernel was entered. A kernel that then sees the request *fails*, with
  `FailureKind::Cancelled`.

`cancel_attempt` and the table of tokens that serves it are left out: nothing calls it.
-/

namespace ComputeFabric

variable {D : Type}

/-- What an executor reports about an attempt. -/
structure AttemptOutcome (D : Type) where
  success : Bool := false
  state : AttemptState := .failed
  failureKind : FailureKind := .none
  failureReason : Text := []
  outputBytes : List UInt8 := []
  outputIntegrity : Text := []
  durationMs : D
  bytesTransferred : UInt64 := 0
  device : Text := []
  notes : List Text := []

/-- The work of one dispatch. `token` numbers the `CancellationToken` made for it. -/
structure AttemptWork (D : Type) where
  task : ComputeTask D
  attemptId : ExecutionAttemptId
  reservationId : ReservationId
  token : Nat

/-- How far a worker is with its work item. -/
inductive WorkerPhase where
  | taken | started | executing | cancelled
deriving DecidableEq

structure Worker (D : Type) where
  work : AttemptWork D
  phase : WorkerPhase

/-- `CpuExecutorBackend`; `workers` are those that have a work item. -/
structure CpuExecutorBackend (D : Type) where
  motors : Int32
  stopping : Bool := false
  queue : List (AttemptWork D) := []
  workers : List (Worker D) := []

namespace CpuExecutorBackend

def create (workerSlots : Int32) : CpuExecutorBackend D where
  motors := if workerSlots > 0 then workerSlots else 1

def capability [DoubleArith D] (cpu : CpuExecutorBackend D) : ExecutorCapability D where
  type := .cpu
  name := text "cpu"
  slots := cpu.motors
  vendor := text "generic"
  architecture := text "x64"
  deviceName := text "cpu"
  relativeSpeed := 1.0
  healthy := true
  deviceIds := [0]

/-- `can_execute`. -/
def canExecute (cpu : CpuExecutorBackend D) (task : ComputeTask D) : Bool :=
  (task.requiredExecutor = .cpu || task.requiredExecutor = .any) && isSupportedCpuKernel task.kernel &&
    task.requiredCpuSlots ≤ cpu.motors.toUInt32

/-- `enqueue`. -/
def enqueue (cpu : CpuExecutorBackend D) (work : AttemptWork D) : Except Error (CpuExecutorBackend D) :=
  if cpu.stopping then .error ⟨.shuttingDown, text "cpu executor shutting down"⟩
  else if cpu.queue.length ≥ 1024 then .error ⟨.noCapacity, text "cpu executor queue full"⟩
  else .ok { cpu with queue := cpu.queue ++ [work] }

/-- The first half of `worker_loop`: an idle worker takes the oldest item. -/
def take (cpu : CpuExecutorBackend D) : Option (CpuExecutorBackend D) :=
  match cpu.queue with
  | [] => none
  | work :: rest =>
      if cpu.workers.length < cpu.motors.toNatClampNeg then
        some { cpu with queue := rest, workers := cpu.workers ++ [⟨work, .taken⟩] }
      else none

/-- Worker `i` moves on. -/
def setPhase (cpu : CpuExecutorBackend D) (i : Nat) (phase : WorkerPhase) : CpuExecutorBackend D :=
  { cpu with workers := cpu.workers.modify i fun w => { w with phase := phase } }

/-- Worker `i` is idle again. -/
def release (cpu : CpuExecutorBackend D) (i : Nat) : CpuExecutorBackend D :=
  { cpu with workers := cpu.workers.eraseIdx i }

/-- The branch of `run_one` that finds the token requested. -/
def cancelledOutcome (durationMs : D) : AttemptOutcome D where
  state := .cancelled
  failureKind := .cancelled
  failureReason := text "cancelled before execution"
  durationMs := durationMs
  device := text "cpu"

/-- The branch of `run_one` that runs the kernel. -/
def kernelOutcome (task : ComputeTask D) (seenAt : Option Nat) (durationMs : D) : AttemptOutcome D :=
  let wr := runCpuKernel task seenAt
  if wr.success then
    { success := true
      state := .succeeded
      outputBytes := wr.output
      outputIntegrity := wr.checksumHex
      durationMs := durationMs
      bytesTransferred := wr.bytesProcessed
      device := text "cpu"
      notes := [wr.notes] }
  else
    { state := .failed
      failureKind := if wr.notes = text "cancelled" then .cancelled else .executorFailed
      failureReason := wr.notes
      durationMs := durationMs
      device := text "cpu" }

/-- An attempt ends as `Cancelled` only if the kernel was never entered. -/
theorem kernelOutcome_state_ne_cancelled (task : ComputeTask D) (seenAt : Option Nat) (durationMs : D) :
    (kernelOutcome task seenAt durationMs).state ≠ .cancelled := by
  unfold kernelOutcome
  dsimp only
  split_ifs <;> simp

end CpuExecutorBackend

end ComputeFabric
