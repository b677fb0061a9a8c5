import ComputeFabric.Persist.Format
import ComputeFabric.Protocol.Messages
import ComputeFabric.Task.Dag

/-!
# `Coordinator.Ledger` — the books of the coordinator core

The members of `Coordinator` that say who may run what: the task graph, the reservation registry, the node
records, the attempt lists, the timers, the cancel requests and the task → reservation index. Only the core
thread writes them.

- **Primitives.** `setState`, `releaseTaskReservation`, `updateAttempt`, `findActiveAttempt`: the operations
  the handlers are written with.
- **Transitions.** For each handler, the part that changes the books, in the order of the source. Lookups,
  validation, replies and saves stay with the handler; a clock reading is an argument.

`dispatchLog` records the `attempt.dispatch` telemetry events and `drawn` counts the calls of
`Id128::random`; both belong to the environment and survive a restart. `attempt_by_reservation_` and
`last_placements_` are written by the source and never read, so they are not kept.
-/

namespace ComputeFabric

structure Ledger (D : Type) where
  graph : TaskGraph D := {}
  reservations : ReservationRegistry := ∅
  nodes : IdMap (NodeRecord D) := ∅
  attempts : IdMap (List (ExecutionAttempt D)) := ∅
  retryReadyAtMs : IdMap Int64 := ∅
  readyAtMs : IdMap Int64 := ∅
  dispatchAtMs : IdMap Int64 := ∅
  cancelRequested : IdMap Bool := ∅
  taskReservation : IdMap ReservationId := ∅
  dispatchLog : List (ComputeTaskId × ExecutionAttemptId) := []
  drawn : Nat := 0

/-- An `ExecutionAttempt*` into `attempts_`: the key and the position in its list. -/
structure AttemptPtr where
  task : ComputeTaskId
  index : Nat
deriving DecidableEq

/-! ## Writes to an attempt record -/

namespace ExecutionAttempt

variable {D : Type}

/-- The writes of `handle_attempt_started`. -/
def markStarted (st : AttemptStarted) (a : ExecutionAttempt D) : ExecutionAttempt D :=
  { a with state := .started, startedAtMs := st.startedAtMs, device := st.device }

/-- The writes of a commit. -/
def markCommitted (co : AttemptComplete D) (now : Int64) (a : ExecutionAttempt D) :
    ExecutionAttempt D :=
  { a with
    state := .succeeded
    committed := true
    completedAtMs := now
    outputSize := co.outputSize
    outputIntegrity := co.outputIntegrity
    cpuMillis := co.durationMs
    bytesTransferred := co.bytesTransferred
    device := co.device }

/-- The writes of `handle_attempt_failed`. -/
def markFailed (kind : FailureKind) (reason : Text) (now : Int64) (a : ExecutionAttempt D) :
    ExecutionAttempt D :=
  { a with state := .failed, failureKind := kind, failureReason := reason, completedAtMs := now }

/-- The writes to an attempt that ends by cancellation. -/
def markCancelled (reason : Text) (now : Int64) (a : ExecutionAttempt D) : ExecutionAttempt D :=
  { a with
    state := .cancelled, failureKind := .cancelled, failureReason := reason, completedAtMs := now }

end ExecutionAttempt

namespace Ledger

variable {D : Type}

open ExecutionAttempt (markStarted markCommitted markFailed markCancelled)

/-! ## Primitives -/

/-- `attempts_[t]`, read. -/
def attemptsOf (l : Ledger D) (t : ComputeTaskId) : List (ExecutionAttempt D) :=
  l.attempts[t]?.getD []

/-- `cancel_requested_[t]`, read. The `false` that `operator[]` inserts for a missing key is not kept:
    the map is only ever read this way. -/
def isCancelRequested (l : Ledger D) (t : ComputeTaskId) : Bool :=
  l.cancelRequested[t]?.getD false

/-- The first attempt with this id in one list, with its position. -/
def findIn (id : ExecutionAttemptId) (list : List (ExecutionAttempt D)) :
    Option (Nat × ExecutionAttempt D) :=
  (list.zipIdx.find? fun entry => entry.1.id = id).map fun entry => (entry.2, entry.1)

/-- `find_active_attempt`: the first attempt with this id, in key order and then in list order. -/
def findActiveAttempt (l : Ledger D) (id : ExecutionAttemptId) :
    Option (AttemptPtr × ExecutionAttempt D) :=
  l.attempts.toList.findSome? fun entry =>
    (findIn id entry.2).map fun hit => (⟨entry.1, hit.1⟩, hit.2)

/-- `graph_.set_state(t, st)` with the result dropped. -/
def setState (l : Ledger D) (t : ComputeTaskId) (st : TaskState) : Ledger D :=
  { l with graph := l.graph.trySetState t st }

/-- `release_task_reservation`. -/
def releaseTaskReservation (l : Ledger D) (t : ComputeTaskId) : Ledger D :=
  match l.taskReservation[t]? with
  | none => l
  | some rid =>
      { l with
        reservations := l.reservations.tryRelease rid
        taskReservation := l.taskReservation.erase t }

/-- A write through an attempt pointer. -/
def updateAttempt (l : Ledger D) (p : AttemptPtr) (f : ExecutionAttempt D → ExecutionAttempt D) :
    Ledger D :=
  { l with attempts := l.attempts.modify p.task fun list => list.modify p.index f }

/-- `attempts_[t]` as an lvalue: creates an empty list for a task that has none. -/
def touchAttempts (l : Ledger D) (t : ComputeTaskId) : Ledger D :=
  { l with attempts := l.attempts.insert t (l.attemptsOf t) }

/-! ## Transitions of node messages -/

/-- `handle_node_register`: a new session under the registered id. -/
def registerNode (l : Ledger D) (node : NodeRecord D) : Ledger D :=
  { l with nodes := l.nodes.insert node.id node, drawn := l.drawn + 1 }

/-- A write to fields of a node record. -/
def updateNode (l : Ledger D) (n : NodeId) (f : NodeRecord D → NodeRecord D) : Ledger D :=
  { l with nodes := l.nodes.modify n f }

/-- `handle_attempt_started`, past its checks. -/
def startAttempt (l : Ledger D) (p : AttemptPtr) (a : ExecutionAttempt D) (st : AttemptStarted) :
    Ledger D :=
  (l.updateAttempt p (markStarted st)).setState a.taskId .running

/-- The commit of `handle_attempt_complete`. -/
def commitAttempt (l : Ledger D) (p : AttemptPtr) (a : ExecutionAttempt D) (co : AttemptComplete D)
    (now : Int64) : Ledger D :=
  let l := l.updateAttempt p (markCommitted co now)
  let l := l.setState a.taskId .succeeded
  let l := l.releaseTaskReservation a.taskId
  { l with cancelRequested := l.cancelRequested.erase a.taskId }

/-- A completion of a task whose cancellation was requested. -/
def abandonAttempt (l : Ledger D) (p : AttemptPtr) (a : ExecutionAttempt D) (now : Int64) : Ledger D :=
  let l := l.updateAttempt p (markCancelled (text "cancelled") now)
  let l := l.setState a.taskId .preempted
  l.releaseTaskReservation a.taskId

/-- `graph_.set_state(t, RetryPending)` with the time to retry at, or `graph_.set_state(t, Failed)`. -/
def retryOrFail (l : Ledger D) (t : ComputeTaskId) : Option Int64 → Ledger D
  | some time =>
      let l := l.setState t .retryPending
      { l with retryReadyAtMs := l.retryReadyAtMs.insert t time }
  | none => l.setState t .failed

/-- `handle_attempt_failed`, past its checks. `retryAt` is the time to retry at, when `can_retry` holds. -/
def failAttempt (l : Ledger D) (p : AttemptPtr) (a : ExecutionAttempt D) (kind : FailureKind)
    (reason : Text) (now : Int64) (retryAt : Option Int64) : Ledger D :=
  let current := l.graph.state a.taskId
  let l := l.updateAttempt p (markFailed kind reason now)
  let l := l.releaseTaskReservation a.taskId
  if current = .succeeded then l else l.retryOrFail a.taskId retryAt

/-- `handle_attempt_cancelled`, past its checks. -/
def cancelAttempt (l : Ledger D) (p : AttemptPtr) (a : ExecutionAttempt D) (ca : AttemptCancelled)
    (now : Int64) : Ledger D :=
  let l := l.updateAttempt p (markCancelled ca.reason now)
  let l := l.releaseTaskReservation a.taskId
  l.setState a.taskId .preempted

/-- `handle_reservation_release`, past its checks. -/
def releaseReservation (l : Ledger D) (rid : ReservationId) : Ledger D :=
  { l with reservations := l.reservations.tryRelease rid }

/-- One promotion of `on_task_succeeded_recursive`. -/
def unblockTask (l : Ledger D) (t : ComputeTaskId) (now : Int64) : Ledger D :=
  let l := l.setState t .ready
  { l with readyAtMs := l.readyAtMs.insert t now }

/-! ## Transitions of client commands -/

/-- The state a task is submitted in. -/
def initialState (task : ComputeTask D) : TaskState :=
  if task.dependencies.isEmpty then .ready else .blocked

/-- An accepted submission: `graph` is the graph after `add_task`. -/
def submitTask (l : Ledger D) (graph : TaskGraph D) (task : ComputeTask D) (now : Int64) : Ledger D :=
  let l := { l with graph := graph }
  let l := l.setState task.id (initialState task)
  { l with readyAtMs := l.readyAtMs.insert task.id now }

/-- Cooperative cancellation of a running task. -/
def requestCancel (l : Ledger D) (t : ComputeTaskId) : Ledger D :=
  { l with cancelRequested := l.cancelRequested.insert t true }

/-- Cancellation of a task that is not running. -/
def cancelTask (l : Ledger D) (t : ComputeTaskId) : Ledger D :=
  let l := l.setState t .cancelled
  let l := l.releaseTaskReservation t
  { l with cancelRequested := l.cancelRequested.erase t }

/-! ## Transitions of a sweep -/

/-- The node half of `handle_node_loss`. -/
def dropNode (l : Ledger D) (n : NodeId) : Ledger D :=
  let l := l.updateNode n fun node => { node with health := .offline, connected := false }
  { l with reservations := l.reservations.releaseAllForNode n }

/-- The task half of `handle_node_loss`, for one affected task. -/
def loseTask (l : Ledger D) (t : ComputeTaskId) (retryAt : Option Int64) : Ledger D :=
  let l := l.setState t .lost
  let l := l.retryOrFail t retryAt
  l.releaseTaskReservation t

/-- The tasks `handle_node_loss` collects, once for every outstanding attempt on the node. -/
def affectedBy (l : Ledger D) (n : NodeId) : List ComputeTaskId :=
  l.attempts.toList.flatMap fun entry =>
    (entry.2.filter fun a => a.nodeId = n && a.isLive).map fun _ => entry.1

/-- A dispatch that timed out. -/
def timeoutDispatch (l : Ledger D) (t : ComputeTaskId) (now : Int64) : Ledger D :=
  let l := l.releaseTaskReservation t
  let l := l.setState t .ready
  { l with readyAtMs := l.readyAtMs.insert t now }

/-- The end of a retry backoff. -/
def requeueTask (l : Ledger D) (t : ComputeTaskId) (now : Int64) : Ledger D :=
  let l := l.setState t .ready
  { l with readyAtMs := l.readyAtMs.insert t now }

/-- A deadline that passed before the task was dispatched. -/
def expireTask (l : Ledger D) (t : ComputeTaskId) : Ledger D :=
  (l.releaseTaskReservation t).setState t .expired

/-- A granted reservation enters the registry. -/
def addReservation (l : Ledger D) (r : Reservation) : Ledger D :=
  { l with reservations := l.reservations.insert r.id r, drawn := l.drawn + 1 }

/-- `task_reservation_[t] = rid`. -/
def holdReservation (l : Ledger D) (t : ComputeTaskId) (rid : ReservationId) : Ledger D :=
  { l with taskReservation := l.taskReservation.insert t rid }

/-- The attempt `schedule_ready_tasks` creates for a reservation it was granted. -/
def newAttempt [DoubleArith D] (l : Ledger D) (t : ComputeTaskId) (node : NodeId)
    (session : NodeSessionId) (epoch : CoordinatorEpoch) (rid : ReservationId)
    (executor : ExecutorType) (device : Text) (id : ExecutionAttemptId) (now : Int64) :
    ExecutionAttempt D where
  id := id
  taskId := t
  nodeId := node
  nodeSession := session
  coordinatorEpoch := epoch
  reservationId := rid
  executor := executor
  attemptNumber := UInt32.ofNat (l.attemptsOf t).length
  dispatchedAtMs := now
  startedAtMs := 0
  completedAtMs := 0
  state := .dispatched
  failureKind := .none
  failureReason := []
  outputSize := 0
  outputIntegrity := []
  cpuMillis := 0.0
  bytesTransferred := 0
  device := device
  committed := false

/-- `attempts_[t].push_back(a)`, the dispatch time and the dispatch event. -/
def pushAttempt (l : Ledger D) (t : ComputeTaskId) (a : ExecutionAttempt D) : Ledger D :=
  { l with
    attempts := l.attempts.insert t (l.attemptsOf t ++ [a])
    dispatchAtMs := l.dispatchAtMs.insert t a.dispatchedAtMs
    dispatchLog := (t, a.id) :: l.dispatchLog
    drawn := l.drawn + 1 }

end Ledger

end ComputeFabric
