import ComputeFabric.Lib.Lts
import ComputeFabric.Coordinator.Handlers

/-!
# `Coordinator.Run` — the sweep, the core loop and whole runs

- **Sweep.** Heartbeat timeouts, dispatch timeouts, retry backoffs, deadlines and scheduling, in the order
  of `Coordinator::sweep`.
- **Process.** One `Command` for each kind the readers enqueue.
- **Runs.** The core thread takes commands one at a time and sweeps between them, in any order and at any
  time; connections may stop at any time; the process may end and be started again on the file it saved
  last. A run is a list of such events from the first start on an empty store.

The core loop's exit is not modelled: a run may go on after a shutdown request, so what is proved about all
runs covers those that end there.
-/

namespace ComputeFabric

namespace Coordinator

variable {D : Type}

/-! ## Node loss -/

/-- The nodes a sweep at time `time` declares lost. -/
def lostNodes (env : Env) (time : Int64) (s : Coordinator D) : List NodeId :=
  s.nodes.toList.flatMap fun entry =>
    let late := time - entry.2.lastHeartbeatMs > env.heartbeatTimeoutMs
    (if entry.2.connected ∧ late then [entry.1] else []) ++
    (if !entry.2.connected ∧ late ∧ entry.2.health ≠ .offline then [entry.1] else [])

/-- The loop body of `handle_node_loss`, for one affected task. -/
def loseTask (env : Env) (s : Coordinator D) (t : ComputeTaskId) : Coordinator D :=
  match s.graph.find t with
  | none => s
  | some task =>
      if retriesNodeLoss task then
        let retryAt := s.retryTime env task
        s.tick.onLedger fun l => l.loseTask t (some retryAt)
      else s.onLedger fun l => l.loseTask t none

/-- The control connection of a lost node is stopped. -/
def stopTransport (s : Coordinator D) (n : NodeId) (node : NodeRecord D) : Coordinator D :=
  if node.id = .zero then s
  else match s.nodeConns[n]? with
    | some conn => s.stopConnection conn
    | none => s

/-- `handle_node_loss`. -/
def handleNodeLoss (env : Env) (s : Coordinator D) (n : NodeId) : Coordinator D :=
  match s.nodes[n]? with
  | none => s
  | some node =>
      if node.health = .offline then s
      else
        let s := (s.stopTransport n node).onLedger fun l => l.dropNode n
        ((s.affectedBy n).foldl (loseTask env) s).persist env

/-! ## Timers -/

/-- `kDispatchTimeoutMs`. -/
def dispatchTimeoutMs : Int64 := 5000

/-- The dispatches a sweep at time `time` gives up. -/
def staleDispatches (time : Int64) (s : Coordinator D) : List ComputeTaskId :=
  (s.dispatchAtMs.toList.filter fun entry =>
    s.graph.state entry.1 = .dispatching && time - entry.2 > dispatchTimeoutMs).map Prod.fst

def timeoutDispatch (env : Env) (time : Int64) (s : Coordinator D) (t : ComputeTaskId) :
    Coordinator D :=
  (s.onLedger fun l => l.timeoutDispatch t time).persist env

/-- One round of the retry loop of `sweep`. -/
def requeueTask (env : Env) (time : Int64) (s : Coordinator D) (entry : ComputeTaskId × Int64) :
    Coordinator D :=
  if s.graph.state entry.1 = .retryPending ∧ entry.2 ≤ time then
    (s.onLedger fun l => l.requeueTask entry.1 time).persist env
  else s

/-- One round of the deadline loop of `sweep`. -/
def expireTask (env : Env) (time : Int64) (s : Coordinator D) (t : ComputeTaskId) : Coordinator D :=
  match s.graph.find t with
  | none => s
  | some task =>
      if task.hasDeadline then
        let st := s.graph.state t
        if (st = .ready ∨ st = .blocked ∨ st = .retryPending) ∧ time ≥ task.deadlineEpochMs then
          (s.onLedger fun l => l.expireTask t).persist env
        else s
      else s

/-! ## The phases of a sweep -/

section Phases

variable (env : Env) (time : Int64) (s : Coordinator D)

def lossPhase : Coordinator D := (s.lostNodes env time).foldl (handleNodeLoss env) s

def timeoutPhase : Coordinator D := (s.staleDispatches time).foldl (timeoutDispatch env time) s

def requeuePhase : Coordinator D := s.retryReadyAtMs.toList.foldl (requeueTask env time) s

def expirePhase : Coordinator D := s.graph.taskIds.foldl (expireTask env time) s

/-- The state the retry loop of a sweep goes over. -/
def beforeRequeue : Coordinator D :=
  (s.tick.lossPhase env (s.now env)).timeoutPhase env (s.now env)

/-- The state in which a sweep starts to schedule. -/
def timersDone : Coordinator D :=
  (((s.tick.lossPhase env (s.now env)).timeoutPhase env (s.now env)).requeuePhase env (s.now env)).expirePhase
    env (s.now env)

end Phases

/-! ## Scheduling -/

/-- The order of `schedule_ready_tasks`: priority, then time of readiness, then id. -/
def scheduledBefore (s : Coordinator D) (a b : ComputeTaskId × Int64) : Bool :=
  let pa := ((s.graph.find a.1).map ComputeTask.priority).getD .normal
  let pb := ((s.graph.find b.1).map ComputeTask.priority).getD .normal
  if pa ≠ pb then pa.toUInt8 < pb.toUInt8
  else if a.2 ≠ b.2 then a.2 < b.2
  else (compare a.1 b.1).isLT

/-- The ready tasks in scheduling order. -/
def readyTasks (s : Coordinator D) : List ComputeTaskId :=
  let ready := (s.graph.taskIds.filter fun t => s.graph.state t = .ready).map fun t =>
    (t, s.readyAtMs[t]?.getD 0)
  (ready.insertionSort fun a b => !s.scheduledBefore b a).map Prod.fst

/-- `placement_records_[t] = {t, ++placement_sequence_, decision}`. -/
def recordPlacement (t : ComputeTaskId) (decision : PlacementDecision D) (s : Coordinator D) :
    Coordinator D :=
  { s with
    placementSequence := s.placementSequence + 1
    placementRecords := s.placementRecords.insert t ⟨t, s.placementSequence + 1, decision⟩ }

variable [DoubleArith D]

/-- The end of the loop body of `schedule_ready_tasks`: the attempt is created and sent. -/
def dispatchAttempt (env : Env) (t : ComputeTaskId) (task : ComputeTask D) (nodeId : NodeId)
    (session : NodeSessionId) (executor : ExecutorType) (device : Text) (resv : Reservation)
    (s : Coordinator D) : Coordinator D :=
  let s := s.onLedger fun l => l.holdReservation t resv.id
  let a := s.toLedger.newAttempt t nodeId session s.durable.epoch resv.id executor device
    (s.nextId env) (s.now env)
  let s := s.tick.onLedger fun l => l.pushAttempt t a
  let s := s.sendToNode env nodeId (.dispatchAttempt
    { task := task
      attemptId := a.id
      reservationId := resv.id
      coordinatorEpoch := s.durable.epoch
      attemptNumber := a.attemptNumber })
  (s.onLedger fun l => l.setState t .dispatching).persist env

/-- The loop body of `schedule_ready_tasks` from the reservation on. -/
def reserveAndDispatch (env : Env) (t : ComputeTaskId) (task : ComputeTask D) (nodeId : NodeId)
    (node : NodeRecord D) (decision : PlacementDecision D) (s : Coordinator D) : Coordinator D :=
  let executor := decision.chosenExecutor.getD task.requiredExecutor
  let slots := SchedulerPolicyEngine.requiredSlots task executor
  match s.reservations.tryReserve node s.durable.epoch t executor slots task.scratchMemoryBytes
      (s.nextId env) (s.now env) with
  | (_, .error _) => s
  | (_, .ok resv) =>
      let s := s.tick.onLedger fun l => l.addReservation resv
      match s.graph.setState t .planning with
      | .error _ => s.onLedger fun l => l.releaseReservation resv.id
      | .ok g =>
          let s := { s with graph := g }
          match s.graph.setState t .reserved with
          | .error _ => s.onLedger fun l => l.releaseReservation resv.id
          | .ok g =>
              { s with graph := g }.dispatchAttempt env t task nodeId node.session executor
                decision.chosenDevice resv

/-- The placement of one ready task. -/
def placeTask (env : Env) (t : ComputeTaskId) (task : ComputeTask D) (s : Coordinator D) :
    Coordinator D :=
  let decision := s.scheduler.place task s.nodes s.reservations s.stateLocality
  let s := s.recordPlacement t decision
  if !decision.feasible then s
  else match decision.chosenNode with
    | none => s
    | some nodeId =>
        match s.nodes[nodeId]? with
        | none => s
        | some node =>
            if !node.connected then s else s.reserveAndDispatch env t task nodeId node decision

/-- The loop body of `schedule_ready_tasks`. -/
def scheduleTask (env : Env) (s : Coordinator D) (t : ComputeTaskId) : Coordinator D :=
  if s.stopping then s
  else match s.graph.find t with
    | none => s
    | some task =>
        if s.graph.state t ≠ .ready then s
        else if task.hasDeadline then
          if s.now env ≥ task.deadlineEpochMs then
            (s.tick.onLedger fun l => l.setState t .expired).persist env
          else s.tick.placeTask env t task
        else s.placeTask env t task

/-- `schedule_ready_tasks`. -/
def scheduleReadyTasks (env : Env) (s : Coordinator D) : Coordinator D :=
  s.readyTasks.foldl (scheduleTask env) s

/-- `Coordinator::sweep`. -/
def sweep (env : Env) (s : Coordinator D) : Coordinator D :=
  let time := s.now env
  let s := s.tick
  let s := (s.lostNodes env time).foldl (handleNodeLoss env) s
  let s := (s.staleDispatches time).foldl (timeoutDispatch env time) s
  let s := s.retryReadyAtMs.toList.foldl (requeueTask env time) s
  let s := s.graph.taskIds.foldl (expireTask env time) s
  s.scheduleReadyTasks env

end Coordinator

/-! ## Commands -/

/-- `CoreCommand`, as the readers enqueue them. -/
inductive Command (D : Type) where
  | nodeRegister (conn : ConnId) (requestId : UInt64) (reg : NodeRegister D)
  | nodeHeartbeat (conn : ConnId) (requestId : UInt64) (hb : NodeHeartbeat)
  | nodeShutdown (conn : ConnId) (requestId : UInt64) (n : NodeId)
  | nodeDisconnected (conn : ConnId) (n : NodeId)
  | attemptStarted (st : AttemptStarted)
  | attemptProgress (pr : AttemptProgress)
  | attemptComplete (conn : ConnId) (requestId : UInt64) (co : AttemptComplete D)
  | attemptFailed (conn : ConnId) (requestId : UInt64) (fa : AttemptFailed D)
  | attemptCancelled (ca : AttemptCancelled)
  | reservationRelease (conn : ConnId) (requestId : UInt64) (rel : ReservationRelease)
  | clientConnected (client : Id128) (conn : ConnId)
  | clientDisconnected (client : Id128) (conn : ConnId)
  | taskSubmit (client : Id128) (conn : ConnId) (requestId : UInt64) (submit : TaskSubmit D)
  | taskInspect (client : Id128) (conn : ConnId) (requestId : UInt64) (t : ComputeTaskId)
  | taskList (client : Id128) (conn : ConnId) (requestId : UInt64) (filter : Text)
  | taskCancel (client : Id128) (conn : ConnId) (requestId : UInt64) (t : ComputeTaskId)
  | workloadInspect (client : Id128) (conn : ConnId) (requestId : UInt64) (w : WorkloadId)
  | fabricStatus (client : Id128) (conn : ConnId) (requestId : UInt64)
  | placementQuery (client : Id128) (conn : ConnId) (requestId : UInt64) (task : ComputeTask D)
  | nodeList (client : Id128) (conn : ConnId) (requestId : UInt64)
  | nodeDrain (client : Id128) (conn : ConnId) (requestId : UInt64) (drain : NodeDrain)
  | coordinatorShutdown (client : Id128) (conn : ConnId) (requestId : UInt64)

namespace Coordinator

variable {D : Type}

/-- The `ClientConnected` case of `process`. -/
def handleClientConnected (client : Id128) (conn : ConnId) (s : Coordinator D) : Coordinator D :=
  if s.isStopped conn then s
  else
    let s := match s.clientConns[client]? with
      | some c => if c ≠ conn then s.stopConnection c else s
      | none => s
    { s with clientConns := s.clientConns.insert client conn }

/-- The `ClientDisconnected` case of `process`. -/
def handleClientDisconnected (client : Id128) (conn : ConnId) (s : Coordinator D) : Coordinator D :=
  if s.clientConns[client]? = some conn then { s with clientConns := s.clientConns.erase client }
  else s

variable [DoubleArith D]

/-- `Coordinator::process`. -/
def process (env : Env) (c : Command D) (s : Coordinator D) : Coordinator D :=
  match c with
  | .nodeRegister conn req reg => s.handleNodeRegister env conn req reg
  | .nodeHeartbeat conn req hb => s.handleNodeHeartbeat env conn req hb
  | .nodeShutdown conn req n => s.handleNodeShutdown env conn req n
  | .nodeDisconnected conn n => s.handleNodeDisconnect env conn n
  | .attemptStarted st => s.handleAttemptStarted env st
  | .attemptProgress _ => s
  | .attemptComplete conn req co => s.handleAttemptComplete env conn req co
  | .attemptFailed conn req fa => s.handleAttemptFailed env conn req fa
  | .attemptCancelled ca => s.handleAttemptCancelled env ca
  | .reservationRelease conn req rel => s.handleReservationRelease env conn req rel
  | .clientConnected client conn => s.handleClientConnected client conn
  | .clientDisconnected client conn => s.handleClientDisconnected client conn
  | .taskSubmit client conn req submit => s.handleTaskSubmit env client conn req submit
  | .taskInspect client conn req t => s.handleTaskInspect env client conn req t
  | .taskList client conn req filter => s.handleTaskList env client conn req filter
  | .taskCancel client conn req t => s.handleTaskCancel env client conn req t
  | .workloadInspect client conn req w => s.handleWorkloadInspect env client conn req w
  | .fabricStatus client conn req => s.handleFabricStatus env client conn req
  | .placementQuery client conn req task => s.handlePlacementQuery env client conn req task
  | .nodeList client conn req => s.handleNodeList env client conn req
  | .nodeDrain client conn req drain => s.handleNodeDrain env client conn req drain
  | .coordinatorShutdown client conn req => s.handleCoordinatorShutdown env client conn req

end Coordinator

/-! ## Runs -/

inductive Event (D : Type) where
  | command (c : Command D)
  | sweep
  /-- A peer closed, or a reader or writer failed. -/
  | connectionStopped (conn : ConnId)
  /-- `Coordinator::stop`, seen by the core. -/
  | stopRequested
  /-- The process ends, and a new one is started on the file saved last. -/
  | restart

/-- The event stays inside one coordinator process. -/
def Event.isLocal {D : Type} : Event D → Bool
  | restart => false
  | _ => true

namespace Coordinator

variable {D : Type} [DoubleArith D]

/-- The first start, on an empty store. -/
def boot (env : Env) : Option (Coordinator D) := (start env {}).toOption

/-- One event. Only a start that fails has no next state. -/
def step (env : Env) (s : Coordinator D) : Event D → Option (Coordinator D)
  | .command c => some (s.process env c)
  | .sweep => some (s.sweep env)
  | .connectionStopped conn => some (s.stopConnection conn)
  | .stopRequested => some s.requestStop
  | .restart => (start env s.world).toOption

/-- The state after the first start and a list of events. -/
def runFrom (env : Env) (s : Coordinator D) (events : List (Event D)) : Option (Coordinator D) :=
  Lts.run (step env) s events

def run (env : Env) (events : List (Event D)) : Option (Coordinator D) :=
  (boot env).bind fun s => runFrom env s events

end Coordinator

/-! ## A small fabric

The environment and the messages of the concrete runs in the safety modules: one node, one task, ids drawn
from a counter and a clock that jumps once. -/

namespace Demo

/-- Ids 1000, 1001, …; the clock stands at 0 for `jump` readings and at 10 s afterwards. -/
def env (heartbeatTimeoutMs : Int64) (jump : Nat) : Env where
  heartbeatTimeoutMs := heartbeatTimeoutMs
  random i := ⟨0, UInt64.ofNat (1000 + i)⟩
  nowMillis i := if i < jump then 0 else 10000
  saveOk _ := true
  outboundFull _ := false

def taskId : ComputeTaskId := ⟨0, 1⟩

def nodeId : NodeId := ⟨0, 7⟩

/-- The task retries up to `maxAttempts` attempts. -/
def task (maxAttempts : UInt32) : ComputeTask ℚ where
  id := taskId
  estimatedDurationSeconds := 0
  expectedTransferGb := 0
  expectedRecomputeCostSeconds := 0
  costEstimate := 0
  retry := { maxAttempts := maxAttempts }

def register (conn : ConnId) : Event ℚ :=
  .command (.nodeRegister conn 0 { nodeId := nodeId, capacity :=
    { cpuWorkerSlots := 4, executors := [{ slots := 4, relativeSpeed := 1 }] } })

def submit (maxAttempts : UInt32) : Event ℚ :=
  .command (.taskSubmit ⟨0, 9⟩ 2 0 { task := task maxAttempts })

def cancel : Event ℚ := .command (.taskCancel ⟨0, 9⟩ 2 0 taskId)

/-- The `n`-th id drawn. -/
def id (n : Nat) : Id128 := ⟨0, UInt64.ofNat (1000 + n)⟩

def started (n : Nat) : Event ℚ := .command (.attemptStarted { attemptId := id n })

def complete (n r : Nat) : Event ℚ :=
  .command (.attemptComplete 1 0
    { attemptId := id n, reservationId := id r, durationMs := 0, cpuMillis := 0 })

def failure (n : Nat) : Command ℚ := .attemptFailed 1 0 { attemptId := id n, durationMs := 0 }

def failed (n : Nat) : Event ℚ := .command (failure n)

def cancelled (n : Nat) : Event ℚ := .command (.attemptCancelled { attemptId := id n })

/-- The first ids are distinct. -/
theorem injOn_random (heartbeatTimeoutMs : Int64) (jump : Nat) {n : Nat} (hn : n ≤ 1000) :
    Set.InjOn (env heartbeatTimeoutMs jump).random (Set.Iio n) := by
  intro i hi j hj h
  rw [Set.mem_Iio] at hi hj
  have hlo := congrArg (fun id : Id128 => id.lo.toNat) h
  simp only [env, UInt64.toNat_ofNat'] at hlo
  omega

end Demo

end ComputeFabric
