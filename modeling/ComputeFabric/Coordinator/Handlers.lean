import ComputeFabric.Coordinator.State

/-!
# `Coordinator.Handlers` — one function for each core command

The handlers of `coordinator.cpp`, each a function from the state before the command to the state after it.
`conn` and `requestId` are the connection a command arrived on and its frame's request id; a client command
also carries the id the client connection was accepted under.

`handle_dispatch_ack` is left out: no reader ever enqueues a `DispatchAck` command.
-/

namespace ComputeFabric

namespace Coordinator

variable {D : Type}

/-! ## Node registration and heartbeat -/

/-- The record of a node that is registered on this connection right now. -/
def currentSession (s : Coordinator D) (conn : ConnId) (n : NodeId) : Option (NodeRecord D) :=
  s.nodes[n]?.filter fun node => node.connected && s.nodeConns[n]? = some conn

/-- `handle_node_register`. -/
def handleNodeRegister (env : Env) (conn : ConnId) (requestId : UInt64) (reg : NodeRegister D)
    (s : Coordinator D) : Coordinator D :=
  if s.isStopped conn then s
  else
    let existing := s.nodes[reg.nodeId]?
    let old := s.nodeConns[reg.nodeId]?
    match s.currentSession conn reg.nodeId with
    | some node =>
        -- replay on the current connection: the established session is returned
        s.queueOutbound env conn requestId (.nodeRegisterAck
          { nodeId := reg.nodeId
            sessionId := node.session
            coordinatorEpoch := s.durable.epoch
            sessionEpoch := node.sessionEpoch })
    | none =>
        let s := match old with
          | some c => if c ≠ conn then s.stopConnection c else s
          | none => s
        let node : NodeRecord D :=
          { id := reg.nodeId
            session := s.nextId env
            epoch := s.durable.epoch
            sessionEpoch := (existing.map fun node => node.sessionEpoch + 1).getD 1
            health := .online
            capacity := reg.capacity
            lastHeartbeatMs := s.now env
            registerMs := s.tick.now env
            connected := true }
        let s := s.tick.tick.onLedger fun l => l.registerNode node
        let s := { s with
          nodeConns := s.nodeConns.insert reg.nodeId conn
          connSession := s.connSession.insert conn node.session }
        s.queueOutbound env conn requestId (.nodeRegisterAck
          { nodeId := reg.nodeId
            sessionId := node.session
            coordinatorEpoch := s.durable.epoch
            sessionEpoch := node.sessionEpoch })

/-- The error a heartbeat is refused with, if any. -/
def heartbeatError (s : Coordinator D) (hb : NodeHeartbeat) : Option Text :=
  match s.nodes[hb.nodeId]? with
  | none => some (text "unknown node")
  | some node =>
      if node.session ≠ hb.sessionId ∨ node.sessionEpoch ≠ hb.sessionEpoch then
        some (text "stale session; re-register")
      else if hb.coordinatorEpoch ≠ s.durable.epoch then
        some (text "stale coordinator epoch; re-register")
      else none

/-- `handle_node_heartbeat`. -/
def handleNodeHeartbeat (env : Env) (conn : ConnId) (requestId : UInt64) (hb : NodeHeartbeat)
    (s : Coordinator D) : Coordinator D :=
  match s.heartbeatError hb with
  | some err => s.queueOutbound env conn requestId (.nodeHeartbeatAck false err)
  | none =>
      let time := s.now env
      let s := s.tick.onLedger fun l =>
        l.updateNode hb.nodeId fun node => { node with lastHeartbeatMs := time, health := .online }
      s.queueOutbound env conn requestId (.nodeHeartbeatAck true [])

/-- The `NodeShutdownMsg` case of `process`. -/
def handleNodeShutdown (env : Env) (conn : ConnId) (requestId : UInt64) (n : NodeId)
    (s : Coordinator D) : Coordinator D :=
  if s.nodeConns[n]? = some conn then
    (s.queueOutbound env conn requestId (.nodeShutdownAck true)).stopConnection conn
  else s

/-- `handle_node_disconnect`. -/
def handleNodeDisconnect (env : Env) (conn : ConnId) (n : NodeId) (s : Coordinator D) :
    Coordinator D :=
  if s.nodeConns[n]? = some conn then
    let s := { s with nodeConns := s.nodeConns.erase n }
    match s.nodes[n]? with
    | none => s
    | some node =>
        if node.health = .offline then s
        else
          let time := s.now env - env.heartbeatTimeoutMs + 100
          s.tick.onLedger fun l =>
            l.updateNode n fun node => { node with connected := false, lastHeartbeatMs := time }
  else s

/-! ## Attempts -/

/-- `handle_attempt_started`. -/
def handleAttemptStarted (env : Env) (st : AttemptStarted) (s : Coordinator D) : Coordinator D :=
  match s.findActiveAttempt st.attemptId with
  | none => s
  | some (p, a) =>
      if a.coordinatorEpoch ≠ s.durable.epoch then s
      else (s.onLedger fun l => l.startAttempt p a st).persist env

/-- The validation of `handle_attempt_complete`: the reason a completion is refused for, before the
    cancellation check. -/
def completionError (s : Coordinator D) (a : ExecutionAttempt D) (co : AttemptComplete D) :
    Option String :=
  if a.coordinatorEpoch ≠ s.durable.epoch then some "stale coordinator epoch"
  else if !a.isOutstanding then some "attempt not active"
  else if a.reservationId ≠ co.reservationId then some "reservation token mismatch"
  else if s.graph.state a.taskId ≠ .running ∧ s.graph.state a.taskId ≠ .dispatching then
    some "task lifecycle invalid for completion"
  else none

/-- The promotion of `on_task_succeeded_recursive`: a blocked dependent whose dependencies have all
    succeeded becomes ready. -/
def unblockTask (env : Env) (s : Coordinator D) (dep : ComputeTaskId) : Coordinator D :=
  if s.graph.state dep = .blocked ∧ s.graph.dependenciesSatisfied dep = true then
    let time := s.now env
    s.tick.onLedger fun l => l.unblockTask dep time
  else s

/-- `on_task_succeeded_recursive`. The recursion descends along dependents; `fuel` bounds its depth and
    exceeds the number of tasks wherever the handlers call it. -/
def onTaskSucceededRecursive (env : Env) : Nat → ComputeTaskId → Coordinator D → Coordinator D
  | 0, _, s => s
  | fuel + 1, id, s =>
      (s.graph.dependentsOf id).foldl (fun s dep =>
        let s := s.unblockTask env dep
        if s.graph.dependencyPoisoned dep = true ∧
            (s.graph.state dep = .blocked ∨ s.graph.state dep = .submitted) then
          let s := s.onLedger fun l => (l.setState dep .lost).setState dep .failed
          onTaskSucceededRecursive env fuel dep s
        else s) s

/-- The scheduler history entry of a committed attempt. -/
def recordCompletion [DoubleArith D] (a : ExecutionAttempt D) (co : AttemptComplete D)
    (s : Coordinator D) : Coordinator D :=
  match s.graph.find a.taskId with
  | none => s
  | some task =>
      { s with
        scheduler := s.scheduler.recordHistory ⟨task.taskClass, a.executor, a.nodeId⟩
          (co.durationMs / 1000.0) true co.bytesTransferred }

/-- `handle_attempt_complete`. -/
def handleAttemptComplete [DoubleArith D] (env : Env) (conn : ConnId) (requestId : UInt64)
    (co : AttemptComplete D) (s : Coordinator D) : Coordinator D :=
  let reply (accepted : Bool) (error : Text) (s : Coordinator D) : Coordinator D :=
    s.queueOutbound env conn requestId (.attemptCompleteAck ⟨co.attemptId, accepted, error⟩)
  match s.findActiveAttempt co.attemptId with
  | none => reply false (text "stale_attempt") s
  | some (p, a) =>
      if a.committed then reply true [] s
      else if s.isCancelRequested a.taskId then
        -- overrides any other reason for refusal
        let time := s.now env
        let s := s.tick.onLedger fun l => l.abandonAttempt p a time
        reply false (text "task cancelled") (s.persist env)
      else match s.completionError a co with
        | some reason => reply false (text reason) s
        | none =>
            let time := s.now env
            let s := s.tick.onLedger fun l => l.commitAttempt p a co time
            let s := s.recordCompletion a co
            let s := reply true [] s
            let s := onTaskSucceededRecursive env (s.graph.tasks.size + 1) a.taskId s
            s.persist env

/-- `can_retry` of `handle_attempt_failed`. -/
def canRetry (task : ComputeTask D) (a : ExecutionAttempt D) (kind : FailureKind) : Bool :=
  task.retry.maxAttempts > 1 &&
  a.attemptNumber + 1 < task.retry.maxAttempts &&
  (kind ≠ .nodeLost || task.retry.retryOnNodeLoss) &&
  (kind ≠ .executorFailed || task.retry.retryOnExecutorFailure)

/-- The time to retry a failed attempt at, if it may be retried. -/
def retryAfter (env : Env) (s : Coordinator D) (a : ExecutionAttempt D) (kind : FailureKind) :
    Option Int64 :=
  match s.graph.find a.taskId with
  | none => none
  | some task => if canRetry task a kind then some (s.retryTime env task) else none

/-- `handle_attempt_failed`. -/
def handleAttemptFailed (env : Env) (conn : ConnId) (requestId : UInt64) (fa : AttemptFailed D)
    (s : Coordinator D) : Coordinator D :=
  let reply (accepted : Bool) (error : Text) (s : Coordinator D) : Coordinator D :=
    s.queueOutbound env conn requestId (.attemptFailedAck ⟨fa.attemptId, accepted, error⟩)
  match s.findActiveAttempt fa.attemptId with
  | none => reply false (text "stale_attempt") s
  | some (p, a) =>
      if a.coordinatorEpoch ≠ s.durable.epoch then s
      else if a.state = .succeeded ∨ a.committed then s
      else
        let kind := FailureKind.ofUInt8 fa.failureKind
        let time := s.now env
        let s := s.tick
        let retryAt := s.retryAfter env a kind
        let s := s.tickIf (retryAt.isSome && s.graph.state a.taskId ≠ .succeeded)
        let s := s.onLedger fun l => l.failAttempt p a kind fa.failureReason time retryAt
        (reply true [] s).persist env

/-- `handle_attempt_cancelled`. -/
def handleAttemptCancelled (env : Env) (ca : AttemptCancelled) (s : Coordinator D) : Coordinator D :=
  match s.findActiveAttempt ca.attemptId with
  | none => s
  | some (p, a) =>
      if a.coordinatorEpoch ≠ s.durable.epoch then s
      else
        let time := s.now env
        (s.tick.onLedger fun l => l.cancelAttempt p a ca time).persist env

/-- `handle_reservation_release`: always acknowledged. -/
def handleReservationRelease (env : Env) (conn : ConnId) (requestId : UInt64)
    (rel : ReservationRelease) (s : Coordinator D) : Coordinator D :=
  let s := match s.reservations[rel.reservationId]? with
    | some r =>
        if r.coordinatorEpoch = s.durable.epoch then
          s.onLedger fun l => l.releaseReservation rel.reservationId
        else s
    | none => s
  s.queueOutbound env conn requestId (.reservationReleaseAck rel.reservationId true)

/-! ## Client commands that change state -/

/-- The locality facts a submission carries. -/
def registerLocality (task : ComputeTask D) (reg : StateLocalityRegistry D) :
    StateLocalityRegistry D :=
  task.stateDependencies.foldl (fun reg dep => reg.upsert
    { stateId := dep.stateId
      generation := dep.generation
      sizeBytes := dep.sizeBytes
      residentNodes := dep.residentNodes
      localityQuality := dep.localityQuality
      transferEstimateSeconds := dep.transferEstimateSeconds
      recomputeEstimateSeconds := dep.recomputeEstimateSeconds
      compatibility := [] }) reg

/-- The workload record is created by the first submission that names it. -/
def recordWorkload (id : WorkloadId) (name : Text) (d : DurableState D) : DurableState D :=
  if d.workloads.contains id then d
  else { d with workloads := d.workloads.insert id { id := id, name := name } }

/-- The accepted branch of `handle_task_submit`; `graph` is the graph after `add_task`. -/
def acceptTask (env : Env) (submit : TaskSubmit D) (graph : TaskGraph D) (s : Coordinator D) :
    Coordinator D :=
  let time := s.now env
  let s := { s with
    durable := recordWorkload submit.workloadId submit.workloadName s.durable
    stateLocality := registerLocality submit.task s.stateLocality }
  (s.tick.onLedger fun l => l.submitTask graph submit.task time).persist env

/-- `handle_task_submit`. -/
def handleTaskSubmit (env : Env) (client : Id128) (conn : ConnId) (requestId : UInt64)
    (submit : TaskSubmit D) (s : Coordinator D) : Coordinator D :=
  let task := submit.task
  let reply (accepted : Bool) (error : Text) (s : Coordinator D) : Coordinator D :=
    s.respondClient env client conn requestId (.taskSubmitResponse
      { accepted := accepted, taskId := task.id, error := error })
  if s.graph.hasTask task.id then reply true [] s
  else if s.stopping then reply false (text "coordinator shutting down") s
  else if task.id.isZero then reply false (text "task id must be nonzero") s
  else match task.dependencies.find? fun d => !s.graph.hasTask d with
    | some d => reply false (text "missing dependency: " ++ d.toHex) s
    | none =>
        match s.graph.addTask task with
        | (g, .error e) => reply false e.message { s with graph := g }
        | (g, .ok ()) => reply true [] (s.acceptTask env submit g)

/-- The attempt `handle_task_cancel` forwards the request to. -/
def outstandingAttempt (s : Coordinator D) (t : ComputeTaskId) : Option (ExecutionAttempt D) :=
  (s.attemptsOf t).find? fun a => a.isOutstanding

/-- `handle_task_cancel`. -/
def handleTaskCancel (env : Env) (client : Id128) (conn : ConnId) (requestId : UInt64)
    (t : ComputeTaskId) (s : Coordinator D) : Coordinator D :=
  let reply (found cancelled : Bool) (error : Text) (s : Coordinator D) : Coordinator D :=
    s.respondClient env client conn requestId (.taskCancelResponse ⟨found, cancelled, error⟩)
  match s.graph.find t with
  | none => reply false false (text "task not found") s
  | some _ =>
      let st := s.graph.state t
      if st.isTerminal then reply true false (text ("task already " ++ st.name)) s
      else if st = .running then
        let s := s.onLedger fun l => (l.requestCancel t).touchAttempts t
        let s := match s.outstandingAttempt t with
          | some a => s.sendToNode env a.nodeId (.attemptCancel a.id (text "task cancelled by client"))
          | none => s
        reply true true (text "cancel requested; will take effect cooperatively") s
      else match s.graph.setState t .cancelled with
        | .error e => reply true false e.message s
        | .ok _ => reply true true [] ((s.onLedger fun l => l.cancelTask t).persist env)

/-- `handle_node_drain`. -/
def handleNodeDrain (env : Env) (client : Id128) (conn : ConnId) (requestId : UInt64)
    (drain : NodeDrain) (s : Coordinator D) : Coordinator D :=
  let reply (found accepted : Bool) (error : Text) (s : Coordinator D) : Coordinator D :=
    s.respondClient env client conn requestId (.nodeDrainResponse ⟨found, accepted, error⟩)
  match s.nodes[drain.nodeId]? with
  | none => reply false false (text "node not found") s
  | some node =>
      if node.health = .offline then reply true false (text "node offline") s
      else
        reply true true [] (s.onLedger fun l => l.updateNode drain.nodeId fun node =>
          { node with health := if drain.drain then .draining else .online })

/-- The loop body of `handle_coordinator_shutdown`: a connected node is asked to exit. -/
def askToExit (env : Env) (s : Coordinator D) (entry : NodeId × ConnId) : Coordinator D :=
  if s.isStopped entry.2 = false ∧ (s.nodes[entry.1]?.map fun node => node.connected) = some true then
    s.sendToNode env entry.1 (.nodeShutdown entry.1 (s.connSession[entry.2]?.getD {}))
  else s

/-- `handle_coordinator_shutdown`: the nodes are asked to exit, then the core is told to stop. -/
def handleCoordinatorShutdown (env : Env) (client : Id128) (conn : ConnId) (requestId : UInt64)
    (s : Coordinator D) : Coordinator D :=
  let s := s.respondClient env client conn requestId (.coordinatorShutdownResponse true)
  let s := s.nodeConns.toList.foldl (askToExit env) s
  s.requestStop.persist env

/-! ## Client queries -/

def listEntry (g : TaskGraph D) (id : ComputeTaskId) (task : ComputeTask D) : TaskListEntry where
  taskId := id
  name := task.name
  state := g.state id
  taskClass := task.taskClass
  priority := task.priority

/-- `handle_task_inspect`. Reading `attempts_[id]` creates the list, which a later save counts. -/
def handleTaskInspect (env : Env) (client : Id128) (conn : ConnId) (requestId : UInt64)
    (t : ComputeTaskId) (s : Coordinator D) : Coordinator D :=
  match s.graph.find t with
  | none =>
      s.respondClient env client conn requestId (.taskInspectResponse
        { found := false, taskId := t, error := text "task not found" })
  | some task =>
      (s.onLedger fun l => l.touchAttempts t).respondClient env client conn requestId
        (.taskInspectResponse
          { found := true
            taskId := t
            name := task.name
            taskClass := task.taskClass
            state := s.graph.state t
            attempts := s.attemptsOf t
            retryCount := UInt32.ofNat (s.attemptsOf t).length
            workloadIdHex := task.workload.toHex })

/-- `parse_task_state`. -/
def parseTaskState (name : Text) : Option TaskState :=
  TaskState.all.find? fun st => text st.name = name

/-- `handle_task_list`: an unknown filter is ignored. -/
def handleTaskList (env : Env) (client : Id128) (conn : ConnId) (requestId : UInt64) (filter : Text)
    (s : Coordinator D) : Coordinator D :=
  let wanted := if filter.isEmpty then none else parseTaskState filter
  let entries := s.graph.tasks.toList.map fun entry => listEntry s.graph entry.1 entry.2
  let tasks := entries.filter fun e => wanted.all fun st => e.state = st
  s.respondClient env client conn requestId (.taskListResponse tasks)

/-- `handle_workload_inspect`. -/
def handleWorkloadInspect (env : Env) (client : Id128) (conn : ConnId) (requestId : UInt64)
    (w : WorkloadId) (s : Coordinator D) : Coordinator D :=
  match s.durable.workloads[w]? with
  | none =>
      s.respondClient env client conn requestId (.workloadInspectResponse
        { found := false, workloadId := w, error := text "workload not found" })
  | some wl =>
      let members := s.graph.tasks.toList.filter fun entry => entry.2.workload = w
      s.respondClient env client conn requestId (.workloadInspectResponse
        { found := true
          workloadId := w
          name := wl.name
          tasks := members.map fun entry => listEntry s.graph entry.1 entry.2 })

/-- One entry of the node listings. -/
def nodeStatus (s : Coordinator D) (id : NodeId) (node : NodeRecord D) : NodeStatusEntry where
  nodeId := id
  label := node.capacity.label
  address := node.capacity.address
  health := node.health
  connected := node.connected
  cpuSlots := node.capacity.cpuWorkerSlots.toUInt32
  cpuUsed := s.reservations.usedSlots id .cpu
  sessionEpoch := node.sessionEpoch
  executors := node.capacity.executors.map fun cap =>
    cap.name ++ text ":" ++ text (toString cap.slots)

/-- `handle_fabric_status`. -/
def handleFabricStatus (env : Env) (client : Id128) (conn : ConnId) (requestId : UInt64)
    (s : Coordinator D) : Coordinator D :=
  let states := s.graph.taskIds.map s.graph.state
  s.respondClient env client conn requestId (.fabricStatusResponse
    { coordinatorEpoch := s.durable.epoch
      policy := text env.policy.name
      nodeCount := UInt32.ofNat (s.nodes.values.countP fun node => node.connected)
      taskCount := UInt32.ofNat s.graph.tasks.size
      runningCount := UInt32.ofNat (states.countP fun st => st = .running)
      reservedCount := UInt32.ofNat s.reservations.activeCount
      completedCount := UInt32.ofNat (states.countP fun st => st.isTerminal)
      nodes := s.nodes.toList.map fun entry => s.nodeStatus entry.1 entry.2 })

/-- `handle_placement_query`. -/
def handlePlacementQuery [DoubleArith D] (env : Env) (client : Id128) (conn : ConnId)
    (requestId : UInt64) (task : ComputeTask D) (s : Coordinator D) : Coordinator D :=
  s.respondClient env client conn requestId (.placementResponse true
    (s.scheduler.place task s.nodes s.reservations s.stateLocality))

/-- `handle_node_list`. -/
def handleNodeList (env : Env) (client : Id128) (conn : ConnId) (requestId : UInt64)
    (s : Coordinator D) : Coordinator D :=
  s.respondClient env client conn requestId (.nodeListResponse
    (s.nodes.toList.map fun entry => s.nodeStatus entry.1 entry.2))

end Coordinator

end ComputeFabric
