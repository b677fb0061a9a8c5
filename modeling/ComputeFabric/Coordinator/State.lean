import ComputeFabric.Lib.OrdMap
import ComputeFabric.Coordinator.Ledger

/-!
# `Coordinator.State` — the coordinator process and its environment

The state of one coordinator process: its ledger, the rest of the core-owned members, and what the process
has done to the outside world. The environment is a set of oracles — the clock, `Id128::random`, whether a
`Store::save` succeeds, whether an outbound queue is full — each consulted at a counter kept in the state,
so every run of the model is a function of the environment and of the events, and nothing is assumed about
the answers.

A connection is the number it was accepted under; a node and a client connection never share one.
-/

namespace ComputeFabric

/-- A `NodeConn` or `ClientConn` object. -/
abbrev ConnId := Nat

/-- The configuration the core reads, and the oracles. -/
structure Env where
  policy : SchedulerPolicy := .costAware
  heartbeatTimeoutMs : Int64 := 3000
  random : Nat → Id128
  nowMillis : Nat → Int64
  saveOk : Nat → Bool
  outboundFull : Nat → Bool

/-- What the process does to the outside world, besides telemetry. -/
inductive Effect (D : Type) where
  | queued (conn : ConnId) (requestId : UInt64) (m : Message D)
  | saved (d : DurableState D)
  | saveFailed

/-- What outlives a coordinator process: the store file, the logs and the positions in the oracles. -/
structure World (D : Type) where
  file : Option (DurableState D) := none
  effects : List (Effect D) := []
  dispatchLog : List (ComputeTaskId × ExecutionAttemptId) := []
  drawn : Nat := 0
  clockReads : Nat := 0
  saves : Nat := 0
  sends : Nat := 0

/-- One coordinator process. `effects` has the newest effect first. -/
structure Coordinator (D : Type) extends Ledger D where
  durable : DurableState D
  stateLocality : StateLocalityRegistry D := ∅
  scheduler : SchedulerPolicyEngine D
  placementRecords : IdMap (StoredPlacement D) := ∅
  placementSequence : UInt64 := 0
  nodeConns : IdMap ConnId := ∅
  clientConns : IdMap ConnId := ∅
  /-- `NodeConn::session`. -/
  connSession : Std.ExtTreeMap ConnId NodeSessionId compare := ∅
  /-- The connections whose `stop` flag is set. -/
  stopped : Std.ExtTreeSet ConnId compare := ∅
  stopping : Bool := false
  file : Option (DurableState D)
  effects : List (Effect D)
  clockReads : Nat
  saves : Nat
  sends : Nat

namespace Coordinator

variable {D : Type}

/-- The world the process leaves behind when it ends. -/
def world (s : Coordinator D) : World D where
  file := s.file
  effects := s.effects
  dispatchLog := s.dispatchLog
  drawn := s.drawn
  clockReads := s.clockReads
  saves := s.saves
  sends := s.sends

/-- Run a ledger transition. -/
def onLedger (s : Coordinator D) (f : Ledger D → Ledger D) : Coordinator D :=
  { s with toLedger := f s.toLedger }

/-- The value the next `now_millis()` returns. -/
def now (env : Env) (s : Coordinator D) : Int64 := env.nowMillis s.clockReads

/-- A `now_millis()` call was made. -/
def tick (s : Coordinator D) : Coordinator D := { s with clockReads := s.clockReads + 1 }

/-- A `now_millis()` call was made under the condition `c`. -/
def tickIf (c : Bool) (s : Coordinator D) : Coordinator D :=
  { s with clockReads := s.clockReads + c.toNat }

/-- The id the next `Id128::random()` returns. -/
def nextId (env : Env) (s : Coordinator D) : Id128 := env.random s.drawn

/-- `stopping_.store(true)`. -/
def requestStop (s : Coordinator D) : Coordinator D := { s with stopping := true }

/-! ## Connections -/

def isStopped (s : Coordinator D) (conn : ConnId) : Bool := s.stopped.contains conn

/-- `stop_connection`. -/
def stopConnection (s : Coordinator D) (conn : ConnId) : Coordinator D :=
  { s with stopped := s.stopped.insert conn }

/-- `queue_outbound`: a peer that cannot take the frame is disconnected. -/
def queueOutbound (env : Env) (conn : ConnId) (requestId : UInt64) (m : Message D)
    (s : Coordinator D) : Coordinator D :=
  if s.isStopped conn then s
  else if env.outboundFull s.sends then { s.stopConnection conn with sends := s.sends + 1 }
  else { s with effects := .queued conn requestId m :: s.effects, sends := s.sends + 1 }

/-- `send_to_node`: unsolicited, with request id 0, and dropped when the node has no live connection. -/
def sendToNode (env : Env) (n : NodeId) (m : Message D) (s : Coordinator D) : Coordinator D :=
  match s.nodeConns[n]? with
  | none => s
  | some conn => s.queueOutbound env conn 0 m

/-- `respond_client`: only while the client map still holds this connection. -/
def respondClient (env : Env) (client : Id128) (conn : ConnId) (requestId : UInt64) (m : Message D)
    (s : Coordinator D) : Coordinator D :=
  if s.clientConns[client]? = some conn then s.queueOutbound env conn requestId m else s

/-! ## Persistence -/

/-- `graph_states`. -/
def graphStates (g : TaskGraph D) : IdMap TaskState := g.tasks.map fun id _ => g.state id

/-- The attempts of one task that are saved; a task without committed attempts gets no entry. -/
def committedOnly (list : List (ExecutionAttempt D)) : Option (List (ExecutionAttempt D)) :=
  let kept := list.filter fun a => a.committed
  if kept.isEmpty then none else some kept

/-- `durable_` as `persist` rewrites it. The epoch and the workloads are kept up to date in place. -/
def snapshot (s : Coordinator D) : DurableState D :=
  { s.durable with
    tasks := s.graph.tasks
    taskStates := graphStates s.graph
    attempts := OrdMap.mapMaybe (fun _ list => committedOnly list) s.attempts
    retryCounts := s.attempts.map fun _ list => UInt32.ofNat list.length
    placements := s.placementRecords.values }

/-- `Coordinator::persist`: a failed save is logged and otherwise ignored. -/
def persist (env : Env) (s : Coordinator D) : Coordinator D :=
  if env.saveOk s.saves then
    { s with
      durable := s.snapshot
      file := some s.snapshot
      effects := .saved s.snapshot :: s.effects
      saves := s.saves + 1 }
  else
    { s with
      durable := s.snapshot
      effects := .saveFailed :: s.effects
      saves := s.saves + 1 }

/-! ## Start and recovery -/

/-- The graph rebuild of `start`, in id order. -/
def rebuild : List (ComputeTask D) → TaskGraph D → Except Error (TaskGraph D)
  | [], g => .ok g
  | task :: rest, g =>
      match g.addTask task with
      | (g', .ok ()) => rebuild rest g'
      | (_, .error e) => .error ⟨.corruptionDetected, e.message⟩

/-- The saved lifecycle states are written back without the transition check. -/
def restoreStates (states : IdMap TaskState) (g : TaskGraph D) : TaskGraph D :=
  states.toList.foldl (fun g e => if g.hasTask e.1 then g.restoreState e.1 e.2 else g) g

/-- Lost work of this task is retried. -/
def retriesNodeLoss (task : ComputeTask D) : Bool :=
  task.retry.retryOnNodeLoss && task.retry.maxAttempts > 1

/-- `now_millis() + static_cast<int64_t>(task.retry.retry_backoff_ms)`. -/
def retryTime (env : Env) (task : ComputeTask D) (s : Coordinator D) : Int64 :=
  s.now env + task.retry.retryBackoffMs.toInt64

/-- The second half of recovery: a lost task is requeued or failed. -/
def requeueOrFail (env : Env) (t : ComputeTaskId) (task : ComputeTask D) (s : Coordinator D) :
    Coordinator D :=
  if retriesNodeLoss task then
    let retryAt := s.retryTime env task
    s.tick.onLedger fun l => l.retryOrFail t (some retryAt)
  else s.onLedger fun l => l.retryOrFail t none

/-- Recovery of one task: work that was in progress is lost. -/
def recoverTask (env : Env) (s : Coordinator D) (task : ComputeTaskId × ComputeTask D) :
    Coordinator D :=
  if (s.graph.state task.1).isActive then
    match s.graph.setState task.1 .lost with
    | .error _ => s
    | .ok g => { s with graph := g }.requeueOrFail env task.1 task.2
  else s

/-- `Store::open` followed by `Store::load`: a missing file is first created with an empty state. -/
def openStore (env : Env) (w : World D) : Except Error (World D × DurableState D) :=
  match w.file with
  | some d => .ok (w, d)
  | none =>
      if env.saveOk w.saves then
        .ok ({ w with
          file := some {}
          effects := .saved {} :: w.effects
          saves := w.saves + 1 }, {})
      else .error ⟨.ioError, text "failed to write store file"⟩

/-- The number of the save in which `start` writes the bumped epoch. -/
def bumpSave (w : World D) : Nat := if w.file.isSome then w.saves else w.saves + 1

/-- The epoch bump of `start`. -/
def nextEpoch (epoch : CoordinatorEpoch) : CoordinatorEpoch := if epoch = 0 then 1 else epoch + 1

/-- The process after loading `d` and rebuilding the graph, before recovery. -/
def loaded [DoubleArith D] (env : Env) (w : World D) (d : DurableState D) (g : TaskGraph D) :
    Coordinator D where
  graph := restoreStates d.taskStates g
  attempts := d.attempts
  dispatchLog := w.dispatchLog
  drawn := w.drawn
  durable := { d with epoch := nextEpoch d.epoch }
  scheduler := { policy := env.policy, costModel := .default, history := [] }
  file := w.file
  effects := w.effects
  clockReads := w.clockReads
  saves := w.saves
  sends := w.sends

/-- `Coordinator::start`, with the listeners bound successfully. -/
def start [DoubleArith D] (env : Env) (w : World D) : Except Error (Coordinator D) :=
  match openStore env w with
  | .error e => .error e
  | .ok (w, d) =>
      match rebuild (d.tasks.toList.map Prod.snd) {} with
      | .error e => .error e
      | .ok g => .ok ((d.tasks.toList.foldl (recoverTask env) (loaded env w d g)).persist env)

end Coordinator

end ComputeFabric
