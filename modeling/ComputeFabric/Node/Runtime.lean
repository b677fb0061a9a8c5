import ComputeFabric.Node.Executor
import ComputeFabric.Protocol.Messages

/-!
# `Node.Runtime` — the node process

`NodeRuntime` as a state machine. Its threads — the main thread that connects and registers, the reader of the
coordinator's frames, the heartbeat, the workers of the executor and the reporter of completions — share its
members; a `NodeEvent` is one step of one of them, and the steps come in any order.

A report and the release that follows it are sent one after the other by the same thread, and frames of other
threads may get between them. So a thread's frames first wait in `readerSends` or `reporterSends`, and leave
one at a time.

CUDA is off, as in the default configuration. The clock is read only to stamp what is sent, so the event
carries its value.
-/

namespace ComputeFabric

variable {D : Type}

/-- `NodeConfig`, what the modelled functions read of it. -/
structure NodeConfig where
  label : Text := []
  address : Text := []
  cpuSlots : Int32 := 2
  hostMemorySchedulingBytes : UInt64 := 8589934592
  tags : TextMap Text := ∅

/-- What a node puts on its connection. -/
inductive NodeFrame (D : Type) where
  | hello
  | nodeRegister (reg : NodeRegister D)
  | nodeHeartbeat (hb : NodeHeartbeat)
  | nodeShutdownAck (accepted : Bool)
  | attemptStarted (st : AttemptStarted)
  | attemptComplete (co : AttemptComplete D)
  | attemptFailed (fa : AttemptFailed D)
  | attemptCancelled (ca : AttemptCancelled)
  | reservationRelease (rel : ReservationRelease)

structure CompletionItem (D : Type) where
  attemptId : ExecutionAttemptId
  taskId : ComputeTaskId
  reservationId : ReservationId
  outcome : AttemptOutcome D

/-- Where `NodeRuntime::start` is. -/
inductive NodePhase where
  | idle | registering | running
deriving DecidableEq

structure NodeRuntime (D : Type) where
  config : NodeConfig
  nodeId : NodeId
  phase : NodePhase := .idle
  session : NodeSessionId := {}
  epoch : CoordinatorEpoch := 0
  sessionEpoch : SessionEpoch := 0
  /-- `channel_` is there and valid. -/
  channelOpen : Bool := false
  connected : Bool := false
  stopping : Bool := false
  cpu : CpuExecutorBackend D
  /-- `active_tokens_`: the number of the token of each attempt. -/
  activeTokens : IdMap Nat := ∅
  tokensMade : Nat := 0
  /-- The tokens whose cancellation is requested. -/
  requested : Std.ExtTreeSet Nat compare := ∅
  compQueue : List (CompletionItem D) := []
  readerSends : List (NodeFrame D) := []
  reporterSends : List (NodeFrame D) := []

/-- The thread whose next frame leaves. -/
inductive SendingThread where
  | reader | reporter
deriving DecidableEq

inductive NodeEvent (D : Type) where
  /-- A registration attempt is given up, on a timeout or an error. -/
  | abandon
  /-- The next frame of the coordinator is read. -/
  | receive
  /-- `recv_frame` fails. -/
  | channelFailed
  /-- A worker takes the oldest work item. -/
  | take
  /-- Worker `i` announces the start. -/
  | begin (i : Nat) (startedAtMs : Int64)
  /-- Worker `i` looks at the token before it enters the kernel. -/
  | check (i : Nat)
  /-- Worker `i` is done; `seenAt` is the iteration of the kernel from which the request is visible. -/
  | finish (i : Nat) (seenAt : Option Nat) (durationMs : D)
  /-- The reporter takes the oldest outcome. -/
  | report
  | send (thread : SendingThread)
  | heartbeat
  /-- `NodeRuntime::stop`. -/
  | stop

namespace NodeRuntime

def create (config : NodeConfig) (nodeId : NodeId) : NodeRuntime D where
  config := config
  nodeId := nodeId
  cpu := .create config.cpuSlots

/-! ## The members the threads share -/

/-- `send_frame`: what gets onto the connection. -/
def sendFrame (node : NodeRuntime D) (frame : NodeFrame D) : List (NodeFrame D) :=
  if node.channelOpen then [frame] else []

/-- `request_runtime_stop`. -/
def requestRuntimeStop (node : NodeRuntime D) : NodeRuntime D :=
  { node with connected := false, stopping := true }

/-- `terminate_transport`. -/
def terminateTransport (node : NodeRuntime D) : NodeRuntime D :=
  { node.requestRuntimeStop with channelOpen := false }

/-- `forget_attempt`. -/
def forgetAttempt (node : NodeRuntime D) (id : ExecutionAttemptId) : NodeRuntime D :=
  { node with activeTokens := node.activeTokens.erase id }

/-- The token's `is_cancelled()`. -/
def isCancelled (node : NodeRuntime D) (token : Nat) : Bool := node.requested.contains token

/-! ## Reports -/

def releaseFrame (node : NodeRuntime D) (resv : ReservationId) (task : ComputeTaskId) : NodeFrame D :=
  .reservationRelease
    { reservationId := resv
      taskId := task
      nodeId := node.nodeId
      sessionId := node.session
      coordinatorEpoch := node.epoch }

/-- `send_failed`: the report and the release. -/
def failedFrames (node : NodeRuntime D) (id : ExecutionAttemptId) (task : ComputeTaskId)
    (resv : ReservationId) (kind : FailureKind) (reason : Text) (durationMs : D) : List (NodeFrame D) :=
  [.attemptFailed
    { attemptId := id
      taskId := task
      reservationId := resv
      coordinatorEpoch := node.epoch
      failureKind := kind.toUInt8
      failureReason := reason
      durationMs := durationMs },
   node.releaseFrame resv task]

/-- `send_complete`. -/
def completeFrames (node : NodeRuntime D) (id : ExecutionAttemptId) (task : ComputeTaskId)
    (resv : ReservationId) (out : AttemptOutcome D) : List (NodeFrame D) :=
  [.attemptComplete
    { attemptId := id
      taskId := task
      reservationId := resv
      coordinatorEpoch := node.epoch
      resultCode := 0
      outputSize := UInt64.ofNat out.outputBytes.length
      outputIntegrity := out.outputIntegrity
      durationMs := out.durationMs
      cpuMillis := out.durationMs
      bytesTransferred := out.bytesTransferred
      device := out.device
      notes := out.notes },
   node.releaseFrame resv task]

/-- `send_cancelled`. -/
def cancelledFrames (node : NodeRuntime D) (id : ExecutionAttemptId) (task : ComputeTaskId)
    (resv : ReservationId) (reason : Text) : List (NodeFrame D) :=
  [.attemptCancelled
    { attemptId := id
      taskId := task
      reservationId := resv
      coordinatorEpoch := node.epoch
      reason := reason },
   node.releaseFrame resv task]

/-- What `completion_loop` sends for an outcome. -/
def reportFrames (node : NodeRuntime D) (item : CompletionItem D) : List (NodeFrame D) :=
  if item.outcome.state = .succeeded then
    node.completeFrames item.attemptId item.taskId item.reservationId item.outcome
  else if item.outcome.state = .cancelled then
    node.cancelledFrames item.attemptId item.taskId item.reservationId item.outcome.failureReason
  else
    node.failedFrames item.attemptId item.taskId item.reservationId item.outcome.failureKind
      item.outcome.failureReason item.outcome.durationMs

/-! ## Registration -/

def registerFrame [DoubleArith D] (node : NodeRuntime D) : NodeFrame D :=
  .nodeRegister
    { nodeId := node.nodeId
      label := node.config.label
      address := node.config.address
      capacity :=
        { cpuWorkerSlots := node.config.cpuSlots
          hostMemorySchedulingBytes := node.config.hostMemorySchedulingBytes
          executors := [node.cpu.capability]
          tags := node.config.tags
          address := node.config.address
          label := node.config.label } }

/-- The first half of `try_register`: a connection is opened, and the hello and the registration sent. -/
def connect [DoubleArith D] (node : NodeRuntime D) : Option (NodeRuntime D × List (NodeFrame D)) :=
  if node.phase = .idle then
    some ({ node with phase := .registering, channelOpen := true }, [.hello, node.registerFrame])
  else none

/-- A registration attempt failed: the channel is closed. -/
def abandon (node : NodeRuntime D) : NodeRuntime D := { node with phase := .idle, channelOpen := false }

/-- The second half of `try_register`, for one frame. -/
def registered (node : NodeRuntime D) : Message D → NodeRuntime D
  | .nodeRegisterAck ack =>
      if ack.nodeId ≠ node.nodeId then node.abandon
      else if !ack.error.isEmpty then node.abandon
      else
        { node with
          phase := .running
          session := ack.sessionId
          epoch := ack.coordinatorEpoch
          sessionEpoch := ack.sessionEpoch
          connected := true }
  | _ => node

/-! ## The reader -/

/-- `handle_dispatch`. -/
def handleDispatch [DoubleArith D] (node : NodeRuntime D) (msg : DispatchAttempt D) : NodeRuntime D :=
  let fail (node : NodeRuntime D) (kind : FailureKind) (reason : Text) : NodeRuntime D :=
    { node with readerSends :=
        node.failedFrames msg.attemptId msg.task.id msg.reservationId kind reason 0.0 }
  if msg.coordinatorEpoch ≠ node.epoch then fail node .internal (text "stale coordinator epoch")
  else
    let token := node.tokensMade
    let node := { node with
      tokensMade := node.tokensMade + 1
      activeTokens := node.activeTokens.insert msg.attemptId token }
    if !node.cpu.canExecute msg.task then
      fail (node.forgetAttempt msg.attemptId) .executorFailed (text "no executor can run this task")
    else match node.cpu.enqueue ⟨msg.task, msg.attemptId, msg.reservationId, token⟩ with
      | .ok cpu => { node with cpu := cpu }
      | .error e => fail (node.forgetAttempt msg.attemptId) .executorFailed e.message

/-- `handle_cancel`. -/
def handleCancel (node : NodeRuntime D) (id : ExecutionAttemptId) : NodeRuntime D :=
  match node.activeTokens[id]? with
  | some token => { node with requested := node.requested.insert token }
  | none => node

/-- One round of `read_loop`, for the frame it reads. -/
def readFrame [DoubleArith D] (node : NodeRuntime D) :
    Message D → NodeRuntime D × List (NodeFrame D)
  | .dispatchAttempt msg => (node.handleDispatch msg, [])
  | .attemptCancel id _ => (node.handleCancel id, [])
  | .nodeHeartbeatAck accepted _ => (if accepted then node else node.requestRuntimeStop, [])
  | .nodeShutdown nodeId sessionId =>
      let accepted := nodeId = node.nodeId && sessionId = node.session
      (if accepted || !node.channelOpen then node.requestRuntimeStop else node,
        node.sendFrame (.nodeShutdownAck accepted))
  | _ => (node, [])

/-! ## The workers -/

/-- `on_complete`: the outcome is queued for the reporter. When the queue stays full, the node gives up its
    connection so that the coordinator finds it lost. -/
def onComplete (node : NodeRuntime D) (work : AttemptWork D) (out : AttemptOutcome D) : NodeRuntime D :=
  if !node.stopping ∧ node.compQueue.length < 4096 then
    { node with compQueue := node.compQueue ++ [⟨work.attemptId, work.task.id, work.reservationId, out⟩] }
  else
    let node' := node.forgetAttempt work.attemptId
    if node.stopping then node' else node'.terminateTransport

/-- The end of `run_one` for the worker in phase `phase`. A kernel cannot see a request that was not made. -/
def outcome (node : NodeRuntime D) (w : Worker D) (seenAt : Option Nat) (durationMs : D) :
    Option (AttemptOutcome D) :=
  match w.phase with
  | .cancelled => some (CpuExecutorBackend.cancelledOutcome durationMs)
  | .executing =>
      if seenAt.isSome && !node.isCancelled w.work.token then none
      else some (CpuExecutorBackend.kernelOutcome w.work.task seenAt durationMs)
  | _ => none

/-! ## Steps -/

/-- `heartbeat_loop`, one round. -/
def heartbeat (node : NodeRuntime D) : NodeRuntime D × List (NodeFrame D) :=
  if !node.connected then (node.requestRuntimeStop, [])
  else
    let active := UInt32.ofNat node.cpu.workers.length
    (if node.channelOpen then node else node.requestRuntimeStop,
      node.sendFrame (.nodeHeartbeat
        { nodeId := node.nodeId
          sessionId := node.session
          sessionEpoch := node.sessionEpoch
          coordinatorEpoch := node.epoch
          activeCpuSlots := active
          activeGpuSlots := 0
          executors := [{ name := text "cpu", active := active }] }))

/-- `NodeRuntime::stop`: every token is requested, the channel closed and the executor told to stop. -/
def stop (node : NodeRuntime D) : NodeRuntime D :=
  { node.requestRuntimeStop with
    channelOpen := false
    requested := (node.activeTokens.values ++ node.cpu.queue.map AttemptWork.token).foldl
      (fun tokens token => tokens.insert token) node.requested
    cpu := { node.cpu with stopping := true } }

/-- One step of one thread: the node after it, and the frames it puts on the connection. `incoming` is the
    next frame of the coordinator, if there is one.

    The reader and the reporter look at `stopping_` before they wait, so that they may finish a round after another
    thread has set it. Here such a round comes before the flag is set: nobody outside the node sees the flag, and
    what the other threads do once they see it, dropping outcomes and leaving their loops, touches neither the frame
    nor the outcome of that round. -/
def step [DoubleArith D] (incoming : Option (Message D)) (node : NodeRuntime D) :
    NodeEvent D → Option (NodeRuntime D × List (NodeFrame D))
  | .abandon => if node.phase = .registering then some (node.abandon, []) else none
  | .receive =>
      match incoming with
      | none => none
      | some m =>
          match node.phase with
          | .idle => none
          | .registering => some (node.registered m, [])
          | .running =>
              if node.stopping ∨ !node.readerSends.isEmpty then none else some (node.readFrame m)
  | .channelFailed =>
      match node.phase with
      | .idle => none
      | .registering => some (node.abandon, [])
      | .running => some (node.requestRuntimeStop, [])
  | .take => node.cpu.take.map fun cpu => ({ node with cpu := cpu }, [])
  | .begin i startedAtMs =>
      match node.cpu.workers[i]? with
      | some ⟨work, .taken⟩ =>
          some ({ node with cpu := node.cpu.setPhase i .started },
            node.sendFrame (.attemptStarted
              { attemptId := work.attemptId, startedAtMs := startedAtMs, device := text "cpu" }))
      | _ => none
  | .check i =>
      match node.cpu.workers[i]? with
      | some ⟨work, .started⟩ =>
          let phase := if node.isCancelled work.token then .cancelled else .executing
          some ({ node with cpu := node.cpu.setPhase i phase }, [])
      | _ => none
  | .finish i seenAt durationMs =>
      match node.cpu.workers[i]? with
      | none => none
      | some w =>
          (node.outcome w seenAt durationMs).map fun out =>
            ({ node with cpu := node.cpu.release i }.onComplete w.work out, [])
  | .report =>
      if node.stopping ∨ !node.reporterSends.isEmpty then none
      else match node.compQueue with
        | [] => none
        | item :: rest =>
            some ({ node with
              compQueue := rest
              activeTokens := node.activeTokens.erase item.attemptId
              reporterSends := node.reportFrames item }, [])
  | .send .reader =>
      match node.readerSends with
      | [] => none
      | frame :: rest => some ({ node with readerSends := rest }, node.sendFrame frame)
  | .send .reporter =>
      match node.reporterSends with
      | [] => none
      | frame :: rest => some ({ node with reporterSends := rest }, node.sendFrame frame)
  | .heartbeat => if node.phase = .running ∧ !node.stopping then some node.heartbeat else none
  | .stop => some (node.stop, [])

end NodeRuntime

end ComputeFabric
