import ComputeFabric.Node.Runtime

/-!
# `Node.Steps` — what a step of a node can do

`NodeRuntime.step` is a large match. `Moves` says once what its branches come to, each with the facts its guards
give, and `step_moves` is the inversion: every step of the node is one of these moves. The results about node
runs are case distinctions over `Moves` and never look into `step`.

`heard` is the message `read_loop` reads in the step. A frame that arrives while the node still waits for its
registration is looked at by `try_register` only, so it is not heard.
-/

namespace ComputeFabric

variable {D : Type}

/-- The names a dispatch carries, and that the work item, the outcome and the report of the attempt repeat. -/
structure Assignment where
  attemptId : ExecutionAttemptId
  taskId : ComputeTaskId
  reservationId : ReservationId
deriving DecidableEq

def DispatchAttempt.assignment (msg : DispatchAttempt D) : Assignment :=
  ⟨msg.attemptId, msg.task.id, msg.reservationId⟩

def AttemptWork.assignment (work : AttemptWork D) : Assignment :=
  ⟨work.attemptId, work.task.id, work.reservationId⟩

def CompletionItem.assignment (item : CompletionItem D) : Assignment :=
  ⟨item.attemptId, item.taskId, item.reservationId⟩

/-- The assignment a message hands to the node. -/
def Message.dispatched : Message D → Option Assignment
  | .dispatchAttempt msg => some msg.assignment
  | _ => none

namespace NodeFrame

/-- The assignment whose end a frame reports. -/
def reported : NodeFrame D → Option Assignment
  | .attemptComplete co => some ⟨co.attemptId, co.taskId, co.reservationId⟩
  | .attemptFailed fa => some ⟨fa.attemptId, fa.taskId, fa.reservationId⟩
  | .attemptCancelled ca => some ⟨ca.attemptId, ca.taskId, ca.reservationId⟩
  | _ => none

/-- The reservation a frame releases. -/
def released : NodeFrame D → Option (ComputeTaskId × ReservationId)
  | .reservationRelease rel => some (rel.taskId, rel.reservationId)
  | _ => none

end NodeFrame

namespace NodeRuntime

/-- The load the node reports, and its answer to a shutdown request: the frames about no attempt. -/
def Announces (node : NodeRuntime D) : NodeFrame D → Prop
  | .nodeHeartbeat hb =>
      hb.nodeId = node.nodeId ∧ hb.activeCpuSlots = UInt32.ofNat node.cpu.workers.length
  | .nodeShutdownAck _ => True
  | _ => False

theorem Announces.reported {node : NodeRuntime D} {frame : NodeFrame D} (h : node.Announces frame) :
    frame.reported = none := by
  cases frame <;> first | rfl | exact h.elim

theorem Announces.released {node : NodeRuntime D} {frame : NodeFrame D} (h : node.Announces frame) :
    frame.released = none := by
  cases frame <;> first | rfl | exact h.elim

theorem announces_of_mem_sendFrame {node : NodeRuntime D} {sent : NodeFrame D} (frame : NodeFrame D)
    (hframe : node.Announces frame) (hmem : sent ∈ node.sendFrame frame) : node.Announces sent := by
  unfold sendFrame at hmem
  split_ifs at hmem
  · rw [List.mem_singleton.mp hmem]
    exact hframe
  · exact absurd hmem List.not_mem_nil

variable [DoubleArith D]

/-- The message `read_loop` reads in a step. -/
def hears (incoming : Option (Message D)) (node : NodeRuntime D) : NodeEvent D → Option (Message D)
  | .receive => if node.phase = .running then incoming else none
  | _ => none

/-- What becomes of the tokens when a dispatch is refused: nothing when the epoch is wrong, and otherwise the
    token made for it is forgotten. -/
def TokensAfterRefusal (node : NodeRuntime D) (id : ExecutionAttemptId) (made : Nat) (tokens : IdMap Nat) :
    Prop :=
  (made = node.tokensMade ∧ tokens = node.activeTokens) ∨
    (made = node.tokensMade + 1 ∧ tokens = (node.activeTokens.insert id node.tokensMade).erase id)

/-- **The moves of a node**: what is heard, the node afterwards and the frames it puts on the connection. -/
inductive Moves (node : NodeRuntime D) : Option (Message D) → NodeRuntime D → List (NodeFrame D) → Prop
  | abandon (hphase : node.phase = .registering) : Moves node none node.abandon []
  | register (ack : NodeRegisterAck) (hphase : node.phase = .registering) :
      Moves node none
        { node with
          phase := .running
          session := ack.sessionId
          epoch := ack.coordinatorEpoch
          sessionEpoch := ack.sessionEpoch
          connected := true } []
  | quiet (heard : Option (Message D)) (frames : List (NodeFrame D))
      (hheard : ∀ m ∈ heard, m.dispatched = none) (hframes : ∀ frame ∈ frames, node.Announces frame) :
      Moves node heard node frames
  | requestStop (heard : Option (Message D)) (frames : List (NodeFrame D))
      (hheard : ∀ m ∈ heard, m.dispatched = none) (hframes : ∀ frame ∈ frames, node.Announces frame) :
      Moves node heard node.requestRuntimeStop frames
  | refuse (msg : DispatchAttempt D) (made : Nat) (tokens : IdMap Nat) (kind : FailureKind) (reason : Text)
      (hphase : node.phase = .running) (hstop : node.stopping = false) (hidle : node.readerSends = [])
      (htokens : node.TokensAfterRefusal msg.attemptId made tokens)
      (hkind : kind.toUInt8 ≠ FailureKind.cancelled.toUInt8) :
      Moves node (some (.dispatchAttempt msg))
        { node with
          tokensMade := made
          activeTokens := tokens
          readerSends := node.failedFrames msg.attemptId msg.task.id msg.reservationId kind reason 0.0 } []
  | accept (msg : DispatchAttempt D) (hphase : node.phase = .running) (hstop : node.stopping = false)
      (hidle : node.readerSends = []) (hepoch : msg.coordinatorEpoch = node.epoch)
      (hcan : node.cpu.canExecute msg.task = true) (hroom : node.cpu.queue.length < 1024) :
      Moves node (some (.dispatchAttempt msg))
        { node with
          tokensMade := node.tokensMade + 1
          activeTokens := node.activeTokens.insert msg.attemptId node.tokensMade
          cpu := { node.cpu with queue := node.cpu.queue ++
            [⟨msg.task, msg.attemptId, msg.reservationId, node.tokensMade⟩] } } []
  | cancel (id : ExecutionAttemptId) (reason : Text) (token : Nat)
      (htoken : node.activeTokens[id]? = some token) :
      Moves node (some (.attemptCancel id reason))
        { node with requested := node.requested.insert token } []
  | take (work : AttemptWork D) (rest : List (AttemptWork D)) (hqueue : node.cpu.queue = work :: rest)
      (hroom : node.cpu.workers.length < node.cpu.motors.toNatClampNeg) :
      Moves node none
        { node with cpu := { node.cpu with
          queue := rest, workers := node.cpu.workers ++ [⟨work, .taken⟩] } } []
  | begin (i : Nat) (work : AttemptWork D) (startedAtMs : Int64)
      (hworker : node.cpu.workers[i]? = some ⟨work, .taken⟩) :
      Moves node none { node with cpu := node.cpu.setPhase i .started }
        (node.sendFrame (.attemptStarted
          { attemptId := work.attemptId, startedAtMs := startedAtMs, device := text "cpu" }))
  | check (i : Nat) (work : AttemptWork D) (phase : WorkerPhase)
      (hworker : node.cpu.workers[i]? = some ⟨work, .started⟩)
      (hphase : phase = if node.isCancelled work.token then .cancelled else .executing) :
      Moves node none { node with cpu := node.cpu.setPhase i phase } []
  | finish (i : Nat) (w : Worker D) (seenAt : Option Nat) (durationMs : D) (out : AttemptOutcome D)
      (hworker : node.cpu.workers[i]? = some w) (hout : node.outcome w seenAt durationMs = some out) :
      Moves node none ({ node with cpu := node.cpu.release i }.onComplete w.work out) []
  | report (item : CompletionItem D) (rest : List (CompletionItem D)) (hstop : node.stopping = false)
      (hidle : node.reporterSends = []) (hqueue : node.compQueue = item :: rest) :
      Moves node none
        { node with
          compQueue := rest
          activeTokens := node.activeTokens.erase item.attemptId
          reporterSends := node.reportFrames item } []
  | sendReader (frame : NodeFrame D) (rest : List (NodeFrame D)) (hsends : node.readerSends = frame :: rest) :
      Moves node none { node with readerSends := rest } (node.sendFrame frame)
  | sendReporter (frame : NodeFrame D) (rest : List (NodeFrame D))
      (hsends : node.reporterSends = frame :: rest) :
      Moves node none { node with reporterSends := rest } (node.sendFrame frame)
  | stop : Moves node none node.stop []

variable {node node' : NodeRuntime D} {incoming : Option (Message D)} {frames : List (NodeFrame D)}

/-! ## The inversion -/

theorem handleDispatch_moves (msg : DispatchAttempt D) (hphase : node.phase = .running)
    (hstop : node.stopping = false) (hidle : node.readerSends = []) :
    node.Moves (some (.dispatchAttempt msg)) (node.handleDispatch msg) [] := by
  unfold handleDispatch
  dsimp only
  split_ifs with hepoch hcan
  · exact .refuse msg node.tokensMade node.activeTokens .internal (text "stale coordinator epoch") hphase hstop
      hidle (.inl ⟨rfl, rfl⟩) (by decide)
  · exact .refuse msg _ _ .executorFailed (text "no executor can run this task") hphase hstop hidle
      (.inr ⟨rfl, rfl⟩) (by decide)
  · have hcan' : node.cpu.canExecute msg.task = true := by simpa using hcan
    split
    · rename_i cpu hcpu
      unfold CpuExecutorBackend.enqueue at hcpu
      split_ifs at hcpu with hdown hfull
      cases hcpu
      exact .accept msg hphase hstop hidle (not_not.mp hepoch) hcan' (by omega)
    · exact .refuse msg _ _ .executorFailed _ hphase hstop hidle (.inr ⟨rfl, rfl⟩) (by decide)

theorem handleCancel_moves (id : ExecutionAttemptId) (reason : Text) :
    node.Moves (some (.attemptCancel id reason)) (node.handleCancel id) [] := by
  unfold handleCancel
  split
  · rename_i token htoken
    exact .cancel id reason token htoken
  · exact .quiet _ [] (by simp [Message.dispatched]) (by simp)

theorem readFrame_moves (m : Message D) (hphase : node.phase = .running) (hstop : node.stopping = false)
    (hidle : node.readerSends = []) :
    node.Moves (some m) (node.readFrame m).1 (node.readFrame m).2 := by
  cases m with
  | dispatchAttempt msg => exact handleDispatch_moves msg hphase hstop hidle
  | attemptCancel id reason => exact handleCancel_moves id reason
  | nodeHeartbeatAck accepted error =>
      cases accepted with
      | true => exact .quiet _ [] (by simp [Message.dispatched]) (by simp)
      | false => exact .requestStop _ [] (by simp [Message.dispatched]) (by simp)
  | nodeShutdown nodeId sessionId =>
      have hframes : ∀ frame ∈ node.sendFrame
          (.nodeShutdownAck (nodeId = node.nodeId && sessionId = node.session)), node.Announces frame :=
        fun frame hmem => announces_of_mem_sendFrame (.nodeShutdownAck _) trivial hmem
      unfold readFrame
      dsimp only
      split_ifs
      · exact .requestStop _ _ (by simp [Message.dispatched]) hframes
      · exact .quiet _ _ (by simp [Message.dispatched]) hframes
  | _ => exact .quiet _ [] (by simp [Message.dispatched]) (by simp)

theorem registered_moves (m : Message D) (hphase : node.phase = .registering) :
    node.Moves none (node.registered m) [] := by
  cases m with
  | nodeRegisterAck ack =>
      unfold registered
      dsimp only
      split_ifs
      · exact .abandon hphase
      · exact .abandon hphase
      · exact .register ack hphase
  | _ => exact .quiet none [] (by simp) (by simp)

theorem heartbeat_moves : node.Moves none node.heartbeat.1 node.heartbeat.2 := by
  unfold heartbeat
  dsimp only
  split_ifs with hconn hopen
  · exact .requestStop none [] (by simp) (by simp)
  · exact .quiet none _ (by simp) fun frame hmem =>
      announces_of_mem_sendFrame (.nodeHeartbeat _) ⟨rfl, rfl⟩ hmem
  · exact .requestStop none _ (by simp) fun frame hmem =>
      announces_of_mem_sendFrame (.nodeHeartbeat _) ⟨rfl, rfl⟩ hmem

/-- **Every step is a move.** -/
theorem step_moves {e : NodeEvent D} (h : node.step incoming e = some (node', frames)) :
    node.Moves (node.hears incoming e) node' frames := by
  cases e with
  | abandon =>
      unfold step at h
      dsimp only at h
      split_ifs at h with hphase
      cases h
      exact .abandon hphase
  | receive =>
      unfold step at h
      dsimp only at h
      cases incoming with
      | none => cases h
      | some m =>
          cases hphase : node.phase with
          | idle =>
              rw [hphase] at h
              cases h
          | registering =>
              rw [hphase] at h
              cases h
              simp only [hears, hphase, reduceCtorEq, if_false]
              exact registered_moves m hphase
          | running =>
              simp only [hphase] at h
              split_ifs at h with hguard
              obtain ⟨hstop, hidle⟩ := not_or.mp hguard
              simp only [hears, hphase, if_true]
              have hmove := readFrame_moves m hphase (by simpa using hstop) (by simpa using hidle)
              rwa [Option.some.inj h] at hmove
  | channelFailed =>
      unfold step at h
      dsimp only at h
      cases hphase : node.phase with
      | idle =>
          rw [hphase] at h
          cases h
      | registering =>
          rw [hphase] at h
          cases h
          exact .abandon hphase
      | running =>
          rw [hphase] at h
          cases h
          exact .requestStop none [] (by simp) (by simp)
  | take =>
      unfold step at h
      dsimp only at h
      obtain ⟨cpu, hcpu, hnode⟩ := Option.map_eq_some_iff.mp h
      cases hnode
      unfold CpuExecutorBackend.take at hcpu
      split at hcpu
      · cases hcpu
      · rename_i work rest hqueue
        split_ifs at hcpu with hroom
        cases hcpu
        exact .take work rest hqueue hroom
  | «begin» i startedAtMs =>
      unfold step at h
      dsimp only at h
      split at h
      · rename_i work hworker
        cases h
        exact .begin i work startedAtMs hworker
      · cases h
  | check i =>
      unfold step at h
      dsimp only at h
      split at h
      · rename_i work hworker
        cases h
        exact .check i work _ hworker rfl
      · cases h
  | finish i seenAt durationMs =>
      unfold step at h
      dsimp only at h
      split at h
      · cases h
      · rename_i w hworker
        obtain ⟨out, hout, hnode⟩ := Option.map_eq_some_iff.mp h
        cases hnode
        exact .finish i w seenAt durationMs out hworker hout
  | report =>
      unfold step at h
      dsimp only at h
      split_ifs at h with hguard
      obtain ⟨hstop, hidle⟩ := not_or.mp hguard
      split at h
      · cases h
      · rename_i item rest hqueue
        cases h
        exact .report item rest (by simpa using hstop) (by simpa using hidle) hqueue
  | send thread =>
      cases thread with
      | reader =>
          unfold step at h
          dsimp only at h
          split at h
          · cases h
          · rename_i frame rest hsends
            cases h
            exact .sendReader frame rest hsends
      | reporter =>
          unfold step at h
          dsimp only at h
          split at h
          · cases h
          · rename_i frame rest hsends
            cases h
            exact .sendReporter frame rest hsends
  | heartbeat =>
      unfold step at h
      dsimp only at h
      split_ifs at h with hguard
      have hmove : node.Moves none node.heartbeat.1 node.heartbeat.2 := heartbeat_moves
      rwa [Option.some.inj h] at hmove
  | stop =>
      unfold step at h
      dsimp only at h
      cases h
      exact .stop

end NodeRuntime

end ComputeFabric
