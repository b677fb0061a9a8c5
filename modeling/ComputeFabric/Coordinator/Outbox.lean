import ComputeFabric.Coordinator.Cascade
import ComputeFabric.Coordinator.Invariants

/-!
# `Coordinator.Outbox` — the frames an event puts on the connections

`outbox` lists the frames the coordinator has queued, oldest first, over all its processes. There are two sorts.
A *reply* goes out on the connection a command came in on and carries its request id. An *order* — a dispatch,
a cancellation, a request to exit — is sent to a node without being asked for, with request id 0.

- `process_answered` — what one command adds: at most one reply, to where the command came from and of the kind
  that answers it, and no order but the one the command stands for.
- `placeTask_outbox` — the dispatch of a task and the record of the attempt, together.
- `timersDone_outbox`, `start_outbox` — the timers of a sweep and a start add nothing.
-/

namespace ComputeFabric

variable {D : Type}

/-- The frame of an effect: its connection, its request id and its message. -/
def Effect.frame : Effect D → Option (ConnId × UInt64 × Message D)
  | .queued conn req m => some (conn, req, m)
  | .saved _ | .saveFailed => none

/-- The frames the coordinator has queued, oldest first. -/
def Coordinator.outbox (s : Coordinator D) : List (ConnId × UInt64 × Message D) :=
  s.effects.reverse.filterMap Effect.frame

/-- The messages the coordinator sends without being asked. -/
def Message.isOrder : Message D → Bool
  | .dispatchAttempt _ | .attemptCancel _ _ | .nodeShutdown _ _ => true
  | _ => false

/-- Where the reply to a command goes: the connection it came in on, and its request id. -/
def Command.origin : Command D → Option (ConnId × UInt64)
  | .nodeRegister conn req _ | .nodeHeartbeat conn req _ | .nodeShutdown conn req _
  | .attemptComplete conn req _ | .attemptFailed conn req _ | .reservationRelease conn req _
  | .taskSubmit _ conn req _ | .taskInspect _ conn req _ | .taskList _ conn req _ | .taskCancel _ conn req _
  | .workloadInspect _ conn req _ | .fabricStatus _ conn req | .placementQuery _ conn req _
  | .nodeList _ conn req | .nodeDrain _ conn req _ | .coordinatorShutdown _ conn req => some (conn, req)
  | _ => none

/-- The message answers the command: it is of the kind the requester waits for and names what was asked. -/
def Message.isReplyTo (m : Message D) (c : Command D) : Bool :=
  match c, m with
  | .nodeRegister _ _ reg, .nodeRegisterAck ack => ack.nodeId = reg.nodeId
  | .nodeHeartbeat .., .nodeHeartbeatAck .. => true
  | .nodeShutdown .., .nodeShutdownAck _ => true
  | .attemptComplete _ _ co, .attemptCompleteAck ack => ack.attemptId = co.attemptId
  | .attemptFailed _ _ fa, .attemptFailedAck ack => ack.attemptId = fa.attemptId
  | .reservationRelease _ _ rel, .reservationReleaseAck id _ => id = rel.reservationId
  | .taskSubmit _ _ _ sub, .taskSubmitResponse resp => resp.taskId = sub.task.id
  | .taskInspect _ _ _ t, .taskInspectResponse resp => resp.taskId = t
  | .taskList .., .taskListResponse _ => true
  | .taskCancel .., .taskCancelResponse _ => true
  | .workloadInspect _ _ _ w, .workloadInspectResponse resp => resp.workloadId = w
  | .fabricStatus .., .fabricStatusResponse _ => true
  | .placementQuery .., .placementResponse _ _ => true
  | .nodeList .., .nodeListResponse _ => true
  | .nodeDrain .., .nodeDrainResponse _ => true
  | .coordinatorShutdown .., .coordinatorShutdownResponse _ => true
  | _, _ => false

/-- The orders a command gives rise to. -/
def Message.isOrderOf (m : Message D) (c : Command D) : Bool :=
  match c, m with
  | .taskCancel .., .attemptCancel _ _ => true
  | .coordinatorShutdown .., .nodeShutdown _ _ => true
  | _, _ => false

/-- What the frames of one command may be. -/
structure Answered (c : Command D) (frames : List (ConnId × UInt64 × Message D)) : Prop where
  replies : frames.filter (fun f => !f.2.2.isOrder) = [] ∨ ∃ conn req m, c.origin = some (conn, req) ∧
    m.isReplyTo c = true ∧ frames.filter (fun f => !f.2.2.isOrder) = [(conn, req, m)]
  orders : ∀ f ∈ frames, f.2.2.isOrder = true → f.2.1 = 0 ∧ f.2.2.isOrderOf c = true

namespace Coordinator

/-! ## The elementary operations -/

theorem outbox_congr {s s' : Coordinator D} (h : s'.effects = s.effects) : s'.outbox = s.outbox := by
  rw [outbox, outbox, h]

theorem outbox_cons {s s' : Coordinator D} {effect : Effect D} (h : s'.effects = effect :: s.effects) :
    s'.outbox = s.outbox ++ effect.frame.toList := by
  rw [outbox, outbox, h, List.reverse_cons, List.filterMap_append]
  cases hf : effect.frame with
  | none => simp [hf]
  | some f => simp [hf]

theorem outbox_append {s s' : Coordinator D} (conn : ConnId) (req : UInt64) (m : Message D)
    (h : s'.effects = .queued conn req m :: s.effects) : s'.outbox = s.outbox ++ [(conn, req, m)] :=
  outbox_cons h

variable (env : Env) (s : Coordinator D)

@[simp] theorem outbox_persist : (s.persist env).outbox = s.outbox := by
  unfold persist
  split_ifs
  · exact (outbox_cons rfl).trans (List.append_nil _)
  · exact (outbox_cons rfl).trans (List.append_nil _)

@[simp] theorem outbox_onLedger (f : Ledger D → Ledger D) : (s.onLedger f).outbox = s.outbox := rfl

@[simp] theorem outbox_tick : s.tick.outbox = s.outbox := rfl

@[simp] theorem outbox_requestStop : s.requestStop.outbox = s.outbox := rfl

/-- A frame is queued, or the peer cannot take it. -/
theorem outbox_queueOutbound (conn : ConnId) (req : UInt64) (m : Message D) :
    (s.queueOutbound env conn req m).outbox = s.outbox ∨
      (s.queueOutbound env conn req m).outbox = s.outbox ++ [(conn, req, m)] := by
  unfold queueOutbound
  split_ifs
  · exact .inl rfl
  · exact .inl rfl
  · exact .inr (outbox_append conn req m rfl)

theorem outbox_sendToNode (n : NodeId) (m : Message D) :
    (s.sendToNode env n m).outbox = s.outbox ∨
      ∃ conn, s.nodeConns[n]? = some conn ∧ (s.sendToNode env n m).outbox = s.outbox ++ [(conn, 0, m)] := by
  unfold sendToNode
  split
  · exact .inl rfl
  · rename_i conn hconn
    exact (s.outbox_queueOutbound env conn 0 m).imp_right fun h => ⟨conn, hconn, h⟩

theorem outbox_respondClient (client : Id128) (conn : ConnId) (req : UInt64) (m : Message D) :
    (s.respondClient env client conn req m).outbox = s.outbox ∨
      (s.respondClient env client conn req m).outbox = s.outbox ++ [(conn, req, m)] := by
  unfold respondClient
  split_ifs
  · exact s.outbox_queueOutbound env conn req m
  · exact .inl rfl

end Coordinator

/-! ## What one command adds -/

/-- `s'` has the frames of `s` and an answer to `c`. -/
def Coordinator.Answers (c : Command D) (s s' : Coordinator D) : Prop :=
  ∃ frames, s'.outbox = s.outbox ++ frames ∧ Answered c frames

theorem Answered.nothing (c : Command D) : Answered c [] := ⟨.inl rfl, by simp⟩

theorem Answered.reply {c : Command D} {conn : ConnId} {req : UInt64} {m : Message D}
    (horigin : c.origin = some (conn, req)) (hreply : m.isReplyTo c = true) :
    Answered c [(conn, req, m)] := by
  have horder : m.isOrder = false := by
    cases c <;> cases m <;> first | rfl | cases hreply
  exact ⟨.inr ⟨conn, req, m, horigin, hreply, by simp [horder]⟩, by simp [horder]⟩

namespace Coordinator

variable {c : Command D} {env : Env} {s x : Coordinator D}

theorem answers_of_outbox (h : x.outbox = s.outbox) : s.Answers c x :=
  ⟨[], by rw [h, List.append_nil], .nothing c⟩

/-- A handler that ends with a reply to the requester. -/
theorem answers_queueOutbound (h : x.outbox = s.outbox) {conn : ConnId} {req : UInt64} {m : Message D}
    (horigin : c.origin = some (conn, req)) (hreply : m.isReplyTo c = true) :
    s.Answers c (x.queueOutbound env conn req m) := by
  rcases x.outbox_queueOutbound env conn req m with hsame | hnew
  · exact answers_of_outbox (hsame.trans h)
  · exact ⟨[(conn, req, m)], by rw [hnew, h], .reply horigin hreply⟩

/-- A handler that ends with a reply to its client. -/
theorem answers_respondClient (h : x.outbox = s.outbox) {client : Id128} {conn : ConnId} {req : UInt64}
    {m : Message D} (horigin : c.origin = some (conn, req)) (hreply : m.isReplyTo c = true) :
    s.Answers c (x.respondClient env client conn req m) := by
  rcases x.outbox_respondClient env client conn req m with hsame | hnew
  · exact answers_of_outbox (hsame.trans h)
  · exact ⟨[(conn, req, m)], by rw [hnew, h], .reply horigin hreply⟩

theorem Answers.congr {x' : Coordinator D} (h : s.Answers c x) (hx : x'.outbox = x.outbox) : s.Answers c x' := by
  obtain ⟨frames, hframes, hanswered⟩ := h
  exact ⟨frames, hx.trans hframes, hanswered⟩

theorem handleNodeRegister_answers (conn : ConnId) (req : UInt64) (reg : NodeRegister D) :
    s.Answers (.nodeRegister conn req reg) (s.handleNodeRegister env conn req reg) := by
  unfold handleNodeRegister
  split
  · exact answers_of_outbox rfl
  · dsimp only
    split
    · exact answers_queueOutbound rfl rfl (decide_eq_true rfl)
    · refine answers_queueOutbound ?_ rfl (decide_eq_true rfl)
      split
      · split_ifs <;> rfl
      · rfl

theorem handleNodeHeartbeat_answers (conn : ConnId) (req : UInt64) (hb : NodeHeartbeat) :
    s.Answers (.nodeHeartbeat conn req hb) (s.handleNodeHeartbeat env conn req hb) := by
  unfold handleNodeHeartbeat
  split
  · exact answers_queueOutbound rfl rfl rfl
  · exact answers_queueOutbound rfl rfl rfl

theorem handleNodeShutdown_answers (conn : ConnId) (req : UInt64) (n : NodeId) :
    s.Answers (.nodeShutdown conn req n) (s.handleNodeShutdown env conn req n) := by
  unfold handleNodeShutdown
  split_ifs
  · exact (answers_queueOutbound (x := s) rfl rfl rfl).congr rfl
  · exact answers_of_outbox rfl

theorem outbox_handleNodeDisconnect (conn : ConnId) (n : NodeId) :
    (s.handleNodeDisconnect env conn n).outbox = s.outbox := by
  unfold handleNodeDisconnect
  split_ifs
  · dsimp only
    split
    · rfl
    · split_ifs <;> rfl
  · rfl

theorem outbox_handleAttemptStarted (st : AttemptStarted) :
    (s.handleAttemptStarted env st).outbox = s.outbox := by
  unfold handleAttemptStarted
  split
  · rfl
  · split_ifs <;> simp

theorem outbox_recordCompletion [DoubleArith D] (a : ExecutionAttempt D) (co : AttemptComplete D) :
    (s.recordCompletion a co).outbox = s.outbox := by
  unfold recordCompletion
  split <;> rfl

theorem handleAttemptComplete_answers [DoubleArith D] (conn : ConnId) (req : UInt64) (co : AttemptComplete D) :
    s.Answers (.attemptComplete conn req co) (s.handleAttemptComplete env conn req co) := by
  unfold handleAttemptComplete
  dsimp only
  split
  · exact answers_queueOutbound rfl rfl (decide_eq_true rfl)
  · rename_i p a hfind
    split_ifs
    · exact answers_queueOutbound rfl rfl (decide_eq_true rfl)
    · exact answers_queueOutbound (by simp) rfl (decide_eq_true rfl)
    · split
      · exact answers_queueOutbound rfl rfl (decide_eq_true rfl)
      · -- The reply is queued before the cascade, which queues nothing.
        have hrecorded := outbox_recordCompletion
          (s := s.tick.onLedger fun l => l.commitAttempt p a co (s.now env)) a co
        refine Answers.congr (x := (recordCompletion a co
          (s.tick.onLedger fun l => l.commitAttempt p a co (s.now env))).queueOutbound env conn req
          (.attemptCompleteAck ⟨co.attemptId, true, []⟩))
          (answers_queueOutbound hrecorded rfl (decide_eq_true rfl)) ?_
        rw [outbox_persist]
        exact outbox_congr (onTaskSucceededRecursive_cascaded env _ _ _).effects

theorem handleAttemptFailed_answers (conn : ConnId) (req : UInt64) (fa : AttemptFailed D) :
    s.Answers (.attemptFailed conn req fa) (s.handleAttemptFailed env conn req fa) := by
  unfold handleAttemptFailed
  dsimp only
  split
  · exact answers_queueOutbound rfl rfl (decide_eq_true rfl)
  · split_ifs
    · exact answers_of_outbox rfl
    · exact answers_of_outbox rfl
    · refine Answers.congr (answers_queueOutbound ?_ rfl ?_) (outbox_persist env _)
      · rfl
      · exact decide_eq_true rfl

theorem outbox_handleAttemptCancelled (ca : AttemptCancelled) :
    (s.handleAttemptCancelled env ca).outbox = s.outbox := by
  unfold handleAttemptCancelled
  split
  · rfl
  · split_ifs <;> simp

theorem handleReservationRelease_answers (conn : ConnId) (req : UInt64) (rel : ReservationRelease) :
    s.Answers (.reservationRelease conn req rel) (s.handleReservationRelease env conn req rel) := by
  unfold handleReservationRelease
  refine answers_queueOutbound ?_ rfl (decide_eq_true rfl)
  split
  · split_ifs <;> rfl
  · rfl

theorem handleTaskSubmit_answers (client : Id128) (conn : ConnId) (req : UInt64) (sub : TaskSubmit D) :
    s.Answers (.taskSubmit client conn req sub) (s.handleTaskSubmit env client conn req sub) := by
  unfold handleTaskSubmit
  dsimp only
  split_ifs
  · exact answers_respondClient rfl rfl (decide_eq_true rfl)
  · exact answers_respondClient rfl rfl (decide_eq_true rfl)
  · exact answers_respondClient rfl rfl (decide_eq_true rfl)
  · split
    · exact answers_respondClient rfl rfl (decide_eq_true rfl)
    · split
      · exact answers_respondClient rfl rfl (decide_eq_true rfl)
      · refine answers_respondClient ?_ rfl (decide_eq_true rfl)
        unfold acceptTask
        rw [outbox_persist]
        rfl

/-- The frame for a node and the reply to the client, in this order. -/
theorem handleTaskCancel_answers (client : Id128) (conn : ConnId) (req : UInt64) (t : ComputeTaskId) :
    s.Answers (.taskCancel client conn req t) (s.handleTaskCancel env client conn req t) := by
  unfold handleTaskCancel
  dsimp only
  split
  · exact answers_respondClient rfl rfl rfl
  · split_ifs
    · exact answers_respondClient rfl rfl rfl
    · -- The running task: the order may be queued, and the reply.
      split
      · rename_i a _
        generalize hx : sendToNode env a.nodeId _ _ = x
        have horder : x.outbox = s.outbox ∨ ∃ conn', x.outbox = s.outbox ++
            [(conn', 0, .attemptCancel a.id (text "task cancelled by client"))] := by
          rw [← hx]
          exact (outbox_sendToNode env _ a.nodeId _).imp_right fun ⟨conn', _, h⟩ => ⟨conn', h⟩
        rcases horder with hsame | ⟨conn', hsent⟩
        · exact answers_respondClient hsame rfl rfl
        · rcases x.outbox_respondClient env client conn req _ with hsame | hnew
          · exact ⟨[(conn', 0, .attemptCancel a.id _)], hsame.trans hsent, .inl rfl, by
              simp [Message.isOrderOf]⟩
          · refine ⟨[(conn', 0, .attemptCancel a.id _), _], by rw [hnew, hsent, List.append_assoc]; rfl,
              .inr ⟨conn, req, _, rfl, ?_, rfl⟩, by simp [Message.isOrder, Message.isOrderOf]⟩
            rfl
      · exact answers_respondClient rfl rfl rfl
    · split
      · exact answers_respondClient rfl rfl rfl
      · exact answers_respondClient (by simp) rfl rfl

theorem handleNodeDrain_answers (client : Id128) (conn : ConnId) (req : UInt64) (drain : NodeDrain) :
    s.Answers (.nodeDrain client conn req drain) (s.handleNodeDrain env client conn req drain) := by
  unfold handleNodeDrain
  dsimp only
  split
  · exact answers_respondClient rfl rfl rfl
  · split
    · exact answers_respondClient rfl rfl rfl
    · exact answers_respondClient rfl rfl rfl

/-- The requests to exit, one for each connected node. -/
theorem outbox_foldl_askToExit (env : Env) (entries : List (NodeId × ConnId)) (x : Coordinator D) :
    ∃ frames, (entries.foldl (askToExit env) x).outbox = x.outbox ++ frames ∧
      ∀ f ∈ frames, f.2.1 = 0 ∧ ∃ n session, f.2.2 = .nodeShutdown n session := by
  induction entries generalizing x with
  | nil => exact ⟨[], (List.append_nil _).symm, by simp⟩
  | cons entry entries ih =>
      obtain ⟨frames, hframes, horders⟩ := ih (askToExit env x entry)
      rw [List.foldl_cons]
      have hround : (askToExit env x entry).outbox = x.outbox ∨ ∃ conn n session,
          (askToExit env x entry).outbox = x.outbox ++ [(conn, 0, .nodeShutdown n session)] := by
        unfold askToExit
        split_ifs
        · exact (outbox_sendToNode env x entry.1 _).imp_right fun ⟨conn, _, h⟩ => ⟨conn, _, _, h⟩
        · exact .inl rfl
      rcases hround with hsame | ⟨conn, n, session, hnew⟩
      · exact ⟨frames, by rw [hframes, hsame], horders⟩
      · refine ⟨(conn, 0, .nodeShutdown n session) :: frames, by rw [hframes, hnew, List.append_assoc]; rfl, ?_⟩
        intro f hf
        rcases List.mem_cons.mp hf with rfl | hf
        · exact ⟨rfl, n, session, rfl⟩
        · exact horders f hf

theorem handleCoordinatorShutdown_answers (client : Id128) (conn : ConnId) (req : UInt64) :
    s.Answers (.coordinatorShutdown client conn req) (s.handleCoordinatorShutdown env client conn req) := by
  unfold handleCoordinatorShutdown
  dsimp only
  generalize hx : s.respondClient env client conn req (.coordinatorShutdownResponse true) = x
  have hreply : s.Answers (.coordinatorShutdown client conn req) x := by
    rw [← hx]
    exact answers_respondClient rfl rfl rfl
  obtain ⟨frames, hframes, hanswered⟩ := hreply
  obtain ⟨exits, hexits, horders⟩ := outbox_foldl_askToExit env x.nodeConns.toList x
  have hnone : exits.filter (fun f => !f.2.2.isOrder) = [] := by
    rw [List.filter_eq_nil_iff]
    intro f hf
    obtain ⟨-, n, session, hm⟩ := horders f hf
    simp [hm, Message.isOrder]
  refine ⟨frames ++ exits, ?_, ?_, ?_⟩
  · rw [outbox_persist, outbox_requestStop, hexits, hframes, List.append_assoc]
  · rw [List.filter_append, hnone, List.append_nil]
    exact hanswered.replies
  · intro f hf horder
    rcases List.mem_append.mp hf with hf | hf
    · exact hanswered.orders f hf horder
    · obtain ⟨hzero, n, session, hm⟩ := horders f hf
      exact ⟨hzero, by rw [hm]; rfl⟩

/-- **What one command adds to the outbox**: at most one reply, on the connection and with the request id of
    the command and answering it, and the orders the command stands for. -/
theorem process_answered [DoubleArith D] (env : Env) (c : Command D) (s : Coordinator D) : s.Answers c (s.process env c) := by
  cases c with
  | nodeRegister conn req reg => exact handleNodeRegister_answers conn req reg
  | nodeHeartbeat conn req hb => exact handleNodeHeartbeat_answers conn req hb
  | nodeShutdown conn req n => exact handleNodeShutdown_answers conn req n
  | nodeDisconnected conn n => exact answers_of_outbox (outbox_handleNodeDisconnect conn n)
  | attemptStarted st => exact answers_of_outbox (outbox_handleAttemptStarted st)
  | attemptProgress pr => exact answers_of_outbox rfl
  | attemptComplete conn req co => exact handleAttemptComplete_answers conn req co
  | attemptFailed conn req fa => exact handleAttemptFailed_answers conn req fa
  | attemptCancelled ca => exact answers_of_outbox (outbox_handleAttemptCancelled ca)
  | reservationRelease conn req rel => exact handleReservationRelease_answers conn req rel
  | clientConnected client conn =>
      refine answers_of_outbox ?_
      simp only [process, handleClientConnected]
      split_ifs
      · rfl
      · split
        · split_ifs <;> rfl
        · rfl
  | clientDisconnected client conn =>
      refine answers_of_outbox ?_
      simp only [process, handleClientDisconnected]
      split_ifs <;> rfl
  | taskSubmit client conn req sub => exact handleTaskSubmit_answers client conn req sub
  | taskInspect client conn req t =>
      simp only [process, handleTaskInspect]
      split
      · exact answers_respondClient rfl rfl (decide_eq_true rfl)
      · exact answers_respondClient rfl rfl (decide_eq_true rfl)
  | taskList client conn req filter => exact answers_respondClient rfl rfl rfl
  | taskCancel client conn req t => exact handleTaskCancel_answers client conn req t
  | workloadInspect client conn req w =>
      simp only [process, handleWorkloadInspect]
      split
      · exact answers_respondClient rfl rfl (decide_eq_true rfl)
      · exact answers_respondClient rfl rfl (decide_eq_true rfl)
  | fabricStatus client conn req => exact answers_respondClient rfl rfl rfl
  | placementQuery client conn req task => exact answers_respondClient rfl rfl rfl
  | nodeList client conn req => exact answers_respondClient rfl rfl rfl
  | nodeDrain client conn req drain => exact handleNodeDrain_answers client conn req drain
  | coordinatorShutdown client conn req => exact handleCoordinatorShutdown_answers client conn req

/-! ## What the timers of a sweep add -/

theorem outbox_loseTask (x : Coordinator D) (t : ComputeTaskId) : (loseTask env x t).outbox = x.outbox := by
  unfold loseTask
  split
  · rfl
  · split_ifs <;> rfl

/-- A loop whose rounds queue nothing queues nothing. -/
theorem outbox_foldl {X : Type} {f : Coordinator D → X → Coordinator D}
    (h : ∀ x y, (f x y).outbox = x.outbox) (xs : List X) (x : Coordinator D) :
    (xs.foldl f x).outbox = x.outbox := by
  induction xs generalizing x with
  | nil => rfl
  | cons y ys ih => rw [List.foldl_cons, ih, h]

theorem outbox_handleNodeLoss (x : Coordinator D) (n : NodeId) : (handleNodeLoss env x n).outbox = x.outbox := by
  rcases handleNodeLoss_cases env x n with ⟨-, heq⟩ | ⟨-, node, y, -, rfl, -, heq⟩
  · rw [heq]
  · rw [heq, outbox_persist, outbox_foldl outbox_loseTask, outbox_onLedger]
    unfold stopTransport
    split_ifs
    · rfl
    · split <;> rfl

/-- **The timers queue nothing.** -/
theorem timersDone_outbox (env : Env) (s : Coordinator D) : (s.timersDone env).outbox = s.outbox := by
  unfold timersDone lossPhase timeoutPhase requeuePhase expirePhase
  rw [outbox_foldl, outbox_foldl, outbox_foldl, outbox_foldl outbox_handleNodeLoss, outbox_tick]
  · intro x t
    simp [timeoutDispatch]
  · intro x entry
    unfold requeueTask
    split_ifs <;> simp
  · intro x t
    unfold expireTask
    split
    · rfl
    · dsimp only
      split_ifs <;> simp

theorem outbox_recoverTask (x : Coordinator D) (task : ComputeTaskId × ComputeTask D) :
    (recoverTask env x task).outbox = x.outbox := by
  unfold recoverTask
  split_ifs
  · split
    · rfl
    · unfold requeueOrFail
      split_ifs <;> rfl
  · rfl

/-! ## Starts and dispatches -/

variable [DoubleArith D]

/-- **A start queues nothing.** -/
theorem start_outbox {w : World D} (h : start env w = .ok s) :
    s.outbox = w.effects.reverse.filterMap Effect.frame := by
  obtain ⟨w', g, hopen, -, rfl⟩ := start_ok h
  rw [outbox_persist, outbox_foldl outbox_recoverTask]
  show w'.effects.reverse.filterMap Effect.frame = _
  obtain ⟨-, -, -, -, -, -, ⟨heffects, -⟩ | ⟨heffects, -⟩⟩ := openStore_spec hopen <;> rw [heffects]
  simp [Effect.frame]

/-- The message a dispatch sends. -/
def dispatchMessage (task : ComputeTask D) (a : ExecutionAttempt D) : DispatchAttempt D where
  task := task
  attemptId := a.id
  reservationId := a.reservationId
  coordinatorEpoch := a.coordinatorEpoch
  attemptNumber := a.attemptNumber

theorem outbox_dispatchAttempt (t : ComputeTaskId) (task : ComputeTask D) (nodeId : NodeId)
    (session : NodeSessionId) (executor : ExecutorType) (device : Text) (resv : Reservation) {a : ExecutionAttempt D}
    (ha : a = s.toLedger.newAttempt t nodeId session s.durable.epoch resv.id executor device (s.nextId env)
      (s.now env)) :
    (s.dispatchAttempt env t task nodeId session executor device resv).outbox = s.outbox ∨
      ∃ conn, s.nodeConns[nodeId]? = some conn ∧
        (s.dispatchAttempt env t task nodeId session executor device resv).outbox =
          s.outbox ++ [(conn, 0, .dispatchAttempt (dispatchMessage task a))] := by
  unfold dispatchAttempt
  dsimp only
  rw [outbox_persist, outbox_onLedger]
  subst ha
  exact outbox_sendToNode env _ nodeId _

/-- The file after a dispatch is the one before it, or a snapshot of the books after it. -/
theorem file_dispatchAttempt (t : ComputeTaskId) (task : ComputeTask D) (nodeId : NodeId)
    (session : NodeSessionId) (executor : ExecutorType) (device : Text) (resv : Reservation) :
    (s.dispatchAttempt env t task nodeId session executor device resv).file = s.file ∨
      ∃ z : Coordinator D,
        z.toLedger = (s.dispatchAttempt env t task nodeId session executor device resv).toLedger ∧
        (s.dispatchAttempt env t task nodeId session executor device resv).file = some z.snapshot := by
  unfold dispatchAttempt
  dsimp only
  rcases persist_file env _ with hsame | hnew
  · left
    rw [hsame]
    exact (sendToNode_frame env nodeId _ _).2.1
  · exact .inr ⟨_, (persist_toLedger env _).symm, hnew⟩

/-- **A placement**: the task is dispatched and the node, if it can be reached, is sent the attempt that was
    recorded; or nothing is recorded and nothing sent. -/
theorem placeTask_outbox (env : Env) {s : Coordinator D} {t : ComputeTaskId} (task : ComputeTask D)
    (hready : s.graph.states[t]? = some .ready) :
    ((s.placeTask env t task).toLedger = s.toLedger ∧ (s.placeTask env t task).outbox = s.outbox) ∨
      ∃ resv a, (s.placeTask env t task).toLedger = s.toLedger.dispatch t resv a ∧ a.taskId = t ∧
        a.id = env.random (s.drawn + 1) ∧ a.committed = false ∧
        ((s.placeTask env t task).file = s.file ∨ ∃ z : Coordinator D,
          z.toLedger = (s.placeTask env t task).toLedger ∧ (s.placeTask env t task).file = some z.snapshot) ∧
        ((s.placeTask env t task).outbox = s.outbox ∨
          ∃ conn, s.nodeConns[a.nodeId]? = some conn ∧ (s.placeTask env t task).outbox =
            s.outbox ++ [(conn, 0, .dispatchAttempt (dispatchMessage task a))]) := by
  obtain ⟨decision, heq | ⟨nodeId, node, -, -, -, heq⟩⟩ := placeTask_cases env s t task <;> rw [heq]
  · exact .inl ⟨rfl, rfl⟩
  · have hready' : (s.recordPlacement t decision).graph.states[t]? = some .ready := hready
    rcases reserveAndDispatch_eq env task nodeId node decision hready' with heq | ⟨resv, -, -, heq⟩ <;> rw [heq]
    · exact .inl ⟨rfl, rfl⟩
    · exact .inr ⟨resv, _, dispatchAttempt_toLedger .., rfl, rfl, rfl,
        file_dispatchAttempt t task nodeId node.session _ _ resv,
        outbox_dispatchAttempt t task nodeId node.session _ _ resv rfl⟩

/-- One round of the scheduler sends a dispatch or nothing. -/
theorem scheduleTask_outbox (env : Env) (x : Coordinator D) (t : ComputeTaskId) :
    (scheduleTask env x t).outbox = x.outbox ∨
      ∃ conn msg, (scheduleTask env x t).outbox = x.outbox ++ [(conn, 0, .dispatchAttempt msg)] := by
  have hplace : ∀ (y : Coordinator D) (task : ComputeTask D), y.outbox = x.outbox →
      y.graph.states[t]? = some .ready → (y.placeTask env t task).outbox = x.outbox ∨
        ∃ conn msg, (y.placeTask env t task).outbox = x.outbox ++ [(conn, 0, .dispatchAttempt msg)] := by
    intro y task hy hready
    rcases placeTask_outbox env task hready with ⟨-, hsame⟩ | ⟨resv, a, -, -, -, -, -, hsame | ⟨conn, -, hnew⟩⟩
    · exact .inl (hsame.trans hy)
    · exact .inl (hsame.trans hy)
    · exact .inr ⟨conn, _, by rw [hnew, hy]⟩
  rcases scheduleTask_cases env x t with
    heq | ⟨task, -, -, hready, ⟨-, -, heq⟩ | ⟨-, -, heq⟩ | ⟨-, heq⟩⟩ <;> rw [heq]
  · exact .inl rfl
  · exact .inl (by simp)
  · exact hplace x.tick task rfl hready
  · exact hplace x task rfl hready

/-- **A sweep sends dispatches only.** -/
theorem sweep_outbox (env : Env) (s : Coordinator D) :
    ∃ frames, (s.sweep env).outbox = s.outbox ++ frames ∧
      ∀ f ∈ frames, f.2.1 = 0 ∧ ∃ msg, f.2.2 = .dispatchAttempt msg := by
  rw [sweep_eq, scheduleReadyTasks]
  refine List.foldlRecOn (motive := fun x : Coordinator D => ∃ frames, x.outbox = s.outbox ++ frames ∧
    ∀ f ∈ frames, f.2.1 = 0 ∧ ∃ msg, f.2.2 = .dispatchAttempt msg) _ _
    ⟨[], by rw [timersDone_outbox, List.append_nil], by simp⟩ ?_
  rintro x ⟨frames, hframes, horders⟩ t -
  rcases scheduleTask_outbox env x t with hsame | ⟨conn, msg, hnew⟩
  · exact ⟨frames, hsame.trans hframes, horders⟩
  · refine ⟨frames ++ [(conn, 0, .dispatchAttempt msg)], by rw [hnew, hframes, List.append_assoc], ?_⟩
    intro f hf
    rcases List.mem_append.mp hf with hf | hf
    · exact horders f hf
    · rw [List.mem_singleton.mp hf]
      exact ⟨rfl, msg, rfl⟩

end Coordinator

end ComputeFabric
