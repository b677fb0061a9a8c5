import ComputeFabric.Coordinator.View

/-!
# `Coordinator.Steps` — what one event can do

Every event is a sequence of core steps. A core step changes the ledger by exactly one transition
(`LedgerStep`), or rewrites the store, or touches neither. `LedgerStep` says once, for each transition,
which event it belongs to and what the handler has checked before it; the invariants are proved against it
and never look at a handler again.

`s₀` is the state before the event. Transitions of a node message happen in `s₀` itself; those of a sweep
happen after earlier ones of the same sweep, and the constructor says what is still as it was in `s₀`.
-/

namespace ComputeFabric

open Coordinator

variable {D : Type} [DoubleArith D]

/-- A `NodeRegister` that creates a session: it arrives on a live connection and is no replay. -/
def Coordinator.opensSession (s : Coordinator D) (conn : ConnId) (n : NodeId) : Bool :=
  !s.isStopped conn && (s.currentSession conn n).isNone

/-- A failure of this attempt leads to a retry. -/
def Coordinator.retriesFailure (s : Coordinator D) (a : ExecutionAttempt D) (kind : FailureKind) : Bool :=
  (s.graph.find a.taskId).any fun task => canRetry task a kind

/-- The checks of `handle_task_submit`: the submission creates a task. -/
def Coordinator.accepts (s : Coordinator D) (sub : TaskSubmit D) : Bool :=
  !s.graph.hasTask sub.task.id && !s.stopping && !sub.task.id.isZero &&
    (sub.task.dependencies.all fun d => s.graph.hasTask d) &&
    match s.graph.addTask sub.task with
    | (_, .ok ()) => true
    | (_, .error _) => false

/-- The attempt an `AttemptComplete` commits, if it commits one. -/
def Coordinator.commits (s : Coordinator D) (co : AttemptComplete D) : Option (ExecutionAttempt D) :=
  match s.findActiveAttempt co.attemptId with
  | none => none
  | some (_, a) =>
      if !a.committed && !s.isCancelRequested a.taskId && (s.completionError a co).isNone then some a
      else none

omit [DoubleArith D] in
theorem Coordinator.commits_eq_some_iff {s : Coordinator D} {co : AttemptComplete D} {a : ExecutionAttempt D} :
    s.commits co = some a ↔ ∃ p, s.findActiveAttempt co.attemptId = some (p, a) ∧ a.committed = false ∧
      s.isCancelRequested a.taskId = false ∧ s.completionError a co = none := by
  unfold commits
  cases s.findActiveAttempt co.attemptId with
  | none => simp
  | some hit =>
      simp only [Option.ite_none_right_eq_some, Bool.and_eq_true, Bool.not_eq_true', Option.isNone_iff_eq_none]
      constructor
      · rintro ⟨⟨⟨hcommitted, hcancel⟩, hvalid⟩, ⟨⟩⟩
        exact ⟨hit.1, rfl, hcommitted, hcancel, hvalid⟩
      · rintro ⟨p, ⟨⟩, hcommitted, hcancel, hvalid⟩
        exact ⟨⟨⟨hcommitted, hcancel⟩, hvalid⟩, rfl⟩

omit [DoubleArith D] in
theorem Coordinator.commits_eq_some {s : Coordinator D} {co : AttemptComplete D} {p : AttemptPtr}
    {a : ExecutionAttempt D} (hfind : s.findActiveAttempt co.attemptId = some (p, a))
    (hcommitted : a.committed = false) (hcancel : s.isCancelRequested a.taskId = false)
    (hvalid : s.completionError a co = none) : s.commits co = some a :=
  commits_eq_some_iff.mpr ⟨p, hfind, hcommitted, hcancel, hvalid⟩

omit [DoubleArith D] in
/-- Only a live attempt of an executing task is committed. -/
theorem Coordinator.live_of_commits {s : Coordinator D} {co : AttemptComplete D} {a : ExecutionAttempt D}
    (h : s.commits co = some a) :
    a.isLive = true ∧ (s.graph.state a.taskId = .running ∨ s.graph.state a.taskId = .dispatching) := by
  obtain ⟨p, -, hcommitted, -, hvalid⟩ := commits_eq_some_iff.mp h
  unfold completionError at hvalid
  split_ifs at hvalid with hepoch hactive hresv hstate
  refine ⟨by simpa [ExecutionAttempt.isLive, hcommitted] using hactive, ?_⟩
  by_contra hno
  exact hstate (not_or.mp hno)

omit [DoubleArith D] in
/-- No attempt of a task whose cancellation is requested is committed. -/
theorem Coordinator.cancel_of_commits {s : Coordinator D} {co : AttemptComplete D} {a : ExecutionAttempt D}
    (h : s.commits co = some a) : s.isCancelRequested a.taskId = false := by
  obtain ⟨p, -, -, hcancel, -⟩ := commits_eq_some_iff.mp h
  exact hcancel

omit [DoubleArith D] in
theorem isSome_retryAfter (env : Env) (s : Coordinator D) (a : ExecutionAttempt D) (kind : FailureKind) :
    (s.retryAfter env a kind).isSome = s.retriesFailure a kind := by
  unfold retryAfter retriesFailure
  cases s.graph.find a.taskId with
  | none => rfl
  | some task =>
      dsimp only
      split_ifs with h <;> simp [h]

/-- A `NodeDrain` is accepted: the node is known and not offline. -/
def Coordinator.acceptsDrain (s : Coordinator D) (n : NodeId) : Bool :=
  s.nodes[n]?.any fun node => node.health ≠ .offline

/-- The event is an accepted heartbeat of the node, or ends its drain. -/
def Coordinator.bringsOnline (s : Coordinator D) (n : NodeId) : Event D → Bool
  | .command (.nodeHeartbeat _ _ hb) => hb.nodeId = n && (s.heartbeatError hb).isNone
  | .command (.nodeDrain _ _ _ drain) => drain.nodeId = n && !drain.drain && s.acceptsDrain n
  | _ => false

/-- What a message may change in the record of a node. -/
structure NodeUpdate (s₀ : Coordinator D) (e : Event D) (n : NodeId) (node node' : NodeRecord D) : Prop where
  id : node'.id = node.id
  session : node'.session = node.session
  capacity : node'.capacity = node.capacity
  health : node'.health = node.health ∨ node'.health = .draining ∨
    node'.health = .online ∧ s₀.bringsOnline n e = true

/-- The scheduler has chosen the node for the task, with this executor and device. -/
def Ledger.Chosen (l : Ledger D) (task : ComputeTask D) (n : NodeId) (executor : ExecutorType)
    (device : Text) : Prop :=
  ∃ node ∈ l.nodes.values, node.id = n ∧ SchedulerPolicyEngine.exclusionReasons task node = [] ∧
    ∃ cap, SchedulerPolicyEngine.Offers task node cap ∧ executor = cap.type ∧ device = cap.name

/-- The ledger transitions of an event, with the checks that guard them. -/
inductive LedgerStep (env : Env) (s₀ : Coordinator D) : Event D → Ledger D → Ledger D → Prop
  | register {conn : ConnId} {req : UInt64} {reg : NodeRegister D} {node : NodeRecord D}
      (hopen : s₀.opensSession conn reg.nodeId = true) (hid : node.id = reg.nodeId)
      (hsession : node.session = env.random s₀.drawn) (hhealth : node.health = .online)
      (hcapacity : node.capacity = reg.capacity) :
      LedgerStep env s₀ (.command (.nodeRegister conn req reg)) s₀.toLedger
        (s₀.toLedger.registerNode node)
  | updateNode {e : Event D} {l : Ledger D} {n : NodeId} {f : NodeRecord D → NodeRecord D}
      (hf : ∀ node, NodeUpdate s₀ e n node (f node)) :
      LedgerStep env s₀ e l (l.updateNode n f)
  | start {st : AttemptStarted} {p : AttemptPtr} {a : ExecutionAttempt D}
      (hfind : s₀.findActiveAttempt st.attemptId = some (p, a))
      (hepoch : a.coordinatorEpoch = s₀.durable.epoch) :
      LedgerStep env s₀ (.command (.attemptStarted st)) s₀.toLedger (s₀.toLedger.startAttempt p a st)
  | commit {conn : ConnId} {req : UInt64} {co : AttemptComplete D} {p : AttemptPtr}
      {a : ExecutionAttempt D} {time : Int64}
      (hfind : s₀.findActiveAttempt co.attemptId = some (p, a)) (hcommitted : a.committed = false)
      (hcancel : s₀.isCancelRequested a.taskId = false) (hvalid : s₀.completionError a co = none) :
      LedgerStep env s₀ (.command (.attemptComplete conn req co)) s₀.toLedger
        (s₀.toLedger.commitAttempt p a co time)
  | abandon {conn : ConnId} {req : UInt64} {co : AttemptComplete D} {p : AttemptPtr}
      {a : ExecutionAttempt D} {time : Int64}
      (hfind : s₀.findActiveAttempt co.attemptId = some (p, a)) (hcommitted : a.committed = false)
      (hcancel : s₀.isCancelRequested a.taskId = true) :
      LedgerStep env s₀ (.command (.attemptComplete conn req co)) s₀.toLedger
        (s₀.toLedger.abandonAttempt p a time)
  | unblock {conn : ConnId} {req : UInt64} {co : AttemptComplete D} {l : Ledger D}
      {t : ComputeTaskId} {time : Int64} (hblocked : l.graph.states[t]? = some .blocked)
      (hsat : l.graph.dependenciesSatisfied t = true) :
      LedgerStep env s₀ (.command (.attemptComplete conn req co)) l (l.unblockTask t time)
  | fail {conn : ConnId} {req : UInt64} {fa : AttemptFailed D} {p : AttemptPtr}
      {a : ExecutionAttempt D} {time : Int64} {retryAt : Option Int64}
      (hfind : s₀.findActiveAttempt fa.attemptId = some (p, a))
      (hepoch : a.coordinatorEpoch = s₀.durable.epoch) (hstate : a.state ≠ .succeeded)
      (hcommitted : a.committed = false)
      (hretry : retryAt.isSome = s₀.retriesFailure a (.ofUInt8 fa.failureKind)) :
      LedgerStep env s₀ (.command (.attemptFailed conn req fa)) s₀.toLedger
        (s₀.toLedger.failAttempt p a (.ofUInt8 fa.failureKind) fa.failureReason time retryAt)
  | cancelAttempt {ca : AttemptCancelled} {p : AttemptPtr} {a : ExecutionAttempt D} {time : Int64}
      (hfind : s₀.findActiveAttempt ca.attemptId = some (p, a))
      (hepoch : a.coordinatorEpoch = s₀.durable.epoch) :
      LedgerStep env s₀ (.command (.attemptCancelled ca)) s₀.toLedger
        (s₀.toLedger.cancelAttempt p a ca time)
  | release {conn : ConnId} {req : UInt64} {rel : ReservationRelease} {r : Reservation}
      (hfind : s₀.reservations[rel.reservationId]? = some r)
      (hepoch : r.coordinatorEpoch = s₀.durable.epoch) :
      LedgerStep env s₀ (.command (.reservationRelease conn req rel)) s₀.toLedger
        (s₀.toLedger.releaseReservation rel.reservationId)
  | submit {client : Id128} {conn : ConnId} {req : UInt64} {sub : TaskSubmit D} {g : TaskGraph D}
      {time : Int64} (hdeps : ∀ d ∈ sub.task.dependencies, s₀.graph.hasTask d = true)
      (hadd : s₀.graph.addTask sub.task = (g, .ok ())) (haccepts : s₀.accepts sub = true) :
      LedgerStep env s₀ (.command (.taskSubmit client conn req sub)) s₀.toLedger
        (s₀.toLedger.submitTask g sub.task time)
  | refuse {client : Id128} {conn : ConnId} {req : UInt64} {sub : TaskSubmit D} {g : TaskGraph D}
      {err : Error} (hadd : s₀.graph.addTask sub.task = (g, .error err)) :
      LedgerStep env s₀ (.command (.taskSubmit client conn req sub)) s₀.toLedger
        { s₀.toLedger with graph := g }
  | touchAttempts {e : Event D} {l : Ledger D} {t : ComputeTaskId} :
      LedgerStep env s₀ e l (l.touchAttempts t)
  | requestCancel {client : Id128} {conn : ConnId} {req : UInt64} {t : ComputeTaskId}
      (hrunning : s₀.graph.states[t]? = some .running) :
      LedgerStep env s₀ (.command (.taskCancel client conn req t)) s₀.toLedger
        (s₀.toLedger.requestCancel t)
  | cancelTask {client : Id128} {conn : ConnId} {req : UInt64} {t : ComputeTaskId} {st : TaskState}
      (hstate : s₀.graph.states[t]? = some st) (hterminal : st.isTerminal = false)
      (hrunning : st ≠ .running) (hlegal : st.isLegal .cancelled = true) :
      LedgerStep env s₀ (.command (.taskCancel client conn req t)) s₀.toLedger
        (s₀.toLedger.cancelTask t)
  | loseNode {l : Ledger D} {n : NodeId} {tasks : List (ComputeTaskId × Option Int64)}
      (hlost : n ∈ s₀.lostNodes env (s₀.now env)) (hattempts : l.attempts = s₀.attempts)
      (hgraph : l.graph.tasks = s₀.graph.tasks)
      (htasks : ∀ x ∈ tasks, x.1 ∈ s₀.affectedBy n ∧
        ∃ task, s₀.graph.find x.1 = some task ∧ x.2.isSome = retriesNodeLoss task)
      (hall : ∀ t ∈ s₀.affectedBy n, (s₀.graph.find t).isSome → t ∈ tasks.map Prod.fst) :
      LedgerStep env s₀ .sweep l
        (tasks.foldl (fun l x => l.loseTask x.1 x.2) (l.dropNode n))
  | timeout {l : Ledger D} {t : ComputeTaskId} {time : Int64}
      (hstale : t ∈ (s₀.tick.lossPhase env (s₀.now env)).staleDispatches (s₀.now env))
      (hattempts : l.attempts = s₀.attempts) (hstate : l.graph.states[t]? = some .dispatching) :
      LedgerStep env s₀ .sweep l (l.timeoutDispatch t time)
  | requeue {l : Ledger D} {t : ComputeTaskId} {time : Int64}
      (hstate : l.graph.states[t]? = some .retryPending) :
      LedgerStep env s₀ .sweep l (l.requeueTask t time)
  | expire {l : Ledger D} {t : ComputeTaskId} {st : TaskState}
      (hstate : l.graph.states[t]? = some st)
      (hst : st = .ready ∨ st = .blocked ∨ st = .retryPending) :
      LedgerStep env s₀ .sweep l (l.expireTask t)
  | expireReady {l : Ledger D} {t : ComputeTaskId} (hstate : l.graph.states[t]? = some .ready) :
      LedgerStep env s₀ .sweep l (l.setState t .expired)
  | dispatch {l : Ledger D} {t : ComputeTaskId} {task : ComputeTask D} {nodeId : NodeId}
      {node : NodeRecord D} {executor : ExecutorType} {slots : UInt32} {device : Text}
      {time time' : Int64} {resv : Reservation} {a : ExecutionAttempt D}
      (hstate : l.graph.states[t]? = some .ready) (htask : l.graph.find t = some task)
      (hnode : l.nodes[nodeId]? = some node) (hconnected : node.connected = true)
      (hgrant : l.reservations.refusal node executor slots task.scratchMemoryBytes = none)
      (hresv : resv = ReservationRegistry.grant node s₀.durable.epoch t executor slots
        task.scratchMemoryBytes (env.random l.drawn) time)
      (ha : a = l.newAttempt t nodeId node.session s₀.durable.epoch resv.id executor device
        (env.random (l.drawn + 1)) time')
      (hslots : slots = SchedulerPolicyEngine.requiredSlots task executor)
      (hchosen : l.Chosen task nodeId executor device) :
      LedgerStep env s₀ .sweep l (l.dispatch t resv a)

/-! ## What leaves the ledger alone -/

section Frame

variable (env : Env) (s : Coordinator D)

omit [DoubleArith D] in
@[simp] theorem queueOutbound_toLedger (conn : ConnId) (req : UInt64) (m : Message D) :
    (s.queueOutbound env conn req m).toLedger = s.toLedger := by
  unfold queueOutbound
  split_ifs <;> rfl

omit [DoubleArith D] in
@[simp] theorem sendToNode_toLedger (n : NodeId) (m : Message D) :
    (s.sendToNode env n m).toLedger = s.toLedger := by
  unfold sendToNode
  split
  · rfl
  · exact queueOutbound_toLedger env s _ _ _

omit [DoubleArith D] in
@[simp] theorem respondClient_toLedger (client : Id128) (conn : ConnId) (req : UInt64) (m : Message D) :
    (s.respondClient env client conn req m).toLedger = s.toLedger := by
  unfold respondClient
  split_ifs
  · exact queueOutbound_toLedger env s _ _ _
  · rfl

omit [DoubleArith D] in
@[simp] theorem persist_toLedger : (s.persist env).toLedger = s.toLedger := by
  unfold persist
  split_ifs <;> rfl

omit [DoubleArith D] in
@[simp] theorem persist_durable : (s.persist env).durable = s.snapshot := by
  unfold persist
  split_ifs <;> rfl

omit [DoubleArith D] in
theorem persist_file : (s.persist env).file = s.file ∨ (s.persist env).file = some s.snapshot := by
  unfold persist
  split_ifs
  · exact .inr rfl
  · exact .inl rfl

omit [DoubleArith D] in
@[simp] theorem stopTransport_toLedger (n : NodeId) (node : NodeRecord D) :
    (s.stopTransport n node).toLedger = s.toLedger := by
  unfold stopTransport
  split_ifs
  · rfl
  · split <;> rfl

@[simp] theorem recordCompletion_toLedger (a : ExecutionAttempt D) (co : AttemptComplete D) :
    (s.recordCompletion a co).toLedger = s.toLedger := by
  unfold recordCompletion
  split <;> rfl

end Frame

/-! ## Core steps -/

/-- A reply that acknowledges an effect: a commit, a submission or a cancellation. -/
def Message.acknowledges : Message D → Bool
  | .attemptCompleteAck ack => ack.accepted
  | .taskSubmitResponse resp => resp.accepted
  | .taskCancelResponse resp => resp.cancelled
  | _ => false

/-- The reply is of the kind that answers the event. -/
def Message.answers (m : Message D) (e : Event D) : Bool :=
  match e, m with
  | .command (.attemptComplete ..), .attemptCompleteAck _ => true
  | .command (.taskSubmit ..), .taskSubmitResponse _ => true
  | .command (.taskCancel ..), .taskCancelResponse _ => true
  | _, _ => false

/-- At most one frame is queued, and an acknowledgement only as the answer to the event. -/
def Coordinator.Sends (e : Event D) (s s' : Coordinator D) : Prop :=
  s'.effects = s.effects ∨ ∃ conn req m, s'.effects = .queued conn req m :: s.effects ∧
    (m.acknowledges = true → m.answers e = true)

/-- The durable books change in memory only when an accepted submission names a workload. -/
def DurableState.Records (s₀ : Coordinator D) (e : Event D) (d d' : DurableState D) : Prop :=
  d' = d ∨ ∃ client conn req sub, e = .command (.taskSubmit client conn req sub) ∧ s₀.accepts sub = true ∧
    d' = recordWorkload sub.workloadId sub.workloadName d

/-- One step of the core, inside the event `e` that began in `s₀`. -/
inductive CoreStep (env : Env) (s₀ : Coordinator D) (e : Event D) :
    Coordinator D → Coordinator D → Prop
  | quiet {s s' : Coordinator D} (hledger : s'.toLedger = s.toLedger)
      (hdurable : s'.durable = s.durable) (hfile : s'.file = s.file) (hsends : s.Sends e s') :
      CoreStep env s₀ e s s'
  | save {s : Coordinator D} : CoreStep env s₀ e s (s.persist env)
  | act {s s' : Coordinator D} (hstep : LedgerStep env s₀ e s.toLedger s'.toLedger)
      (hdurable : s.durable.Records s₀ e s'.durable) (hfile : s'.file = s.file) (hsends : s.Sends e s') :
      CoreStep env s₀ e s s'

/-- The steps of one event. -/
abbrev CoreSteps (env : Env) (s₀ : Coordinator D) (e : Event D) :=
  Relation.ReflTransGen (CoreStep env s₀ e)

omit [DoubleArith D] in
theorem DurableState.Records.epoch {s₀ : Coordinator D} {e : Event D} {d d' : DurableState D}
    (h : d.Records s₀ e d') : d'.epoch = d.epoch := by
  rcases h with rfl | ⟨client, conn, req, sub, -, -, rfl⟩
  · rfl
  · unfold recordWorkload
    split_ifs <;> rfl

section Rules

variable {env : Env} {s₀ s s' : Coordinator D} {e : Event D}

theorem CoreStep.epoch_eq (h : CoreStep env s₀ e s s') : s'.durable.epoch = s.durable.epoch := by
  cases h with
  | quiet _ hdurable => rw [hdurable]
  | save =>
      rw [persist_durable]
      rfl
  | act _ hdurable => exact hdurable.epoch

/-- A step changes the ledger by one transition or not at all. -/
theorem CoreStep.ledger (h : CoreStep env s₀ e s s') :
    s'.toLedger = s.toLedger ∨ LedgerStep env s₀ e s.toLedger s'.toLedger := by
  cases h with
  | quiet hledger => exact .inl hledger
  | save => exact .inl (persist_toLedger env s)
  | act hstep => exact .inr hstep

/-- **The rule for a property of the ledger and of the file**: a transition keeps it against every file, and
    a save makes it hold of what is saved. -/
theorem CoreStep.books_invariant {R : Ledger D → DurableState D → Prop} (h : CoreStep env s₀ e s s')
    (hact : ∀ d, R s.toLedger d → LedgerStep env s₀ e s.toLedger s'.toLedger → R s'.toLedger d)
    (hsave : R s.toLedger (s.file.getD {}) → R s.toLedger s.snapshot)
    (hs : R s.toLedger (s.file.getD {})) : R s'.toLedger (s'.file.getD {}) := by
  cases h with
  | quiet hledger _ hfile => rwa [hledger, hfile]
  | save =>
      rw [persist_toLedger]
      rcases persist_file env s with hfile | hfile
      · rwa [hfile]
      · rw [hfile]
        exact hsave hs
  | act hstep _ hfile =>
      rw [hfile]
      exact hact _ hs hstep

namespace CoreSteps

/-- What every ledger transition of an event keeps, the event keeps. -/
theorem ledger_invariant {I : Ledger D → Prop}
    (hI : ∀ l l', I l → LedgerStep env s₀ e l l' → I l')
    (h : CoreSteps env s₀ e s s') (hs : I s.toLedger) : I s'.toLedger := by
  refine Lts.steps_invariant (P := fun s => I s.toLedger) ?_ hs h
  intro s s' hI' hstep
  exact hstep.books_invariant (R := fun l _ => I l) (fun _ hl hact => hI _ _ hl hact) id hI'

theorem epoch_eq (h : CoreSteps env s₀ e s s') : s'.durable.epoch = s.durable.epoch := by
  refine Lts.steps_invariant (P := fun x => x.durable.epoch = s.durable.epoch) ?_ rfl h
  intro x x' hx hstep
  exact hstep.epoch_eq.trans hx

end CoreSteps

end Rules

/-! ## Steps that leave the ledger alone -/

section Quiet

variable {env : Env} {s₀ : Coordinator D} {e : Event D} (s : Coordinator D)

/-- Nothing but connections, counters and the scheduler's own books changes. -/
theorem CoreStep.of_same {s s' : Coordinator D} (hledger : s'.toLedger = s.toLedger)
    (hdurable : s'.durable = s.durable) (hfile : s'.file = s.file) (heffects : s'.effects = s.effects) :
    CoreStep env s₀ e s s' :=
  .quiet hledger hdurable hfile (.inl heffects)

/-- One ledger transition and nothing else. -/
theorem CoreStep.of_ledger {s s' : Coordinator D} (hstep : LedgerStep env s₀ e s.toLedger s'.toLedger)
    (hdurable : s'.durable = s.durable) (hfile : s'.file = s.file) (heffects : s'.effects = s.effects) :
    CoreStep env s₀ e s s' :=
  .act hstep (.inl hdurable) hfile (.inl heffects)

theorem stopConnection_step (conn : ConnId) : CoreStep env s₀ e s (s.stopConnection conn) :=
  .of_same rfl rfl rfl rfl

theorem requestStop_step : CoreStep env s₀ e s s.requestStop := .of_same rfl rfl rfl rfl

theorem queueOutbound_step (conn : ConnId) (req : UInt64) (m : Message D)
    (hm : m.acknowledges = true → m.answers e = true) :
    CoreStep env s₀ e s (s.queueOutbound env conn req m) := by
  unfold queueOutbound
  split_ifs
  · exact .of_same rfl rfl rfl rfl
  · exact .of_same rfl rfl rfl rfl
  · exact .quiet rfl rfl rfl (.inr ⟨conn, req, m, rfl, hm⟩)

theorem sendToNode_step (n : NodeId) (m : Message D)
    (hm : m.acknowledges = true → m.answers e = true) :
    CoreStep env s₀ e s (s.sendToNode env n m) := by
  unfold sendToNode
  split
  · exact .of_same rfl rfl rfl rfl
  · exact queueOutbound_step s _ _ _ hm

theorem respondClient_step (client : Id128) (conn : ConnId) (req : UInt64) (m : Message D)
    (hm : m.acknowledges = true → m.answers e = true) :
    CoreStep env s₀ e s (s.respondClient env client conn req m) := by
  unfold respondClient
  split_ifs
  · exact queueOutbound_step s _ _ _ hm
  · exact .of_same rfl rfl rfl rfl

theorem persist_step : CoreStep env s₀ e s (s.persist env) := .save

end Quiet

/-! ## Node messages -/

section NodeMessages

variable {env : Env} {s : Coordinator D} {conn : ConnId} {req : UInt64}

theorem handleNodeRegister_steps (reg : NodeRegister D) :
    CoreSteps env s (.command (.nodeRegister conn req reg)) s
      (s.handleNodeRegister env conn req reg) := by
  unfold handleNodeRegister
  split_ifs with hstop
  · exact .refl
  · dsimp only
    split
    · exact .single (queueOutbound_step _ _ _ _ (fun h => by cases h))
    · next hsession =>
        have hopen : s.opensSession conn reg.nodeId = true := by
          simp [opensSession, hstop, hsession]
        refine (Relation.ReflTransGen.single (.of_ledger ?_ ?_ ?_ ?_)).tail
          (queueOutbound_step _ _ _ _ (fun h => by cases h))
        · -- stopping the superseded transport does not touch the ledger
          split
          · split_ifs <;> exact .register hopen rfl rfl rfl rfl
          · exact .register hopen rfl rfl rfl rfl
        all_goals
          split
          · split_ifs <;> rfl
          · rfl

theorem handleNodeHeartbeat_steps (hb : NodeHeartbeat) :
    CoreSteps env s (.command (.nodeHeartbeat conn req hb)) s
      (s.handleNodeHeartbeat env conn req hb) := by
  unfold handleNodeHeartbeat
  split
  · exact .single (queueOutbound_step _ _ _ _ (fun h => by cases h))
  · next hnone =>
      refine (Relation.ReflTransGen.single (.of_ledger ?_ rfl rfl rfl)).tail
        (queueOutbound_step _ _ _ _ (fun h => by cases h))
      exact .updateNode fun _ => ⟨rfl, rfl, rfl, .inr (.inr ⟨rfl, by simp [bringsOnline, hnone]⟩)⟩

theorem handleNodeShutdown_steps (n : NodeId) :
    CoreSteps env s (.command (.nodeShutdown conn req n)) s (s.handleNodeShutdown env conn req n) := by
  unfold handleNodeShutdown
  split_ifs
  · exact (Relation.ReflTransGen.single (queueOutbound_step _ _ _ _ (fun h => by cases h))).tail
      (stopConnection_step _ _)
  · exact .refl

theorem handleNodeDisconnect_steps (n : NodeId) :
    CoreSteps env s (.command (.nodeDisconnected conn n)) s (s.handleNodeDisconnect env conn n) := by
  unfold handleNodeDisconnect
  split_ifs
  · dsimp only
    split
    · exact .single (.of_same rfl rfl rfl rfl)
    · split_ifs
      · exact .single (.of_same rfl rfl rfl rfl)
      · refine .single (.of_ledger ?_ rfl rfl rfl)
        exact .updateNode fun _ => ⟨rfl, rfl, rfl, .inl rfl⟩
  · exact .refl

theorem handleAttemptStarted_steps (st : AttemptStarted) :
    CoreSteps env s (.command (.attemptStarted st)) s (s.handleAttemptStarted env st) := by
  unfold handleAttemptStarted
  split
  · exact .refl
  · next p a hfind =>
      split_ifs with hepoch
      · exact .refl
      · refine (Relation.ReflTransGen.single (.of_ledger ?_ rfl rfl rfl)).tail (persist_step _)
        exact .start hfind (not_not.mp hepoch)

omit [DoubleArith D] in
/-- Neither `Lost` nor `Failed` can be entered from `Blocked` or `Submitted`: poisoning writes nothing. -/
theorem poison_ledger {l : Ledger D} {t : ComputeTaskId}
    (h : l.graph.state t = .blocked ∨ l.graph.state t = .submitted) :
    (l.setState t .lost).setState t .failed = l := by
  have hnoop : ∀ st, st = .lost ∨ st = .failed → l.setState t st = l := by
    intro st hst
    unfold Ledger.setState TaskGraph.trySetState TaskGraph.setState
    cases hs : l.graph.states[t]? with
    | none => rfl
    | some cur =>
        have hcur : cur = .blocked ∨ cur = .submitted := by
          simpa [TaskGraph.state, hs] using h
        rcases hcur with rfl | rfl <;> rcases hst with rfl | rfl <;> rfl
  rw [hnoop _ (.inl rfl), hnoop _ (.inr rfl)]

theorem unblockTask_steps {s₀ : Coordinator D} {co : AttemptComplete D} (s : Coordinator D)
    (t : ComputeTaskId) :
    CoreSteps env s₀ (.command (.attemptComplete conn req co)) s (s.unblockTask env t) := by
  unfold unblockTask
  split_ifs with hready
  · refine .single (.of_ledger ?_ rfl rfl rfl)
    exact .unblock ((Ledger.state_eq_iff (by decide)).mp hready.1) hready.2
  · exact .refl

/-- The success cascade only unblocks. -/
theorem onTaskSucceededRecursive_steps {s₀ : Coordinator D} {co : AttemptComplete D} (fuel : Nat) :
    ∀ (id : ComputeTaskId) (s : Coordinator D),
      CoreSteps env s₀ (.command (.attemptComplete conn req co)) s
        (onTaskSucceededRecursive env fuel id s) := by
  induction fuel with
  | zero =>
      intro id s
      exact .refl
  | succ fuel ih =>
      intro id s
      unfold onTaskSucceededRecursive
      generalize s.graph.dependentsOf id = deps
      induction deps generalizing s with
      | nil => exact .refl
      | cons dep rest ihrest =>
          refine Relation.ReflTransGen.trans (unblockTask_steps s dep) ?_
          refine Relation.ReflTransGen.trans ?_ (ihrest _)
          dsimp only
          split_ifs with hpoison
          · refine Relation.ReflTransGen.head ?_ (ih dep _)
            exact .of_same (poison_ledger hpoison.2) rfl rfl rfl
          · exact .refl

theorem handleAttemptComplete_steps (co : AttemptComplete D) :
    CoreSteps env s (.command (.attemptComplete conn req co)) s
      (s.handleAttemptComplete env conn req co) := by
  unfold handleAttemptComplete
  dsimp only
  split
  · exact .single (queueOutbound_step _ _ _ _ (fun _ => rfl))
  · next p a hfind =>
      split_ifs with hcommitted hcancel
      · exact .single (queueOutbound_step _ _ _ _ (fun _ => rfl))
      · refine ((Relation.ReflTransGen.single (.of_ledger ?_ rfl rfl rfl)).tail (persist_step _)).tail
          (queueOutbound_step _ _ _ _ (fun _ => rfl))
        exact .abandon hfind (by simpa using hcommitted) hcancel
      · split
        · exact .single (queueOutbound_step _ _ _ _ (fun _ => rfl))
        · next hvalid =>
            refine Relation.ReflTransGen.tail (Relation.ReflTransGen.trans
              ((Relation.ReflTransGen.single (.of_ledger ?_ ?_ ?_ ?_)).tail
                (queueOutbound_step _ _ _ _ (fun _ => rfl)))
              (onTaskSucceededRecursive_steps _ _ _)) (persist_step _)
            · unfold recordCompletion
              split <;> exact .commit hfind (by simpa using hcommitted) (by simpa using hcancel) hvalid
            all_goals
              unfold recordCompletion
              split <;> rfl

theorem handleAttemptFailed_steps (fa : AttemptFailed D) :
    CoreSteps env s (.command (.attemptFailed conn req fa)) s
      (s.handleAttemptFailed env conn req fa) := by
  unfold handleAttemptFailed
  dsimp only
  split
  · exact .single (queueOutbound_step _ _ _ _ (fun h => by cases h))
  · next p a hfind =>
      by_cases hepoch : a.coordinatorEpoch = s.durable.epoch
      · by_cases hdone : a.state = .succeeded ∨ a.committed = true
        · rw [if_neg (not_not.mpr hepoch), if_pos hdone]
        · rw [if_neg (not_not.mpr hepoch), if_neg hdone]
          refine ((Relation.ReflTransGen.single (.of_ledger ?_ rfl rfl rfl)).tail
            (queueOutbound_step _ _ _ _ (fun h => by cases h))).tail (persist_step _)
          refine .fail hfind hepoch (fun h => hdone (.inl h)) ?_ ?_
          · exact Bool.eq_false_iff.mpr fun h => hdone (.inr h)
          · exact isSome_retryAfter env s.tick a _
      · rw [if_pos hepoch]

theorem handleAttemptCancelled_steps (ca : AttemptCancelled) :
    CoreSteps env s (.command (.attemptCancelled ca)) s (s.handleAttemptCancelled env ca) := by
  unfold handleAttemptCancelled
  split
  · exact .refl
  · next p a hfind =>
      split_ifs with hepoch
      · exact .refl
      · refine (Relation.ReflTransGen.single (.of_ledger ?_ rfl rfl rfl)).tail (persist_step _)
        exact .cancelAttempt hfind (not_not.mp hepoch)

theorem handleReservationRelease_steps (rel : ReservationRelease) :
    CoreSteps env s (.command (.reservationRelease conn req rel)) s
      (s.handleReservationRelease env conn req rel) := by
  unfold handleReservationRelease
  dsimp only
  refine Relation.ReflTransGen.tail ?_ (queueOutbound_step _ _ _ _ (fun h => by cases h))
  split
  · next r hfind =>
      split_ifs with hepoch
      · refine .single (.of_ledger ?_ rfl rfl rfl)
        exact .release hfind hepoch
      · exact .refl
  · exact .refl

end NodeMessages

/-! ## Client commands -/

section ClientCommands

variable {env : Env} {s : Coordinator D} {client : Id128} {conn : ConnId} {req : UInt64}

theorem handleTaskSubmit_steps (sub : TaskSubmit D) :
    CoreSteps env s (.command (.taskSubmit client conn req sub)) s
      (s.handleTaskSubmit env client conn req sub) := by
  unfold handleTaskSubmit
  dsimp only
  split_ifs with hhas hstop hzero
  · exact .single (respondClient_step _ _ _ _ _ (fun _ => rfl))
  · exact .single (respondClient_step _ _ _ _ _ (fun _ => rfl))
  · exact .single (respondClient_step _ _ _ _ _ (fun _ => rfl))
  · split
    · exact .single (respondClient_step _ _ _ _ _ (fun _ => rfl))
    · next hdeps =>
        have hdeps' : ∀ d ∈ sub.task.dependencies, s.graph.hasTask d = true := by
          intro d hd
          have := List.find?_eq_none.mp hdeps d hd
          simpa using this
        split
        · next g err hadd =>
            refine (Relation.ReflTransGen.single (.of_ledger ?_ rfl rfl rfl)).tail
              (respondClient_step _ _ _ _ _ (fun _ => rfl))
            exact .refuse hadd
        · next g hadd =>
            have haccepts : s.accepts sub = true := by
              simpa [accepts, hhas, hstop, hzero, hadd] using hdeps'
            refine ((Relation.ReflTransGen.single (.act ?_ ?_ rfl (.inl rfl))).tail (persist_step _)).tail
              (respondClient_step _ _ _ _ _ (fun _ => rfl))
            · exact .submit hdeps' hadd haccepts
            · exact .inr ⟨client, conn, req, sub, rfl, haccepts, rfl⟩

theorem handleTaskInspect_steps (t : ComputeTaskId) :
    CoreSteps env s (.command (.taskInspect client conn req t)) s
      (s.handleTaskInspect env client conn req t) := by
  unfold handleTaskInspect
  split
  · exact .single (respondClient_step _ _ _ _ _ (fun h => by cases h))
  · refine (Relation.ReflTransGen.single (.of_ledger ?_ rfl rfl rfl)).tail
      (respondClient_step _ _ _ _ _ (fun h => by cases h))
    exact .touchAttempts

theorem handleTaskCancel_steps (t : ComputeTaskId) :
    CoreSteps env s (.command (.taskCancel client conn req t)) s
      (s.handleTaskCancel env client conn req t) := by
  unfold handleTaskCancel
  dsimp only
  split
  · exact .single (respondClient_step _ _ _ _ _ (fun _ => rfl))
  · split_ifs with hterminal hrunning
    · exact .single (respondClient_step _ _ _ _ _ (fun _ => rfl))
    · refine Relation.ReflTransGen.tail ?_ (respondClient_step _ _ _ _ _ (fun _ => rfl))
      have hrequest : CoreSteps env s (.command (.taskCancel client conn req t)) s
          (s.onLedger fun l => (l.requestCancel t).touchAttempts t) := by
        refine Relation.ReflTransGen.tail (b := s.onLedger fun l => l.requestCancel t)
          (.single (.of_ledger ?_ rfl rfl rfl)) (.of_ledger ?_ rfl rfl rfl)
        · exact .requestCancel ((Ledger.state_eq_iff (by decide)).mp hrunning)
        · exact .touchAttempts
      split
      · exact hrequest.tail (sendToNode_step _ _ _ (fun h => by cases h))
      · exact hrequest
    · split
      · exact .single (respondClient_step _ _ _ _ _ (fun _ => rfl))
      · next g hset =>
          refine ((Relation.ReflTransGen.single (.of_ledger ?_ rfl rfl rfl)).tail (persist_step _)).tail
            (respondClient_step _ _ _ _ _ (fun _ => rfl))
          obtain ⟨cur, hcur, hlegal⟩ := TaskGraph.legal_of_setState hset
          have hstate : s.graph.state t = cur := by simp [TaskGraph.state, hcur]
          rw [hstate] at hterminal hrunning
          exact .cancelTask hcur (by simpa using hterminal) hrunning hlegal

theorem handleNodeDrain_steps (drain : NodeDrain) :
    CoreSteps env s (.command (.nodeDrain client conn req drain)) s
      (s.handleNodeDrain env client conn req drain) := by
  unfold handleNodeDrain
  dsimp only
  split
  · exact .single (respondClient_step _ _ _ _ _ (fun h => by cases h))
  · next node hnode =>
      split_ifs with hoffline hdrain
      · exact .single (respondClient_step _ _ _ _ _ (fun h => by cases h))
      · refine (Relation.ReflTransGen.single (.of_ledger ?_ rfl rfl rfl)).tail
          (respondClient_step _ _ _ _ _ (fun h => by cases h))
        exact .updateNode fun _ => ⟨rfl, rfl, rfl, .inr (.inl rfl)⟩
      · refine (Relation.ReflTransGen.single (.of_ledger ?_ rfl rfl rfl)).tail
          (respondClient_step _ _ _ _ _ (fun h => by cases h))
        exact .updateNode fun _ => ⟨rfl, rfl, rfl,
          .inr (.inr ⟨rfl, by simp [bringsOnline, acceptsDrain, hdrain, hnode, hoffline]⟩)⟩

theorem handleCoordinatorShutdown_steps {e : Event D} {s₀ : Coordinator D} :
    CoreSteps env s₀ e s (s.handleCoordinatorShutdown env client conn req) := by
  have hloop : ∀ (entries : List (NodeId × ConnId)) (s : Coordinator D),
      CoreSteps env s₀ e s (entries.foldl (askToExit env) s) := by
    intro entries s
    refine (Lts.foldl_steps (P := fun _ => True) entries ?_ trivial).1
    intro s x _ _
    refine ⟨?_, trivial⟩
    unfold askToExit
    split_ifs
    · exact .single (sendToNode_step _ _ _ (fun h => by cases h))
    · exact .refl
  unfold handleCoordinatorShutdown
  refine Relation.ReflTransGen.tail ?_ (persist_step _)
  refine Relation.ReflTransGen.tail ?_ (requestStop_step _)
  exact (Relation.ReflTransGen.single (respondClient_step _ _ _ _ _ (fun h => by cases h))).trans (hloop _ _)

theorem handleWorkloadInspect_steps {e : Event D} {s₀ : Coordinator D} (w : WorkloadId) :
    CoreSteps env s₀ e s (s.handleWorkloadInspect env client conn req w) := by
  unfold handleWorkloadInspect
  split <;> exact .single (respondClient_step _ _ _ _ _ (fun h => by cases h))

theorem handleClientConnected_steps {e : Event D} {s₀ : Coordinator D} :
    CoreSteps env s₀ e s (s.handleClientConnected client conn) := by
  unfold handleClientConnected
  dsimp only
  split_ifs
  · exact .refl
  · split
    · split_ifs <;> exact .single (.of_same rfl rfl rfl rfl)
    · exact .single (.of_same rfl rfl rfl rfl)

theorem handleClientDisconnected_steps {e : Event D} {s₀ : Coordinator D} :
    CoreSteps env s₀ e s (s.handleClientDisconnected client conn) := by
  unfold handleClientDisconnected
  split_ifs
  · exact .single (.of_same rfl rfl rfl rfl)
  · exact .refl

/-- **Every command is a sequence of core steps.** -/
theorem process_steps (c : Command D) : CoreSteps env s (.command c) s (s.process env c) := by
  cases c with
  | nodeRegister conn req reg => exact handleNodeRegister_steps reg
  | nodeHeartbeat conn req hb => exact handleNodeHeartbeat_steps hb
  | nodeShutdown conn req n => exact handleNodeShutdown_steps n
  | nodeDisconnected conn n => exact handleNodeDisconnect_steps n
  | attemptStarted st => exact handleAttemptStarted_steps st
  | attemptProgress pr => exact .refl
  | attemptComplete conn req co => exact handleAttemptComplete_steps co
  | attemptFailed conn req fa => exact handleAttemptFailed_steps fa
  | attemptCancelled ca => exact handleAttemptCancelled_steps ca
  | reservationRelease conn req rel => exact handleReservationRelease_steps rel
  | clientConnected client conn => exact handleClientConnected_steps
  | clientDisconnected client conn => exact handleClientDisconnected_steps
  | taskSubmit client conn req sub => exact handleTaskSubmit_steps sub
  | taskInspect client conn req t => exact handleTaskInspect_steps t
  | taskList client conn req filter => exact .single (respondClient_step _ _ _ _ _ (fun h => by cases h))
  | taskCancel client conn req t => exact handleTaskCancel_steps t
  | workloadInspect client conn req w => exact handleWorkloadInspect_steps w
  | fabricStatus client conn req => exact .single (respondClient_step _ _ _ _ _ (fun h => by cases h))
  | placementQuery client conn req task => exact .single (respondClient_step _ _ _ _ _ (fun h => by cases h))
  | nodeList client conn req => exact .single (respondClient_step _ _ _ _ _ (fun h => by cases h))
  | nodeDrain client conn req drain => exact handleNodeDrain_steps drain
  | coordinatorShutdown client conn req => exact handleCoordinatorShutdown_steps

end ClientCommands

end ComputeFabric
