import ComputeFabric.Coordinator.Crash
import ComputeFabric.Safety.Cancellation
import ComputeFabric.Safety.Durability

/-!
# `Safety.Acknowledged` — what has been acknowledged, and what has been saved

A client or a node that holds an acknowledgement may forget the request: the coordinator must not. Three
replies acknowledge an effect — of a commit, of a submission, of a cancellation — and the process may die
between any two effects of the handler that sends one.

- **Commit.** The reply is queued before the save, so there is always a moment at which the result is
  acknowledged and not on disk.
- **Submission, cancellation of a task that is not running.** The save comes first, but its result is dropped:
  the reply is the same when it fails.
- **Cancellation of a running task.** The request is a flag in memory and is never saved.

`acknowledged_durable_iff` says exactly, for every state any run with crashes can reach, which replies are
backed by the file at every moment from their queueing on.
-/

namespace ComputeFabric

open Coordinator

variable {D : Type}

/-! ## The property -/

/-- The state loaded from `d` contains the effect that the reply `m` to the event `e` acknowledges. A
    completion acknowledges an effect when it commits; a known attempt is merely acknowledged again. -/
def Coordinator.AckKept (s : Coordinator D) (e : Event D) (m : Message D) (d : DurableState D) : Prop :=
  match e, m with
  | .command (.attemptComplete _ _ co), .attemptCompleteAck _ =>
      ∀ a, s.commits co = some a →
        d.Holds (.result a.taskId ⟨a.id, co.outputIntegrity, co.outputSize⟩) ∧ d.Holds (.succeeded a.taskId)
  | .command (.taskSubmit _ _ _ sub), .taskSubmitResponse _ => d.tasks.contains sub.task.id = true
  | .command (.taskCancel _ _ _ t), .taskCancelResponse _ => (d.view t 0).Called
  | _, _ => False

/-- The event is processed, to its end or up to a crash. -/
def CrashEvent.processes (ce : CrashEvent D) (e : Event D) : Prop :=
  ce = .event e ∨ ∃ lost rest, ce = .crash e lost rest

/-- What the event acknowledges is in the file saved last, from the moment at which the reply has been queued
    on: at every later moment of every run that processes the event. -/
def Coordinator.AcksDurable [DoubleArith D] (env : Env) (s : Coordinator D) (e : Event D) : Prop :=
  ∀ s₁, step env s e = some s₁ →
    ∀ new conn req m, .queued conn req m :: new ++ s.effects <:+ s₁.effects → m.acknowledges = true →
      ∀ ce after s', ce.processes e → Lts.run (crashStep env) s (ce :: after) = some s' →
        ∀ log, .queued conn req m :: new ++ s.effects <:+ log → log <:+ s'.effects → s.AckKept e m (fileAt log)

/-! ## The condition -/

/-- A frame for this connection is queued. -/
def Coordinator.queues (env : Env) (s : Coordinator D) (conn : ConnId) : Bool :=
  !s.isStopped conn && !env.outboundFull s.sends

/-- A reply to this client is queued. -/
def Coordinator.answers (env : Env) (s : Coordinator D) (client : Id128) (conn : ConnId) : Bool :=
  s.clientConns[client]? = some conn && s.queues env conn

/-- The live connection that the notice of a cancellation goes to. -/
def Coordinator.noticeConn (s : Coordinator D) (t : ComputeTaskId) : Option ConnId :=
  match s.outstandingAttempt t with
  | some a => s.nodeConns[a.nodeId]?.filter fun c => !s.isStopped c
  | none => none

/-- The reply to the cancellation of a running task is queued, after the notice to its node. -/
def Coordinator.answersCancel (env : Env) (s : Coordinator D) (client : Id128) (conn : ConnId)
    (t : ComputeTaskId) : Bool :=
  match s.noticeConn t with
  | none => s.answers env client conn
  | some c =>
      s.clientConns[client]? = some conn && !s.isStopped conn && !(c = conn && env.outboundFull s.sends) &&
        !env.outboundFull (s.sends + 1)

/-- No reply of the event acknowledges what the file lacks: no commit is acknowledged, no running task's
    cancellation is acknowledged, and the save before any other acknowledgement succeeds. -/
def Coordinator.savesBeforeAck (env : Env) (s : Coordinator D) : Event D → Bool
  | .command (.attemptComplete conn _ co) => (s.commits co).isNone || !s.queues env conn
  | .command (.taskSubmit client conn _ sub) =>
      !s.answers env client conn ||
        if s.graph.hasTask sub.task.id then (s.file.getD {}).tasks.contains sub.task.id
        else !s.accepts sub || env.saveOk s.saves
  | .command (.taskCancel client conn _ t) =>
      !(s.cancelResponse t).cancelled ||
        if s.graph.state t = .running then !s.answersCancel env client conn t
        else !s.answers env client conn || env.saveOk s.saves
  | _ => true

/-! ## What lasts -/

section Lasting

variable [DoubleArith D] (env : Env)

theorem Lasting.fact (f : Fact D) : Lasting env (fun d => d.Holds f) fun s => s.Knows f where
  step _ _ _ _ hsound hstep hf := hstep.knows hsound hf
  save _ hcoh := holds_snapshot hcoh f
  start _ _ hfile hstart := (start_spec hstart hfile).knows (start_workloads hstart) f

omit [DoubleArith D] env in
theorem contains_eq_true_iff {tasks : IdMap (ComputeTask D)} {t : ComputeTaskId} :
    tasks.contains t = true ↔ ∃ task, tasks[t]? = some task := by
  rw [Std.ExtTreeMap.contains_eq_isSome_getElem?, Option.isSome_iff_exists]

theorem Lasting.task (t : ComputeTaskId) :
    Lasting env (fun d : DurableState D => d.tasks.contains t = true) fun s => s.graph.hasTask t = true where
  step s e x x' hsound hstep ht := by
    obtain ⟨task, htask⟩ := contains_eq_true_iff.mp ht
    exact contains_eq_true_iff.mpr ⟨task, hstep.knows (f := .task t task) hsound htask⟩
  save _ _ := Iff.rfl
  start w s hfile hstart := by
    have htask := (start_spec hstart hfile).tasks t
    rw [TaskGraph.hasTask, contains_eq_true_iff, contains_eq_true_iff, htask]

omit [DoubleArith D] env in
/-- No cancel request is saved: a cancellation on disk is a cancelled task. -/
theorem called_view_iff {d : DurableState D} {t : ComputeTaskId} :
    (d.view t 0).Called ↔ (d.view t 0).state = some .cancelled := by
  constructor
  · rintro ⟨-, hflag | hst⟩
    · cases hflag
    · exact hst
  · intro hst
    exact ⟨by rw [hst]; decide, .inr hst⟩

theorem Lasting.cancelled (t : ComputeTaskId) :
    Lasting env (fun d : DurableState D => (d.view t 0).Called) fun s => (s.view t).state = some .cancelled where
  step _ _ x x' hsound hstep hst :=
    CoreSteps.view_invariant t (J := fun v => v.state = some .cancelled)
      (fun _ _ hv htask => htask.absorbing hv rfl) hsound.wellFormed (.single hstep) hst
  save x hcoh := by
    rw [called_view_iff, view_snapshot hcoh]
    show (x.view t).state.map _ = _ ↔ _
    cases (x.view t).state with
    | none => simp
    | some cur => simpa using recoveredState_eq_iff rfl (by decide) (by decide)
  start w s hfile hstart := by
    rw [called_view_iff, (start_spec hstart hfile).view]
    rfl

/-- What an acknowledgement promises lasts, once it is on disk. -/
theorem Lasting.ackKept (s : Coordinator D) (e : Event D) (m : Message D) :
    ∃ Q, Lasting env (s.AckKept e m) Q := by
  unfold AckKept
  split
  · next conn req co ack =>
      cases hcommits : s.commits co with
      | none => exact ⟨_, (Lasting.const True).congr fun d => by simp⟩
      | some a =>
          exact ⟨_, ((Lasting.fact env (.result a.taskId ⟨a.id, co.outputIntegrity, co.outputSize⟩)).and
            (Lasting.fact env (.succeeded a.taskId))).congr fun d => by simp⟩
  · next client conn req sub resp => exact ⟨_, .task env sub.task.id⟩
  · next client conn req t resp => exact ⟨_, .cancelled env t⟩
  · exact ⟨_, .const False⟩

end Lasting

/-! ## Moments of one event -/

/-- The property for an event that has had the effects `full` when it ends: each acknowledgement among them is
    backed by the file at the moment at which it is queued. -/
def Coordinator.KeptIn (s : Coordinator D) (e : Event D) (full : List (Effect D)) : Prop :=
  ∀ new conn req m, .queued conn req m :: new <:+ full → m.acknowledges = true →
    s.AckKept e m (((lastSaved new).or s.file).getD {})

section Moments

variable {env : Env} {s : Coordinator D} {e : Event D}

/-- **It is enough to look at the moments of queueing**: what is on disk then stays there. -/
theorem acksDurable_iff [DoubleArith D] {events : List (CrashEvent D)} (hrun : crashRun env events = some s)
    {s₁ : Coordinator D} (h : step env s e = some s₁) {full : List (Effect D)}
    (heffects : s₁.effects = full ++ s.effects) : s.AcksDurable env e ↔ s.KeptIn e full := by
  have hlogged := (crashRun_logged hrun).2
  have hmoment : ∀ new, new ++ s.effects <:+ s₁.effects ↔ new <:+ full := by
    intro new
    rw [heffects]
    constructor
    · rintro ⟨before, hbefore⟩
      rw [← List.append_assoc] at hbefore
      exact ⟨before, List.append_cancel_right hbefore⟩
    · rintro ⟨before, rfl⟩
      exact ⟨before, by rw [List.append_assoc]⟩
  have hfile : ∀ new conn req m, fileAt (.queued conn req m :: new ++ s.effects) =
      ((lastSaved new).or s.file).getD {} := by
    intro new conn req m
    show (lastSaved (new ++ s.effects)).getD {} = _
    rw [lastSaved_append, hlogged.file]
  constructor
  · intro hdurable new conn req m hnew hack
    rw [← hfile new conn req m]
    have hqueued := (hmoment _).mpr hnew
    refine hdurable s₁ h new conn req m hqueued hack (.event e) [] s₁ (.inl rfl) ?_ _ List.suffix_rfl hqueued
    exact Lts.run_cons.mpr ⟨s₁, h, rfl⟩
  · intro hkept s₂ h₂ new conn req m hqueued hack ce after s' _ hafter log hlog hlog'
    obtain rfl : s₁ = s₂ := Option.some.inj (h.symm.trans h₂)
    obtain ⟨Q, hlasting⟩ := Lasting.ackKept env s e m
    refine (hlasting.kept (crashRun_append.mpr ⟨s, hrun, hafter⟩)).2 _ log hlog hlog' ?_
    rw [hfile]
    exact hkept new conn req m ((hmoment _).mp hqueued) hack

/-- No acknowledgement is among these effects. -/
def Silent (effects : List (Effect D)) : Prop :=
  ∀ conn req m, .queued conn req m ∈ effects → m.acknowledges = false

theorem Silent.nil : Silent ([] : List (Effect D)) := fun _ _ _ hm => absurd hm List.not_mem_nil

theorem keptIn_of_silent {full : List (Effect D)} (h : Silent full) : s.KeptIn e full := by
  intro new conn req m hnew hack
  rw [h conn req m (hnew.subset List.mem_cons_self)] at hack
  cases hack

/-- A handler whose last effect is its reply: the file at that moment decides. -/
theorem keptIn_reply {conn : ConnId} {req : UInt64} {m : Message D} {before : List (Effect D)}
    (h : Silent before) : s.KeptIn e (.queued conn req m :: before) ↔
      (m.acknowledges = true → s.AckKept e m (((lastSaved before).or s.file).getD {})) := by
  constructor
  · intro hkept
    exact hkept before conn req m List.suffix_rfl
  · intro hreply new conn' req' m' hnew hack
    rcases List.suffix_cons_iff.mp hnew with heq | hnew
    · cases heq
      exact hreply hack
    · exact keptIn_of_silent h new conn' req' m' hnew hack

end Moments

/-! ## Replies -/

section Replies

variable (env : Env) {s x : Coordinator D}

theorem queueOutbound_effects (conn : ConnId) (req : UInt64) (m : Message D) :
    (s.queueOutbound env conn req m).effects =
      if s.queues env conn then .queued conn req m :: s.effects else s.effects := by
  unfold queueOutbound queues
  by_cases hstopped : s.isStopped conn = true
  · simp [hstopped]
  · by_cases hfull : env.outboundFull s.sends = true
    · simp [hstopped, hfull, stopConnection]
    · simp [hstopped, hfull]

theorem respondClient_effects (client : Id128) (conn : ConnId) (req : UInt64) (m : Message D) :
    (s.respondClient env client conn req m).effects =
      if s.answers env client conn then .queued conn req m :: s.effects else s.effects := by
  unfold respondClient answers
  by_cases hclient : s.clientConns[client]? = some conn
  · rw [if_pos hclient, queueOutbound_effects]
    simp [hclient]
  · simp [hclient]

variable [DoubleArith D] {events : List (CrashEvent D)} (hrun : crashRun env events = some s) {e : Event D}
  {client : Id128} {conn : ConnId} {req : UInt64} {m : Message D} {before : List (Effect D)}

include hrun in
/-- **A command that ends with a reply to its client** keeps what it acknowledges exactly when the file at that
    moment does, or the reply is not queued. -/
theorem acksDurable_respondClient
    (h : step env s e = some (x.respondClient env client conn req m)) (hx : x.effects = before ++ s.effects)
    (hbefore : Silent before) :
    s.AcksDurable env e ↔ (x.answers env client conn = true → m.acknowledges = true →
      s.AckKept e m (((lastSaved before).or s.file).getD {})) := by
  cases hanswers : x.answers env client conn with
  | false =>
      rw [acksDurable_iff hrun h (by rw [respondClient_effects, hanswers]; exact hx)]
      simp [keptIn_of_silent hbefore]
  | true =>
      have heffects : (x.respondClient env client conn req m).effects =
          (.queued conn req m :: before) ++ s.effects := by
        rw [respondClient_effects, hanswers, if_pos rfl, hx, List.cons_append]
      rw [acksDurable_iff hrun h heffects, keptIn_reply hbefore]
      simp

end Replies

/-! ## The three handlers -/

section Handlers

variable [DoubleArith D] {env : Env} {s : Coordinator D} {events : List (CrashEvent D)}
  (hrun : crashRun env events = some s) {client : Id128} {conn : ConnId} {req : UInt64}

/-- The effect of a save. -/
def saveEffect (env : Env) (s : Coordinator D) : Effect D :=
  if env.saveOk s.saves then .saved s.snapshot else .saveFailed

omit [DoubleArith D] in
theorem silent_saveEffect (env : Env) (x : Coordinator D) : Silent [saveEffect env x] := by
  intro conn req m hm
  rw [List.mem_singleton, saveEffect] at hm
  split_ifs at hm

omit [DoubleArith D] in
theorem before_saveEffect {x : Coordinator D} (h : x.effects = s.effects) :
    (x.persist env).effects = [saveEffect env x] ++ s.effects := by
  rw [persist_effects, h]
  rfl

omit [DoubleArith D] in
theorem lastSaved_saveEffect (env : Env) (x : Coordinator D) :
    lastSaved [saveEffect env x] = if env.saveOk x.saves then some x.snapshot else none := by
  unfold saveEffect
  split_ifs <;> rfl

theorem commitAndReply_effects (co : AttemptComplete D) (p : AttemptPtr) (a : ExecutionAttempt D) :
    (s.commitAndReply env conn req co p a).effects = if s.queues env conn then
      .queued conn req (.attemptCompleteAck ⟨co.attemptId, true, []⟩) :: s.effects else s.effects := by
  unfold commitAndReply recordCompletion
  split <;> exact queueOutbound_effects env conn req _

include hrun in
/-- **Commits.** The acknowledgement of a commit is never backed by the file when it is queued. -/
theorem attemptComplete_acksDurable (co : AttemptComplete D) :
    s.AcksDurable env (.command (.attemptComplete conn req co)) ↔
      ((s.commits co).isNone || !s.queues env conn) = true := by
  obtain ⟨s', hs'⟩ : ∃ s', step env s (.command (.attemptComplete conn req co)) = some s' := ⟨_, rfl⟩
  cases hcommits : s.commits co with
  | none =>
      obtain ⟨full, hfull, hacks⟩ := step_adds hs'
      rw [acksDurable_iff hrun hs' hfull]
      refine iff_of_true ?_ rfl
      -- the acknowledgement of an attempt that was committed before acknowledges no new effect
      intro new conn' req' m hnew hack
      have hanswer := hacks conn' req' m (hnew.subset List.mem_cons_self) hack
      cases m with
      | attemptCompleteAck ack =>
          intro a ha
          rw [hcommits] at ha
          cases ha
      | _ => cases hanswer
  | some a =>
      obtain ⟨p, -, hhandler⟩ := handleAttemptComplete_of_commits env conn req co hcommits
      obtain rfl : s.handleAttemptComplete env conn req co = s' := Option.some.inj hs'
      generalize hx : onTaskSucceededRecursive env _ a.taskId (s.commitAndReply env conn req co p a) = x
        at hhandler
      have hcascade : x.effects = (s.commitAndReply env conn req co p a).effects :=
        hx ▸ (onTaskSucceededRecursive_cascaded env _ _ _).effects
      have heffects : (s.handleAttemptComplete env conn req co).effects = saveEffect env x :: x.effects := by
        rw [hhandler, persist_effects, saveEffect]
      rw [hcascade, commitAndReply_effects] at heffects
      cases hqueues : s.queues env conn with
      | false =>
          have hfull : (s.handleAttemptComplete env conn req co).effects = [saveEffect env x] ++ s.effects := by
            rw [heffects, hqueues, if_neg Bool.false_ne_true, List.singleton_append]
          rw [acksDurable_iff hrun hs' hfull]
          exact iff_of_true (keptIn_of_silent (silent_saveEffect env x)) rfl
      | true =>
          have hfull : (s.handleAttemptComplete env conn req co).effects =
              [saveEffect env x, .queued conn req (.attemptCompleteAck ⟨co.attemptId, true, []⟩)] ++ s.effects := by
            rw [heffects, hqueues, if_pos rfl]
            rfl
          rw [acksDurable_iff hrun hs' hfull]
          refine iff_of_false ?_ Bool.false_ne_true
          intro hkept
          -- between the reply and the save the file is still the old one
          have hbefore := hkept [] conn req _ (List.suffix_cons _ _) rfl
          have hdone := ((Lasting.fact env (.succeeded a.taskId)).kept hrun).1 (hbefore a hcommits).2
          rcases (live_of_commits hcommits).2 with hstate | hstate <;> rw [hdone] at hstate <;> cases hstate

omit [DoubleArith D] in
/-- A submission that is refused: the client is told so, and nothing was saved. -/
theorem handleTaskSubmit_of_refused (env : Env) (client : Id128) (conn : ConnId) (req : UInt64)
    {sub : TaskSubmit D} (hnew : s.graph.hasTask sub.task.id = false)
    (hrefused : s.accepts sub = false) : ∃ (x : Coordinator D) (err : Text), x.effects = s.effects ∧
      s.handleTaskSubmit env client conn req sub = x.respondClient env client conn req
        (.taskSubmitResponse { accepted := false, taskId := sub.task.id, error := err }) := by
  unfold handleTaskSubmit
  dsimp only
  rw [if_neg (by rw [hnew]; decide)]
  by_cases hstop : s.stopping = true
  · rw [if_pos hstop]
    exact ⟨s, _, rfl, rfl⟩
  rw [if_neg hstop]
  by_cases hzero : sub.task.id.isZero = true
  · rw [if_pos hzero]
    exact ⟨s, _, rfl, rfl⟩
  rw [if_neg hzero]
  cases hdeps : sub.task.dependencies.find? fun d => !s.graph.hasTask d with
  | some d => exact ⟨s, _, rfl, rfl⟩
  | none =>
      dsimp only
      cases hadd : s.graph.addTask sub.task with
      | mk g result =>
          cases result with
          | error err => exact ⟨{ s with graph := g }, _, rfl, rfl⟩
          | ok _ =>
              -- every check has passed, so the submission would have been accepted
              have haccepts : s.accepts sub = true := by
                rw [List.find?_eq_none] at hdeps
                simpa [accepts, hnew, hstop, hzero, hadd] using hdeps
              rw [haccepts] at hrefused
              cases hrefused

omit [DoubleArith D] in
theorem persist_answers (x : Coordinator D) : (x.persist env).answers env client conn = x.answers env client conn := by
  unfold persist
  split_ifs <;> rfl

include hrun in
/-- **Submissions.** A new task is acknowledged whether or not its save succeeded, a known one whether or not it
    was ever saved. -/
theorem taskSubmit_acksDurable (sub : TaskSubmit D) :
    s.AcksDurable env (.command (.taskSubmit client conn req sub)) ↔
      (!s.answers env client conn || if s.graph.hasTask sub.task.id then
        (s.file.getD {}).tasks.contains sub.task.id else !s.accepts sub || env.saveOk s.saves) = true := by
  have hs' : step env s (.command (.taskSubmit client conn req sub)) =
    some (s.handleTaskSubmit env client conn req sub) := rfl
  cases hknown : s.graph.hasTask sub.task.id with
  | true =>
      -- a known task is acknowledged as it is
      have hhandler : s.handleTaskSubmit env client conn req sub = s.respondClient env client conn req
          (.taskSubmitResponse { accepted := true, taskId := sub.task.id, error := [] }) := by
        unfold handleTaskSubmit
        simp only [hknown, if_true]
      rw [hhandler] at hs'
      rw [acksDurable_respondClient env hrun hs' (List.nil_append _).symm .nil]
      simp [Message.acknowledges, AckKept, lastSaved, ← Bool.not_eq_true, imp_iff_not_or]
  | false =>
      cases haccepts : s.accepts sub with
      | false =>
          obtain ⟨x, err, hx, hhandler⟩ := handleTaskSubmit_of_refused env client conn req hknown haccepts
          rw [hhandler] at hs'
          rw [acksDurable_respondClient env hrun hs' (hx.trans (List.nil_append _).symm) .nil]
          simp [Message.acknowledges]
      | true =>
          obtain ⟨g, hadd, hhandler⟩ := handleTaskSubmit_of_accepts env client conn req haccepts
          rw [hhandler] at hs'
          -- the state that is saved has the new task
          obtain ⟨y, hy, heffects, hsaves, hanswers, htasks⟩ : ∃ y : Coordinator D,
              s.acceptTask env sub g = y.persist env ∧ y.effects = s.effects ∧ y.saves = s.saves ∧
              y.answers env client conn = s.answers env client conn ∧ y.graph.tasks.contains sub.task.id = true := by
            refine ⟨_, rfl, rfl, rfl, rfl, ?_⟩
            obtain ⟨-, rfl⟩ := TaskGraph.addTask_ok hadd
            show (TaskGraph.tasks (TaskGraph.trySetState _ _ _)).contains _ = true
            simp [TaskGraph.insertTask]
          rw [hy] at hs'
          rw [acksDurable_respondClient env hrun hs' (before_saveEffect heffects) (silent_saveEffect env y),
            persist_answers, hanswers, lastSaved_saveEffect, hsaves]
          cases hsave : env.saveOk s.saves with
          | true => simp [AckKept, snapshot, htasks]
          | false =>
              -- the old file cannot have the task: it is new
              have hold : (s.file.getD {}).tasks.contains sub.task.id = false := by
                rw [← Bool.not_eq_true]
                intro hfile
                rw [((Lasting.task env sub.task.id).kept hrun).1 hfile] at hknown
                cases hknown
              simp [AckKept, hold, Message.acknowledges]

omit [DoubleArith D] in
/-- The notice of a cancellation goes out on one connection, or not at all. -/
theorem cancelNotice_eq (env : Env) (s : Coordinator D) (t : ComputeTaskId) :
    (s.noticeConn t = none ∧ (s.cancelNotice env t) = s.onLedger fun l => (l.requestCancel t).touchAttempts t) ∨
      ∃ (c : ConnId) (a : ExecutionAttempt D), s.noticeConn t = some c ∧ s.isStopped c = false ∧
        s.cancelNotice env t = (s.onLedger fun l => (l.requestCancel t).touchAttempts t).queueOutbound env c 0
          (.attemptCancel a.id (text "task cancelled by client")) := by
  have hattempts : (s.onLedger fun l => (l.requestCancel t).touchAttempts t).outstandingAttempt t =
      s.outstandingAttempt t := by
    unfold outstandingAttempt
    exact congrArg _ (Ledger.attemptsOf_touchAttempts (s.toLedger.requestCancel t) t t)
  unfold cancelNotice noticeConn
  dsimp only
  rw [hattempts]
  cases s.outstandingAttempt t with
  | none => exact .inl ⟨rfl, rfl⟩
  | some a =>
      dsimp only
      have hconns : (s.onLedger fun l => (l.requestCancel t).touchAttempts t).nodeConns = s.nodeConns := rfl
      rw [sendToNode, hconns]
      cases s.nodeConns[a.nodeId]? with
      | none => exact .inl ⟨rfl, rfl⟩
      | some c =>
          cases hstopped : s.isStopped c with
          | false => exact .inr ⟨c, a, by simp [hstopped], hstopped, rfl⟩
          | true =>
              refine .inl ⟨by simp [hstopped], ?_⟩
              have hstopped' : (s.onLedger fun l => (l.requestCancel t).touchAttempts t).isStopped c = true :=
                hstopped
              dsimp only
              rw [queueOutbound, if_pos hstopped']

omit [DoubleArith D] in
/-- The notice acknowledges nothing and saves nothing. -/
theorem cancelNotice_effects (env : Env) (s : Coordinator D) (t : ComputeTaskId) :
    ∃ before, (s.cancelNotice env t).effects = before ++ s.effects ∧ Silent before ∧ lastSaved before = none := by
  rcases cancelNotice_eq env s t with ⟨-, heq⟩ | ⟨c, a, -, -, heq⟩
  · rw [heq]
    exact ⟨[], rfl, .nil, rfl⟩
  · rw [heq, queueOutbound_effects]
    split_ifs
    · refine ⟨[_], rfl, ?_, rfl⟩
      intro conn req m hm
      cases List.mem_singleton.mp hm
      rfl
    · exact ⟨[], rfl, .nil, rfl⟩

omit [DoubleArith D] in
theorem cancelNotice_answers (t : ComputeTaskId) :
    (s.cancelNotice env t).answers env client conn = s.answersCancel env client conn t := by
  unfold answersCancel
  rcases cancelNotice_eq env s t with ⟨hnone, heq⟩ | ⟨c, a, hsome, hstopped, heq⟩
  · rw [heq, hnone]
    rfl
  · rw [heq, hsome]
    have hlive : (s.onLedger fun l => (l.requestCancel t).touchAttempts t).isStopped c = false := hstopped
    have hsends : (s.onLedger fun l => (l.requestCancel t).touchAttempts t).sends = s.sends := rfl
    unfold queueOutbound
    rw [if_neg (by rw [hlive]; decide), hsends]
    cases hfull : env.outboundFull s.sends with
    | false => simp [answers, queues, isStopped, onLedger, Bool.and_assoc]
    | true =>
        -- the node's connection is stopped when its queue is full
        by_cases hsame : c = conn
        · simp [answers, queues, isStopped, onLedger, stopConnection, hsame]
        · have hcompare : (compare c conn == Ordering.eq) = false :=
            beq_eq_false_iff_ne.mpr fun h => hsame (Std.compare_eq_iff_eq.mp h)
          simp [answers, queues, isStopped, onLedger, stopConnection, hsame, hcompare, Bool.and_assoc]

include hrun in
/-- **Cancellations.** The request to cancel a running task is never saved. -/
theorem taskCancel_acksDurable (t : ComputeTaskId) :
    s.AcksDurable env (.command (.taskCancel client conn req t)) ↔
      (!(s.cancelResponse t).cancelled || if s.graph.state t = .running then !s.answersCancel env client conn t
        else !s.answers env client conn || env.saveOk s.saves) = true := by
  have hs' : step env s (.command (.taskCancel client conn req t)) =
    some (s.handleTaskCancel env client conn req t) := rfl
  -- a file that has the cancellation is of a task that is cancelled in memory
  have hfile : ((s.file.getD {}).view t 0).Called → (s.view t).state = some .cancelled :=
    ((Lasting.cancelled env t).kept hrun).1
  rcases handleTaskCancel_cases env s client conn req t with
    ⟨hrefused, hhandler⟩ | ⟨haccepted, hrunning, hhandler⟩ | ⟨haccepted, st, hst, hterminal, hne, hlegal, hhandler⟩
  · rw [hhandler] at hs'
    rw [acksDurable_respondClient env hrun hs' (List.nil_append _).symm .nil]
    simp [Message.acknowledges, hrefused]
  · rw [hhandler] at hs'
    obtain ⟨before, hbefore, hsilent, hlast⟩ := cancelNotice_effects env s t
    rw [acksDurable_respondClient env hrun hs' hbefore hsilent, cancelNotice_answers, hlast]
    have hno : ¬((s.file.getD {}).view t 0).Called := by
      intro hcalled
      have hst : (s.view t).state = some .running := hrunning
      rw [hfile hcalled] at hst
      cases hst
    have hstate : s.graph.state t = .running := (Ledger.state_eq_iff (by decide)).mpr hrunning
    simp [AckKept, Message.acknowledges, haccepted, hno, hstate]
  · obtain ⟨y, hy, heffects, hsaves, hanswers, hledger⟩ : ∃ y : Coordinator D,
        ((s.onLedger fun l => l.cancelTask t).persist env) = y.persist env ∧ y.effects = s.effects ∧
        y.saves = s.saves ∧ y.answers env client conn = s.answers env client conn ∧
        y.toLedger = s.toLedger.cancelTask t := ⟨_, rfl, rfl, rfl, rfl, rfl⟩
    rw [hhandler, hy] at hs'
    rw [acksDurable_respondClient env hrun hs' (before_saveEffect heffects) (silent_saveEffect env y),
      persist_answers, hanswers, lastSaved_saveEffect, hsaves]
    have hstate : s.graph.state t ≠ .running := by
      rw [Ledger.state_of_view (l := s.toLedger) hst]
      exact hne
    cases hsave : env.saveOk s.saves with
    | true =>
        have hcalled : (y.snapshot.view t 0).Called := by
          have hcancelled : (y.view t).state = some .cancelled := by
            rw [hledger, Ledger.view_cancelTask, if_pos rfl]
            show s.graph.states[t]?.map _ = _
            rw [hst, Option.map_some, TaskState.next, if_pos hlegal]
          have hcoh : y.graph.Coherent := by
            have hcoh' := (step_sound (crashRun_logged hrun).1 hs').wellFormed.coherent
            rwa [respondClient_toLedger, persist_toLedger] at hcoh'
          exact ((Lasting.cancelled env t).save y hcoh).mpr hcancelled
        simp [AckKept, hcalled, hstate]
    | false =>
        have hno : ¬((s.file.getD {}).view t 0).Called := by
          intro hcalled
          have hst' : (s.view t).state = some st := hst
          rw [hfile hcalled] at hst'
          cases hst'
          cases hterminal
        simp [AckKept, Message.acknowledges, haccepted, hno, hstate]

/-- No other event queues an acknowledgement. -/
theorem acksDurable_of_other {e : Event D} (h : ∀ m : Message D, m.answers e = false) : s.AcksDurable env e := by
  intro s₁ hs₁ new conn' req' m hqueued hack
  obtain ⟨full, hfull, hacks⟩ := step_adds hs₁
  obtain ⟨before, hbefore⟩ := hqueued
  rw [hfull, ← List.append_assoc] at hbefore
  have hmem : .queued conn' req' m ∈ full := by
    rw [← List.append_cancel_right hbefore]
    exact List.mem_append_right _ List.mem_cons_self
  have hanswers := hacks conn' req' m hmem hack
  rw [h m] at hanswers
  cases hanswers

end Handlers

section Theorem

variable [DoubleArith D] {env : Env} {s : Coordinator D}

/-- **Acknowledged means durable, exactly when the save comes first and succeeds.** In every state any run with
    crashes and failing saves can reach, and for every event: from the moment its reply has been queued on, the
    file saved last contains what the reply acknowledges, if and only if the event acknowledges no commit and
    no cancellation of a running task, and the save before its acknowledgement succeeds. -/
theorem acknowledged_durable_iff {events : List (CrashEvent D)} (hrun : crashRun env events = some s) (e : Event D) :
    s.AcksDurable env e ↔ s.savesBeforeAck env e = true := by
  have hother : (∀ m : Message D, m.answers e = false) → s.savesBeforeAck env e = true →
      (s.AcksDurable env e ↔ s.savesBeforeAck env e = true) :=
    fun hno htrue => iff_of_true (acksDurable_of_other hno) htrue
  cases e with
  | command c =>
      cases c with
      | attemptComplete conn req co => exact attemptComplete_acksDurable hrun co
      | taskSubmit client conn req sub => exact taskSubmit_acksDurable hrun sub
      | taskCancel client conn req t => exact taskCancel_acksDurable hrun t
      | _ => exact hother (fun m => by cases m <;> rfl) rfl
  | _ => exact hother (fun m => by cases m <;> rfl) rfl

end Theorem

/-- A node and a client connect; the client's submission is saved before it is acknowledged. -/
theorem acknowledged_durable_submission :
    ∃ s, crashRun (Demo.env 3000 100) [.event (Demo.register 1),
        .event (.command (.clientConnected ⟨0, 9⟩ 2))] = some s ∧
      s.answers (Demo.env 3000 100) ⟨0, 9⟩ 2 = true ∧ s.AcksDurable (Demo.env 3000 100) (Demo.submit 1) := by
  have hfacts : ((crashRun (Demo.env 3000 100) [.event (Demo.register 1),
      .event (.command (.clientConnected ⟨0, 9⟩ 2))]).map fun s => (s.answers (Demo.env 3000 100) ⟨0, 9⟩ 2,
        s.savesBeforeAck (Demo.env 3000 100) (Demo.submit 1))) = some (true, true) := by
    decide +kernel
  obtain ⟨s, hs, hfacts⟩ := Option.map_eq_some_iff.mp hfacts
  obtain ⟨hanswers, hcond⟩ := Prod.mk.inj hfacts
  exact ⟨s, hs, hanswers, (acknowledged_durable_iff hs (Demo.submit 1)).mpr hcond⟩

/-- The effect acknowledges the completion of this attempt. -/
def Effect.acksAttempt (id : ExecutionAttemptId) : Effect D → Bool
  | .queued _ _ (.attemptCompleteAck ack) => ack.attemptId = id && ack.accepted
  | _ => false

/-- A running task completes; the process dies after it has acknowledged the commit and before it has saved it.
    The process started in its place fails the task as lost and has no attempt of it. -/
theorem acknowledged_commit_is_lost :
    ((crashRun (Demo.env 3000 100) [.event (Demo.register 1), .event (Demo.submit 1), .event .sweep,
        .event (Demo.started 2), .crash (Demo.complete 2 1) 1
          { drawn := 3, clockReads := 7, saves := 5, sends := 3, dispatchLog := [(Demo.taskId, Demo.id 2)] }]).map
      fun s =>
      (s.effects.any (Effect.acksAttempt (Demo.id 2)), s.graph.state Demo.taskId,
        (s.attemptsOf Demo.taskId).length)) = some (true, .failed, 0) := by
  decide +kernel

end ComputeFabric
