import ComputeFabric.Coordinator.SweepSteps

/-!
# `Coordinator.TaskSteps` — the state machine of one task

`TaskStep` is the abstract machine a single task runs through: its states are `TaskView`s, and it has one
transition for each thing that can happen to a task. `LedgerStep.taskSteps` is the simulation: in a
well-formed ledger, every ledger transition is, seen from any one task, a sequence of its transitions —
none at all, unless it is that task's.

`Ledger.WellFormed` is what the simulation rests on and every transition keeps: attempts and nodes are
filed under their own ids, and the graph's maps agree.
-/

namespace ComputeFabric

open Coordinator
open ExecutionAttempt (markStarted markCommitted markFailed markCancelled)

variable {D : Type}

structure Ledger.WellFormed (l : Ledger D) : Prop where
  keyed : ∀ t, ∀ a ∈ l.attemptsOf t, a.taskId = t
  coherent : l.graph.Coherent
  nodes : ∀ (n : NodeId) (node : NodeRecord D), l.nodes[n]? = some node → node.id = n

namespace Ledger

variable {l : Ledger D}

/-- A pointer found by id leads to a record of the task it is filed under. -/
theorem WellFormed.taskId_eq (hwf : l.WellFormed) {id : ExecutionAttemptId} {p : AttemptPtr}
    {a : ExecutionAttempt D} (h : l.findActiveAttempt id = some (p, a)) : a.taskId = p.task :=
  hwf.keyed p.task a (List.mem_of_getElem? (findActiveAttempt_eq_some h).1)

/-- Well-formedness does not read reservations, timers, cancel requests or logs. -/
theorem WellFormed.congr {l' : Ledger D} (hwf : l.WellFormed) (hattempts : l'.attempts = l.attempts)
    (hgraph : l'.graph = l.graph) (hnodes : l'.nodes = l.nodes) : l'.WellFormed where
  keyed t a ha := hwf.keyed t a (by rwa [attemptsOf, hattempts] at ha)
  coherent := hgraph ▸ hwf.coherent
  nodes := hnodes ▸ hwf.nodes

theorem WellFormed.setState (hwf : l.WellFormed) (t : ComputeTaskId) (st : TaskState) :
    (l.setState t st).WellFormed :=
  ⟨hwf.keyed, hwf.coherent.trySetState t st, hwf.nodes⟩

theorem WellFormed.releaseTaskReservation (hwf : l.WellFormed) (t : ComputeTaskId) :
    (l.releaseTaskReservation t).WellFormed :=
  hwf.congr (by simp) (by simp) (by simp)

theorem WellFormed.updateAttempt (hwf : l.WellFormed) (p : AttemptPtr)
    (f : ExecutionAttempt D → ExecutionAttempt D) (hf : ∀ a, (f a).taskId = a.taskId) :
    (l.updateAttempt p f).WellFormed where
  keyed t a ha := by
    rw [attemptsOf_updateAttempt] at ha
    split_ifs at ha with h
    · obtain ⟨i, hi⟩ := List.mem_iff_getElem?.mp ha
      rw [List.getElem?_modify] at hi
      obtain ⟨b, hb, rfl⟩ := Option.map_eq_some_iff.mp hi
      have hb' := hwf.keyed t b (List.mem_of_getElem? hb)
      split_ifs
      · rw [hf, hb']
      · exact hb'
    · exact hwf.keyed t a ha
  coherent := hwf.coherent
  nodes := hwf.nodes

theorem WellFormed.updateNode (hwf : l.WellFormed) (n : NodeId) (f : NodeRecord D → NodeRecord D)
    (hf : ∀ node, (f node).id = node.id) : (l.updateNode n f).WellFormed where
  keyed := hwf.keyed
  coherent := hwf.coherent
  nodes m node h := by
    by_cases hnm : n = m
    · subst hnm
      rw [Ledger.updateNode, Std.ExtTreeMap.getElem?_modify_self] at h
      obtain ⟨node', hnode', rfl⟩ := Option.map_eq_some_iff.mp h
      rw [hf]
      exact hwf.nodes n node' hnode'
    · exact hwf.nodes m node (by simpa [Ledger.updateNode, Std.ExtTreeMap.getElem?_modify, hnm] using h)

theorem WellFormed.retryOrFail (hwf : l.WellFormed) (t : ComputeTaskId) (r : Option Int64) :
    (l.retryOrFail t r).WellFormed := by
  cases r with
  | none => exact hwf.setState t .failed
  | some time => exact (hwf.setState t .retryPending).congr rfl rfl rfl

theorem WellFormed.loseTask (hwf : l.WellFormed) (t : ComputeTaskId) (r : Option Int64) :
    (l.loseTask t r).WellFormed :=
  ((hwf.setState t .lost).retryOrFail t r).releaseTaskReservation t

theorem WellFormed.failAttempt (hwf : l.WellFormed) (p : AttemptPtr) (a : ExecutionAttempt D)
    (kind : FailureKind) (reason : Text) (now : Int64) (r : Option Int64) :
    (l.failAttempt p a kind reason now r).WellFormed := by
  have hreleased := (hwf.updateAttempt p (markFailed kind reason now)
    fun _ => rfl).releaseTaskReservation a.taskId
  unfold Ledger.failAttempt
  dsimp only
  split_ifs
  · exact hreleased
  · exact hreleased.retryOrFail a.taskId r

theorem WellFormed.pushAttempt (hwf : l.WellFormed) (t : ComputeTaskId) (a : ExecutionAttempt D)
    (ha : a.taskId = t) : (l.pushAttempt t a).WellFormed where
  keyed u b hb := by
    rw [attemptsOf_pushAttempt] at hb
    split_ifs at hb with h
    · rcases List.mem_append.mp hb with hb | hb
      · exact hwf.keyed u b hb
      · rw [List.mem_singleton.mp hb, ha, h]
    · exact hwf.keyed u b hb
  coherent := hwf.coherent
  nodes := hwf.nodes

theorem WellFormed.dispatch (hwf : l.WellFormed) (t : ComputeTaskId) (resv : Reservation)
    {a : ExecutionAttempt D} (ha : a.taskId = t) : (l.dispatch t resv a).WellFormed := by
  have hadd : (l.addReservation resv).WellFormed := hwf.congr rfl rfl rfl
  have hhold : ((((l.addReservation resv).setState t .planning).setState t .reserved).holdReservation
      t resv.id).WellFormed :=
    ((hadd.setState t .planning).setState t .reserved).congr rfl rfl rfl
  exact (hhold.pushAttempt t a ha).setState t .dispatching

end Ledger

/-- **Every ledger transition keeps the ledger well formed.** -/
theorem LedgerStep.wellFormed [DoubleArith D] {env : Env} {s₀ : Coordinator D} {e : Event D}
    {l l' : Ledger D} (h : LedgerStep env s₀ e l l') (hwf : l.WellFormed) : l'.WellFormed := by
  cases h with
  | register hopen hid hsession =>
      refine ⟨hwf.keyed, hwf.coherent, ?_⟩
      intro n node' hn
      rw [Ledger.registerNode, Std.ExtTreeMap.getElem?_insert] at hn
      split_ifs at hn with heq
      · rw [← Option.some.inj hn]
        exact Std.compare_eq_iff_eq.mp heq
      · exact hwf.nodes n node' hn
  | updateNode hf => exact hwf.updateNode _ _ fun node => (hf node).id
  | start hfind hepoch => exact (hwf.updateAttempt _ (markStarted _) fun _ => rfl).setState _ _
  | commit hfind hcommitted hcancel hvalid =>
      exact (((hwf.updateAttempt _ (markCommitted _ _) fun _ => rfl).setState _ .succeeded).releaseTaskReservation
        _).congr rfl rfl rfl
  | abandon hfind hcommitted hcancel =>
      exact ((hwf.updateAttempt _ (markCancelled _ _) fun _ => rfl).setState _ _).releaseTaskReservation _
  | unblock hblocked hsat => exact (hwf.setState _ _).congr rfl rfl rfl
  | fail hfind hepoch hstate hcommitted hretry => exact hwf.failAttempt _ _ _ _ _ _
  | cancelAttempt hfind hepoch =>
      exact ((hwf.updateAttempt _ (markCancelled _ _) fun _ => rfl).releaseTaskReservation _).setState _ _
  | release hfind hepoch => exact hwf.congr rfl rfl rfl
  | submit hdeps hadd =>
      obtain ⟨hnew, rfl⟩ := TaskGraph.addTask_ok hadd
      have hinsert : Ledger.WellFormed { s₀.toLedger with graph := s₀.graph.insertTask _ } :=
        ⟨hwf.keyed, hwf.coherent.insertTask hnew, hwf.nodes⟩
      exact (hinsert.setState _ _).congr rfl rfl rfl
  | refuse hadd =>
      obtain ⟨htasks, hstates, hdeps⟩ := TaskGraph.addTask_error hwf.coherent hadd
      exact ⟨hwf.keyed, hwf.coherent.congr htasks (fun _ => by rw [hstates]) hdeps, hwf.nodes⟩
  | touchAttempts =>
      exact ⟨fun t a ha => hwf.keyed t a (by rwa [Ledger.attemptsOf_touchAttempts] at ha),
        hwf.coherent, hwf.nodes⟩
  | requestCancel hrunning => exact hwf.congr rfl rfl rfl
  | cancelTask hstate hterminal hrunning hlegal =>
      exact ((hwf.setState _ _).releaseTaskReservation _).congr rfl rfl rfl
  | @loseNode l n tasks hlost hattempts hgraph htasks hall =>
      have hdrop : (l.dropNode n).WellFormed :=
        (hwf.updateNode n (fun node => { node with health := .offline, connected := false })
          fun _ => rfl).congr rfl rfl rfl
      exact Ledger.foldl_loseTask_induction _ tasks hdrop fun _ t r hl => hl.loseTask t r
  | timeout hstale hattempts hstate => exact ((hwf.releaseTaskReservation _).setState _ _).congr rfl rfl rfl
  | requeue hstate => exact (hwf.setState _ _).congr rfl rfl rfl
  | expire hstate hst => exact (hwf.releaseTaskReservation _).setState _ _
  | expireReady hstate => exact hwf.setState _ _
  | dispatch hstate htask hnode hconnected hgrant hresv ha => exact hwf.dispatch _ _ (by rw [ha]; rfl)

/-! ## One task -/

/-- What can happen to task `t` during the event that began in `s₀`. -/
inductive TaskStep (env : Env) (s₀ : Coordinator D) (t : ComputeTaskId) :
    Event D → TaskView D → TaskView D → Prop
  | submit {client : Id128} {conn : ConnId} {req : UInt64} {sub : TaskSubmit D} {v : TaskView D}
      (hid : sub.task.id = t) (hnew : v.state = none) (haccepts : s₀.accepts sub = true) :
      TaskStep env s₀ t (.command (.taskSubmit client conn req sub)) v
        { v with state := some (Ledger.initialState sub.task) }
  | start {st : AttemptStarted} {i : Nat} {a : ExecutionAttempt D}
      (hfind : s₀.findActiveAttempt st.attemptId = some (⟨t, i⟩, a)) (htask : a.taskId = t)
      (hepoch : a.coordinatorEpoch = s₀.durable.epoch) :
      TaskStep env s₀ t (.command (.attemptStarted st)) (s₀.view t)
        (((s₀.view t).rewrite i (markStarted st)).move .running)
  | commit {conn : ConnId} {req : UInt64} {co : AttemptComplete D} {i : Nat}
      {a : ExecutionAttempt D} {time : Int64}
      (hfind : s₀.findActiveAttempt co.attemptId = some (⟨t, i⟩, a)) (htask : a.taskId = t)
      (hcommitted : a.committed = false) (hcancel : s₀.isCancelRequested t = false)
      (hvalid : s₀.completionError a co = none) :
      TaskStep env s₀ t (.command (.attemptComplete conn req co)) (s₀.view t)
        (((s₀.view t).rewrite i (markCommitted co time)).move .succeeded).release.uncancel
  | abandon {conn : ConnId} {req : UInt64} {co : AttemptComplete D} {i : Nat}
      {a : ExecutionAttempt D} {time : Int64}
      (hfind : s₀.findActiveAttempt co.attemptId = some (⟨t, i⟩, a)) (htask : a.taskId = t)
      (hcommitted : a.committed = false) (hcancel : s₀.isCancelRequested t = true) :
      TaskStep env s₀ t (.command (.attemptComplete conn req co)) (s₀.view t)
        (((s₀.view t).rewrite i (markCancelled (text "cancelled") time)).move .preempted).release
  | unblock {conn : ConnId} {req : UInt64} {co : AttemptComplete D} {v : TaskView D}
      (hstate : v.state = some .blocked) :
      TaskStep env s₀ t (.command (.attemptComplete conn req co)) v (v.move .ready)
  | fail {conn : ConnId} {req : UInt64} {fa : AttemptFailed D} {i : Nat} {a : ExecutionAttempt D}
      {time : Int64} {retryAt : Option Int64}
      (hfind : s₀.findActiveAttempt fa.attemptId = some (⟨t, i⟩, a)) (htask : a.taskId = t)
      (hepoch : a.coordinatorEpoch = s₀.durable.epoch) (hstate : a.state ≠ .succeeded)
      (hcommitted : a.committed = false)
      (hretry : retryAt.isSome = s₀.retriesFailure a (.ofUInt8 fa.failureKind)) :
      TaskStep env s₀ t (.command (.attemptFailed conn req fa)) (s₀.view t)
        (let v := ((s₀.view t).rewrite i
          (markFailed (.ofUInt8 fa.failureKind) fa.failureReason time)).release
        if v.state = some .succeeded then v else v.move (Ledger.afterFailure retryAt))
  | cancelAttempt {ca : AttemptCancelled} {i : Nat} {a : ExecutionAttempt D} {time : Int64}
      (hfind : s₀.findActiveAttempt ca.attemptId = some (⟨t, i⟩, a)) (htask : a.taskId = t)
      (hepoch : a.coordinatorEpoch = s₀.durable.epoch) :
      TaskStep env s₀ t (.command (.attemptCancelled ca)) (s₀.view t)
        (((s₀.view t).rewrite i (markCancelled ca.reason time)).release.move .preempted)
  | requestCancel {client : Id128} {conn : ConnId} {req : UInt64}
      (hstate : (s₀.view t).state = some .running) :
      TaskStep env s₀ t (.command (.taskCancel client conn req t)) (s₀.view t)
        { s₀.view t with cancel := true }
  | cancelTask {client : Id128} {conn : ConnId} {req : UInt64} {st : TaskState}
      (hstate : (s₀.view t).state = some st) (hterminal : st.isTerminal = false)
      (hrunning : st ≠ .running) (hlegal : st.isLegal .cancelled = true) :
      TaskStep env s₀ t (.command (.taskCancel client conn req t)) (s₀.view t)
        ((s₀.view t).move .cancelled).release.uncancel
  | lose {v : TaskView D} {n : NodeId} {task : ComputeTask D} {retryAt : Option Int64}
      (hlost : n ∈ s₀.lostNodes env (s₀.now env)) (haffected : t ∈ s₀.affectedBy n)
      (hattempts : v.attempts = (s₀.view t).attempts) (htask : s₀.graph.find t = some task)
      (hretry : retryAt.isSome = retriesNodeLoss task) :
      TaskStep env s₀ t .sweep v ((v.move .lost).move (Ledger.afterFailure retryAt)).release
  | timeout {v : TaskView D}
      (hstale : t ∈ (s₀.tick.lossPhase env (s₀.now env)).staleDispatches (s₀.now env))
      (hattempts : v.attempts = (s₀.view t).attempts) (hstate : v.state = some .dispatching) :
      TaskStep env s₀ t .sweep v (v.release.move .ready)
  | requeue {v : TaskView D} (hstate : v.state = some .retryPending) :
      TaskStep env s₀ t .sweep v (v.move .ready)
  | expire {v : TaskView D} {st : TaskState} (hstate : v.state = some st)
      (hst : st = .ready ∨ st = .blocked ∨ st = .retryPending) :
      TaskStep env s₀ t .sweep v (v.release.move .expired)
  | expireReady {v : TaskView D} (hstate : v.state = some .ready) :
      TaskStep env s₀ t .sweep v (v.move .expired)
  | dispatch {v : TaskView D} {a : ExecutionAttempt D} (hstate : v.state = some .ready)
      (hlive : a.isLive = true) (hcommitted : a.committed = false) :
      TaskStep env s₀ t .sweep v
        { state := some .dispatching
          attempts := v.attempts ++ [a]
          resv := some a.reservationId
          cancel := v.cancel
          dispatched := v.dispatched + 1 }

theorem TaskView.move_ne {v : TaskView D} {st dst : TaskState} (h : v.state ≠ some st)
    (hst : st.isEntered = false) (hdst : dst.isEntered = true) : (v.move dst).state ≠ some st := by
  intro hmoved
  obtain ⟨cur, hcur, hnext⟩ := Option.map_eq_some_iff.mp hmoved
  refine h ?_
  rw [hcur, TaskState.eq_of_next_eq hnext ?_]
  rintro rfl
  rw [hst] at hdst
  cases hdst

/-- No transition leads to `Submitted`, which a submission leaves at once, or to a state without a name. -/
theorem TaskStep.not_entered {env : Env} {s₀ : Coordinator D} {t : ComputeTaskId} {e : Event D}
    {v v' : TaskView D} (h : TaskStep env s₀ t e v v') {st : TaskState} (hst : st.isEntered = false)
    (hv : v.state ≠ some st) : v'.state ≠ some st := by
  have hfailure : ∀ r, (Ledger.afterFailure r).isEntered = true := by
    intro r
    rcases Ledger.afterFailure_eq r with h | h <;> rw [h] <;> rfl
  have hne : ∀ dst : TaskState, dst.isEntered = true → some dst ≠ some st := by
    rintro dst hdst ⟨⟩
    rw [hst] at hdst
    cases hdst
  cases h with
  | @submit client conn req sub =>
      refine hne _ ?_
      unfold Ledger.initialState
      split_ifs <;> rfl
  | fail =>
      dsimp only
      split_ifs
      · exact hv
      · exact TaskView.move_ne hv hst (hfailure _)
  | requestCancel => exact hv
  | lose => exact TaskView.move_ne (TaskView.move_ne hv hst rfl) hst (hfailure _)
  | dispatch => exact hne _ rfl
  | _ => exact TaskView.move_ne hv hst rfl

/-- A task leaves no absorbing state. -/
theorem TaskStep.absorbing {env : Env} {s₀ : Coordinator D} {t : ComputeTaskId} {e : Event D}
    {v v' : TaskView D} (h : TaskStep env s₀ t e v v') {st : TaskState} (hst : v.state = some st)
    (habs : st.isAbsorbing = true) : v'.state = some st := by
  cases h with
  | submit hid hnew =>
      rw [hnew] at hst
      cases hst
  | fail hfind htask hepoch hstate hcommitted hretry =>
      dsimp only
      split_ifs
      · exact hst
      · exact TaskView.move_absorbing hst habs _
  | requestCancel hstate => exact hst
  | lose hlost haffected hattempts htask hretry =>
      exact TaskView.move_absorbing (TaskView.move_absorbing hst habs .lost) habs _
  | dispatch hstate hlive hcommitted =>
      rw [hstate] at hst
      cases hst
      cases habs
  | _ => exact TaskView.move_absorbing hst habs _

/-- What a committed attempt stands for: its id and the output it was committed with. -/
structure AttemptResult where
  attempt : ExecutionAttemptId
  outputIntegrity : Text
  outputSize : UInt64
deriving DecidableEq

/-- The result of an attempt, once it is committed. -/
def ExecutionAttempt.result (a : ExecutionAttempt D) : Option AttemptResult :=
  if a.committed then some ⟨a.id, a.outputIntegrity, a.outputSize⟩ else none

theorem ExecutionAttempt.isSome_result (a : ExecutionAttempt D) : a.result.isSome = a.committed := by
  unfold result
  split_ifs with h <;> simp [h]

/-- The result of an attempt stays as it is. -/
theorem TaskStep.result_kept {env : Env} {s₀ : Coordinator D} {t : ComputeTaskId} {e : Event D}
    {v v' : TaskView D} (h : TaskStep env s₀ t e v v') {i : Nat} {r : AttemptResult}
    (hi : (v.attempts[i]?.bind ExecutionAttempt.result) = some r) :
    (v'.attempts[i]?.bind ExecutionAttempt.result) = some r := by
  obtain ⟨a, ha, hr⟩ := Option.bind_eq_some_iff.mp hi
  have hrewrite : ∀ (j : Nat) (f : ExecutionAttempt D → ExecutionAttempt D),
      (j = i → (f a).result = a.result) →
      ((v.attempts.modify j f)[i]?.bind ExecutionAttempt.result) = some r := by
    intro j f hf
    rw [List.getElem?_modify, ha]
    by_cases hji : j = i
    · simpa [hji] using (hf hji).trans hr
    · simpa [hji] using hr
  cases h with
  | start hfind htask hepoch => exact hrewrite _ (markStarted _) fun _ => rfl
  | @commit conn req co j b time hfind htask hcommitted hcancel hvalid =>
      refine hrewrite j (markCommitted co time) ?_
      -- the attempt a completion commits has no result yet
      rintro rfl
      have hb : (s₀.attemptsOf t)[j]? = some b := (Ledger.findActiveAttempt_eq_some hfind).1
      obtain rfl : b = a := Option.some.inj (hb.symm.trans ha)
      simp [ExecutionAttempt.result, hcommitted] at hr
  | abandon hfind htask hcommitted hcancel => exact hrewrite _ (markCancelled _ _) fun _ => rfl
  | fail hfind htask hepoch hstate hcommitted hretry =>
      dsimp only
      split_ifs <;> exact hrewrite _ (markFailed _ _ _) fun _ => rfl
  | cancelAttempt hfind htask hepoch => exact hrewrite _ (markCancelled _ _) fun _ => rfl
  | dispatch hstate hlive hcommitted =>
      rwa [List.getElem?_append_left (List.getElem?_eq_some_iff.mp ha).1]
  | _ => exact hi

/-- A commit flag stays set. -/
theorem TaskStep.committed_kept {env : Env} {s₀ : Coordinator D} {t : ComputeTaskId} {e : Event D}
    {v v' : TaskView D} (h : TaskStep env s₀ t e v v') {i : Nat}
    (hi : (v.attempts[i]?.map fun a => a.committed) = some true) :
    (v'.attempts[i]?.map fun a => a.committed) = some true := by
  obtain ⟨a, ha, hcommitted⟩ := Option.map_eq_some_iff.mp hi
  obtain ⟨r, hr⟩ := Option.isSome_iff_exists.mp (a.isSome_result.trans hcommitted)
  have hkept := h.result_kept (i := i) (r := r) (by rw [ha]; exact hr)
  obtain ⟨b, hb, hr'⟩ := Option.bind_eq_some_iff.mp hkept
  rw [hb, Option.map_some, ← b.isSome_result, hr']
  rfl

/-- A commit flag is set only on the attempt that a completion commits. -/
theorem TaskStep.committed_origin {env : Env} {s₀ : Coordinator D} {t : ComputeTaskId} {e : Event D}
    {v v' : TaskView D} (h : TaskStep env s₀ t e v v') {i : Nat}
    (hi : (v'.attempts[i]?.map fun a => a.committed) = some true) :
    (v.attempts[i]?.map fun a => a.committed) = some true ∨
      ∃ conn req co a, e = .command (.attemptComplete conn req co) ∧ s₀.commits co = some a ∧
        (s₀.attemptsOf t)[i]? = some a := by
  have hrewrite : ∀ (j : Nat) (f : ExecutionAttempt D → ExecutionAttempt D),
      (∀ a, (f a).committed = a.committed) →
      ((v.attempts.modify j f)[i]?.map fun a => a.committed) = some true →
      (v.attempts[i]?.map fun a => a.committed) = some true := by
    intro j f hf hmodified
    rwa [← List.getElem?_map, TaskView.map_modify j f _ _ hf, List.getElem?_map] at hmodified
  cases h with
  | start hfind htask hepoch => exact .inl (hrewrite _ (markStarted _) (fun _ => rfl) hi)
  | @commit conn req co j a time hfind htask hcommitted hcancel hvalid =>
      by_cases hji : j = i
      · subst hji
        exact .inr ⟨conn, req, co, a, rfl, commits_eq_some hfind hcommitted (htask ▸ hcancel) hvalid,
          (Ledger.findActiveAttempt_eq_some hfind).1⟩
      · left
        simpa [List.getElem?_modify, hji] using hi
  | abandon hfind htask hcommitted hcancel =>
      exact .inl (hrewrite _ (markCancelled _ _) (fun _ => rfl) hi)
  | fail hfind htask hepoch hstate hcommitted hretry =>
      left
      dsimp only at hi
      split_ifs at hi <;> exact hrewrite _ (markFailed _ _ _) (fun _ => rfl) hi
  | cancelAttempt hfind htask hepoch => exact .inl (hrewrite _ (markCancelled _ _) (fun _ => rfl) hi)
  | @dispatch v a hstate hlive hcommitted =>
      left
      rw [List.getElem?_append] at hi
      split_ifs at hi with hlt
      · exact hi
      · -- the new attempt is not committed
        obtain ⟨b, hb, hbc⟩ := Option.map_eq_some_iff.mp hi
        rw [List.mem_singleton.mp (List.mem_of_getElem? hb), hcommitted] at hbc
        cases hbc
  | _ => exact .inl hi

/-- A result is recorded by a commit. -/
theorem TaskStep.result_origin {env : Env} {s₀ : Coordinator D} {t : ComputeTaskId} {e : Event D}
    {v v' : TaskView D} (h : TaskStep env s₀ t e v v') {i : Nat} {r : AttemptResult}
    (hi : (v'.attempts[i]?.bind ExecutionAttempt.result) = some r) :
    (v.attempts[i]?.bind ExecutionAttempt.result) = some r ∨
      ∃ conn req co, e = .command (.attemptComplete conn req co) ∧ (s₀.commits co).isSome = true := by
  obtain ⟨a', ha', hr⟩ := Option.bind_eq_some_iff.mp hi
  have hflag : (v'.attempts[i]?.map fun a => a.committed) = some true := by
    rw [ha', Option.map_some, ← a'.isSome_result, hr]
    rfl
  rcases h.committed_origin hflag with hold | ⟨conn, req, co, a, he, hcommits, -⟩
  · -- an attempt that was committed before has kept its result
    obtain ⟨a, ha, hcommitted⟩ := Option.map_eq_some_iff.mp hold
    obtain ⟨r₀, hr₀⟩ := Option.isSome_iff_exists.mp (a.isSome_result.trans hcommitted)
    have hbefore : (v.attempts[i]?.bind ExecutionAttempt.result) = some r₀ := by
      rw [ha]
      exact hr₀
    left
    rw [hbefore, ← hi, h.result_kept hbefore]
  · exact .inr ⟨conn, req, co, he, by rw [hcommits]; rfl⟩

/-- A task succeeds by a commit. -/
theorem TaskStep.succeeded_origin {env : Env} {s₀ : Coordinator D} {t : ComputeTaskId} {e : Event D}
    {v v' : TaskView D} (h : TaskStep env s₀ t e v v') (hst : v'.state = some .succeeded) :
    v.state = some .succeeded ∨ ∃ (conn : ConnId) (req : UInt64) (co : AttemptComplete D) (i : Nat),
      e = .command (.attemptComplete conn req co) ∧ (s₀.commits co).isSome = true ∧
        (v'.attempts[i]?.map fun a => a.committed) = some true := by
  have hmove : ∀ {v : TaskView D} (dst : TaskState), (v.move dst).state = some .succeeded →
      dst ≠ .succeeded → v.state = some .succeeded := by
    intro v dst hv hdst
    obtain ⟨cur, hcur, hnext⟩ := Option.map_eq_some_iff.mp hv
    rw [hcur, TaskState.eq_of_next_eq hnext hdst]
  have hafter : ∀ r, Ledger.afterFailure r ≠ .succeeded := by
    intro r
    rcases Ledger.afterFailure_eq r with hr | hr <;> rw [hr] <;> decide
  cases h with
  | submit hid hnew =>
      unfold Ledger.initialState at hst
      split_ifs at hst <;> cases hst
  | start hfind htask hepoch => exact .inl (hmove .running hst (by decide))
  | @commit conn req co i a time hfind htask hcommitted hcancel hvalid =>
      refine .inr ⟨conn, req, co, i, rfl, ?_, ?_⟩
      · rw [commits_eq_some hfind hcommitted (htask ▸ hcancel) hvalid]
        rfl
      have ha : (s₀.attemptsOf t)[i]? = some a := (Ledger.findActiveAttempt_eq_some hfind).1
      simp [Ledger.view, ha, markCommitted]
  | abandon hfind htask hcommitted hcancel => exact .inl (hmove .preempted hst (by decide))
  | unblock hstate => exact .inl (hmove .ready hst (by decide))
  | fail hfind htask hepoch hstate hcommitted hretry =>
      left
      dsimp only at hst
      split_ifs at hst
      · exact hst
      · exact hmove _ hst (hafter _)
  | cancelAttempt hfind htask hepoch => exact .inl (hmove .preempted hst (by decide))
  | requestCancel hstate => exact .inl hst
  | cancelTask hstate hterminal hrunning hlegal => exact .inl (hmove .cancelled hst (by decide))
  | lose hlost haffected hattempts htask hretry =>
      exact .inl (hmove .lost (hmove _ hst (hafter _)) (by decide))
  | timeout hstale hattempts hstate => exact .inl (hmove .ready hst (by decide))
  | requeue hstate => exact .inl (hmove .ready hst (by decide))
  | expire hstate hst' => exact .inl (hmove .expired hst (by decide))
  | expireReady hstate => exact .inl (hmove .expired hst (by decide))
  | dispatch hstate hlive hcommitted => cases hst

/-- The transitions of one task during one event. -/
abbrev TaskSteps (env : Env) (s₀ : Coordinator D) (t : ComputeTaskId) (e : Event D) :=
  Relation.ReflTransGen (TaskStep env s₀ t e)

section Simulation

variable {env : Env} {s₀ : Coordinator D} {e : Event D}

/-- A transition of one task's row, seen from any task. -/
theorem taskSteps_of_view {l l' : Ledger D} {t u : ComputeTaskId} {v : TaskView D}
    (hview : l'.view u = if t = u then v else l.view u)
    (hown : t = u → TaskSteps env s₀ u e (l.view u) v) : TaskSteps env s₀ u e (l.view u) (l'.view u) := by
  rw [hview]
  split_ifs with h
  · exact hown h
  · exact .refl

theorem taskSteps_of_view_eq {l l' : Ledger D} {u : ComputeTaskId} (hview : l'.view u = l.view u) :
    TaskSteps env s₀ u e (l.view u) (l'.view u) := by
  rw [hview]

theorem view_attempts_eq {l l' : Ledger D} (h : l.attempts = l'.attempts) (u : ComputeTaskId) :
    (l.view u).attempts = (l'.view u).attempts := by
  show l.attemptsOf u = l'.attemptsOf u
  rw [Ledger.attemptsOf, h]
  rfl

/-- Node loss, seen from one task: one transition for each outstanding attempt it had on the node. -/
theorem foldl_loseTask_taskSteps {n : NodeId} (hlost : n ∈ s₀.lostNodes env (s₀.now env))
    (u : ComputeTaskId) (tasks : List (ComputeTaskId × Option Int64))
    (htasks : ∀ x ∈ tasks, x.1 ∈ s₀.affectedBy n ∧
      ∃ task, s₀.graph.find x.1 = some task ∧ x.2.isSome = retriesNodeLoss task)
    (l : Ledger D) (hattempts : l.attempts = s₀.attempts) :
    TaskSteps env s₀ u .sweep (l.view u)
      ((tasks.foldl (fun l x => l.loseTask x.1 x.2) l).view u) := by
  induction tasks generalizing l with
  | nil => exact .refl
  | cons x rest ih =>
      obtain ⟨haffected, task, htask, hretry⟩ := htasks x List.mem_cons_self
      refine Relation.ReflTransGen.trans (taskSteps_of_view (l.view_loseTask x.1 u x.2) ?_)
        (ih (fun y hy => htasks y (List.mem_cons_of_mem x hy)) _ (by simpa using hattempts))
      rintro rfl
      exact .single (.lose hlost haffected (view_attempts_eq hattempts _) htask hretry)

variable [DoubleArith D]

/-- **Simulation.** Every ledger transition is, for each task, a sequence of transitions of that task. -/
theorem LedgerStep.taskSteps {l l' : Ledger D} (h : LedgerStep env s₀ e l l') (hwf : l.WellFormed)
    (u : ComputeTaskId) : TaskSteps env s₀ u e (l.view u) (l'.view u) := by
  cases h with
  | register hopen hid hsession => exact taskSteps_of_view_eq rfl
  | updateNode hf => exact taskSteps_of_view_eq rfl
  | start hfind hepoch =>
      have htask := hwf.taskId_eq hfind
      refine taskSteps_of_view (Ledger.view_startAttempt _ u htask _) ?_
      rintro rfl
      exact .single (.start hfind htask hepoch)
  | commit hfind hcommitted hcancel hvalid =>
      have htask := hwf.taskId_eq hfind
      refine taskSteps_of_view (Ledger.view_commitAttempt _ u htask _ _) ?_
      rintro rfl
      exact .single (.commit hfind htask hcommitted (htask ▸ hcancel) hvalid)
  | abandon hfind hcommitted hcancel =>
      have htask := hwf.taskId_eq hfind
      refine taskSteps_of_view (Ledger.view_abandonAttempt _ u htask _) ?_
      rintro rfl
      exact .single (.abandon hfind htask hcommitted (htask ▸ hcancel))
  | unblock hblocked hsat =>
      refine taskSteps_of_view (Ledger.view_unblockTask _ _ u _) ?_
      rintro rfl
      exact .single (.unblock hblocked)
  | fail hfind hepoch hstate hcommitted hretry =>
      have htask := hwf.taskId_eq hfind
      refine taskSteps_of_view (Ledger.view_failAttempt _ u htask _ _ _ _) ?_
      rintro rfl
      exact .single (.fail hfind htask hepoch hstate hcommitted hretry)
  | cancelAttempt hfind hepoch =>
      have htask := hwf.taskId_eq hfind
      refine taskSteps_of_view (Ledger.view_cancelAttempt _ u htask _ _) ?_
      rintro rfl
      exact .single (.cancelAttempt hfind htask hepoch)
  | release hfind hepoch => exact taskSteps_of_view_eq rfl
  | submit hdeps hadd haccepts =>
      refine taskSteps_of_view (Ledger.view_submitTask _ u hadd _) ?_
      rintro rfl
      exact .single (.submit rfl (hwf.coherent.states_none (TaskGraph.addTask_ok hadd).1) haccepts)
  | refuse hadd =>
      obtain ⟨htasks, hstates, hdeps⟩ := TaskGraph.addTask_error hwf.coherent hadd
      refine taskSteps_of_view_eq (TaskView.ext ?_ rfl rfl rfl rfl)
      exact congrArg (fun m : IdMap TaskState => m[u]?) hstates
  | touchAttempts => exact taskSteps_of_view_eq (Ledger.view_touchAttempts _ _ u)
  | requestCancel hrunning =>
      refine taskSteps_of_view (Ledger.view_requestCancel _ _ u) ?_
      rintro rfl
      exact .single (.requestCancel hrunning)
  | cancelTask hstate hterminal hrunning hlegal =>
      refine taskSteps_of_view (Ledger.view_cancelTask _ _ u) ?_
      rintro rfl
      exact .single (.cancelTask hstate hterminal hrunning hlegal)
  | loseNode hlost hattempts hgraph htasks hall =>
      exact foldl_loseTask_taskSteps hlost u _ htasks (Ledger.dropNode _ _) hattempts
  | timeout hstale hattempts hstate =>
      refine taskSteps_of_view (Ledger.view_timeoutDispatch _ _ u _) ?_
      rintro rfl
      exact .single (.timeout hstale (view_attempts_eq hattempts _) hstate)
  | requeue hstate =>
      refine taskSteps_of_view (Ledger.view_requeueTask _ _ u _) ?_
      rintro rfl
      exact .single (.requeue hstate)
  | expire hstate hst =>
      refine taskSteps_of_view (Ledger.view_expireTask _ _ u) ?_
      rintro rfl
      exact .single (.expire hstate hst)
  | expireReady hstate =>
      refine taskSteps_of_view (Ledger.view_setState _ _ u _) ?_
      rintro rfl
      exact .single (.expireReady hstate)
  | dispatch hstate htask hnode hconnected hgrant hresv ha =>
      refine taskSteps_of_view (Ledger.view_dispatch _ _ u hstate _) ?_
      rintro rfl
      subst ha
      exact .single (.dispatch hstate rfl rfl)

/-- **Simulation of an event.** Seen from any one task, an event is a sequence of that task's transitions. -/
theorem CoreSteps.taskSteps {s s' : Coordinator D} (h : CoreSteps env s₀ e s s') (hwf : s.WellFormed)
    (t : ComputeTaskId) : TaskSteps env s₀ t e (s.view t) (s'.view t) := by
  refine (Lts.steps_simulation (P := fun x => x.WellFormed) (f := fun x => x.view t) ?_ hwf h).2
  intro x x' hx hstep
  refine hstep.books_invariant (R := fun l _ => l.WellFormed ∧ TaskSteps env s₀ t e (x.view t) (l.view t))
    ?_ id ⟨hx, .refl⟩
  intro _ _ hact
  exact ⟨hact.wellFormed hx, hact.taskSteps hx t⟩

/-- What every transition of a task keeps, an event keeps. -/
theorem CoreSteps.view_invariant {s s' : Coordinator D} {J : TaskView D → Prop} (t : ComputeTaskId)
    (hJ : ∀ v v', J v → TaskStep env s₀ t e v v' → J v') (hwf : s.WellFormed)
    (h : CoreSteps env s₀ e s s') (hs : J (s.view t)) : J (s'.view t) :=
  Lts.steps_invariant hJ hs (h.taskSteps hwf t)

theorem CoreSteps.wellFormed {s s' : Coordinator D} (h : CoreSteps env s₀ e s s')
    (hwf : s.WellFormed) : s'.WellFormed :=
  h.ledger_invariant (I := Ledger.WellFormed) (fun _ _ hl hstep => hstep.wellFormed hl) hwf

end Simulation

end ComputeFabric
