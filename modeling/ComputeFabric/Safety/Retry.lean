import ComputeFabric.Coordinator.Invariants

/-!
# `Safety.Retry` — no retry is stranded

A task in `RetryPending` is moved on by one loop of `sweep`, which goes over `retry_ready_at_ms_`: without an
entry there, it waits forever. Within one process the two always go together. A restart breaks them apart, since
the state is saved and the entry is not: only a task that recovery itself sends into a retry gets a new one.

- `step_timed` — while no restart reads `RetryPending` from the file, every task in that state has its entry.
- `requeuePhase_ready` — and an entry is enough: a sweep past the time it names makes the task `Ready`.
-/

namespace ComputeFabric

open Coordinator
open ExecutionAttempt (markStarted markCommitted markFailed markCancelled)

variable {D : Type}

/-! ## The condition -/

/-- The file a restart reads has no task in `RetryPending`. -/
def Coordinator.restoresNoRetry (s : Coordinator D) : Event D → Bool
  | .restart =>
      (s.file.getD {}).tasks.toList.all fun entry =>
        (s.file.getD {}).taskStates[entry.1]? ≠ some .retryPending
  | _ => true

/-! ## One transition -/

/-- Every task that waits for a retry has an entry in `retry_ready_at_ms_`, those in `except` apart. -/
def Ledger.Timed (except : ComputeTaskId → Prop) (l : Ledger D) : Prop :=
  ∀ t : ComputeTaskId, l.graph.states[t]? = some .retryPending →
    except t ∨ l.retryReadyAtMs[t]?.isSome = true

namespace Ledger.Timed

variable {except : ComputeTaskId → Prop} {l l' : Ledger D}

theorem congr (h : l.Timed except) (hstates : l'.graph.states = l.graph.states)
    (htimers : l'.retryReadyAtMs = l.retryReadyAtMs) : l'.Timed except := by
  intro t ht
  rw [hstates] at ht
  rw [htimers]
  exact h t ht

/-- A state change keeps the timers, and asks for another state than `RetryPending`. -/
theorem setState (h : l.Timed except) (t : ComputeTaskId) (st : TaskState) (hst : st ≠ .retryPending) :
    (l.setState t st).Timed except := by
  intro u hu
  refine h u ?_
  have hview : ((l.setState t st).view u).state = some .retryPending := hu
  rw [view_setState] at hview
  split_ifs at hview
  · obtain ⟨cur, hcur, hnext⟩ := Option.map_eq_some_iff.mp hview
    rw [TaskState.eq_of_next_eq hnext hst] at hcur
    exact hcur
  · exact hview

theorem release (h : l.Timed except) (t : ComputeTaskId) : (l.releaseTaskReservation t).Timed except :=
  h.congr (by rw [releaseTaskReservation_graph]) (by rw [releaseTaskReservation_retryReadyAtMs])

/-- The only way into `RetryPending` sets the timer. -/
theorem retryOrFail (h : l.Timed except) (t : ComputeTaskId) (retryAt : Option Int64) :
    (l.retryOrFail t retryAt).Timed except := by
  cases retryAt with
  | none => exact h.setState t .failed (by decide)
  | some time =>
      intro u hu
      show except u ∨ (l.retryReadyAtMs.insert t time)[u]?.isSome = true
      by_cases htu : t = u
      · right
        simp [htu]
      · have hstates : (l.graph.trySetState t .retryPending).states[u]? = some .retryPending := hu
        rw [TaskGraph.getElem?_states_trySetState, if_neg htu] at hstates
        rw [Std.ExtTreeMap.getElem?_insert, if_neg (by simpa using htu)]
        exact h u hstates

theorem loseTask (h : l.Timed except) (t : ComputeTaskId) (retryAt : Option Int64) :
    (l.loseTask t retryAt).Timed except :=
  ((h.setState t .lost (by decide)).retryOrFail t retryAt).release t

end Ledger.Timed

/-- **Every ledger transition** keeps the tasks that wait for a retry timed. -/
theorem LedgerStep.timed [DoubleArith D] {env : Env} {s₀ : Coordinator D} {e : Event D} {l l' : Ledger D}
    {except : ComputeTaskId → Prop} (h : LedgerStep env s₀ e l l') (hwf : l.WellFormed)
    (hl : l.Timed except) : l'.Timed except := by
  cases h with
  | register hopen hid hsession => exact hl.congr rfl rfl
  | updateNode hf => exact hl.congr rfl rfl
  | @start st p a hfind hepoch =>
      exact Ledger.Timed.setState (l := s₀.toLedger.updateAttempt p (markStarted st)) hl a.taskId .running
        (by decide)
  | @commit conn req co p a time hfind hcommitted hcancel hvalid =>
      exact (Ledger.Timed.setState (l := s₀.toLedger.updateAttempt p (markCommitted co time)) hl a.taskId
        .succeeded (by decide)).release a.taskId
  | @abandon conn req co p a time hfind hcommitted hcancel =>
      exact (Ledger.Timed.setState (l := s₀.toLedger.updateAttempt p (markCancelled (text "cancelled") time)) hl
        a.taskId .preempted (by decide)).release a.taskId
  | unblock hblocked hsat => exact hl.setState _ .ready (by decide)
  | @fail conn req fa p a time retryAt hfind hepoch hstate hcommitted hretry =>
      have hreleased := Ledger.Timed.release
        (l := s₀.toLedger.updateAttempt p (markFailed (.ofUInt8 fa.failureKind) fa.failureReason time)) hl a.taskId
      unfold Ledger.failAttempt
      dsimp only
      split_ifs
      · exact hreleased
      · exact hreleased.retryOrFail a.taskId retryAt
  | @cancelAttempt ca p a time hfind hepoch =>
      exact (Ledger.Timed.release (l := s₀.toLedger.updateAttempt p (markCancelled ca.reason time)) hl
        a.taskId).setState a.taskId .preempted (by decide)
  | release hfind hepoch => exact hl.congr rfl rfl
  | @submit client conn req sub g time hdeps hadd =>
      intro u hu
      have hview : ((s₀.toLedger.submitTask g sub.task time).view u).state = some .retryPending := hu
      rw [Ledger.view_submitTask _ _ hadd] at hview
      split_ifs at hview
      · -- a submitted task is ready or blocked
        have hinitial := Option.some.inj hview
        unfold Ledger.initialState at hinitial
        split_ifs at hinitial
      · exact hl u hview
  | refuse hadd => exact hl.congr (TaskGraph.addTask_error hwf.coherent hadd).2.1 rfl
  | touchAttempts => exact hl.congr rfl rfl
  | requestCancel hrunning => exact hl.congr rfl rfl
  | cancelTask hstate hterminal hrunning hlegal => exact (hl.setState _ .cancelled (by decide)).release _
  | @loseNode l n tasks hlost hattempts hgraph htasks hall =>
      exact Ledger.foldl_loseTask_induction (l.dropNode n) tasks hl fun _ t r h => h.loseTask t r
  | timeout hstale hattempts hstate => exact (hl.release _).setState _ .ready (by decide)
  | requeue hstate => exact hl.setState _ .ready (by decide)
  | expire hstate hst => exact (hl.release _).setState _ .expired (by decide)
  | expireReady hstate => exact hl.setState _ .expired (by decide)
  | @dispatch l t task nodeId node executor slots device time time' resv a hstate htask hnode hconnected
      hgrant hresv ha =>
      have hreserved := (Ledger.Timed.setState (l := l.addReservation resv) hl t .planning (by decide)).setState t
        .reserved (by decide)
      exact Ledger.Timed.setState (l := (Ledger.holdReservation _ t resv.id).pushAttempt t a) hreserved t
        .dispatching (by decide)

/-! ## Recovery -/

section Start

variable {except : ComputeTaskId → Prop} {env : Env}

theorem requeueOrFail_timed {s : Coordinator D} (h : s.Timed except) (t : ComputeTaskId)
    (task : ComputeTask D) : (s.requeueOrFail env t task).Timed except := by
  unfold requeueOrFail
  split_ifs
  · exact h.retryOrFail t _
  · exact h.retryOrFail t none

/-- Recovery sets a timer for each task it sends into a retry. -/
theorem recoverTask_timed {s : Coordinator D} (h : s.Timed except) (x : ComputeTaskId × ComputeTask D) :
    (recoverTask env s x).Timed except := by
  unfold recoverTask
  split_ifs
  · cases hset : s.graph.setState x.1 .lost with
    | error err => exact h
    | ok g =>
        obtain ⟨cur, hcur, hlegal⟩ := TaskGraph.legal_of_setState hset
        rw [TaskGraph.setState_of_legal hcur hlegal] at hset
        obtain rfl := Except.ok.inj hset
        exact requeueOrFail_timed (h.setState x.1 .lost (by decide)) x.1 x.2
  · exact h

/-- After a start, only a task that was saved in `RetryPending` can be without an entry. -/
theorem start_timed [DoubleArith D] {w : World D} {s : Coordinator D} (h : start env w = .ok s)
    (hfile : FileOk (w.file.getD {})) :
    s.Timed fun t => (w.file.getD {}).tasks[t]?.isSome = true ∧
      (w.file.getD {}).taskStates[t]? = some .retryPending := by
  obtain ⟨w', g, -, hrebuild, rfl⟩ := start_ok h
  rw [persist_toLedger]
  refine List.foldlRecOn (motive := fun s : Coordinator D => s.Timed _) _ _ ?_ fun s hs x _ => recoverTask_timed hs x
  intro t ht
  rw [loaded_states env hfile hrebuild t] at ht
  obtain ⟨task, htask, hst⟩ := Option.map_eq_some_iff.mp ht
  refine .inl ⟨by rw [htask]; rfl, ?_⟩
  cases hsaved : (w.file.getD {}).taskStates[t]? with
  | none =>
      rw [hsaved] at hst
      cases hst
  | some st =>
      rw [hsaved] at hst
      exact congrArg some hst

end Start

/-! ## The retry loop of a sweep -/

section Requeue

variable {env : Env} {t : ComputeTaskId}

/-- A round of the retry loop leaves a task pending only when it is not the task's own due round. -/
theorem requeueTask_pending (env : Env) (time : Int64) {s : Coordinator D} (h : (s.view t).state = some .retryPending)
    (entry : ComputeTaskId × Int64) :
    ((requeueTask env time s entry).view t).state = some .ready ∨
      ((requeueTask env time s entry).view t).state = some .retryPending ∧ ¬(entry.1 = t ∧ entry.2 ≤ time) := by
  unfold requeueTask
  split_ifs with hround
  · rw [persist_toLedger]
    show ((s.toLedger.requeueTask entry.1 time).view t).state = _ ∨
      ((s.toLedger.requeueTask entry.1 time).view t).state = _ ∧ _
    rw [Ledger.view_requeueTask]
    split_ifs with he
    · left
      rw [TaskView.move_state, h]
      rfl
    · exact .inr ⟨h, fun hown => he hown.1⟩
  · refine .inr ⟨h, ?_⟩
    rintro ⟨he, hdue⟩
    exact hround ⟨by rw [he]; exact Ledger.state_of_view h, hdue⟩

theorem requeueTask_ready (time : Int64) {s : Coordinator D} (h : (s.view t).state = some .ready)
    (entry : ComputeTaskId × Int64) : ((requeueTask env time s entry).view t).state = some .ready := by
  unfold requeueTask
  split_ifs with hround
  · rw [persist_toLedger]
    show ((s.toLedger.requeueTask entry.1 time).view t).state = _
    rw [Ledger.view_requeueTask, if_neg]
    · exact h
    · intro he
      rw [he, Ledger.state_of_view h] at hround
      cases hround.1
  · exact h

/-- **The retry loop** makes ready what is due. The order of the entries does not matter: a round touches only
    its own task, and leaves a ready one alone. -/
theorem foldl_requeueTask_ready {time r : Int64} (hdue : r ≤ time) (list : List (ComputeTaskId × Int64))
    {s : Coordinator D} (hmem : (t, r) ∈ list) (h : (s.view t).state = some .retryPending) :
    ((list.foldl (requeueTask env time) s).view t).state = some .ready := by
  induction list generalizing s with
  | nil => cases hmem
  | cons x rest ih =>
      rw [List.foldl_cons]
      rcases requeueTask_pending env time h x with hready | ⟨hpending, hother⟩
      · exact List.foldlRecOn (motive := fun y : Coordinator D => (y.view t).state = some .ready) rest _
          hready fun y hy x _ => requeueTask_ready time hy x
      · refine ih ((List.mem_cons.mp hmem).resolve_left ?_) hpending
        rintro rfl
        exact hother ⟨rfl, hdue⟩

end Requeue

/-! ## The phases before it -/

section Before

variable {env : Env} {t : ComputeTaskId}

/-- The state and the retry time of one task. -/
def Ledger.retryRow (l : Ledger D) (t : ComputeTaskId) : Option TaskState × Option Int64 :=
  (l.graph.states[t]?, l.retryReadyAtMs[t]?)

theorem Ledger.retryRow_loseTask_ne (l : Ledger D) {u : ComputeTaskId} (h : u ≠ t) (retryAt : Option Int64) :
    (l.loseTask u retryAt).retryRow t = l.retryRow t := by
  refine Prod.ext ?_ ?_
  · exact congrArg TaskView.state ((l.view_loseTask u t retryAt).trans (if_neg h))
  · show (l.loseTask u retryAt).retryReadyAtMs[t]? = l.retryReadyAtMs[t]?
    rw [Ledger.loseTask, Ledger.releaseTaskReservation_retryReadyAtMs]
    cases retryAt with
    | none => rfl
    | some time =>
        show (l.retryReadyAtMs.insert u time)[t]? = _
        rw [Std.ExtTreeMap.getElem?_insert, if_neg (by simpa using h)]

/-- The loss of a node leaves a task without live attempts there alone. -/
theorem handleNodeLoss_retryRow {s : Coordinator D} {n : NodeId} (h : t ∉ s.affectedBy n) :
    (handleNodeLoss env s n).retryRow t = s.retryRow t := by
  rcases handleNodeLoss_cases env s n with ⟨-, heq⟩ | ⟨-, node, x, -, -, hledger, heq⟩
  · rw [heq]
  · obtain ⟨tasks, hl, -, -, -, hin, -⟩ := foldl_loseTask env (s.affectedBy n) x
    have hstart : x.retryRow t = s.retryRow t := by
      rw [hledger]
      rfl
    rw [heq, persist_toLedger, hl, ← hstart]
    refine List.foldlRecOn (motive := fun l : Ledger D => l.retryRow t = _) tasks _ rfl ?_
    intro l hl u hu
    rw [← hl]
    refine l.retryRow_loseTask_ne ?_ u.2
    rintro rfl
    exact h (hin u hu).1

variable [DoubleArith D]

theorem lossPhase_retryRow {s : Coordinator D} (h : ∀ n ∈ s.lostNodes env (s.now env), t ∉ s.affectedBy n) :
    (s.tick.lossPhase env (s.now env)).retryRow t = s.retryRow t := by
  refine (Lts.foldl_steps (r := CoreStep env s .sweep)
    (P := fun x => s.toLedger.Frame x.toLedger ∧ x.retryRow t = s.retryRow t) (s.lostNodes env (s.now env)) ?_
    ⟨Ledger.Frame.refl s.tick.toLedger, rfl⟩).2.2
  rintro x n hn ⟨hframe, hrow⟩
  obtain ⟨hsteps, hframe'⟩ := handleNodeLoss_steps hn hframe
  refine ⟨hsteps, hframe', (handleNodeLoss_retryRow ?_).trans hrow⟩
  rw [Ledger.affectedBy_congr hframe.attempts n]
  exact h n hn

omit [DoubleArith D] in
/-- A task that waits for a retry has no dispatch to time out. -/
theorem timeoutPhase_retryRow (env : Env) {s : Coordinator D} (time : Int64)
    (h : s.graph.states[t]? = some .retryPending) :
    (s.timeoutPhase env time).retryRow t = s.retryRow t := by
  refine List.foldlRecOn (motive := fun x : Coordinator D => x.retryRow t = s.retryRow t) _ _ rfl ?_
  intro x hx u hu
  obtain ⟨sent, -, hst, -⟩ := mem_staleDispatches.mp hu
  have hne : u ≠ t := by
    rintro rfl
    rw [h] at hst
    cases hst
  rw [← hx]
  unfold timeoutDispatch
  rw [persist_toLedger]
  refine Prod.ext ?_ ?_
  · exact congrArg TaskView.state ((x.toLedger.view_timeoutDispatch u t time).trans (if_neg hne))
  · show (x.toLedger.releaseTaskReservation u).retryReadyAtMs[t]? = _
    rw [Ledger.releaseTaskReservation_retryReadyAtMs]
    rfl

/-- **A sweep past the retry time** makes the task ready, unless it loses a node with a live attempt of it. -/
theorem requeuePhase_ready {s : Coordinator D} {r : Int64} (hstate : s.graph.states[t]? = some .retryPending)
    (hr : s.retryReadyAtMs[t]? = some r) (hdue : r ≤ s.now env)
    (hsafe : ∀ n ∈ s.lostNodes env (s.now env), t ∉ s.affectedBy n) :
    ((s.beforeRequeue env).requeuePhase env (s.now env)).graph.state t = .ready := by
  have hloss := lossPhase_retryRow hsafe
  have hstate₁ := (congrArg Prod.fst hloss).trans hstate
  have hrow : (s.beforeRequeue env).retryRow t = s.retryRow t :=
    (timeoutPhase_retryRow env (s.now env) hstate₁).trans hloss
  refine Ledger.state_of_view (foldl_requeueTask_ready hdue _ ?_ ((congrArg Prod.fst hrow).trans hstate))
  rw [Std.ExtTreeMap.mem_toList_iff_getElem?_eq_some]
  exact (congrArg Prod.snd hrow).trans hr

end Before

/-! ## Runs -/

section Runs

variable [DoubleArith D] {env : Env}

theorem step_timed {s s' : Coordinator D} {e : Event D} (hsound : s.Sound) (hs : s.Timed fun _ => False)
    (hc : s.restoresNoRetry e = true) (he : step env s e = some s') : s'.Timed fun _ => False := by
  refine step_invariant (I := fun x => x.Timed fun _ => False) ?_ ?_ hsound hs he
  · intro x x' hx hxt hcore
    exact hcore.books_invariant (R := fun l _ => l.Timed fun _ => False)
      (fun _ hl hact => hact.timed hx.wellFormed hl) id hxt
  · rintro rfl -
    intro t ht
    right
    rcases start_timed (start_of_restart he) hsound.fileOk t ht with ⟨hknown, hsaved⟩ | htimed
    · obtain ⟨task, htask⟩ := Option.isSome_iff_exists.mp hknown
      have hnone := List.all_eq_true.mp hc (t, task)
        (Std.ExtTreeMap.mem_toList_iff_getElem?_eq_some.mpr htask)
      rw [decide_eq_true_eq] at hnone
      exact absurd hsaved hnone
    · exact htimed

/-- **No stranded retry.** In a run in which no restart reads `RetryPending` from the file, every task in that
    state has an entry in `retry_ready_at_ms_`; and the retry loop of a sweep past the time it names makes the task
    `Ready`, unless the sweep loses a node with a live attempt of the task. -/
theorem retry_not_stranded {events : List (Event D)} {s : Coordinator D} (hrun : run env events = some s)
    (hcond : RunMeets env (fun s e => s.restoresNoRetry e = true) events) {t : ComputeTaskId}
    (ht : s.graph.state t = .retryPending) :
    ∃ r, s.retryReadyAtMs[t]? = some r ∧
      (r ≤ s.now env → (∀ n ∈ s.lostNodes env (s.now env), t ∉ s.affectedBy n) →
        ((s.beforeRequeue env).requeuePhase env (s.now env)).graph.state t = .ready) := by
  have htimed : s.Timed fun _ => False := by
    refine (run_invariant (I := fun x => x.Timed fun _ => False) ?_ ?_ hcond hrun).2
    · intro x hx t ht
      rcases start_timed (start_of_boot hx) .empty t ht with ⟨hknown, -⟩ | htimed
      · simp at hknown
      · exact .inr htimed
    · intro x e x' hsound hx hc he
      exact step_timed hsound hx hc he
  have hstate : s.graph.states[t]? = some .retryPending := (Ledger.state_eq_iff (by decide)).mp ht
  obtain ⟨r, hr⟩ := Option.isSome_iff_exists.mp ((htimed t hstate).resolve_left id)
  exact ⟨r, hr, fun hdue hsafe => requeuePhase_ready hstate hr hdue hsafe⟩

end Runs

/-- An attempt fails after a restart: the task waits for its retry, and its entry is there. -/
theorem retry_not_stranded_failed :
    ∃ s r, run (Demo.env 100000 100) [.restart, Demo.register 1, Demo.submit 3, .sweep, Demo.started 2,
        Demo.failed 2] = some s ∧
      s.graph.state Demo.taskId = .retryPending ∧ s.retryReadyAtMs[Demo.taskId]? = some r := by
  have hfacts : ((run (Demo.env 100000 100) [.restart, Demo.register 1, Demo.submit 3, .sweep, Demo.started 2,
      Demo.failed 2]).map fun s => s.graph.state Demo.taskId) = some .retryPending := by
    decide +kernel
  have hcond : RunMeets (Demo.env 100000 100) (fun s e => s.restoresNoRetry e = true) [.restart,
      Demo.register 1, Demo.submit 3, .sweep, Demo.started 2, Demo.failed 2] := by
    decide +kernel
  obtain ⟨s, hs, hstate⟩ := Option.map_eq_some_iff.mp hfacts
  obtain ⟨r, hr, -⟩ := retry_not_stranded hs hcond hstate
  exact ⟨s, r, hs, hstate, hr⟩

/-- A task that waits for its retry when the coordinator restarts keeps its state and loses its entry; a sweep
    ten seconds later, with the node back, still leaves it there. -/
theorem restart_strands_retry :
    ((run (Demo.env 100000 9) [Demo.register 1, Demo.submit 3, .sweep, Demo.started 2, Demo.failed 2]).map
      fun s => (s.graph.state Demo.taskId, s.retryReadyAtMs[Demo.taskId]?)) =
        some (.retryPending, some 100) ∧
    ((run (Demo.env 100000 9) [Demo.register 1, Demo.submit 3, .sweep, Demo.started 2, Demo.failed 2,
      .restart]).map fun s => (s.graph.state Demo.taskId, s.retryReadyAtMs[Demo.taskId]?)) =
        some (.retryPending, none) ∧
    ((run (Demo.env 100000 9) [Demo.register 1, Demo.submit 3, .sweep, Demo.started 2, Demo.failed 2,
      .restart, Demo.register 2, .sweep, .sweep]).map fun s =>
        (s.now (Demo.env 100000 9), s.graph.state Demo.taskId, s.retryReadyAtMs[Demo.taskId]?)) =
        some (10000, .retryPending, none) := by
  decide +kernel

end ComputeFabric
