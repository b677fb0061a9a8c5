import ComputeFabric.Coordinator.Clock
import ComputeFabric.Safety.Retry

/-!
# `Safety.Backoff` — a retry waits for its backoff

A task enters `RetryPending` together with the time it may leave it at, `now_millis()` plus the backoff of the
task. The backoff is an unsigned 64-bit number that a client chooses, and the sum is a signed one. As long as it
fits, no sweep takes the task back earlier: an entry is only ever replaced by a later one, and an entry that
outlives its retry is replaced before the next (`backoff_honoured`). A sum that does not fit lies in the past
(`backoff_wraps`).

`Reschedules` says what a piece of the core does to the entries: it keeps them and sends no task into a retry, or
it sets an entry by a reading of its own. A node loss and a recovery reschedule a list of tasks, one reading for each
(`Retries`).
-/

namespace ComputeFabric

open Coordinator
open ExecutionAttempt (markStarted markCommitted markFailed markCancelled)

variable {D : Type}

/-! ## The condition -/

/-- The retry time by the reading `i` of the clock can be represented. -/
def Env.fitsBackoff (env : Env) (i : Nat) (task : ComputeTask D) : Bool :=
  (env.nowMillis i).toInt + task.retry.retryBackoffMs.toNat < 2 ^ 63

/-- The state a start restores a task to, before recovery. -/
def DurableState.restoredState (d : DurableState D) (t : ComputeTaskId) : TaskState :=
  d.taskStates[t]?.getD .submitted

/-- The tasks that recovery reschedules, in its order. -/
def DurableState.recoveryRetries (d : DurableState D) : List (ComputeTaskId × ComputeTask D) :=
  d.tasks.toList.filter fun entry => (d.restoredState entry.1).isActive && retriesNodeLoss entry.2

/-- The tasks that the loss of a node reschedules, in its order. -/
def Ledger.lossRetries (l : Ledger D) (n : NodeId) : List (ComputeTaskId × ComputeTask D) :=
  if l.isOnline n then
    (l.affectedBy n).filterMap fun t => ((l.graph.find t).filter retriesNodeLoss).map fun task => (t, task)
  else []

/-- Every retry time that the event computes for a task it leaves in `RetryPending` can be represented: that of the
    failed task, if its failure is accepted, and those of the tasks that a loop reschedules, each by the reading made
    for it. -/
def Coordinator.backoffFits (env : Env) (s : Coordinator D) : Event D → Bool
  | .command (.attemptFailed _ _ fa) =>
      (s.findActiveAttempt fa.attemptId).all fun (_, a) =>
        a.coordinatorEpoch ≠ s.durable.epoch || a.state = .succeeded || a.committed ||
          !(s.graph.state a.taskId).isLegal .retryPending ||
          (s.graph.find a.taskId).all fun task =>
            !canRetry task a (.ofUInt8 fa.failureKind) || env.fitsBackoff (s.clockReads + 1) task
  | .sweep =>
      ((s.lostNodes env (s.now env)).flatMap s.lossRetries).zipIdx.all fun ((t, task), k) =>
        lossState task (s.graph.state t) ≠ .retryPending || env.fitsBackoff (s.clockReads + 1 + k) task
  | .restart =>
      (s.file.getD {}).recoveryRetries.zipIdx.all fun ((_, task), k) => env.fitsBackoff (s.clockReads + k) task
  | _ => true

/-- A sum that fits is not wrapped. -/
theorem toInt_retryTime {now : Int64} {backoff : UInt64} (h : now.toInt + backoff.toNat < 2 ^ 63) :
    (now + backoff.toInt64).toInt = now.toInt + backoff.toNat := by
  have hlo := now.le_toInt
  have hbackoff : backoff.toInt64.toInt = (backoff.toNat : Int).bmod (2 ^ 64) := BitVec.toInt_eq_toNat_bmod _
  rw [Int64.toInt_add, hbackoff, Int.add_bmod_bmod]
  apply Int.bmod_eq_of_le <;> omega

/-! ## Transitions that set no retry time -/

/-- The entries are the same, no task has been sent into a retry and none is gone. -/
structure Ledger.KeepsRetry (l l' : Ledger D) : Prop where
  entries : l'.retryReadyAtMs = l.retryReadyAtMs
  states : ∀ t : ComputeTaskId, l'.graph.states[t]? = some .retryPending → l.graph.states[t]? = some .retryPending
  tasks : ∀ (t : ComputeTaskId) (task : ComputeTask D), l.graph.tasks[t]? = some task → l'.graph.tasks[t]? = some task

namespace Ledger.KeepsRetry

variable {l l' l'' : Ledger D}

theorem congr (hentries : l'.retryReadyAtMs = l.retryReadyAtMs) (hgraph : l'.graph = l.graph) : l.KeepsRetry l' where
  entries := hentries
  states _ h := hgraph ▸ h
  tasks _ _ h := hgraph ▸ h

theorem trans (h : l.KeepsRetry l') (h' : l'.KeepsRetry l'') : l.KeepsRetry l'' where
  entries := h'.entries.trans h.entries
  states t ht := h.states t (h'.states t ht)
  tasks t task ht := h'.tasks t task (h.tasks t task ht)

theorem setState (h : l.KeepsRetry l') (t : ComputeTaskId) (st : TaskState) (hst : st ≠ .retryPending) :
    l.KeepsRetry (l'.setState t st) where
  entries := h.entries
  states u hu := by
    refine h.states u ?_
    have hstates : (l'.graph.trySetState t st).states[u]? = some .retryPending := hu
    rw [TaskGraph.getElem?_states_trySetState] at hstates
    split_ifs at hstates
    · obtain ⟨cur, hcur, hnext⟩ := Option.map_eq_some_iff.mp hstates
      rwa [TaskState.eq_of_next_eq hnext hst] at hcur
    · exact hstates
  tasks u task hu := by
    show (l'.graph.trySetState t st).tasks[u]? = some task
    rw [TaskGraph.trySetState_tasks]
    exact h.tasks u task hu

theorem release (h : l.KeepsRetry l') (t : ComputeTaskId) : l.KeepsRetry (l'.releaseTaskReservation t) :=
  h.trans (.congr (by rw [releaseTaskReservation_retryReadyAtMs]) (by rw [releaseTaskReservation_graph]))

theorem updateAttempt (l : Ledger D) (p : AttemptPtr) (f : ExecutionAttempt D → ExecutionAttempt D) :
    l.KeepsRetry (l.updateAttempt p f) := .congr rfl rfl

end Ledger.KeepsRetry

section Transitions

variable [DoubleArith D] {env : Env} {s₀ : Coordinator D} {e : Event D} {l l' : Ledger D}

omit [DoubleArith D] in
theorem Ledger.KeepsRetry.dispatch (l : Ledger D) (t : ComputeTaskId) (resv : Reservation) (a : ExecutionAttempt D) :
    l.KeepsRetry (l.dispatch t resv a) := by
  have hadded : l.KeepsRetry (l.addReservation resv) := .congr rfl rfl
  have hreserved := (hadded.setState t .planning (by decide)).setState t .reserved (by decide)
  have hpushed : l.KeepsRetry (((((l.addReservation resv).setState t .planning).setState t .reserved).holdReservation
      t resv.id).pushAttempt t a) := hreserved.trans (.congr rfl rfl)
  exact hpushed.setState t .dispatching (by decide)

/-- **Only failures and sweeps set retry times.** -/
theorem LedgerStep.keepsRetry (h : LedgerStep env s₀ e l l') (hwf : l.WellFormed)
    (hfail : ∀ conn req fa, e ≠ .command (.attemptFailed conn req fa)) (hsweep : e ≠ .sweep) : l.KeepsRetry l' := by
  cases h with
  | register hopen hid hsession => exact .congr rfl rfl
  | updateNode hf => exact .congr rfl rfl
  | start hfind hepoch => exact (Ledger.KeepsRetry.updateAttempt _ _ _).setState _ .running (by decide)
  | commit hfind hcommitted hcancel hvalid =>
      exact (((Ledger.KeepsRetry.updateAttempt _ _ _).setState _ .succeeded (by decide)).release _).trans
        (.congr rfl rfl)
  | abandon hfind hcommitted hcancel =>
      exact ((Ledger.KeepsRetry.updateAttempt _ _ _).setState _ .preempted (by decide)).release _
  | unblock hblocked hsat =>
      exact ((Ledger.KeepsRetry.congr rfl rfl).setState _ .ready (by decide)).trans (.congr rfl rfl)
  | fail hfind => exact absurd rfl (hfail _ _ _)
  | cancelAttempt hfind hepoch =>
      exact ((Ledger.KeepsRetry.updateAttempt _ _ _).release _).setState _ .preempted (by decide)
  | release hfind hepoch => exact .congr rfl rfl
  | @submit client conn req sub g time hdeps hadd =>
      have hadded : s₀.toLedger.KeepsRetry { s₀.toLedger with graph := g } := by
        obtain ⟨hnew, rfl⟩ := TaskGraph.addTask_ok hadd
        refine ⟨rfl, fun u hu => ?_, fun u task hu => ?_⟩
        · have hstates : (s₀.graph.insertTask sub.task).states[u]? = some .retryPending := hu
          rw [TaskGraph.getElem?_states_insertTask] at hstates
          split_ifs at hstates
          · cases hstates
          · exact hstates
        · show (s₀.graph.insertTask sub.task).tasks[u]? = some task
          rw [TaskGraph.getElem?_tasks_insertTask, if_neg]
          · exact hu
          · rintro rfl
            cases hnew.symm.trans hu
      have hinitial : Ledger.initialState sub.task ≠ .retryPending := by
        unfold Ledger.initialState
        split_ifs <;> decide
      exact (hadded.setState _ _ hinitial).trans (.congr rfl rfl)
  | refuse hadd =>
      obtain ⟨htasks, hstates, -⟩ := TaskGraph.addTask_error hwf.coherent hadd
      exact ⟨rfl, fun u hu => hstates ▸ hu, fun u task hu => htasks.symm ▸ hu⟩
  | touchAttempts => exact .congr rfl rfl
  | requestCancel hrunning => exact .congr rfl rfl
  | cancelTask hstate hterminal hrunning hlegal =>
      exact (((Ledger.KeepsRetry.congr rfl rfl).setState _ .cancelled (by decide)).release _).trans (.congr rfl rfl)
  | loseNode => exact absurd rfl hsweep
  | timeout => exact absurd rfl hsweep
  | requeue => exact absurd rfl hsweep
  | expire => exact absurd rfl hsweep
  | expireReady => exact absurd rfl hsweep
  | dispatch => exact absurd rfl hsweep

end Transitions

/-! ## Readings and retry times -/

/-- From `s` to `x` the clock is read some times, and each entry is kept or set by one of these readings; `P` says
    by which, for the tasks that are left in `RetryPending`. -/
structure Reschedules (env : Env) (P : ComputeTaskId → ComputeTask D → Nat → Prop) (s x : Coordinator D) : Prop where
  clock : s.clockReads ≤ x.clockReads
  tasks : ∀ (t : ComputeTaskId) (task : ComputeTask D), s.graph.tasks[t]? = some task → x.graph.tasks[t]? = some task
  row : ∀ t : ComputeTaskId,
    (x.retryReadyAtMs[t]? = s.retryReadyAtMs[t]? ∧
      (x.graph.states[t]? = some .retryPending → s.graph.states[t]? = some .retryPending)) ∨
    ∃ i task, s.clockReads ≤ i ∧ i < x.clockReads ∧ x.graph.tasks[t]? = some task ∧
      (x.graph.states[t]? = some .retryPending → P t task i) ∧
      x.retryReadyAtMs[t]? = some (env.nowMillis i + task.retry.retryBackoffMs.toInt64)

namespace Reschedules

variable {env : Env} {P Q : ComputeTaskId → ComputeTask D → Nat → Prop} {s x y : Coordinator D}

theorem of_keeps (h : s.toLedger.KeepsRetry x.toLedger) (hclock : s.clockReads ≤ x.clockReads) :
    Reschedules env P s x :=
  ⟨hclock, h.tasks, fun t => .inl ⟨by rw [h.entries], h.states t⟩⟩

theorem refl (s : Coordinator D) : Reschedules env P s s := .of_keeps (.congr rfl rfl) le_rfl

theorem trans (h : Reschedules env P s x) (h' : Reschedules env P x y) : Reschedules env P s y where
  clock := h.clock.trans h'.clock
  tasks t task ht := h'.tasks t task (h.tasks t task ht)
  row t := by
    rcases h'.row t with ⟨hentry', hstate'⟩ | ⟨i, task, hlo, hhi, htask, hP, hentry⟩
    · rcases h.row t with ⟨hentry, hstate⟩ | ⟨i, task, hlo, hhi, htask, hP, hentry⟩
      · exact .inl ⟨hentry'.trans hentry, fun ht => hstate (hstate' ht)⟩
      · exact .inr ⟨i, task, hlo, hhi.trans_le h'.clock, h'.tasks t task htask, fun ht => hP (hstate' ht),
          hentry'.trans hentry⟩
    · exact .inr ⟨i, task, h.clock.trans hlo, hhi, htask, hP, hentry⟩

theorem mono (h : Reschedules env P s x)
    (hPQ : ∀ t task i, x.graph.states[t]? = some .retryPending → P t task i → Q t task i) : Reschedules env Q s x where
  clock := h.clock
  tasks := h.tasks
  row t := (h.row t).imp_right fun ⟨i, task, hlo, hhi, htask, hP, hentry⟩ =>
    ⟨i, task, hlo, hhi, htask, fun ht => hPQ t task i ht (hP ht), hentry⟩

/-- The state of a task that a piece of the core sends into a retry has been rescheduled by it. -/
theorem of_entered (h : Reschedules env P s x) {t : ComputeTaskId} (hbefore : s.graph.states[t]? ≠ some .retryPending)
    (hafter : x.graph.states[t]? = some .retryPending) :
    ∃ i task, s.clockReads ≤ i ∧ x.graph.tasks[t]? = some task ∧ P t task i ∧
      x.retryReadyAtMs[t]? = some (env.nowMillis i + task.retry.retryBackoffMs.toInt64) := by
  rcases h.row t with ⟨-, hstate⟩ | ⟨i, task, hlo, -, htask, hP, hentry⟩
  · exact absurd (hstate hafter) hbefore
  · exact ⟨i, task, hlo, htask, hP hafter, hentry⟩

end Reschedules

/-- A task is sent into a retry, at the reading the clock makes next. -/
theorem reschedules_retryOrFail {env : Env} {P : ComputeTaskId → ComputeTask D → Nat → Prop} {s x : Coordinator D}
    (t : ComputeTaskId) (task : ComputeTask D) {l : Ledger D} (hl : s.toLedger.KeepsRetry l)
    (hx : (l.retryOrFail t (some (s.retryTime env task))).KeepsRetry x.toLedger)
    (hclock : x.clockReads = s.clockReads + 1) (htask : s.graph.tasks[t]? = some task)
    (hP : x.graph.states[t]? = some .retryPending → P t task s.clockReads) :
    Reschedules env P s x := by
  have htasks : ∀ (u : ComputeTaskId) (tk : ComputeTask D), s.graph.tasks[u]? = some tk →
      x.graph.tasks[u]? = some tk := by
    intro u tk hu
    refine hx.tasks u tk ?_
    rw [Ledger.retryOrFail_tasks]
    exact hl.tasks u tk hu
  refine ⟨by omega, htasks, fun u => ?_⟩
  have hentry : x.retryReadyAtMs[u]? = if t = u then some (s.retryTime env task) else s.retryReadyAtMs[u]? := by
    rw [hx.entries]
    show (l.retryReadyAtMs.insert t _)[u]? = _
    rw [hl.entries, Std.ExtTreeMap.getElem?_insert]
    simp
  by_cases hu : t = u
  · subst hu
    rw [if_pos rfl] at hentry
    exact .inr ⟨s.clockReads, task, le_rfl, by omega, htasks t task htask, hP, hentry⟩
  · rw [if_neg hu] at hentry
    refine .inl ⟨hentry, fun h => hl.states u ?_⟩
    have hstates := hx.states u h
    rwa [getElem?_states_retryOrFail, if_neg hu] at hstates

/-! ## Lists of retries -/

/-- From `s` to `x` the listed tasks are rescheduled one after the other, each by a reading of its own, and the clock
    is not read otherwise. -/
structure Retries (env : Env) (list : List (ComputeTaskId × ComputeTask D)) (s x : Coordinator D) : Prop where
  reschedules : Reschedules env (fun t task i => ∃ k, list[k]? = some (t, task) ∧ i = s.clockReads + k) s x
  clock : x.clockReads = s.clockReads + list.length

namespace Retries

variable {env : Env} {s x y : Coordinator D} {list list' : List (ComputeTaskId × ComputeTask D)}

theorem nil (h : s.toLedger.KeepsRetry x.toLedger) (hclock : x.clockReads = s.clockReads) : Retries env [] s x :=
  ⟨.of_keeps h hclock.ge, hclock⟩

theorem single {t : ComputeTaskId} {task : ComputeTask D} {l : Ledger D} (hl : s.toLedger.KeepsRetry l)
    (hx : (l.retryOrFail t (some (s.retryTime env task))).KeepsRetry x.toLedger)
    (hclock : x.clockReads = s.clockReads + 1) (htask : s.graph.tasks[t]? = some task) :
    Retries env [(t, task)] s x :=
  ⟨reschedules_retryOrFail t task hl hx hclock htask fun _ => ⟨0, rfl, rfl⟩, hclock⟩

theorem trans (h : Retries env list s x) (h' : Retries env list' x y) : Retries env (list ++ list') s y where
  reschedules := by
    refine (h.reschedules.mono ?_).trans (h'.reschedules.mono ?_)
    · rintro t task i - ⟨k, hk, rfl⟩
      have hlt := (List.getElem?_eq_some_iff.mp hk).1
      exact ⟨k, by rw [List.getElem?_append_left hlt, hk], rfl⟩
    · rintro t task i - ⟨k, hk, rfl⟩
      refine ⟨list.length + k, ?_, by rw [h.clock, Nat.add_assoc]⟩
      rw [List.getElem?_append_right (Nat.le_add_right _ _), Nat.add_sub_cancel_left, hk]
  clock := by
    rw [h'.clock, h.clock, List.length_append, Nat.add_assoc]

/-- A loop whose rounds reschedule lists reschedules all of them. `P` is what holds before the rounds that are
    left. -/
theorem foldl {X : Type} {f : Coordinator D → X → Coordinator D} {g : X → List (ComputeTaskId × ComputeTask D)}
    {P : List X → Coordinator D → Prop}
    (hf : ∀ z zs y, P (z :: zs) y → Retries env (g z) y (f y z) ∧ P zs (f y z)) (zs : List X) (hs : P zs s) :
    Retries env (zs.flatMap g) s (zs.foldl f s) := by
  induction zs generalizing s with
  | nil => exact .nil (.congr rfl rfl) rfl
  | cons z zs ih =>
      obtain ⟨hround, hrest⟩ := hf z zs s hs
      exact hround.trans (ih hrest)

/-- The save that ends a transition. -/
theorem persist {list : List (ComputeTaskId × ComputeTask D)} {s x : Coordinator D} (h : Retries env list s x) :
    Retries env list s (x.persist env) := by
  have hsaved := h.trans (.nil (x := x.persist env) (by rw [persist_toLedger]; exact .congr rfl rfl)
    (persist_clockReads env x))
  rwa [List.append_nil] at hsaved

end Retries

/-! ## Node loss -/

section Loss

variable (env : Env)

/-- The loop body of a node loss. -/
theorem loseTask_retries (s : Coordinator D) (t : ComputeTaskId) :
    Retries env (((s.graph.find t).filter retriesNodeLoss).map fun task => (t, task)).toList s (loseTask env s t) := by
  unfold loseTask
  cases hfind : s.graph.find t with
  | none => exact .nil (.congr rfl rfl) rfl
  | some task =>
      dsimp only
      have hlost : s.toLedger.KeepsRetry (s.toLedger.setState t .lost) :=
        Ledger.KeepsRetry.setState (.congr rfl rfl) t .lost (by decide)
      split_ifs with hretry
      · rw [Option.filter_some_pos hretry]
        exact .single hlost (Ledger.KeepsRetry.release (.congr rfl rfl) t) rfl hfind
      · rw [Option.filter_some_neg (by simpa using hretry)]
        exact .nil ((hlost.setState t .failed (by decide)).release t) rfl

theorem handleNodeLoss_retries (s : Coordinator D) (n : NodeId) :
    Retries env (s.lossRetries n) s (handleNodeLoss env s n) := by
  unfold Ledger.lossRetries
  rcases handleNodeLoss_cases env s n with ⟨hoff, heq⟩ | ⟨hon, node, x, -, hx, hledger, heq⟩
  · rw [heq, if_neg (by simp [hoff])]
    exact .nil (.congr rfl rfl) rfl
  · rw [heq, if_pos hon, List.filterMap_eq_flatMap_toList]
    have hdrop : Retries env [] s x :=
      .nil (by rw [hledger]; exact .congr rfl rfl) (hx ▸ stopTransport_clockReads s n node)
    have hloop : Retries env ((s.affectedBy n).flatMap fun t =>
        (((s.graph.find t).filter retriesNodeLoss).map fun task => (t, task)).toList) x
        ((s.affectedBy n).foldl (loseTask env) x) := by
      refine Retries.foldl (P := fun _ y => y.graph.tasks = s.graph.tasks) ?_ _ (by rw [hledger]; rfl)
      intro t _ y hy
      have hround := loseTask_retries env y t
      rw [TaskGraph.find, hy] at hround
      exact ⟨hround, (loseTask_tasks env y t).trans hy⟩
    exact (hdrop.trans hloop).persist

theorem nodup_lostNodes (time : Int64) (s : Coordinator D) : (s.lostNodes env time).Nodup := by
  refine (OrdMap.nodup_toList_keys s.nodes).sublist ?_
  unfold lostNodes
  induction s.nodes.toList with
  | nil => exact .slnil
  | cons entry rest ih =>
      have hentry : ∀ l : List NodeId, l.Sublist [entry.1] → (l ++ _).Sublist ([entry.1] ++ _) :=
        fun l hl => hl.append ih
      refine hentry _ ?_
      dsimp only
      split_ifs <;> simp_all

/-- **The loss phase of a sweep** reschedules the tasks of its nodes, node by node. -/
theorem lossPhase_retries (s : Coordinator D) : Retries env ((s.lostNodes env (s.now env)).flatMap s.lossRetries)
    s.tick (s.tick.lossPhase env (s.now env)) := by
  refine Retries.foldl (P := fun ns y => y.graph.tasks = s.graph.tasks ∧ y.attempts = s.attempts ∧ ns.Nodup ∧
    ∀ m ∈ ns, y.isOnline m = s.isOnline m) ?_ _ ⟨rfl, rfl, nodup_lostNodes env _ s, fun _ _ => rfl⟩
  rintro n ns y ⟨htasks, hattempts, hnd, honline⟩
  rw [List.nodup_cons] at hnd
  obtain ⟨htasks', hattempts', honline'⟩ := handleNodeLoss_frame env y n
  have hlist : y.lossRetries n = s.lossRetries n := by
    unfold Ledger.lossRetries TaskGraph.find
    rw [honline n List.mem_cons_self, Ledger.affectedBy_congr hattempts, htasks]
  refine ⟨hlist ▸ handleNodeLoss_retries env y n, htasks'.trans htasks, hattempts'.trans hattempts, hnd.2, ?_⟩
  -- the nodes that are left are as they were
  intro m hm
  have hne : n ≠ m := fun h => hnd.1 (h ▸ hm)
  rw [← honline m (List.mem_cons_of_mem n hm), Bool.eq_iff_iff, honline' m, and_iff_left hne]

/-- A task that the loss phase reschedules and leaves in `RetryPending` is one that its loss sends there. -/
theorem lossState_of_retries {s : Coordinator D} {t : ComputeTaskId} {task : ComputeTask D}
    (h : (t, task) ∈ (s.lostNodes env (s.now env)).flatMap s.lossRetries)
    (hafter : (s.tick.lossPhase env (s.now env)).graph.states[t]? = some .retryPending) :
    lossState task (s.graph.state t) = .retryPending := by
  obtain ⟨n, hn, hmem⟩ := List.mem_flatMap.mp h
  unfold Ledger.lossRetries at hmem
  split_ifs at hmem with honline
  · obtain ⟨u, hu, hfound⟩ := List.mem_filterMap.mp hmem
    obtain ⟨task', hfilter, heq⟩ := Option.map_eq_some_iff.mp hfound
    obtain ⟨rfl, rfl⟩ := Prod.mk.inj heq
    have hloses : s.tick.losesTask env (s.now env) u = true := by
      refine List.any_eq_true.mpr ⟨n, hn, ?_⟩
      rw [Bool.and_eq_true, List.contains_iff_mem]
      exact ⟨honline, hu⟩
    have hview := lossPhase_view env (s.now env) s.tick u
    have hfind : s.tick.graph.find u = some task' := (Option.filter_eq_some_iff.mp hfilter).1
    rw [if_pos hloses, Ledger.lostView, hfind] at hview
    have hstate : (s.view u).state.map (lossState task') = some .retryPending :=
      (congrArg TaskView.state hview).symm.trans hafter
    obtain ⟨st, hst, hlost⟩ := Option.map_eq_some_iff.mp hstate
    rwa [Ledger.state_of_view hst]
  · cases hmem

end Loss

/-! ## The other phases of a sweep -/

section Phases

variable (env : Env)

theorem foldl_keepsRetry {X : Type} {f : Coordinator D → X → Coordinator D}
    (hf : ∀ (s : Coordinator D) (x : X), s.toLedger.KeepsRetry (f s x).toLedger) (xs : List X) (s : Coordinator D) :
    s.toLedger.KeepsRetry (xs.foldl f s).toLedger := by
  refine List.foldlRecOn (motive := fun y : Coordinator D => s.toLedger.KeepsRetry y.toLedger) xs f (.congr rfl rfl) ?_
  intro y hy x _
  exact hy.trans (hf y x)

theorem timeoutPhase_keepsRetry (time : Int64) (s : Coordinator D) :
    s.toLedger.KeepsRetry (s.timeoutPhase env time).toLedger := by
  refine foldl_keepsRetry (fun y t => ?_) _ s
  rw [timeoutDispatch, persist_toLedger]
  exact ((Ledger.KeepsRetry.release (.congr rfl rfl) t).setState t .ready (by decide)).trans (.congr rfl rfl)

theorem requeuePhase_keepsRetry (time : Int64) (s : Coordinator D) :
    s.toLedger.KeepsRetry (s.requeuePhase env time).toLedger := by
  refine foldl_keepsRetry (fun y entry => ?_) _ s
  unfold requeueTask
  split_ifs
  · rw [persist_toLedger]
    exact (Ledger.KeepsRetry.setState (.congr rfl rfl) entry.1 .ready (by decide)).trans (.congr rfl rfl)
  · exact .congr rfl rfl

theorem expirePhase_keepsRetry (time : Int64) (s : Coordinator D) :
    s.toLedger.KeepsRetry (s.expirePhase env time).toLedger := by
  refine foldl_keepsRetry (fun y t => ?_) _ s
  unfold expireTask
  split
  · exact .congr rfl rfl
  · dsimp only
    split_ifs
    · rw [persist_toLedger]
      exact (Ledger.KeepsRetry.release (.congr rfl rfl) t).setState t .expired (by decide)
    · exact .congr rfl rfl
    · exact .congr rfl rfl

variable [DoubleArith D]

theorem scheduleTask_keepsRetry (s : Coordinator D) (t : ComputeTaskId) :
    s.toLedger.KeepsRetry (scheduleTask env s t).toLedger := by
  have hplace : ∀ (y : Coordinator D) (task : ComputeTask D), y.graph.states[t]? = some .ready →
      y.toLedger.KeepsRetry (y.placeTask env t task).toLedger := by
    intro y task hready
    rcases placeTask_spec env task hready with hsame |
      ⟨n, node, executor, device, r, a, -, -, -, -, -, hledger⟩
    · rw [hsame]
      exact .congr rfl rfl
    · rw [hledger]
      exact .dispatch y.toLedger t r a
  rcases scheduleTask_cases env s t with
    heq | ⟨task, -, -, hready, ⟨-, -, heq⟩ | ⟨-, -, heq⟩ | ⟨-, heq⟩⟩ <;> rw [heq]
  · exact .congr rfl rfl
  · rw [persist_toLedger]
    exact Ledger.KeepsRetry.setState (.congr rfl rfl) t .expired (by decide)
  · exact hplace s.tick task hready
  · exact hplace s task hready

end Phases

/-! ## One event -/

section Events

variable {env : Env}

/-- An entry that is set holds the reading and the whole backoff. -/
abbrev FitsBackoff (env : Env) (_ : ComputeTaskId) (task : ComputeTask D) (i : Nat) : Prop := env.fitsBackoff i task = true

/-- A retry time is that of a task that may be tried again. -/
theorem retryAfter_eq_some {s : Coordinator D} {a : ExecutionAttempt D} {kind : FailureKind} {time : Int64}
    (h : s.retryAfter env a kind = some time) :
    ∃ task, s.graph.find a.taskId = some task ∧ canRetry task a kind = true ∧ s.retryTime env task = time := by
  unfold retryAfter at h
  split at h
  · cases h
  · next task hfind =>
      split_ifs at h with hcan
      exact ⟨task, hfind, hcan, Option.some.inj h⟩

/-- A task that ends up in a retry could be sent there. -/
theorem isLegal_of_retried {l : Ledger D} {t : ComputeTaskId} {time : Int64}
    (h : (l.retryOrFail t (some time)).graph.states[t]? = some .retryPending) :
    (l.graph.state t).isLegal .retryPending = true := by
  rw [getElem?_states_retryOrFail, if_pos rfl] at h
  obtain ⟨st, hst, hnext⟩ := Option.map_eq_some_iff.mp h
  rw [show l.graph.state t = st from Ledger.state_of_view hst]
  exact TaskState.isLegal_of_next_eq hnext

/-- A failure that is recorded reschedules its task by the second reading, or sets no entry. -/
theorem failAttempt_reschedules {P : ComputeTaskId → ComputeTask D → Nat → Prop} {s : Coordinator D} (p : AttemptPtr)
    (a : ExecutionAttempt D) (kind : FailureKind) (reason : Text)
    (hP : ∀ task, s.graph.find a.taskId = some task → canRetry task a kind = true →
      (s.graph.state a.taskId).isLegal .retryPending = true → P a.taskId task (s.clockReads + 1)) :
    let retryAt := s.tick.retryAfter env a kind
    Reschedules env P s ((s.tick.tickIf (retryAt.isSome && s.tick.graph.state a.taskId ≠ .succeeded)).onLedger
      fun l => l.failAttempt p a kind reason (s.now env) retryAt) := by
  generalize hretry : s.tick.retryAfter env a kind = retryAt
  have hreleased : s.toLedger.KeepsRetry
      ((s.toLedger.updateAttempt p (markFailed kind reason (s.now env))).releaseTaskReservation a.taskId) :=
    (Ledger.KeepsRetry.updateAttempt _ _ _).release _
  have hgraph : ((s.toLedger.updateAttempt p (markFailed kind reason (s.now env))).releaseTaskReservation
      a.taskId).graph = s.graph := by
    rw [Ledger.releaseTaskReservation_graph]
    rfl
  have hledger : s.toLedger.failAttempt p a kind reason (s.now env) retryAt =
      let l := (s.toLedger.updateAttempt p (markFailed kind reason (s.now env))).releaseTaskReservation a.taskId
      if s.graph.state a.taskId = .succeeded then l else l.retryOrFail a.taskId retryAt := rfl
  generalize (s.toLedger.updateAttempt p (markFailed kind reason (s.now env))).releaseTaskReservation a.taskId = l
    at hreleased hgraph hledger
  -- a task that has succeeded stays so, and the clock is not read for it again
  by_cases hsucceeded : s.graph.state a.taskId = .succeeded
  · refine .of_keeps ?_ ((Nat.le_succ _).trans (Nat.le_add_right _ _))
    show s.toLedger.KeepsRetry (s.toLedger.failAttempt _ _ _ _ _ _)
    rw [hledger, if_pos hsucceeded]
    exact hreleased
  · cases retryAt with
    | none =>
        refine .of_keeps ?_ ((Nat.le_succ _).trans (Nat.le_add_right _ _))
        show s.toLedger.KeepsRetry (s.toLedger.failAttempt _ _ _ _ _ _)
        rw [hledger, if_neg hsucceeded]
        exact hreleased.setState _ .failed (by decide)
    | some time =>
        obtain ⟨task, hfind, hcan, rfl⟩ := retryAfter_eq_some hretry
        have hticked : Reschedules env P s s.tick := .of_keeps (.congr rfl rfl) (Nat.le_succ _)
        refine hticked.trans (reschedules_retryOrFail a.taskId task hreleased ?_ ?_ hfind ?_)
        · show (l.retryOrFail a.taskId _).KeepsRetry (s.toLedger.failAttempt _ _ _ _ _ _)
          rw [hledger, if_neg hsucceeded]
          exact .congr rfl rfl
        · show s.clockReads + 1 + _ = s.clockReads + 1 + 1
          simp [tick, hsucceeded]
        · intro hafter
          have hbooks : (s.toLedger.failAttempt p a kind reason (s.now env)
              (some (s.tick.retryTime env task))).graph.states[a.taskId]? = some .retryPending := hafter
          rw [hledger, if_neg hsucceeded] at hbooks
          exact hP task hfind hcan (hgraph ▸ isLegal_of_retried hbooks)

theorem handleAttemptFailed_reschedules {s : Coordinator D} (conn : ConnId) (req : UInt64) (fa : AttemptFailed D)
    (hfits : s.backoffFits env (.command (.attemptFailed conn req fa)) = true) :
    Reschedules env (FitsBackoff env) s (s.handleAttemptFailed env conn req fa) := by
  unfold handleAttemptFailed
  dsimp only
  cases hfound : s.findActiveAttempt fa.attemptId with
  | none => exact .of_keeps (.congr (by simp) (by simp)) (by simp)
  | some found =>
      obtain ⟨p, a⟩ := found
      dsimp only
      split_ifs with hepoch hdone
      · exact .refl s
      · exact .refl s
      · rw [not_not] at hepoch
        rw [not_or] at hdone
        -- the reply and the save change neither the books nor the clock
        refine (failAttempt_reschedules p a (.ofUInt8 fa.failureKind) fa.failureReason ?_).trans
          (.of_keeps (.congr (by simp) (by simp)) (by simp))
        intro task hfind hcan hlegal
        show env.fitsBackoff (s.clockReads + 1) task = true
        simpa [backoffFits, hfound, hfind, hcan, hepoch, hdone, hlegal] using hfits

theorem lossPhase_fits {s : Coordinator D} (hfits : s.backoffFits env .sweep = true) :
    Reschedules env (FitsBackoff env) s (s.tick.lossPhase env (s.now env)) := by
  have hticked : Reschedules env (FitsBackoff env) s s.tick := .of_keeps (.congr rfl rfl) (Nat.le_succ _)
  refine hticked.trans ((lossPhase_retries env s).reschedules.mono ?_)
  rintro t task i hafter ⟨k, hk, rfl⟩
  have hround := List.all_eq_true.mp hfits ((t, task), k) (List.mk_mem_zipIdx_iff_getElem?.mpr hk)
  show env.fitsBackoff (s.clockReads + 1 + k) task = true
  simpa [lossState_of_retries env (List.mem_of_getElem? hk) hafter] using hround

theorem beforeRequeue_reschedules (s : Coordinator D) :
    Reschedules env (FitsBackoff env) (s.tick.lossPhase env (s.now env)) (s.beforeRequeue env) :=
  .of_keeps (timeoutPhase_keepsRetry env _ _) (timeoutPhase_clockReads env _ _).ge

theorem afterRequeue_reschedules [DoubleArith D] (s : Coordinator D) :
    Reschedules env (FitsBackoff env) (s.beforeRequeue env) (s.sweep env) := by
  refine .of_keeps ?_ ?_
  · exact ((requeuePhase_keepsRetry env _ _).trans (expirePhase_keepsRetry env _ _)).trans
      (foldl_keepsRetry (scheduleTask_keepsRetry env) _ (s.timersDone env))
  · rw [beforeRequeue, timeoutPhase_clockReads, ← timersDone_clockReads_eq]
    exact (foldl_scheduleTask_clockReads env (s.timersDone env) _).1

variable [DoubleArith D]

/-- **Every event of one process** reschedules with the whole backoff. -/
theorem step_reschedules {s s' : Coordinator D} {e : Event D} (hsound : s.Sound) (hlocal : e.isLocal = true)
    (hfits : s.backoffFits env e = true) (h : step env s e = some s') : Reschedules env (FitsBackoff env) s s' := by
  have hclock : s.clockReads ≤ s'.clockReads ∨ e = .sweep := by
    cases e with
    | command c => exact .inl ((process_clockReads env s c).trans (Option.some.inj h ▸ le_rfl))
    | sweep => exact .inr rfl
    | connectionStopped conn => exact .inl (Option.some.inj h ▸ le_rfl)
    | stopRequested => exact .inl (Option.some.inj h ▸ le_rfl)
    | restart => cases hlocal
  by_cases hsweep : e = .sweep
  · subst hsweep
    rw [← Option.some.inj h]
    exact ((lossPhase_fits hfits).trans (beforeRequeue_reschedules s)).trans (afterRequeue_reschedules s)
  by_cases hfail : ∃ conn req fa, e = .command (.attemptFailed conn req fa)
  · obtain ⟨conn, req, fa, rfl⟩ := hfail
    rw [← Option.some.inj h]
    exact handleAttemptFailed_reschedules conn req fa hfits
  · refine .of_keeps ?_ (hclock.resolve_right hsweep)
    refine (Lts.steps_invariant (P := fun x => x.Sound ∧ s.toLedger.KeepsRetry x.toLedger) ?_
      ⟨hsound, .congr rfl rfl⟩ (step_steps hlocal h)).2
    rintro x x' ⟨hx, hkeeps⟩ hstep
    refine ⟨hstep.sound hx, ?_⟩
    rcases hstep.ledger with hsame | hact
    · rwa [hsame]
    · exact hkeeps.trans (hact.keepsRetry hx.wellFormed
        (fun conn req fa he => hfail ⟨conn, req, fa, he⟩) hsweep)

end Events

/-! ## A start -/

section Start

variable (env : Env)

theorem recoverTask_retries (s : Coordinator D) (x : ComputeTaskId × ComputeTask D)
    (htask : s.graph.tasks[x.1]? = some x.2) :
    Retries env (Option.guard (fun y => (s.graph.state y.1).isActive && retriesNodeLoss y.2) x).toList s
      (recoverTask env s x) := by
  unfold recoverTask
  by_cases hactive : (s.graph.state x.1).isActive = true
  · have hstate : s.graph.states[x.1]? = some (s.graph.state x.1) := by
      refine (Ledger.state_eq_iff ?_).mp rfl
      intro hsubmitted
      rw [hsubmitted] at hactive
      cases hactive
    rw [if_pos hactive, TaskGraph.setState_of_legal hstate (TaskState.isLegal_lost hactive)]
    have hlost : s.toLedger.KeepsRetry (s.toLedger.setState x.1 .lost) :=
      Ledger.KeepsRetry.setState (.congr rfl rfl) x.1 .lost (by decide)
    dsimp only
    unfold requeueOrFail
    split_ifs with hretry
    · rw [Option.guard, if_pos (by rw [hactive, hretry]; rfl)]
      exact .single hlost (.congr rfl rfl) rfl htask
    · rw [Option.guard, if_neg (by simpa [hactive] using hretry)]
      exact .nil (hlost.setState x.1 .failed (by decide)) rfl
  · rw [if_neg hactive, Option.guard, if_neg (by simp [hactive])]
    exact .nil (.congr rfl rfl) rfl

/-- **Recovery** reschedules the tasks that were in progress. -/
theorem recovery_retries {d : DurableState D} {s : Coordinator D}
    (htasks : ∀ x ∈ d.tasks.toList, s.graph.tasks[x.1]? = some x.2)
    (hstates : ∀ x ∈ d.tasks.toList, s.graph.state x.1 = d.restoredState x.1) :
    Retries env d.recoveryRetries s (d.tasks.toList.foldl (recoverTask env) s) := by
  unfold DurableState.recoveryRetries
  rw [← List.filterMap_eq_filter, List.filterMap_eq_flatMap_toList]
  refine Retries.foldl (P := fun list y => (list.map Prod.fst).Nodup ∧ ∀ x ∈ list,
    y.graph.tasks[x.1]? = some x.2 ∧ y.graph.state x.1 = d.restoredState x.1) ?_ _
    ⟨OrdMap.nodup_toList_keys _, fun x hx => ⟨htasks x hx, hstates x hx⟩⟩
  rintro x rest y ⟨hnd, hrest⟩
  rw [List.map_cons, List.nodup_cons] at hnd
  obtain ⟨htask, hstate⟩ := hrest x List.mem_cons_self
  obtain ⟨hbooks, hstates'⟩ := recoverTask_spec env y x
  refine ⟨?_, hnd.2, fun z hz => ?_⟩
  · have hround := recoverTask_retries env y x htask
    rwa [Option.guard, hstate] at hround
  · -- another task's recovery has not touched this one
    obtain ⟨htask', hstate'⟩ := hrest z (List.mem_cons_of_mem x hz)
    have hne : x.1 ≠ z.1 := fun h => hnd.1 (List.mem_map.mpr ⟨z, hz, h.symm⟩)
    refine ⟨by rwa [hbooks.tasks], ?_⟩
    show ((recoverTask env y x).graph.states[z.1]?).getD _ = _
    rw [hstates', if_neg hne]
    exact hstate'

variable {env} [DoubleArith D]

/-- **A start** has no entries at first, and reschedules the tasks it finds in progress. -/
theorem start_retries {w : World D} {s : Coordinator D} (h : start env w = .ok s) (hfile : FileOk (w.file.getD {})) :
    ∃ x : Coordinator D, x.clockReads = w.clockReads ∧ x.retryReadyAtMs = ∅ ∧
      Retries env (w.file.getD {}).recoveryRetries x s := by
  obtain ⟨w', g, hopen, hrebuild, rfl⟩ := start_ok h
  obtain ⟨-, -, -, -, hclock, -⟩ := openStore_spec hopen
  generalize w.file.getD {} = d at hfile hrebuild
  have hmem : ∀ x ∈ d.tasks.toList, d.tasks[x.1]? = some x.2 :=
    fun x hx => Std.ExtTreeMap.mem_toList_iff_getElem?_eq_some.mp hx
  have hloop := recovery_retries env (d := d) (s := loaded env w' d g) ?_ ?_
  · exact ⟨loaded env w' d g, hclock, rfl, hloop.persist⟩
  · intro x hx
    obtain ⟨hcoh, hrebuilt, -⟩ := rebuild_tasks hfile.id_eq hrebuild
    show (restoreStates d.taskStates g).tasks[x.1]? = _
    rw [(TaskGraph.restoreStates_spec d.taskStates hcoh).2.1, hrebuilt]
    exact hmem x hx
  · intro x hx
    show ((loaded env w' d g).graph.states[x.1]?).getD _ = _
    rw [loaded_states env hfile hrebuild x.1, hmem x hx]
    rfl

end Start

/-! ## Runs -/

section Runs

variable [DoubleArith D] {env : Env}

/-- Only tasks of the graph have entries. -/
def Coordinator.TimersKnown (s : Coordinator D) : Prop :=
  ∀ t : ComputeTaskId, s.retryReadyAtMs[t]?.isSome = true → s.graph.tasks[t]?.isSome = true

/-- The entry of `t` holds the reading `i₀` and the backoff, as long as the record of `t` is `task` and waits. -/
structure Coordinator.Waits (env : Env) (i₀ : Nat) (t : ComputeTaskId) (task : ComputeTask D) (s : Coordinator D) :
    Prop where
  reads : i₀ ≤ s.clockReads
  known : s.TimersKnown
  held : s.graph.tasks[t]? = some task → s.graph.states[t]? = some .retryPending →
    ∀ r : Int64, s.retryReadyAtMs[t]? = some r →
    (env.nowMillis i₀).toInt + task.retry.retryBackoffMs.toNat ≤ r.toInt

omit [DoubleArith D] in
theorem Reschedules.timersKnown {P : ComputeTaskId → ComputeTask D → Nat → Prop} {s x : Coordinator D}
    (h : Reschedules env P s x) (hs : s.TimersKnown) : x.TimersKnown := by
  intro t ht
  rcases h.row t with ⟨hentry, -⟩ | ⟨i, task, -, -, htask, -⟩
  · rw [hentry] at ht
    obtain ⟨task, htask⟩ := Option.isSome_iff_exists.mp (hs t ht)
    rw [h.tasks t task htask]
    rfl
  · rw [htask]
    rfl

variable (hclock : Monotone fun i => (env.nowMillis i).toInt)

include hclock

omit [DoubleArith D] in
/-- A later reading with the whole backoff is not before the earlier one. -/
theorem held_of_fits {i₀ i : Nat} {task : ComputeTask D} (hle : i₀ ≤ i) (hfits : env.fitsBackoff i task = true) :
    (env.nowMillis i₀).toInt + task.retry.retryBackoffMs.toNat ≤
      (env.nowMillis i + task.retry.retryBackoffMs.toInt64).toInt := by
  have hsum : (env.nowMillis i).toInt + task.retry.retryBackoffMs.toNat < 2 ^ 63 := of_decide_eq_true hfits
  rw [toInt_retryTime hsum]
  exact Int.add_le_add_right (hclock hle) _

omit [DoubleArith D] in
/-- **An entry is only replaced by a later one.** -/
theorem Reschedules.waits {i₀ : Nat} {t : ComputeTaskId} {task : ComputeTask D} {s x : Coordinator D}
    (h : Reschedules env (FitsBackoff env) s x) (hs : s.Waits env i₀ t task) : x.Waits env i₀ t task where
  reads := hs.reads.trans h.clock
  known := h.timersKnown hs.known
  held htask hpending r hr := by
    rcases h.row t with ⟨hentry, hstate⟩ | ⟨i, tk, hlo, -, htk, hfits, hentry⟩
    · rw [hentry] at hr
      -- the record is the one that was there: a task without a record has no entry
      obtain ⟨old, hold⟩ := Option.isSome_iff_exists.mp (hs.known t (by rw [hr]; rfl))
      obtain rfl := Option.some.inj ((h.tasks t old hold).symm.trans htask)
      exact hs.held hold (hstate hpending) r hr
    · obtain rfl := Option.some.inj (htk.symm.trans htask)
      obtain rfl := Option.some.inj (hentry.symm.trans hr)
      exact held_of_fits hclock (hs.reads.trans hlo) (hfits hpending)

/-- What a restart computes. -/
theorem restart_waits {s s' : Coordinator D} (hsound : s.Sound) (hfits : s.backoffFits env .restart = true)
    (h : step env s .restart = some s') {i₀ : Nat} (hreads : i₀ ≤ s.clockReads) (t : ComputeTaskId)
    (task : ComputeTask D) : s'.Waits env i₀ t task := by
  obtain ⟨x, hread, hempty, hretries⟩ := start_retries (start_of_restart h) hsound.fileOk
  have hx : x.Waits env i₀ t task := by
    refine ⟨hreads.trans hread.ge, ?_, ?_⟩
    · intro u hu
      simp [hempty] at hu
    · intro _ _ r hr
      simp [hempty] at hr
  refine Reschedules.waits hclock (hretries.reschedules.mono ?_) hx
  rintro u tk i - ⟨k, hk, rfl⟩
  rw [hread]
  exact List.all_eq_true.mp hfits ((u, tk), k) (List.mk_mem_zipIdx_iff_getElem?.mpr hk)

theorem step_waits {s s' : Coordinator D} {e : Event D} {i₀ : Nat} {t : ComputeTaskId} {task : ComputeTask D}
    (hsound : s.Sound) (hs : s.Waits env i₀ t task) (hfits : s.backoffFits env e = true)
    (h : step env s e = some s') : s'.Waits env i₀ t task := by
  cases hlocal : e.isLocal with
  | true => exact Reschedules.waits hclock (step_reschedules hsound hlocal hfits h) hs
  | false =>
      cases e with
      | restart => exact restart_waits hclock hsound hfits h hs.reads t task
      | _ => cases hlocal

omit [DoubleArith D] in
/-- A task that is sent into a retry waits for its backoff from there on. -/
theorem waits_of_entered {s x : Coordinator D} (h : Reschedules env (FitsBackoff env) s x) (hknown : s.TimersKnown)
    {t : ComputeTaskId} (hbefore : s.graph.states[t]? ≠ some .retryPending)
    (hafter : x.graph.states[t]? = some .retryPending) (task : ComputeTask D) : x.Waits env s.clockReads t task := by
  refine ⟨h.clock, h.timersKnown hknown, fun htask _ r hr => ?_⟩
  obtain ⟨i, tk, hlo, htk, hfits, hentry⟩ := h.of_entered hbefore hafter
  obtain rfl := Option.some.inj (htk.symm.trans htask)
  obtain rfl := Option.some.inj (hentry.symm.trans hr)
  exact held_of_fits hclock hlo hfits

end Runs

/-! ## The statement -/

section Statement

variable [DoubleArith D]

/-- The event moves the task into `RetryPending`: as a message or a restart does, or in the loss phase of a sweep.
    -/
def Coordinator.EntersRetry (env : Env) (s : Coordinator D) (t : ComputeTaskId) : Event D → Prop
  | .sweep =>
      s.graph.states[t]? ≠ some .retryPending ∧
        (s.tick.lossPhase env (s.now env)).graph.states[t]? = some .retryPending
  | .restart =>
      (s.file.getD {}).restoredState t ≠ .retryPending ∧
        ((step env s .restart).map fun s' => s'.graph.states[t]?) = some (some .retryPending)
  | e =>
      s.graph.states[t]? ≠ some .retryPending ∧
        ((step env s e).map fun s' => s'.graph.states[t]?) = some (some .retryPending)

/-- A sweep in this state moves the task from `RetryPending` to `Ready`. -/
def Coordinator.Requeues (env : Env) (s : Coordinator D) (t : ComputeTaskId) : Prop :=
  (s.beforeRequeue env).graph.states[t]? = some .retryPending ∧
    ((s.beforeRequeue env).requeuePhase env (s.now env)).graph.states[t]? = some .ready

omit [DoubleArith D] in
/-- The retry loop takes back only what is due. -/
theorem due_of_requeuePhase (env : Env) {time : Int64} {x : Coordinator D} {t : ComputeTaskId}
    (hpending : x.graph.states[t]? = some .retryPending)
    (hready : (x.requeuePhase env time).graph.states[t]? = some .ready) :
    ∃ r, x.retryReadyAtMs[t]? = some r ∧ r ≤ time := by
  by_contra hnone
  have hkept : (x.requeuePhase env time).graph.states[t]? = some .retryPending := by
    refine List.foldlRecOn (motive := fun y : Coordinator D => y.graph.states[t]? = some .retryPending) _ _ hpending ?_
    intro y hy entry hentry
    have hget := Std.ExtTreeMap.mem_toList_iff_getElem?_eq_some.mp hentry
    rcases requeueTask_pending env time (s := y) hy entry with hmoved | ⟨hstays, -⟩
    · -- only its own round moves the task
      unfold requeueTask at hmoved ⊢
      split_ifs at hmoved ⊢ with hround
      · exfalso
        rw [persist_toLedger] at hmoved
        have hview : ((y.toLedger.requeueTask entry.1 time).view t).state = some .ready := hmoved
        rw [Ledger.view_requeueTask] at hview
        split_ifs at hview with he
        · exact hnone ⟨entry.2, he ▸ hget, hround.2⟩
        · cases hview.symm.trans hy
      · exact hy
    · exact hstays
  cases hkept.symm.trans hready

omit [DoubleArith D] in
/-- A sweep that takes a waiting task back comes late enough. -/
theorem now_of_requeues {env : Env} {s : Coordinator D} {t : ComputeTaskId} {task : ComputeTask D} {i₀ : Nat}
    (hwaits : (s.beforeRequeue env).Waits env i₀ t task) (htask : (s.beforeRequeue env).graph.tasks[t]? = some task)
    (h : s.Requeues env t) :
    (env.nowMillis i₀).toInt + task.retry.retryBackoffMs.toNat ≤ (s.now env).toInt := by
  obtain ⟨r, hr, hdue⟩ := due_of_requeuePhase env h.1 h.2
  exact (hwaits.held htask h.1 r hr).trans (Int64.le_iff_toInt_le.mp hdue)

theorem run_timersKnown {env : Env} {events : List (Event D)} {s : Coordinator D}
    (hmeets : RunMeets env (fun s e => s.backoffFits env e = true) events) (hrun : run env events = some s) :
    s.TimersKnown := by
  have hstart : ∀ {w : World D} {x : Coordinator D}, start env w = .ok x → FileOk (w.file.getD {}) →
      x.TimersKnown := by
    intro w x hx hfile
    obtain ⟨y, -, hempty, hretries⟩ := start_retries hx hfile
    refine hretries.reschedules.timersKnown fun t ht => ?_
    simp [hempty] at ht
  refine (run_invariant (I := Coordinator.TimersKnown) ?_ ?_ hmeets hrun).2
  · exact fun x hx => hstart (start_of_boot hx) .empty
  · intro x e x' hsound hx hfits hstep
    cases hlocal : e.isLocal with
    | true => exact (step_reschedules hsound hlocal hfits hstep).timersKnown hx
    | false =>
        cases e with
        | restart => exact hstart (start_of_restart hstep) hsound.fileOk
        | _ => cases hlocal

/-- **Retry backoff is honoured.** In a run whose events compute no retry time that cannot be represented, under a
    clock that never goes back: when the event `e`, processed from the state `s` on, moves a task into
    `RetryPending` and the sweep at the end of the run takes it back to `Ready`, the sweep comes no earlier than
    the time of `e` and the backoff of the task. `e` may be that sweep itself. -/
theorem backoff_honoured {env : Env} (hclock : Monotone fun i => (env.nowMillis i).toInt)
    {events before later : List (Event D)} {e : Event D} {s s₁ : Coordinator D}
    (hmeets : RunMeets env (fun s e => s.backoffFits env e = true) (events ++ [.sweep]))
    (hrun : run env events = some s₁) (hsplit : events ++ [.sweep] = before ++ e :: later)
    (hs : run env before = some s) {t : ComputeTaskId} (henters : s.EntersRetry env t e) {task : ComputeTask D}
    (htask : s₁.graph.find t = some task) (hrequeues : s₁.Requeues env t) :
    (s.now env).toInt + task.retry.retryBackoffMs.toNat ≤ (s₁.now env).toInt := by
  obtain ⟨hmeets₁, hlast, -⟩ := (RunMeets.append hrun).mp hmeets
  have hfinal := (lossPhase_fits hlast).trans (beforeRequeue_reschedules s₁)
  have htask₁ : (s₁.beforeRequeue env).graph.tasks[t]? = some task := hfinal.tasks t task htask
  rw [hsplit] at hmeets
  obtain ⟨hmeets₀, hfits, hrest⟩ := (RunMeets.append hs).mp hmeets
  have hsound := run_sound hs
  have hknown := run_timersKnown hmeets₀ hs
  -- a sweep that loses the node of a task lets it wait from its loss phase on
  have hlost : e = .sweep → (s.tick.lossPhase env (s.now env)).Waits env s.clockReads t task := by
    rintro rfl
    exact waits_of_entered hclock (lossPhase_fits hfits) hknown henters.1 henters.2 task
  rcases List.eq_nil_or_concat later with rfl | ⟨mid, last, rfl⟩
  · obtain ⟨rfl, he⟩ := List.append_inj' hsplit rfl
    obtain rfl := Option.some.inj (hrun.symm.trans hs)
    have hwaits := Reschedules.waits hclock (beforeRequeue_reschedules s₁) (hlost (List.cons.inj he).1.symm)
    exact now_of_requeues hwaits htask₁ hrequeues
  · have hevents : events = before ++ e :: mid := by
      have hcat : before ++ e :: (mid ++ [last]) = (before ++ e :: mid) ++ [last] := by simp
      rw [List.concat_eq_append, hcat] at hsplit
      exact (List.append_inj' hsplit rfl).1
    rw [hevents, run_append] at hrun
    obtain ⟨s', hs', hmid⟩ := hrun
    obtain rfl := Option.some.inj (hs.symm.trans hs')
    obtain ⟨s₂, hstep, hmid⟩ := Lts.run_cons.mp hmid
    have hwaits : s₂.Waits env s.clockReads t task := by
      cases e with
      | sweep =>
          rw [← Option.some.inj hstep]
          exact Reschedules.waits hclock (afterRequeue_reschedules s)
            (Reschedules.waits hclock (beforeRequeue_reschedules s) (hlost rfl))
      | restart => exact restart_waits hclock hsound hfits hstep le_rfl t task
      | _ =>
          have hafter := henters.2
          rw [hstep] at hafter
          exact waits_of_entered hclock (step_reschedules hsound rfl hfits hstep) hknown henters.1
            (Option.some.inj hafter) task
    simp only [hstep, List.concat_eq_append] at hrest
    have halong := ((Lts.along_append hmid).mp hrest).1
    have hwaits₁ := (Lts.run_invariant (I := fun x => x.Sound ∧ x.Waits env s.clockReads t task)
      (fun x e x' hx hc he => ⟨step_sound hx.1 he, step_waits hclock hx.1 hx.2 hc he⟩)
      ⟨step_sound hsound hstep, hwaits⟩ halong hmid).2
    exact now_of_requeues (Reschedules.waits hclock hfinal hwaits₁) htask₁ hrequeues

end Statement

/-- The events before an attempt fails, with the task as it is submitted. -/
def Demo.untilFailure (submit : Event ℚ) : List (Event ℚ) := [Demo.register 1, submit, .sweep, Demo.started 2]

/-- A failure at time 0 and a sweep ten seconds later, with the default backoff of 100 ms. -/
theorem backoff_honoured_failure :
    ∃ s s₁, run (Demo.env 100000 8) (Demo.untilFailure (Demo.submit 3)) = some s ∧
      run (Demo.env 100000 8) (Demo.untilFailure (Demo.submit 3) ++ [Demo.failed 2]) = some s₁ ∧
      s.EntersRetry (Demo.env 100000 8) Demo.taskId (Demo.failed 2) ∧
      s₁.Requeues (Demo.env 100000 8) Demo.taskId ∧
      (s.now (Demo.env 100000 8)).toInt + (Demo.task 3).retry.retryBackoffMs.toNat ≤
        (s₁.now (Demo.env 100000 8)).toInt := by
  have hmeets : RunMeets (Demo.env 100000 8) (fun s e => s.backoffFits (Demo.env 100000 8) e = true)
      ((Demo.untilFailure (Demo.submit 3) ++ [Demo.failed 2]) ++ [.sweep]) := by
    decide +kernel
  have hbefore : ((run (Demo.env 100000 8) (Demo.untilFailure (Demo.submit 3))).map fun s =>
      (s.graph.states[Demo.taskId]?, (step (Demo.env 100000 8) s (Demo.failed 2)).map fun s' =>
        s'.graph.states[Demo.taskId]?)) = some (some .running, some (some .retryPending)) := by
    decide +kernel
  have hafter : ((run (Demo.env 100000 8) (Demo.untilFailure (Demo.submit 3) ++ [Demo.failed 2])).map fun s₁ =>
      ((s₁.beforeRequeue (Demo.env 100000 8)).graph.states[Demo.taskId]?,
        ((s₁.beforeRequeue (Demo.env 100000 8)).requeuePhase (Demo.env 100000 8)
          (s₁.now (Demo.env 100000 8))).graph.states[Demo.taskId]?,
        (s₁.graph.find Demo.taskId).map fun task => task.retry.retryBackoffMs)) =
      some (some .retryPending, some .ready, some 100) := by
    decide +kernel
  obtain ⟨s, hs, hs'⟩ := Option.map_eq_some_iff.mp hbefore
  obtain ⟨s₁, hs₁, hs₁'⟩ := Option.map_eq_some_iff.mp hafter
  obtain ⟨hrunning, hfailed⟩ := Prod.mk.inj hs'
  obtain ⟨hpending, hrest⟩ := Prod.mk.inj hs₁'
  obtain ⟨hready, hrecord⟩ := Prod.mk.inj hrest
  obtain ⟨task, htask, hbackoff⟩ := Option.map_eq_some_iff.mp hrecord
  have henters : s.EntersRetry (Demo.env 100000 8) Demo.taskId (Demo.failed 2) := by
    refine ⟨?_, hfailed⟩
    rw [hrunning]
    decide
  have hrequeues : s₁.Requeues (Demo.env 100000 8) Demo.taskId := ⟨hpending, hready⟩
  have hbound := backoff_honoured (Demo.monotone_clock 100000 8) hmeets hs₁ (by rfl) hs henters htask hrequeues
  rw [hbackoff] at hbound
  exact ⟨s, s₁, hs, hs₁, henters, hrequeues, hbound⟩

/-- The same task with the longest backoff a client can ask for. -/
def Demo.submitPatient : Event ℚ :=
  .command (.taskSubmit ⟨0, 9⟩ 2 0 { task := { Demo.task 3 with
    retry := { maxAttempts := 3, retryBackoffMs := 0xffffffffffffffff } } })

/-- **A retry time that does not fit lies in the past.** The attempt fails at time 0 with a backoff of 2^64 - 1
    ms; the entry is -1, and the sweep at time 0 makes the task ready. -/
theorem backoff_wraps :
    ((run (Demo.env 100000 100) (Demo.untilFailure Demo.submitPatient ++ [Demo.failed 2])).map fun s =>
      (s.now (Demo.env 100000 100), s.graph.state Demo.taskId, s.retryReadyAtMs[Demo.taskId]?)) =
      some (0, .retryPending, some (-1)) ∧
    ((run (Demo.env 100000 100) (Demo.untilFailure Demo.submitPatient ++ [Demo.failed 2])).map fun s =>
      ((s.beforeRequeue (Demo.env 100000 100)).graph.states[Demo.taskId]?,
        ((s.beforeRequeue (Demo.env 100000 100)).requeuePhase (Demo.env 100000 100)
          (s.now (Demo.env 100000 100))).graph.states[Demo.taskId]?)) = some (some .retryPending, some .ready) := by
  constructor <;> decide +kernel

end ComputeFabric
