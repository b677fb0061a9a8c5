import ComputeFabric.Coordinator.SweepSteps

/-!
# `Coordinator.SweepStates` — what a sweep does to one task

The phases of a sweep, each as a function of the state of one task before it:

- **node loss** — an affected task is lost, and retried or failed; a second loss of the same task changes
  nothing more (`lossState_idem`), so the number of its live attempts on lost nodes does not matter;
- **dispatch timeouts** and **retry backoffs** — `Dispatching` and `RetryPending` may become `Ready`;
- **deadlines** — a task past its deadline does not stay `Ready`, `Blocked` or `RetryPending`;
- **scheduling** — a ready task is dispatched, expires, or stays.
-/

namespace ComputeFabric

open Coordinator

variable {D : Type}

/-! ## Node loss -/

/-- What the loss of its node makes of the state of a task. -/
def lossState (task : ComputeTask D) (st : TaskState) : TaskState :=
  (st.next .lost).next (if retriesNodeLoss task then .retryPending else .failed)

theorem lossState_idem (task : ComputeTask D) (st : TaskState) :
    lossState task (lossState task st) = lossState task st := by
  unfold lossState
  split_ifs <;> cases st <;> rfl

/-- The row of a task whose node is lost. -/
def TaskView.lost (task : ComputeTask D) (v : TaskView D) : TaskView D :=
  { v with state := v.state.map (lossState task), resv := none }

theorem TaskView.lost_lost (task : ComputeTask D) (v : TaskView D) : (v.lost task).lost task = v.lost task := by
  refine TaskView.ext ?_ rfl rfl rfl rfl
  show (v.state.map (lossState task)).map (lossState task) = v.state.map (lossState task)
  rw [Option.map_map]
  exact congrArg (fun f => v.state.map f) (funext fun st => lossState_idem task st)

/-- The row of `t` after the loss of a node with a live attempt of it. A task the graph does not know is left
    alone. -/
def Ledger.lostView (l : Ledger D) (t : ComputeTaskId) : TaskView D :=
  match l.graph.find t with
  | none => l.view t
  | some task => (l.view t).lost task

theorem loseTask_tasks (env : Env) (s : Coordinator D) (u : ComputeTaskId) :
    (loseTask env s u).graph.tasks = s.graph.tasks := by
  unfold loseTask
  split
  · rfl
  · split_ifs <;> exact Ledger.loseTask_tasks _ _ _

theorem loseTask_view (env : Env) (s : Coordinator D) (u t : ComputeTaskId) :
    (loseTask env s u).view t = if u = t then s.lostView t else s.view t := by
  unfold loseTask
  split
  · next hfind =>
      split_ifs with hu
      · subst hu
        rw [Ledger.lostView, hfind]
      · rfl
  · next task hfind =>
      have hrow : ∀ r : Option Int64, r.isSome = retriesNodeLoss task →
          (s.toLedger.loseTask u r).view t = if u = t then s.lostView t else s.view t := by
        intro r hr
        rw [Ledger.view_loseTask]
        split_ifs with hu
        · subst hu
          rw [Ledger.lostView, hfind]
          refine TaskView.ext ?_ rfl rfl rfl rfl
          show ((s.view u).state.map _).map _ = (s.view u).state.map (lossState task)
          rw [Option.map_map, Ledger.afterFailure, hr]
          rfl
        · rfl
      by_cases hretry : retriesNodeLoss task = true
      · rw [if_pos hretry]
        exact hrow (some (s.retryTime env task)) hretry.symm
      · rw [if_neg hretry]
        exact hrow none (by simpa using hretry)

/-- The loop of `handle_node_loss`: the listed tasks are lost, however often they are listed. -/
theorem foldl_loseTask_view (env : Env) (ts : List ComputeTaskId) (s : Coordinator D) (t : ComputeTaskId) :
    (ts.foldl (loseTask env) s).view t = if t ∈ ts then s.lostView t else s.view t := by
  induction ts generalizing s with
  | nil => rfl
  | cons u ts ih =>
      have hfind : (loseTask env s u).graph.find t = s.graph.find t :=
        congrArg (fun m : IdMap (ComputeTask D) => m[t]?) (loseTask_tasks env s u)
      rw [List.foldl_cons, ih]
      by_cases hu : u = t
      · subst hu
        have hlost : (loseTask env s u).lostView u = s.lostView u := by
          rw [Ledger.lostView, hfind, loseTask_view, if_pos rfl, Ledger.lostView]
          cases s.graph.find u with
          | none => rfl
          | some task => exact TaskView.lost_lost task _
        rw [hlost, loseTask_view, if_pos rfl, if_pos List.mem_cons_self, ite_self]
      · have hlost : (loseTask env s u).lostView t = s.lostView t := by
          rw [Ledger.lostView, hfind, loseTask_view, if_neg hu, Ledger.lostView]
        have hmem : t ∈ u :: ts ↔ t ∈ ts := by
          rw [List.mem_cons]
          exact or_iff_right fun h => hu h.symm
        rw [hlost, loseTask_view, if_neg hu]
        simp only [hmem]

/-- **The loss of a node** is the loss of every task with a live attempt there. -/
theorem handleNodeLoss_view (env : Env) (s : Coordinator D) (n : NodeId) (t : ComputeTaskId) :
    (handleNodeLoss env s n).view t =
      if s.isOnline n = true ∧ t ∈ s.affectedBy n then s.lostView t else s.view t := by
  rcases handleNodeLoss_cases env s n with ⟨hoff, heq⟩ | ⟨hon, node, x, -, -, hledger, heq⟩
  · simp [heq, hoff]
  · rw [heq, persist_toLedger, foldl_loseTask_view, hledger]
    simp only [hon, true_and]
    rfl

/-- What a node loss keeps; and it takes the node offline, and no other. -/
theorem handleNodeLoss_frame (env : Env) (s : Coordinator D) (n : NodeId) :
    (handleNodeLoss env s n).graph.tasks = s.graph.tasks ∧ (handleNodeLoss env s n).attempts = s.attempts ∧
      ∀ m, (handleNodeLoss env s n).isOnline m = true ↔ s.isOnline m = true ∧ n ≠ m := by
  rcases handleNodeLoss_cases env s n with ⟨hoff, heq⟩ | ⟨-, node, x, hnode, -, hledger, heq⟩
  · rw [heq]
    refine ⟨rfl, rfl, fun m => ⟨fun hm => ⟨hm, ?_⟩, And.left⟩⟩
    rintro rfl
    cases hoff.symm.trans hm
  · obtain ⟨tasks, hl, -⟩ := foldl_loseTask env (s.affectedBy n) x
    rw [heq, persist_toLedger, hl, hledger]
    refine Ledger.foldl_loseTask_induction (P := fun l => l.graph.tasks = s.graph.tasks ∧
      l.attempts = s.attempts ∧ ∀ m, l.isOnline m = true ↔ s.isOnline m = true ∧ n ≠ m) _ _ ⟨rfl, rfl, ?_⟩ ?_
    · intro m
      by_cases hmn : n = m
      · subst hmn
        simp [Ledger.isOnline, Ledger.dropNode, Ledger.updateNode, hnode]
      · simp [Ledger.isOnline, Ledger.dropNode, Ledger.updateNode, Std.ExtTreeMap.getElem?_modify, hmn]
    · rintro l u r ⟨htasks, hattempts, honline⟩
      refine ⟨(Ledger.loseTask_tasks l u r).trans htasks, (Ledger.loseTask_attempts l u r).trans hattempts, ?_⟩
      intro m
      rw [← honline m, Ledger.isOnline, Ledger.loseTask_nodes, Ledger.isOnline]

/-- The task has a live attempt on a node that a sweep at `time` loses. -/
def Coordinator.losesTask (env : Env) (time : Int64) (s : Coordinator D) (t : ComputeTaskId) : Bool :=
  (s.lostNodes env time).any fun n => s.isOnline n && (s.affectedBy n).contains t

/-- The loop of the heartbeat timeouts. A node is online in its round exactly if it was before the loop and
    has had no round yet; in either case its tasks are lost when the round is over. -/
theorem foldl_handleNodeLoss_view (env : Env) (ns : List NodeId) (s : Coordinator D) (t : ComputeTaskId) :
    (ns.foldl (handleNodeLoss env) s).view t =
      if ∃ n ∈ ns, s.isOnline n = true ∧ t ∈ s.affectedBy n then s.lostView t else s.view t := by
  induction ns generalizing s with
  | nil => simp
  | cons n ns ih =>
      obtain ⟨htasks, hattempts, honline⟩ := handleNodeLoss_frame env s n
      have hlostView : (handleNodeLoss env s n).lostView t = s.lostView t := by
        have hfind : (handleNodeLoss env s n).graph.find t = s.graph.find t :=
          congrArg (fun m : IdMap (ComputeTask D) => m[t]?) htasks
        rw [Ledger.lostView, hfind, handleNodeLoss_view, Ledger.lostView]
        cases s.graph.find t with
        | none => split_ifs <;> rfl
        | some task =>
            split_ifs
            · exact TaskView.lost_lost task _
            · rfl
      rw [List.foldl_cons, ih, hlostView, handleNodeLoss_view]
      simp only [honline, Ledger.affectedBy_congr hattempts, List.exists_mem_cons_iff]
      by_cases hn : s.isOnline n = true ∧ t ∈ s.affectedBy n
      · simp [hn]
      · have hrest : (∃ m ∈ ns, (s.isOnline m = true ∧ n ≠ m) ∧ t ∈ s.affectedBy m) ↔
            ∃ m ∈ ns, s.isOnline m = true ∧ t ∈ s.affectedBy m := by
          refine exists_congr fun m => and_congr_right fun _ => ?_
          constructor
          · rintro ⟨⟨hm, -⟩, ht⟩
            exact ⟨hm, ht⟩
          · rintro ⟨hm, ht⟩
            refine ⟨⟨hm, ?_⟩, ht⟩
            rintro rfl
            exact hn ⟨hm, ht⟩
        rw [if_neg hn]
        simp only [hrest, hn, false_or]

/-- The phase of the heartbeat timeouts. -/
theorem lossPhase_view (env : Env) (time : Int64) (s : Coordinator D) (t : ComputeTaskId) :
    (s.lossPhase env time).view t = if s.losesTask env time t = true then s.lostView t else s.view t := by
  unfold lossPhase losesTask
  rw [foldl_handleNodeLoss_view]
  simp only [List.any_eq_true, Bool.and_eq_true, List.contains_iff_mem]

/-! ## Timers -/

/-- The deadline loop of a sweep at `time` would look at the task. -/
def ComputeTask.isOverdue (time : Int64) (task : ComputeTask D) : Bool :=
  task.hasDeadline && task.deadlineEpochMs ≤ time

/-- The states the deadline loop looks at. -/
def TaskState.isQueued : TaskState → Bool
  | ready | blocked | retryPending => true
  | _ => false

theorem timeoutPhase_state (env : Env) (time : Int64) (s : Coordinator D) (t : ComputeTaskId) :
    ((s.timeoutPhase env time).view t).state = (s.view t).state ∨
      t ∈ s.staleDispatches time ∧ ((s.timeoutPhase env time).view t).state = some .ready := by
  refine List.foldlRecOn (motive := fun x : Coordinator D => (x.view t).state = (s.view t).state ∨
    t ∈ s.staleDispatches time ∧ (x.view t).state = some .ready) _ _ (.inl rfl) ?_
  intro x hx u hu
  unfold timeoutDispatch
  rw [persist_toLedger]
  have hrow := x.toLedger.view_timeoutDispatch u t time
  have hstate : ((x.onLedger fun l => l.timeoutDispatch u time).view t).state =
      if u = t then (x.view t).state.map fun cur => cur.next .ready else (x.view t).state := by
    show ((x.toLedger.timeoutDispatch u time).view t).state = _
    rw [hrow]
    split_ifs <;> rfl
  rw [hstate]
  split_ifs with hut
  · subst hut
    refine .inr ⟨hu, ?_⟩
    rcases hx with hsame | ⟨-, hready⟩
    · obtain ⟨sent, -, hst, -⟩ := mem_staleDispatches.mp hu
      rw [hsame]
      show (s.graph.states[u]?).map _ = _
      rw [hst]
      rfl
    · rw [hready]
      rfl
  · exact hx

theorem timeoutPhase_tasks (env : Env) (time : Int64) (s : Coordinator D) :
    (s.timeoutPhase env time).graph.tasks = s.graph.tasks := by
  refine List.foldlRecOn (motive := fun x : Coordinator D => x.graph.tasks = s.graph.tasks) _ _ rfl ?_
  intro x hx u _
  rw [← hx, timeoutDispatch, persist_toLedger]
  show ((x.toLedger.releaseTaskReservation u).graph.trySetState u .ready).tasks = _
  rw [TaskGraph.trySetState_tasks, Ledger.releaseTaskReservation_graph]

theorem requeueTask_state (env : Env) (time : Int64) (s : Coordinator D) (entry : ComputeTaskId × Int64)
    (t : ComputeTaskId) : ((requeueTask env time s entry).view t).state = (s.view t).state ∨
      (s.view t).state = some .retryPending ∧ ((requeueTask env time s entry).view t).state = some .ready := by
  unfold requeueTask
  split_ifs with hdue
  · rw [persist_toLedger]
    show ((s.toLedger.requeueTask entry.1 time).view t).state = _ ∨
      _ ∧ ((s.toLedger.requeueTask entry.1 time).view t).state = _
    rw [Ledger.view_requeueTask]
    split_ifs with he
    · have hpending : (s.view t).state = some .retryPending := by
        rw [← he]
        exact (Ledger.state_eq_iff (by decide)).mp hdue.1
      refine .inr ⟨hpending, ?_⟩
      rw [TaskView.move_state, hpending]
      rfl
    · exact .inl rfl
  · exact .inl rfl

theorem requeuePhase_state (env : Env) (time : Int64) (s : Coordinator D) (t : ComputeTaskId) :
    ((s.requeuePhase env time).view t).state = (s.view t).state ∨
      (s.view t).state = some .retryPending ∧ ((s.requeuePhase env time).view t).state = some .ready := by
  refine List.foldlRecOn (motive := fun x : Coordinator D => (x.view t).state = (s.view t).state ∨
    (s.view t).state = some .retryPending ∧ (x.view t).state = some .ready) _ _ (.inl rfl) ?_
  intro x hx entry _
  rcases requeueTask_state env time x entry t with hsame | ⟨hpending, hready⟩
  · rwa [hsame]
  · rcases hx with hold | ⟨-, hready'⟩
    · exact .inr ⟨hold ▸ hpending, hready⟩
    · rw [hready'] at hpending
      cases hpending

theorem requeuePhase_tasks (env : Env) (time : Int64) (s : Coordinator D) :
    (s.requeuePhase env time).graph.tasks = s.graph.tasks := by
  refine List.foldlRecOn (motive := fun x : Coordinator D => x.graph.tasks = s.graph.tasks) _ _ rfl ?_
  intro x hx entry _
  rw [← hx]
  unfold requeueTask
  split_ifs
  · rw [persist_toLedger]
    exact TaskGraph.trySetState_tasks _ _ _
  · rfl

theorem expireTask_tasks (env : Env) (time : Int64) (s : Coordinator D) (u : ComputeTaskId) :
    (expireTask env time s u).graph.tasks = s.graph.tasks := by
  unfold expireTask
  split
  · rfl
  · dsimp only
    split_ifs
    · rw [persist_toLedger]
      show ((s.toLedger.releaseTaskReservation u).graph.trySetState u .expired).tasks = _
      rw [TaskGraph.trySetState_tasks, Ledger.releaseTaskReservation_graph]
    · rfl
    · rfl

theorem expireTask_state (env : Env) (time : Int64) (s : Coordinator D) (u t : ComputeTaskId) :
    ((expireTask env time s u).view t).state = (s.view t).state ∨
      ∃ task st, s.graph.find t = some task ∧ task.isOverdue time = true ∧ (s.view t).state = some st ∧
        st.isQueued = true ∧ ((expireTask env time s u).view t).state = some .expired := by
  unfold expireTask
  split
  · exact .inl rfl
  · next task hfind =>
      dsimp only
      split_ifs with hdeadline hround
      · rw [persist_toLedger]
        have hrow := s.toLedger.view_expireTask u t
        by_cases hu : u = t
        · subst hu
          right
          obtain ⟨st, hst, hqueued⟩ : ∃ st, (s.view u).state = some st ∧ st.isQueued = true := by
            rcases hround.1 with h | h | h <;>
              exact ⟨_, (Ledger.state_eq_iff (by decide)).mp h, rfl⟩
          refine ⟨task, st, hfind, by simpa [ComputeTask.isOverdue, hdeadline] using hround.2, hst, hqueued, ?_⟩
          show ((s.toLedger.expireTask u).view u).state = _
          rw [hrow, if_pos rfl, TaskView.move_state, TaskView.release_state, hst]
          cases st <;> first | rfl | cases hqueued
        · left
          show ((s.toLedger.expireTask u).view t).state = _
          rw [hrow, if_neg hu]
      · exact .inl rfl
      · exact .inl rfl

/-- A round of the deadline loop does not leave its own overdue task queued. -/
theorem expireTask_clears (env : Env) (time : Int64) {s : Coordinator D} {t : ComputeTaskId}
    {task : ComputeTask D} (hfind : s.graph.find t = some task) (hdue : task.isOverdue time = true)
    {st : TaskState} (hst : ((expireTask env time s t).view t).state = some st) : st.isQueued = false := by
  rcases expireTask_state env time s t t with hsame | ⟨-, -, -, -, -, -, hexpired⟩
  · by_contra hqueued
    rw [Bool.not_eq_false] at hqueued
    rw [hsame] at hst
    obtain ⟨hdeadline, hpast⟩ := Bool.and_eq_true_iff.mp hdue
    have hround : (s.graph.state t = .ready ∨ s.graph.state t = .blocked ∨ s.graph.state t = .retryPending) ∧
        time ≥ task.deadlineEpochMs := by
      refine ⟨?_, of_decide_eq_true hpast⟩
      rw [Ledger.state_of_view hst]
      cases st <;> first | exact .inl rfl | exact .inr (.inl rfl) | exact .inr (.inr rfl) | cases hqueued
    -- so the round did expire the task, and its state is not the one it had
    have hexpired : ((expireTask env time s t).view t).state = some .expired := by
      simp only [expireTask, hfind, hdeadline, if_true, if_pos hround, persist_toLedger]
      show ((s.toLedger.expireTask t).view t).state = _
      rw [Ledger.view_expireTask, if_pos rfl, TaskView.move_state, TaskView.release_state, hst]
      cases st <;> first | rfl | cases hqueued
    rw [hsame, hst] at hexpired
    rw [Option.some.inj hexpired] at hqueued
    cases hqueued
  · rw [hexpired] at hst
    rw [← Option.some.inj hst]
    rfl

/-- The phase of the deadlines: an overdue task does not stay queued, and nothing else changes. -/
theorem expirePhase_state (env : Env) (time : Int64) (s : Coordinator D) (t : ComputeTaskId) :
    ((s.expirePhase env time).view t).state = (s.view t).state ∨
      ∃ task st, s.graph.find t = some task ∧ task.isOverdue time = true ∧ (s.view t).state = some st ∧
        st.isQueued = true ∧ ((s.expirePhase env time).view t).state = some .expired := by
  refine And.right (a := (s.expirePhase env time).graph.tasks = s.graph.tasks) ?_
  refine List.foldlRecOn (motive := fun x : Coordinator D => x.graph.tasks = s.graph.tasks ∧
    ((x.view t).state = (s.view t).state ∨
      ∃ task st, s.graph.find t = some task ∧ task.isOverdue time = true ∧ (s.view t).state = some st ∧
        st.isQueued = true ∧ (x.view t).state = some .expired)) _ _ ⟨rfl, .inl rfl⟩ ?_
  rintro x ⟨htasks, hx⟩ u _
  refine ⟨(expireTask_tasks env time x u).trans htasks, ?_⟩
  rcases expireTask_state env time x u t with hsame | ⟨task, st, hfind, hdue, hst, hqueued, hexpired⟩
  · rwa [hsame]
  · have hfind' : s.graph.find t = some task := by
      rw [← hfind]
      exact congrArg (fun m : IdMap (ComputeTask D) => m[t]?) htasks.symm
    rcases hx with hold | ⟨-, -, -, -, -, -, hexp⟩
    · exact .inr ⟨task, st, hfind', hdue, hold ▸ hst, hqueued, hexpired⟩
    · rw [hexp] at hst
      rw [← Option.some.inj hst] at hqueued
      cases hqueued

theorem expirePhase_clears (env : Env) (time : Int64) {s : Coordinator D} {t : ComputeTaskId}
    {task : ComputeTask D} (hfind : s.graph.find t = some task) (hdue : task.isOverdue time = true)
    {st : TaskState} (hst : ((s.expirePhase env time).view t).state = some st) : st.isQueued = false := by
  have hmem : t ∈ s.graph.taskIds := by
    rw [TaskGraph.taskIds, Std.ExtTreeMap.mem_keys, ← Std.ExtTreeMap.contains_iff_mem,
      Std.ExtTreeMap.contains_eq_isSome_getElem?]
    exact Option.isSome_iff_exists.mpr ⟨task, hfind⟩
  obtain ⟨before, after, hlist⟩ := List.append_of_mem hmem
  unfold expirePhase at hst
  rw [hlist, List.foldl_append, List.foldl_cons] at hst
  have hbefore : (before.foldl (expireTask env time) s).graph.tasks = s.graph.tasks := by
    refine List.foldlRecOn (motive := fun x : Coordinator D => x.graph.tasks = s.graph.tasks) _ _ rfl ?_
    intro x hx u _
    exact (expireTask_tasks env time x u).trans hx
  have hfind' : (before.foldl (expireTask env time) s).graph.find t = some task := by
    rw [← hfind]
    exact congrArg (fun m : IdMap (ComputeTask D) => m[t]?) hbefore
  -- rounds after the task's own only ever expire it
  revert st
  refine List.foldlRecOn (motive := fun x : Coordinator D =>
    ∀ {st : TaskState}, (x.view t).state = some st → st.isQueued = false) after _
    (fun hst => expireTask_clears env time hfind' hdue hst) ?_
  intro x hx u _ st hst
  rcases expireTask_state env time x u t with hsame | ⟨-, -, -, -, -, -, hexpired⟩
  · exact hx (hsame ▸ hst)
  · rw [hexpired] at hst
    rw [← Option.some.inj hst]
    rfl

/-! ## All timers -/

/-- The states of a task that has ended without a result. -/
def TaskState.isDead : TaskState → Bool
  | failed | cancelled | expired => true
  | _ => false

/-- The timers of a sweep end the task: its node is lost and the task is not retried, or its deadline has
    passed and no node is executing it any more. -/
def Coordinator.timersEnd (env : Env) (s : Coordinator D) (t : ComputeTaskId) : Bool :=
  (s.graph.find t).any fun task =>
    let st := s.graph.state t
    let st := if s.losesTask env (s.now env) t then lossState task st else st
    st = .failed || (task.isOverdue (s.now env) &&
      (st.isQueued || st = .dispatching && (s.staleDispatches (s.now env)).contains t))

section Timers

variable [DoubleArith D] {env : Env} {s : Coordinator D} {t : ComputeTaskId}

omit [DoubleArith D] in
theorem expirePhase_tasks (env : Env) (time : Int64) (s : Coordinator D) :
    (s.expirePhase env time).graph.tasks = s.graph.tasks := by
  refine List.foldlRecOn (motive := fun x : Coordinator D => x.graph.tasks = s.graph.tasks) _ _ rfl ?_
  intro x hx u _
  exact (expireTask_tasks env time x u).trans hx

theorem timersDone_tasks (env : Env) (s : Coordinator D) :
    (s.timersDone env).graph.tasks = s.graph.tasks := by
  obtain ⟨-, hframe⟩ := lossPhase_steps env s
  unfold timersDone
  rw [expirePhase_tasks, requeuePhase_tasks, timeoutPhase_tasks, hframe.tasks]

/-- How a task comes to be in state `st` when a sweep starts to schedule: `st₁` is its state after the node
    losses, and `st₃` its state before the deadline loop. -/
theorem timersDone_state {task : ComputeTask D} {st : TaskState} (hfind : s.graph.find t = some task)
    (hst : (s.timersDone env).graph.states[t]? = some st) :
    ∃ st₀ st₁ st₃, s.graph.states[t]? = some st₀ ∧
      st₁ = (if s.losesTask env (s.now env) t then lossState task st₀ else st₀) ∧
      (st₃ = st₁ ∨ st₃ = .ready ∧ (st₁ = .retryPending ∨ st₁ = .dispatching ∧ t ∈ s.staleDispatches (s.now env))) ∧
      (st = st₃ ∧ (task.isOverdue (s.now env) = true → st.isQueued = false) ∨
        st = .expired ∧ task.isOverdue (s.now env) = true ∧ st₃.isQueued = true) := by
  obtain ⟨-, hframe⟩ := lossPhase_steps env s
  have hloss := lossPhase_view env (s.now env) s.tick t
  unfold timersDone at hst
  generalize s.tick.lossPhase env (s.now env) = s₁ at hframe hloss hst
  have htimeout := timeoutPhase_state env (s.now env) s₁ t
  have htasks₂ := timeoutPhase_tasks env (s.now env) s₁
  generalize s₁.timeoutPhase env (s.now env) = s₂ at htimeout htasks₂ hst
  have hrequeue := requeuePhase_state env (s.now env) s₂ t
  have htasks₃ := requeuePhase_tasks env (s.now env) s₂
  generalize s₂.requeuePhase env (s.now env) = s₃ at hrequeue htasks₃ hst
  have hfind₃ : s₃.graph.find t = some task := by
    rw [← hfind]
    exact congrArg (fun m : IdMap (ComputeTask D) => m[t]?) (htasks₃.trans (htasks₂.trans hframe.tasks))
  have hclear : task.isOverdue (s.now env) = true → ((s₃.expirePhase env (s.now env)).view t).state = some st →
      st.isQueued = false :=
    fun hdue => expirePhase_clears env (s.now env) hfind₃ hdue
  -- the state before the deadline loop, from the state the task is found in after it
  obtain ⟨st₃, hst₃, hend⟩ : ∃ st₃, (s₃.view t).state = some st₃ ∧
      (st = st₃ ∧ (task.isOverdue (s.now env) = true → st.isQueued = false) ∨
        st = .expired ∧ task.isOverdue (s.now env) = true ∧ st₃.isQueued = true) := by
    rcases expirePhase_state env (s.now env) s₃ t with hsame | ⟨task', st₃, hfind', hdue, hst₃, hqueued, hexp⟩
    · exact ⟨st, hsame ▸ hst, .inl ⟨rfl, fun hdue => hclear hdue hst⟩⟩
    · obtain rfl : task' = task := Option.some.inj (hfind'.symm.trans hfind₃)
      exact ⟨st₃, hst₃, .inr ⟨Option.some.inj (hst.symm.trans hexp), hdue, hqueued⟩⟩
  obtain ⟨st₂, hst₂, hready₂⟩ : ∃ st₂, (s₂.view t).state = some st₂ ∧
      (st₃ = st₂ ∨ st₂ = .retryPending ∧ st₃ = .ready) := by
    rcases hrequeue with hsame | ⟨hpending, hready⟩
    · exact ⟨st₃, hsame ▸ hst₃, .inl rfl⟩
    · exact ⟨_, hpending, .inr ⟨rfl, Option.some.inj (hst₃.symm.trans hready)⟩⟩
  obtain ⟨st₁, hst₁, hready₁⟩ : ∃ st₁, (s₁.view t).state = some st₁ ∧
      (st₂ = st₁ ∨ st₂ = .ready ∧ st₁ = .dispatching ∧ t ∈ s.staleDispatches (s.now env)) := by
    rcases htimeout with hsame | ⟨hstale, hready⟩
    · exact ⟨st₂, hsame ▸ hst₂, .inl rfl⟩
    · obtain ⟨sent, hsent, hdisp, hlate⟩ := mem_staleDispatches.mp hstale
      refine ⟨_, hdisp, .inr ⟨Option.some.inj (hst₂.symm.trans hready), rfl, ?_⟩⟩
      exact mem_staleDispatches.mpr ⟨sent, hframe.dispatchAtMs ▸ hsent, hframe.dispatching t hdisp, hlate⟩
  obtain ⟨st₀, hst₀, hlost⟩ : ∃ st₀, (s.view t).state = some st₀ ∧
      st₁ = if s.losesTask env (s.now env) t then lossState task st₀ else st₀ := by
    rw [hloss, show s.tick.losesTask env (s.now env) t = s.losesTask env (s.now env) t from rfl] at hst₁
    split_ifs at hst₁ ⊢
    · have hlostView : s.tick.lostView t = (s.view t).lost task := by
        rw [Ledger.lostView, show s.tick.graph.find t = some task from hfind]
        rfl
      rw [hlostView] at hst₁
      obtain ⟨st₀, hst₀, rfl⟩ := Option.map_eq_some_iff.mp hst₁
      exact ⟨st₀, hst₀, rfl⟩
    · exact ⟨st₁, hst₁, rfl⟩
  refine ⟨st₀, st₁, st₃, hst₀, hlost, ?_, hend⟩
  rcases hready₂ with rfl | ⟨rfl, rfl⟩
  · exact hready₁.imp_right fun h => ⟨h.1, .inr h.2⟩
  · rcases hready₁ with rfl | ⟨h, -⟩
    · exact .inr ⟨rfl, .inl rfl⟩
    · cases h

/-- Who is blocked after the timers was blocked before the sweep, and is not overdue. -/
theorem timersDone_blocked {task : ComputeTask D} (hfind : s.graph.find t = some task)
    (hst : (s.timersDone env).graph.states[t]? = some .blocked) :
    s.graph.states[t]? = some .blocked ∧ task.isOverdue (s.now env) = false := by
  obtain ⟨st₀, st₁, st₃, hst₀, hlost, hready, hend⟩ := timersDone_state hfind hst
  rcases hend with ⟨rfl, hdue⟩ | ⟨h, -⟩
  · have hst₁ : st₁ = .blocked := by
      rcases hready with h | ⟨h, -⟩
      · exact h.symm
      · cases h
    subst hst₁
    have hblocked : st₀ = .blocked := by
      unfold lossState at hlost
      split_ifs at hlost <;> cases st₀ <;> first | rfl | cases hlost
    refine ⟨hblocked ▸ hst₀, ?_⟩
    by_contra hoverdue
    rw [Bool.not_eq_false] at hoverdue
    cases hdue hoverdue
  · cases h

/-- Who is dead after the timers was dead before the sweep, or the timers ended it. -/
theorem timersDone_dead {task : ComputeTask D} (hfind : s.graph.find t = some task) {st : TaskState}
    (hst : (s.timersDone env).graph.states[t]? = some st) (hdead : st.isDead = true) :
    s.graph.states[t]? = some st ∨ s.timersEnd env t = true := by
  obtain ⟨st₀, st₁, st₃, hst₀, hlost, hready, hend⟩ := timersDone_state hfind hst
  have hends : s.timersEnd env t = (st₁ = .failed || (task.isOverdue (s.now env) &&
      (st₁.isQueued || st₁ = .dispatching && (s.staleDispatches (s.now env)).contains t))) := by
    rw [timersEnd, hfind, Option.any_some, Ledger.state_of_view hst₀, hlost]
  rw [hends]
  rcases hend with ⟨rfl, -⟩ | ⟨-, hdue, hqueued⟩
  · -- neither `Ready` nor `RetryPending` is dead, so the state is the one after the losses
    have hst₁ : st₁ = st := by
      rcases hready with h | ⟨rfl, -⟩
      · exact h.symm
      · cases hdead
    subst hst₁
    by_cases hfailed : st₁ = .failed
    · exact .inr (by simp [hfailed])
    · left
      have hsame : st₁ = st₀ := by
        unfold lossState at hlost
        split_ifs at hlost
        · cases st₀ <;> first | exact hlost | (subst hlost; cases hdead)
        · cases st₀ <;> first | exact hlost | exact absurd hlost hfailed
        · exact hlost
      exact hsame ▸ hst₀
  · right
    rcases hready with rfl | ⟨-, rfl | ⟨rfl, hstale⟩⟩
    · simp [hdue, hqueued]
    · simp [hdue, TaskState.isQueued]
    · simp [hdue, hstale]

end Timers

/-! ## Scheduling -/

/-- `schedule_ready_tasks` finds the task past its deadline. -/
def Coordinator.expiresUnplaced (env : Env) (s : Coordinator D) (t : ComputeTaskId) : Bool :=
  !s.stopping && s.graph.state t = .ready && (s.graph.find t).any fun task => task.isOverdue (s.now env)

section Scheduling

variable [DoubleArith D]

/-- **One round of the scheduling loop**, for the state of any task. -/
theorem scheduleTask_state (env : Env) (s : Coordinator D) (u t : ComputeTaskId) :
    (scheduleTask env s u).graph.tasks = s.graph.tasks ∧
      ((scheduleTask env s u).graph.states[t]? = s.graph.states[t]? ∨
        u = t ∧ s.graph.states[t]? = some .ready ∧
          ((scheduleTask env s u).graph.states[t]? = some .dispatching ∨
            s.expiresUnplaced env t = true ∧ (scheduleTask env s u).graph.states[t]? = some .expired)) := by
  have hplaced : ∀ (x : Coordinator D) (task : ComputeTask D), x.graph = s.graph →
      s.graph.states[u]? = some .ready →
      (x.placeTask env u task).graph.tasks = s.graph.tasks ∧
      ((x.placeTask env u task).graph.states[t]? = s.graph.states[t]? ∨
        u = t ∧ s.graph.states[t]? = some .ready ∧
          (x.placeTask env u task).graph.states[t]? = some .dispatching) := by
    intro x task hx hready
    rcases placeTask_spec env task (s := x) (by rw [hx]; exact hready) with
      hsame | ⟨-, -, -, -, resv, a, -, -, -, -, -, hdispatch⟩
    · rw [hsame, hx]
      exact ⟨rfl, .inl rfl⟩
    · have hview := x.toLedger.view_dispatch u t (a := a) (by rw [hx]; exact hready) resv
      have hstate : (x.placeTask env u task).graph.states[t]? =
          ((x.toLedger.dispatch u resv a).view t).state := by
        rw [hdispatch]
        rfl
      refine ⟨?_, ?_⟩
      · rw [hdispatch, ← hx]
        simp [Ledger.dispatch, Ledger.setState, Ledger.pushAttempt, Ledger.holdReservation,
          Ledger.addReservation]
      · rw [hstate, hview]
        split_ifs with hu
        · subst hu
          exact .inr ⟨rfl, hready, rfl⟩
        · left
          show x.graph.states[t]? = _
          rw [hx]
  rcases scheduleTask_cases env s u with
    heq | ⟨task, hstop, hfind, hready, ⟨hdeadline, hpast, heq⟩ | ⟨-, -, heq⟩ | ⟨-, heq⟩⟩ <;> rw [heq]
  · exact ⟨rfl, .inl rfl⟩
  · rw [persist_toLedger]
    refine ⟨TaskGraph.trySetState_tasks _ _ _, ?_⟩
    show (s.graph.trySetState u .expired).states[t]? = _ ∨ _
    rw [TaskGraph.getElem?_states_trySetState]
    by_cases hu : u = t
    · subst hu
      refine .inr ⟨rfl, hready, .inr ⟨?_, ?_⟩⟩
      · simpa [Coordinator.expiresUnplaced, Ledger.state_of_view hready, hfind, ComputeTask.isOverdue, hdeadline,
          hstop] using hpast
      · show (s.graph.trySetState u .expired).states[u]? = _
        rw [TaskGraph.getElem?_states_trySetState, if_pos rfl, hready]
        rfl
    · rw [if_neg hu]
      exact .inl rfl
  · obtain ⟨htasks, hrow⟩ := hplaced s.tick task rfl hready
    exact ⟨htasks, hrow.imp_right fun h => ⟨h.1, h.2.1, .inl h.2.2⟩⟩
  · obtain ⟨htasks, hrow⟩ := hplaced s task rfl hready
    exact ⟨htasks, hrow.imp_right fun h => ⟨h.1, h.2.1, .inl h.2.2⟩⟩

end Scheduling

end ComputeFabric
