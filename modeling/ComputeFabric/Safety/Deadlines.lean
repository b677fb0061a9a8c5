import ComputeFabric.Coordinator.Clock
import ComputeFabric.Safety.Gating

/-!
# `Safety.Deadlines` — deadlines and the wall clock

The deadline of a task is an epoch time, and a sweep compares it with `now_millis()`, the monotonic clock. Here a
second oracle gives the wall clock at each reading of the first. A task is expired, or an attempt dispatched, at
the wrong side of its deadline only if the two clocks disagree about the deadline at a reading the decision is
made by (`deadlines_follow_wall_clock`); clocks with different zero points do (`deadlines_on_monotonic_clock`).

Only a sweep dispatches or expires. It does so in its deadline loop, by the reading at its beginning, and in a
round of its scheduling loop, where the deadline is checked by one reading, the reservation stamped by the next
and the attempt by the one after.
-/

namespace ComputeFabric

open Coordinator

variable {D : Type}

/-! ## The condition -/

/-- If the task is found past its deadline by the reading `i`, it is so by the wall clock. -/
def Env.expiresRightly (env : Env) (unix : Nat → Int64) (task : ComputeTask D) (i : Nat) : Bool :=
  !decide (task.deadlineEpochMs ≤ env.nowMillis i) || decide (task.deadlineEpochMs ≤ unix i)

/-- If the wall clock will have passed the deadline when an attempt is stamped, the check by the reading `i`, two
    readings earlier, finds that it has. -/
def Env.dispatchesRightly (env : Env) (unix : Nat → Int64) (task : ComputeTask D) (i : Nat) : Bool :=
  !decide (task.deadlineEpochMs ≤ unix (i + 2)) || decide (task.deadlineEpochMs ≤ env.nowMillis i)

namespace Coordinator

variable (env : Env) (s : Coordinator D) (t : ComputeTaskId) (task : ComputeTask D)

/-- The state a sweep has the task in once it has dealt with lost nodes. -/
def stateAfterLoss : TaskState :=
  if s.losesTask env (s.now env) t then lossState task (s.graph.state t) else s.graph.state t

/-- The scheduling loop of a sweep may come to the task: it is ready, waits for a retry, or its dispatch is given
    up. -/
def mayPlace : Bool :=
  s.stateAfterLoss env t task = .ready || s.stateAfterLoss env t task = .retryPending ||
    s.stateAfterLoss env t task = .dispatching && (s.staleDispatches (s.now env)).contains t

/-- The deadline loop of a sweep may come to the task. -/
def mayExpire : Bool := s.mayPlace env t task || s.stateAfterLoss env t task = .blocked

/-- The clocks agree about the deadlines that a sweep may look at, by the readings it may look at them with. -/
def clocksAgree (unix : Nat → Int64) : Event D → Bool
  | .sweep => s.graph.tasks.toList.all fun entry =>
      !entry.2.hasDeadline ||
        (!s.mayExpire env entry.1 entry.2 || env.expiresRightly unix entry.2 s.clockReads) &&
        (!s.mayPlace env entry.1 entry.2 ||
          (List.range (s.lossReadings env + 3 * s.graph.tasks.size)).all fun k =>
            env.expiresRightly unix entry.2 (s.clockReads + 1 + k) &&
              env.dispatchesRightly unix entry.2 (s.clockReads + 1 + k))
  | _ => true

end Coordinator

section Condition

variable {env : Env} {unix : Nat → Int64} {s : Coordinator D} {t : ComputeTaskId} {task : ComputeTask D}

theorem agrees_at_start (h : s.clocksAgree env unix .sweep = true) (htask : s.graph.find t = some task)
    (hdeadline : task.hasDeadline = true) (hmay : s.mayExpire env t task = true) :
    task.deadlineEpochMs ≤ s.now env → task.deadlineEpochMs ≤ unix s.clockReads := by
  have hentry := List.all_eq_true.mp h (t, task) (Std.ExtTreeMap.mem_toList_iff_getElem?_eq_some.mpr htask)
  simp only [hdeadline, hmay, Bool.not_true, Bool.false_or, Bool.and_eq_true] at hentry
  show task.deadlineEpochMs ≤ env.nowMillis s.clockReads → _
  simpa [Env.expiresRightly, imp_iff_not_or] using hentry.1

theorem agrees_at_round (h : s.clocksAgree env unix .sweep = true) (htask : s.graph.find t = some task)
    (hdeadline : task.hasDeadline = true) (hmay : s.mayPlace env t task = true) {i : Nat}
    (hlo : s.clockReads + 1 ≤ i) (hhi : i < s.clockReads + 1 + s.lossReadings env + 3 * s.graph.tasks.size) :
    (task.deadlineEpochMs ≤ env.nowMillis i → task.deadlineEpochMs ≤ unix i) ∧
      (task.deadlineEpochMs ≤ unix (i + 2) → task.deadlineEpochMs ≤ env.nowMillis i) := by
  have hentry := List.all_eq_true.mp h (t, task) (Std.ExtTreeMap.mem_toList_iff_getElem?_eq_some.mpr htask)
  simp only [hdeadline, hmay, Bool.not_true, Bool.false_or, Bool.and_eq_true] at hentry
  obtain ⟨k, rfl⟩ := Nat.exists_eq_add_of_le hlo
  have hk := List.all_eq_true.mp hentry.2 k (List.mem_range.mpr (by omega))
  obtain ⟨hexpires, hdispatches⟩ := Bool.and_eq_true_iff.mp hk
  exact ⟨by simpa [Env.expiresRightly, imp_iff_not_or] using hexpires,
    by simpa [Env.dispatchesRightly, imp_iff_not_or] using hdispatches⟩

end Condition

/-! ## The timers of a sweep -/

section Timers

variable [DoubleArith D] {env : Env} {s : Coordinator D} {t : ComputeTaskId} {task : ComputeTask D}

omit [DoubleArith D] in
theorem stateAfterLoss_of_state (env : Env) (task : ComputeTask D) {st : TaskState}
    (hst : s.graph.states[t]? = some st) :
    s.stateAfterLoss env t task = if s.losesTask env (s.now env) t then lossState task st else st := by
  unfold stateAfterLoss
  rw [Ledger.state_of_view (l := s.toLedger) (t := t) hst]

theorem mayPlace_of_ready (hfind : s.graph.find t = some task)
    (hready : (s.timersDone env).graph.states[t]? = some .ready) : s.mayPlace env t task = true := by
  obtain ⟨st₀, st₁, st₃, hst₀, hst₁, hst₃, hlast⟩ := timersDone_state hfind hready
  have hloss := (stateAfterLoss_of_state env task hst₀).trans hst₁.symm
  rcases hlast with ⟨rfl, -⟩ | ⟨hst, -⟩
  · rcases hst₃ with rfl | ⟨-, rfl | ⟨rfl, hstale⟩⟩
    · simp [mayPlace, hloss]
    · simp [mayPlace, hloss]
    · simp [mayPlace, hloss, hstale]
  · cases hst

/-- The timers expire a task that waits and is overdue. -/
theorem overdue_of_timersDone (hfind : s.graph.find t = some task)
    (hexpired : (s.timersDone env).graph.states[t]? = some .expired) :
    s.graph.states[t]? = some .expired ∨ task.isOverdue (s.now env) = true ∧ s.mayExpire env t task = true := by
  obtain ⟨st₀, st₁, st₃, hst₀, hst₁, hst₃, hlast⟩ := timersDone_state hfind hexpired
  have hloss := (stateAfterLoss_of_state env task hst₀).trans hst₁.symm
  rcases hlast with ⟨rfl, -⟩ | ⟨-, hdue, hqueued⟩
  · left
    rcases hst₃ with rfl | ⟨hst, -⟩
    · -- a loss does not expire the task
      rw [hst₀]
      split_ifs at hst₁ with hl
      · unfold lossState at hst₁
        split_ifs at hst₁ <;> cases st₀ <;> first | rfl | cases hst₁
      · rw [hst₁]
    · cases hst
  · right
    refine ⟨hdue, ?_⟩
    rcases hst₃ with rfl | ⟨-, rfl | ⟨rfl, hstale⟩⟩
    · cases st₃ <;> first | exact absurd hqueued Bool.false_ne_true | simp [mayExpire, mayPlace, hloss]
    · simp [mayExpire, mayPlace, hloss]
    · simp [mayExpire, mayPlace, hloss, hstale]

omit [DoubleArith D] in
/-- The timers dispatch nothing. -/
theorem timersDone_dispatched (env : Env) (s : Coordinator D) (t : ComputeTaskId) :
    ((s.timersDone env).view t).dispatched = (s.view t).dispatched := by
  have hloss : ((s.tick.lossPhase env (s.now env)).view t).dispatched = (s.view t).dispatched := by
    rw [lossPhase_view]
    unfold Ledger.lostView
    split_ifs
    · split <;> rfl
    · rfl
  rw [← hloss]
  unfold timersDone
  generalize s.tick.lossPhase env (s.now env) = x
  have hkept : ∀ {X : Type} (f : Coordinator D → X → Coordinator D) (xs : List X) (y : Coordinator D),
      (∀ z a, ((f z a).view t).dispatched = (z.view t).dispatched) →
      ((xs.foldl f y).view t).dispatched = (y.view t).dispatched := by
    intro X f xs y hf
    refine List.foldlRecOn (motive := fun z : Coordinator D => (z.view t).dispatched = (y.view t).dispatched)
      xs f rfl ?_
    intro z hz a _
    exact (hf z a).trans hz
  refine (hkept _ _ _ ?_).trans ((hkept _ _ _ ?_).trans (hkept _ _ _ ?_))
  · intro z u
    unfold expireTask
    split
    · rfl
    · dsimp only
      split_ifs
      · rw [persist_toLedger]
        show ((z.toLedger.expireTask u).view t).dispatched = _
        rw [Ledger.view_expireTask]
        split_ifs <;> rfl
      · rfl
      · rfl
  · intro z entry
    unfold requeueTask
    split_ifs
    · rw [persist_toLedger]
      show ((z.toLedger.requeueTask entry.1 (s.now env)).view t).dispatched = _
      rw [Ledger.view_requeueTask]
      split_ifs <;> rfl
    · rfl
  · intro z u
    unfold timeoutDispatch
    rw [persist_toLedger]
    show ((z.toLedger.timeoutDispatch u (s.now env)).view t).dispatched = _
    rw [Ledger.view_timeoutDispatch]
    split_ifs <;> rfl

end Timers

/-! ## The scheduling loop -/

section Scheduling

variable [DoubleArith D] {env : Env}

/-- The rounds before a task's own leave it ready or not at all. -/
theorem ready_of_scheduling {s : Coordinator D} {ts : List ComputeTaskId} {t : ComputeTaskId}
    (h : (ts.foldl (scheduleTask env) s).graph.states[t]? = some .ready) : s.graph.states[t]? = some .ready := by
  revert h
  refine List.foldlRecOn (motive := fun x : Coordinator D => x.graph.states[t]? = some .ready →
    s.graph.states[t]? = some .ready) ts _ id ?_
  intro x hx u _ hready
  rcases (scheduleTask_state env x u t).2 with hsame | ⟨-, hold, -⟩
  · exact hx (hsame ▸ hready)
  · exact hx hold

theorem scheduling_tasks (env : Env) (s : Coordinator D) (ts : List ComputeTaskId) :
    (ts.foldl (scheduleTask env) (s.timersDone env)).graph.tasks = s.graph.tasks := by
  refine List.foldlRecOn (motive := fun x : Coordinator D => x.graph.tasks = s.graph.tasks) ts _
    (timersDone_tasks env s) ?_
  intro x hx u _
  exact (scheduleTask_state env x u u).1.trans hx

/-- `x'` is `x` with one more attempt of the task, stamped by the reading `i` of the clock. -/
def Coordinator.DispatchesAt (env : Env) (x x' : Coordinator D) (t : ComputeTaskId) (i : Nat) : Prop :=
  ∃ a, x'.attemptsOf t = x.attemptsOf t ++ [a] ∧ a.dispatchedAtMs = env.nowMillis i

theorem placeTask_dispatches (env : Env) {s : Coordinator D} {t : ComputeTaskId} (task : ComputeTask D)
    (hready : s.graph.states[t]? = some .ready) (u : ComputeTaskId) :
    ((s.placeTask env t task).view u).dispatched = (s.view u).dispatched ∨
      u = t ∧ s.DispatchesAt env (s.placeTask env t task) t (s.clockReads + 1) := by
  rcases placeTask_spec env task hready with hsame | ⟨n, node, executor, device, resv, a, -, -, -, -, ha, hdispatch⟩
  · left
    rw [hsame]
  · have hview := s.toLedger.view_dispatch t u hready (a := a) resv
    rw [← hdispatch] at hview
    by_cases hu : t = u
    · subst hu
      refine .inr ⟨rfl, a, ?_, by rw [ha]; rfl⟩
      have hattempts := congrArg TaskView.attempts hview
      rw [if_pos rfl] at hattempts
      exact hattempts
    · left
      rw [hview, if_neg hu]

/-- **One round of the scheduling loop.** It dispatches its own task only, after the deadline has been checked by
    the first reading of the round. -/
theorem scheduleTask_dispatches (env : Env) (s : Coordinator D) (t u : ComputeTaskId) :
    ((scheduleTask env s t).view u).dispatched = (s.view u).dispatched ∨
      u = t ∧ s.graph.states[t]? = some .ready ∧ ∃ task, s.graph.find t = some task ∧
        (task.hasDeadline = true → ¬ task.deadlineEpochMs ≤ s.now env ∧
          s.DispatchesAt env (scheduleTask env s t) t (s.clockReads + 2)) := by
  rcases scheduleTask_cases env s t with
    heq | ⟨task, -, hfind, hready, ⟨-, -, heq⟩ | ⟨-, hpast, heq⟩ | ⟨hnone, heq⟩⟩ <;> rw [heq]
  · exact .inl rfl
  · left
    rw [persist_toLedger]
    show ((s.toLedger.setState t .expired).view u).dispatched = _
    rw [Ledger.view_setState]
    split_ifs <;> rfl
  · rcases placeTask_dispatches env (s := s.tick) task hready u with hsame | ⟨hu, hdisp⟩
    · exact .inl hsame
    · exact .inr ⟨hu, hready, task, hfind, fun _ => ⟨hpast, hdisp⟩⟩
  · rcases placeTask_dispatches env (s := s) task hready u with hsame | ⟨hu, -⟩
    · exact .inl hsame
    · exact .inr ⟨hu, hready, task, hfind, fun h => by simp [hnone] at h⟩

end Scheduling

/-! ## Sweeps -/

section Sweeps

variable [DoubleArith D]

/-- The wall clock has passed the deadline of the task, from the reading `i` on. -/
def Coordinator.PastDeadline (unix : Nat → Int64) (s : Coordinator D) (t : ComputeTaskId) (i : Nat) : Prop :=
  ∃ task, s.graph.find t = some task ∧ task.hasDeadline = true ∧ ∀ j, i ≤ j → task.deadlineEpochMs ≤ unix j

/-- What a sweep does about deadlines, in its timers and in each round of its scheduling loop. -/
structure Coordinator.SweepFollows (env : Env) (unix : Nat → Int64) (s : Coordinator D) : Prop where
  timersDispatch : ∀ t, ((s.timersDone env).view t).dispatched = (s.view t).dispatched
  timersExpire : ∀ t : ComputeTaskId, (s.timersDone env).graph.states[t]? = some .expired →
    s.graph.states[t]? = some .expired ∨ s.PastDeadline unix t s.clockReads
  roundDispatch : ∀ before t after, (s.timersDone env).readyTasks = before ++ t :: after →
    ∀ x, x = before.foldl (scheduleTask env) (s.timersDone env) → ∀ u,
      ((scheduleTask env x t).view u).dispatched = (x.view u).dispatched ∨
        u = t ∧ ∃ task, s.graph.find t = some task ∧ (task.hasDeadline = true →
          x.DispatchesAt env (scheduleTask env x t) t (x.clockReads + 2) ∧
            unix (x.clockReads + 2) < task.deadlineEpochMs)
  roundExpire : ∀ before t after, (s.timersDone env).readyTasks = before ++ t :: after →
    ∀ x, x = before.foldl (scheduleTask env) (s.timersDone env) → ∀ u : ComputeTaskId,
      (scheduleTask env x t).graph.states[u]? = some .expired →
        x.graph.states[u]? = some .expired ∨ u = t ∧ s.PastDeadline unix t x.clockReads

variable {env : Env} {unix : Nat → Int64} {s : Coordinator D}

omit [DoubleArith D] in
theorem past_of_monotone (hunix : Monotone fun i => (unix i).toInt) {d : Int64} {i j : Nat} (hij : i ≤ j)
    (h : d ≤ unix i) : d ≤ unix j :=
  Int64.le_iff_toInt_le.mpr ((Int64.le_iff_toInt_le.mp h).trans (hunix hij))

/-- A task that a round finds ready is one the condition speaks about, at the reading of its round. -/
theorem round_agrees (hagree : s.clocksAgree env unix .sweep = true) {before after : List ComputeTaskId}
    {t : ComputeTaskId} (hlist : (s.timersDone env).readyTasks = before ++ t :: after) {x : Coordinator D}
    (hx : x = before.foldl (scheduleTask env) (s.timersDone env)) (hready : x.graph.states[t]? = some .ready)
    {task : ComputeTask D} (hfind : x.graph.find t = some task) (hdeadline : task.hasDeadline = true) :
    s.graph.find t = some task ∧
      (task.deadlineEpochMs ≤ x.now env → task.deadlineEpochMs ≤ unix x.clockReads) ∧
      (task.deadlineEpochMs ≤ unix (x.clockReads + 2) → task.deadlineEpochMs ≤ x.now env) := by
  subst hx
  have hfind' : s.graph.find t = some task := by
    rw [← hfind]
    exact congrArg (fun m : IdMap (ComputeTask D) => m[t]?) (scheduling_tasks env s before).symm
  obtain ⟨hlo, hhi⟩ := scheduling_clockReads env s before
  have hlength : before.length < s.graph.tasks.size := by
    have hready : (s.timersDone env).readyTasks.length ≤ s.graph.tasks.size := by
      rw [← timersDone_tasks env s]
      simp only [readyTasks, List.length_map, List.length_insertionSort]
      exact (List.length_filter_le _ _).trans (Std.ExtTreeMap.length_keys).le
    rw [hlist] at hready
    simp only [List.length_append, List.length_cons] at hready
    omega
  exact ⟨hfind', agrees_at_round hagree hfind' hdeadline (mayPlace_of_ready hfind' (ready_of_scheduling hready)) hlo
    (by omega)⟩

theorem sweep_follows (hunix : Monotone fun i => (unix i).toInt) (hwf : s.WellFormed)
    (hagree : s.clocksAgree env unix .sweep = true) : s.SweepFollows env unix where
  timersDispatch t := timersDone_dispatched env s t
  timersExpire t hexpired := by
    obtain ⟨task, hfind⟩ : ∃ task, s.graph.find t = some task := by
      have hcoherent := (timersDone_steps.wellFormed hwf : (s.timersDone env).WellFormed).coherent
      have hsome := hcoherent.isSome_states t
      rw [hexpired, timersDone_tasks] at hsome
      exact Option.isSome_iff_exists.mp hsome.symm
    rcases overdue_of_timersDone hfind hexpired with hold | ⟨hdue, hmay⟩
    · exact .inl hold
    · obtain ⟨hdeadline, hpast⟩ := Bool.and_eq_true_iff.mp hdue
      have hwall := agrees_at_start hagree hfind hdeadline hmay (of_decide_eq_true hpast)
      exact .inr ⟨task, hfind, hdeadline, fun j hj => past_of_monotone hunix hj hwall⟩
  roundDispatch before t after hlist x hx u := by
    rcases scheduleTask_dispatches env x t u with hsame | ⟨hu, hready, task, hfind, hdisp⟩
    · exact .inl hsame
    · have hfind' : s.graph.find t = some task := by
        rw [← hfind, hx]
        exact congrArg (fun m : IdMap (ComputeTask D) => m[t]?) (scheduling_tasks env s before).symm
      refine .inr ⟨hu, task, hfind', fun hdeadline => ?_⟩
      obtain ⟨hbefore, hstamp⟩ := hdisp hdeadline
      obtain ⟨-, -, hagrees⟩ := round_agrees hagree hlist hx hready hfind hdeadline
      refine ⟨hstamp, ?_⟩
      rw [← Int64.not_le]
      exact fun hwall => hbefore (hagrees hwall)
  roundExpire before t after hlist x hx u hexpired := by
    rcases (scheduleTask_state env x t u).2 with hsame | ⟨rfl, hready, hdisp | ⟨hpast, -⟩⟩
    · exact .inl (hsame ▸ hexpired)
    · cases hdisp.symm.trans hexpired
    · simp only [expiresUnplaced, Bool.and_eq_true, Option.any_eq_true] at hpast
      obtain ⟨-, task, hfind, hdue⟩ := hpast
      obtain ⟨hdeadline, hpast⟩ := Bool.and_eq_true_iff.mp hdue
      obtain ⟨hfind', hagrees, -⟩ := round_agrees hagree hlist hx hready hfind hdeadline
      have hwall := hagrees (of_decide_eq_true hpast)
      exact .inr ⟨rfl, task, hfind', hdeadline, fun j hj => past_of_monotone hunix hj hwall⟩

omit [DoubleArith D] in
/-- Only a sweep expires tasks. -/
theorem GraphStep.expired {s₀ : Coordinator D} {e : Event D} {g g' : TaskGraph D} (h : GraphStep s₀ e g g')
    (hcoh : g.Coherent) (he : e ≠ .sweep) {t : ComputeTaskId} (hexpired : g'.states[t]? = some .expired) :
    g.states[t]? = some .expired := by
  have hmoved : ∀ {g : TaskGraph D} {u dst}, dst ≠ .expired → (g.trySetState u dst).states[t]? = some .expired →
      g.states[t]? = some .expired := by
    intro g u dst hdst hstates
    rw [TaskGraph.getElem?_states_trySetState] at hstates
    split_ifs at hstates
    · obtain ⟨cur, hcur, hnext⟩ := Option.map_eq_some_iff.mp hstates
      rwa [TaskState.eq_of_next_eq hnext hdst] at hcur
    · exact hstates
  cases h with
  | move hreq => exact hmoved (fun hdst => he (hreq.expired hdst)) hexpired
  | submit hnew hdeps haccepts =>
      have hinserted := hmoved (by unfold Ledger.initialState; split_ifs <;> decide) hexpired
      rw [TaskGraph.getElem?_states_insertTask] at hinserted
      split_ifs at hinserted
      · cases hinserted
      · exact hinserted
  | refuse hadd =>
      rw [(TaskGraph.addTask_error hcoh hadd).2.1] at hexpired
      exact hexpired

/-- A step other than a sweep neither dispatches nor expires. -/
theorem step_undispatched {e : Event D} {s' : Coordinator D} (hsound : s.Sound) (he : e ≠ .sweep)
    (hstep : step env s e = some s') (t : ComputeTaskId) :
    (s'.view t).dispatched = (s.view t).dispatched ∧ (s'.graph.states[t]? = some .expired →
      s.graph.states[t]? = some .expired ∨
        e = .restart ∧ (s.file.getD {}).taskStates[t]?.getD .submitted = .expired) := by
  let I : Coordinator D → Prop := fun x => (x.view t).dispatched = (s.view t).dispatched ∧
    (x.graph.states[t]? = some .expired → s.graph.states[t]? = some .expired ∨
      e = .restart ∧ (s.file.getD {}).taskStates[t]?.getD .submitted = .expired)
  refine step_invariant (I := I) ?_ ?_ hsound ⟨rfl, .inl⟩ hstep
  · rintro x x' hx ⟨hdisp, hexp⟩ hcore
    rcases hcore.ledger with hledger | hact
    · show I x'
      simp only [I, hledger]
      exact ⟨hdisp, hexp⟩
    · refine ⟨?_, ?_⟩
      · rcases hact.dispatched t with hsame | ⟨hsweep, -⟩
        · exact hsame.trans hdisp
        · exact absurd hsweep he
      · refine hact.graph_invariant (P := fun g => g.states[t]? = some .expired → _) ?_ hx.wellFormed hexp
        intro g g' hcoh hg hgraph hexpired
        exact hg (hgraph.expired hcoh he hexpired)
  · rintro rfl hstarted
    refine ⟨?_, fun hexpired => .inr ⟨rfl, ?_⟩⟩
    · show s'.dispatchLog.countP _ = s.dispatchLog.countP _
      rw [hstarted.dispatchLog]
      rfl
    · rw [hstarted.states t] at hexpired
      obtain ⟨task, -, hst⟩ := Option.map_eq_some_iff.mp hexpired
      exact (recoveredState_eq_iff rfl (by decide) (by decide)).mp hst

/-- **Deadlines follow the wall clock** wherever the two clocks agree about them. From every reachable state, with
    a wall clock that never goes back: a sweep that meets the condition expires only tasks whose deadline the wall
    clock has passed, and dispatches no attempt at a moment when it has; no other event expires or dispatches
    anything. -/
theorem deadlines_follow_wall_clock {env : Env} {unix : Nat → Int64} (hunix : Monotone fun i => (unix i).toInt)
    {events : List (Event D)} {s : Coordinator D} (hrun : run env events = some s) {e : Event D}
    (hagree : s.clocksAgree env unix e = true) {s' : Coordinator D} (hstep : step env s e = some s') :
    (e = .sweep → s' = (s.timersDone env).readyTasks.foldl (scheduleTask env) (s.timersDone env) ∧
      s.SweepFollows env unix) ∧
    (e ≠ .sweep → ∀ t : ComputeTaskId, (s'.view t).dispatched = (s.view t).dispatched ∧
      (s'.graph.states[t]? = some .expired → s.graph.states[t]? = some .expired ∨
        e = .restart ∧ (s.file.getD {}).taskStates[t]?.getD .submitted = .expired)) := by
  have hsound := run_sound hrun
  refine ⟨?_, fun he t => step_undispatched hsound he hstep t⟩
  rintro rfl
  exact ⟨(Option.some.inj hstep).symm, sweep_follows hunix hsound.wellFormed hagree⟩

end Sweeps

/-- A task with a deadline of 500 ms. -/
def Demo.submitTimed : Event ℚ :=
  .command (.taskSubmit ⟨0, 9⟩ 2 0 { task := { Demo.task 3 with hasDeadline := true, deadlineEpochMs := 500 } })

/-- Under one clock the attempt is dispatched before the deadline. -/
theorem deadlines_follow_wall_clock_dispatch :
    ∃ s, run (Demo.env 100000 100) [Demo.register 1, Demo.submitTimed] = some s ∧
      (s.sweep (Demo.env 100000 100)).dispatchLog.length = 1 ∧
      s.SweepFollows (Demo.env 100000 100) (Demo.env 100000 100).nowMillis := by
  have hfacts : ((run (Demo.env 100000 100) [Demo.register 1, Demo.submitTimed]).map fun s =>
      (s.clocksAgree (Demo.env 100000 100) (Demo.env 100000 100).nowMillis .sweep,
        (s.sweep (Demo.env 100000 100)).dispatchLog.length)) = some (true, 1) := by
    decide +kernel
  obtain ⟨s, hs, hs'⟩ := Option.map_eq_some_iff.mp hfacts
  obtain ⟨hagree, hlog⟩ := Prod.mk.inj hs'
  exact ⟨s, hs, hlog, ((deadlines_follow_wall_clock (Demo.monotone_clock 100000 100) hs hagree rfl).1 rfl).2⟩

/-- **The monotonic clock knows nothing of epoch times.** With a process clock at 0 and a wall clock at 1000 the
    sweep dispatches a task whose deadline was 500; with a process clock at 10000 and a wall clock at 0 it expires
    the task. -/
theorem deadlines_on_monotonic_clock :
    (∃ s, run (Demo.env 100000 100) [Demo.register 1, Demo.submitTimed] = some s ∧ s.dispatchLog = [] ∧
      (s.sweep (Demo.env 100000 100)).dispatchLog.length = 1 ∧
      ¬ s.SweepFollows (Demo.env 100000 100) fun _ => 1000) ∧
    ∃ s, run (Demo.env 100000 0) [Demo.register 1, Demo.submitTimed] = some s ∧
      s.graph.states[Demo.taskId]? = some .ready ∧
      (s.sweep (Demo.env 100000 0)).graph.states[Demo.taskId]? = some .expired ∧
      ¬ s.SweepFollows (Demo.env 100000 0) fun _ => 0 := by
  constructor
  · have hfacts : ((run (Demo.env 100000 100) [Demo.register 1, Demo.submitTimed]).map fun s => decide
        (s.dispatchLog = [] ∧ (s.sweep (Demo.env 100000 100)).dispatchLog.length = 1 ∧
          (s.timersDone (Demo.env 100000 100)).readyTasks = [Demo.taskId] ∧
          ((scheduleTask (Demo.env 100000 100) (s.timersDone (Demo.env 100000 100)) Demo.taskId).view
            Demo.taskId).dispatched ≠ ((s.timersDone (Demo.env 100000 100)).view Demo.taskId).dispatched ∧
          ((s.graph.find Demo.taskId).map fun task => (task.hasDeadline, task.deadlineEpochMs)) =
            some (true, 500))) = some true := by
      decide +kernel
    obtain ⟨s, hs, hs'⟩ := Option.map_eq_some_iff.mp hfacts
    obtain ⟨hlog, hlog', hready, hmore, hrecord⟩ := of_decide_eq_true hs'
    refine ⟨s, hs, hlog, hlog', fun hfollows => ?_⟩
    rcases hfollows.roundDispatch [] Demo.taskId [] hready _ rfl Demo.taskId with hsame | ⟨-, task, htask, hlate⟩
    · exact hmore hsame
    · rw [htask, Option.map_some, Option.some.injEq, Prod.mk.injEq] at hrecord
      have hbound := (hlate hrecord.1).2
      rw [hrecord.2] at hbound
      exact absurd hbound (by decide)
  · have hfacts : ((run (Demo.env 100000 0) [Demo.register 1, Demo.submitTimed]).map fun s =>
        (s.graph.states[Demo.taskId]?, (s.sweep (Demo.env 100000 0)).graph.states[Demo.taskId]?,
          (s.timersDone (Demo.env 100000 0)).graph.states[Demo.taskId]?,
          (s.graph.find Demo.taskId).map fun task => task.deadlineEpochMs)) =
        some (some .ready, some .expired, some .expired, some 500) := by
      decide +kernel
    obtain ⟨s, hs, hs'⟩ := Option.map_eq_some_iff.mp hfacts
    simp only [Prod.mk.injEq] at hs'
    obtain ⟨hready, hexpired, htimers, hrecord⟩ := hs'
    refine ⟨s, hs, hready, hexpired, fun hfollows => ?_⟩
    rcases hfollows.timersExpire Demo.taskId htimers with hold | ⟨task, htask, -, hpast⟩
    · cases hold.symm.trans hready
    · rw [htask, Option.map_some, Option.some.injEq] at hrecord
      have hbound : task.deadlineEpochMs ≤ 0 := hpast s.clockReads le_rfl
      rw [hrecord] at hbound
      exact absurd hbound (by decide)

end ComputeFabric
