import ComputeFabric.Coordinator.SweepStates
import ComputeFabric.Safety.Gating

/-!
# `Safety.Propagation` — what becomes of the dependents of a task that ended without a result

A blocked task whose dependency has failed, was cancelled or has expired can never run. Ending it is the job
of the poison branch of `on_task_succeeded_recursive`, and nothing reaches it there: the function runs only
when a task succeeds, over the dependents of that task, and it asks for `Blocked → Lost → Failed`, which the
lifecycle table refuses (`poison_ledger`). So a dead dependency is harmless only while nobody waits for it:

- `Coordinator.endsNoneWaiting` — the event ends no task that another one is blocked on;
- `dependency_failure_propagates` — in a run of such events no blocked task has a dead dependency, and all
  transitive dependents of a dead task have ended;
- `failed_dependency_strands` — a failed attempt whose task another one waits for leaves it waiting.
-/

namespace ComputeFabric

open Coordinator

variable {D : Type}

/-! ## The condition -/

/-- Some task is blocked on `t`. -/
def TaskGraph.hasWaiting (g : TaskGraph D) (t : ComputeTaskId) : Bool :=
  g.tasks.toList.any fun x => g.state x.1 = .blocked && x.2.dependencies.contains t

theorem TaskGraph.not_mem_of_hasWaiting {g : TaskGraph D} {t : ComputeTaskId} (h : g.hasWaiting t = false)
    {u : ComputeTaskId} {task : ComputeTask D} (htask : g.tasks[u]? = some task)
    (hst : g.states[u]? = some .blocked) : t ∉ task.dependencies := by
  intro ht
  have hnone := List.any_eq_false.mp h (u, task) (Std.ExtTreeMap.mem_toList_iff_getElem?_eq_some.mpr htask)
  simp [TaskGraph.state, hst, ht] at hnone

/-- What a start on the file makes of the task is blocked on something dead. -/
def DurableState.poisons (d : DurableState D) (t : ComputeTaskId) (task : ComputeTask D) : Bool :=
  (d.view t 0).state = some .blocked &&
    task.dependencies.any fun u => (d.view u 0).state.any TaskState.isDead

section Condition

variable [DoubleArith D] (env : Env) (s : Coordinator D)

/-- No task that waits, and that a sweep does not expire with it, waits for a task the timers end. -/
def Coordinator.timersEndNoneWaiting : Bool :=
  s.graph.tasks.toList.all fun x =>
    s.graph.state x.1 ≠ .blocked || x.2.isOverdue (s.now env) ||
      x.2.dependencies.all fun d => !s.timersEnd env d

/-- Scheduling reads the clock again for every task. No round that finds its task past the deadline finds
    another one waiting for it. -/
def Coordinator.roundsEndNoneWaiting : Bool :=
  decide (Lts.Along (fun x t => some (scheduleTask env x t))
    (fun x t => x.expiresUnplaced env t = true → x.graph.hasWaiting t = false) s s.readyTasks)

/-- The event ends no task that another one is blocked on, and blocks none on a task that has ended. -/
def Coordinator.endsNoneWaiting : Event D → Bool
  | .command (.taskSubmit _ _ _ sub) =>
      !s.accepts sub || sub.task.dependencies.all fun d => !(s.graph.state d).isDead
  | .command (.attemptFailed _ _ fa) =>
      match s.findActiveAttempt fa.attemptId with
      | none => true
      | some (_, a) =>
          a.coordinatorEpoch ≠ s.durable.epoch || a.state = .succeeded || a.committed ||
            s.retriesFailure a (.ofUInt8 fa.failureKind) || !(s.graph.state a.taskId).isLegal .failed ||
            !s.graph.hasWaiting a.taskId
  | .command (.taskCancel _ _ _ t) =>
      match s.graph.states[t]? with
      | none => true
      | some st =>
          st.isTerminal || st = .running || !st.isLegal .cancelled || !s.graph.hasWaiting t
  | .sweep => s.timersEndNoneWaiting env && (s.timersDone env).roundsEndNoneWaiting env
  | .restart =>
      let d := s.file.getD {}
      d.tasks.toList.all fun x => !d.poisons x.1 x.2
  | _ => true

end Condition

/-! ## The invariant -/

/-- No blocked task has a dead dependency. -/
def TaskGraph.Unpoisoned (g : TaskGraph D) : Prop :=
  ∀ (t : ComputeTaskId) (task : ComputeTask D), g.tasks[t]? = some task → g.states[t]? = some .blocked →
    ∀ d ∈ task.dependencies, ∀ st : TaskState, g.states[d]? = some st → st.isDead = false

namespace TaskGraph.Unpoisoned

variable {g : TaskGraph D}

/-- A state change does no harm unless it ends a task somebody waits for. -/
theorem trySetState (h : g.Unpoisoned) (u : ComputeTaskId) (dst : TaskState) (hblocked : dst ≠ .blocked)
    (hdead : dst.isDead = true → (g.state u).isLegal dst = true → g.hasWaiting u = false) :
    (g.trySetState u dst).Unpoisoned := by
  intro t task htask hst d hd st hd'
  rw [TaskGraph.trySetState_tasks] at htask
  rw [TaskGraph.getElem?_states_trySetState] at hst hd'
  have hbefore : g.states[t]? = some .blocked := by
    split_ifs at hst
    · obtain ⟨cur, hcur, hnext⟩ := Option.map_eq_some_iff.mp hst
      rwa [TaskState.eq_of_next_eq hnext hblocked] at hcur
    · exact hst
  split_ifs at hd' with hu
  · subst hu
    obtain ⟨cur, hcur, rfl⟩ := Option.map_eq_some_iff.mp hd'
    unfold TaskState.next
    split_ifs with hlegal
    · by_contra hend
      rw [Bool.not_eq_false] at hend
      have hstate : g.state u = cur := by
        rw [TaskGraph.state, hcur]
        rfl
      exact TaskGraph.not_mem_of_hasWaiting (hdead hend (hstate ▸ hlegal)) htask hbefore hd
    · exact h t task htask hbefore u hd cur hcur
  · exact h t task htask hbefore d hd st hd'

/-- A submitted task does no harm unless it waits for a dead one. -/
theorem submit (h : g.Unpoisoned) {task : ComputeTask D}
    (hdeps : ∀ d ∈ task.dependencies, (g.state d).isDead = false) :
    ((g.insertTask task).trySetState task.id (Ledger.initialState task)).Unpoisoned := by
  have hinitial : TaskState.submitted.next (Ledger.initialState task) = Ledger.initialState task := by
    unfold Ledger.initialState
    split_ifs <;> rfl
  have halive : (Ledger.initialState task).isDead = false := by
    unfold Ledger.initialState
    split_ifs <;> rfl
  intro t tk htask hst d hd st hd'
  rw [TaskGraph.trySetState_tasks, TaskGraph.getElem?_tasks_insertTask] at htask
  rw [TaskGraph.getElem?_states_trySetState, TaskGraph.getElem?_states_insertTask] at hst hd'
  -- the new task itself is alive, whoever waits for it
  split_ifs at hd' with hid
  · rw [Option.map_some, hinitial] at hd'
    rwa [← Option.some.inj hd']
  · split_ifs at htask hst with ht
    · obtain rfl := Option.some.inj htask
      have halive' := hdeps d hd
      rwa [TaskGraph.state, hd'] at halive'
    · exact h t tk htask hst d hd st hd'

end TaskGraph.Unpoisoned

/-! ## Commands -/

section Events

variable [DoubleArith D] {env : Env}

theorem GraphStep.unpoisoned {s₀ : Coordinator D} {e : Event D} {g g' : TaskGraph D} (h : GraphStep s₀ e g g')
    (hcoh : g.Coherent) (hsweep : e ≠ .sweep) (hc : s₀.endsNoneWaiting env e = true) (hg : g.Unpoisoned) :
    g'.Unpoisoned := by
  cases h with
  | @move e g t dst hreq =>
      refine hg.trySetState t dst hreq.entered.2 ?_
      intro hdead hlegal
      cases dst with
      | failed =>
          rcases hreq.failed rfl with he |
            ⟨conn, req, fa, p, a, rfl, hfind, hepoch, hstate, hcommitted, rfl, hretry, rfl⟩
          · exact absurd he hsweep
          · simpa [endsNoneWaiting, hfind, hepoch, hstate, hcommitted, hretry, hlegal] using hc
      | cancelled =>
          obtain ⟨client, conn, req, st, rfl, hst, hterminal, hrunning, hlegal', rfl⟩ := hreq.cancelled rfl
          simpa [endsNoneWaiting, hst, hterminal, hrunning, hlegal'] using hc
      | expired => exact absurd (hreq.expired rfl) hsweep
      | _ => cases hdead
  | @submit client conn req sub hnew hdeps haccepts =>
      refine hg.submit ?_
      simpa [endsNoneWaiting, haccepts] using hc
  | refuse hadd =>
      obtain ⟨htasks, hstates, -⟩ := TaskGraph.addTask_error hcoh hadd
      unfold TaskGraph.Unpoisoned
      rwa [htasks, hstates]

/-! ## Sweeps -/

/-- The timers end no task that somebody still waits for after them. -/
theorem timersDone_unpoisoned {s : Coordinator D} (hsound : s.Sound) (hs : s.graph.Unpoisoned)
    (hc : s.timersEndNoneWaiting env = true) : (s.timersDone env).graph.Unpoisoned := by
  have hsteps : CoreSteps env s .sweep s (s.timersDone env) := timersDone_steps
  have hcoh := (hsteps.wellFormed hsound.wellFormed).coherent
  have htasks := timersDone_tasks env s
  intro t task htask hst d hd st hd'
  rw [htasks] at htask
  obtain ⟨hblocked, hdue⟩ := timersDone_blocked htask hst
  obtain ⟨dep, hdep⟩ : ∃ dep, s.graph.tasks[d]? = some dep := by
    rw [← htasks, ← Option.isSome_iff_exists, ← hcoh.isSome_states d, hd']
    rfl
  by_contra hdead
  rw [Bool.not_eq_false] at hdead
  rcases timersDone_dead hdep hd' hdead with hbefore | hend
  · rw [hs t task htask hblocked d hd st hbefore] at hdead
    cases hdead
  · have hspared := List.all_eq_true.mp hc (t, task)
      (Std.ExtTreeMap.mem_toList_iff_getElem?_eq_some.mpr htask)
    have hstate : s.graph.state t = .blocked := Ledger.state_of_view hblocked
    simp only [hstate, hdue, ne_eq, not_true_eq_false, decide_false, Bool.false_or, List.all_eq_true] at hspared
    simpa [hend] using hspared d hd

theorem scheduleTask_unpoisoned {s : Coordinator D} {u : ComputeTaskId} (hs : s.graph.Unpoisoned)
    (hc : s.expiresUnplaced env u = true → s.graph.hasWaiting u = false) :
    (scheduleTask env s u).graph.Unpoisoned := by
  intro t task htask hst d hd st hd'
  rw [(scheduleTask_state env s u t).1] at htask
  have hblocked : s.graph.states[t]? = some .blocked := by
    rcases (scheduleTask_state env s u t).2 with hsame | ⟨-, -, hdisp | ⟨-, hexp⟩⟩
    · exact hsame ▸ hst
    · rw [hst] at hdisp
      cases hdisp
    · rw [hst] at hexp
      cases hexp
  rcases (scheduleTask_state env s u d).2 with hsame | ⟨rfl, -, hdisp | ⟨hexpires, -⟩⟩
  · exact hs t task htask hblocked d hd st (hsame ▸ hd')
  · rw [← Option.some.inj (hdisp.symm.trans hd')]
    rfl
  · exact absurd hd (TaskGraph.not_mem_of_hasWaiting (hc hexpires) htask hblocked)

/-- The scheduling loop ends no task that somebody waits for. -/
theorem scheduleReadyTasks_unpoisoned {s : Coordinator D} (hs : s.graph.Unpoisoned)
    (hc : s.roundsEndNoneWaiting env = true) : (s.scheduleReadyTasks env).graph.Unpoisoned := by
  refine Lts.run_invariant (I := fun x : Coordinator D => x.graph.Unpoisoned) ?_ hs (of_decide_eq_true hc)
    (Lts.run_some (scheduleTask env) s s.readyTasks)
  intro x u x' hx hround hx'
  rw [← Option.some.inj hx']
  exact scheduleTask_unpoisoned hx hround

/-! ## Restarts -/

omit [DoubleArith D] in
theorem Started.unpoisoned {w : World D} {d : DurableState D} {s : Coordinator D} (h : Started w d s)
    (hd : ∀ x ∈ d.tasks.toList, d.poisons x.1 x.2 = false) : s.graph.Unpoisoned := by
  intro t task htask hst u hu st hst'
  rw [h.tasks] at htask
  have hstates : ∀ t : ComputeTaskId, s.graph.states[t]? = (d.view t 0).state := h.states
  have hclean := hd (t, task) (Std.ExtTreeMap.mem_toList_iff_getElem?_eq_some.mpr htask)
  rw [hstates] at hst hst'
  by_contra hdead
  rw [Bool.not_eq_false] at hdead
  have hpoisons : d.poisons t task = true := by
    rw [DurableState.poisons, hst]
    refine Bool.and_eq_true_iff.mpr ⟨rfl, List.any_eq_true.mpr ⟨u, hu, ?_⟩⟩
    rw [hst']
    exact hdead
  rw [hpoisons] at hclean
  cases hclean

/-! ## Runs -/

theorem step_unpoisoned {s s' : Coordinator D} {e : Event D} (hsound : s.Sound) (hs : s.graph.Unpoisoned)
    (hc : s.endsNoneWaiting env e = true) (he : step env s e = some s') : s'.graph.Unpoisoned := by
  by_cases hsweep : e = .sweep
  · subst hsweep
    obtain rfl := Option.some.inj he
    obtain ⟨htimers, hrounds⟩ := Bool.and_eq_true_iff.mp hc
    rw [sweep_eq]
    exact scheduleReadyTasks_unpoisoned (timersDone_unpoisoned hsound hs htimers) hrounds
  · refine step_invariant (I := fun x => x.graph.Unpoisoned) ?_ ?_ hsound hs he
    · intro x x' hx hxu hcore
      refine hcore.books_invariant (R := fun l _ => l.graph.Unpoisoned) ?_ id hxu
      intro d hl hact
      exact hact.graph_invariant (fun _ _ hcoh hg hstep => hstep.unpoisoned hcoh hsweep hc hg) hx.wellFormed hl
    · rintro rfl hstarted
      refine hstarted.unpoisoned ?_
      intro x hx
      simpa using List.all_eq_true.mp hc x hx

theorem run_unpoisoned {events : List (Event D)} {s : Coordinator D} (hrun : run env events = some s)
    (hcond : RunMeets env (fun s e => s.endsNoneWaiting env e = true) events) : s.graph.Unpoisoned := by
  refine (run_invariant (I := fun x => x.graph.Unpoisoned) ?_ ?_ hcond hrun).2
  · intro x hx t task htask
    rw [(boot_spec hx).tasks] at htask
    simp at htask
  · intro x e x' hsound hx hc he
    exact step_unpoisoned hsound hx hc he

/-- No task stays in the state `add_task` gives it, or reaches one without a name. -/
theorem run_isEntered {events : List (Event D)} {s : Coordinator D} (hrun : run env events = some s)
    (t : ComputeTaskId) {st : TaskState} (ht : s.graph.states[t]? = some st) : st.isEntered = true := by
  by_contra hst
  rw [Bool.not_eq_true] at hst
  refine run_view_invariant (J := fun v => v.state ≠ some st) (C := fun _ _ => True) t nofun ?_ ?_
    (.of_forall (fun _ _ => trivial) events) hrun ht
  · intro s e v v' _ _ hv hstep
    exact hstep.not_entered hst hv
  · intro retry n v hv hrestored
    obtain ⟨cur, hcur, hrec⟩ := Option.map_eq_some_iff.mp hrestored
    refine hv ?_
    rw [hcur, (recoveredState_eq_iff ?_ ?_ ?_).mp hrec]
    all_goals cases st <;> first | (cases hst; done) | simp [TaskState.isActive]

/-- `t` waits for `d`. -/
def TaskGraph.DependsOn (g : TaskGraph D) (t d : ComputeTaskId) : Prop :=
  ∃ task, g.find t = some task ∧ d ∈ task.dependencies

omit [DoubleArith D] in
/-- A dependent of a dead task is dead: past the gate it cannot be, and blocked it is not. -/
theorem dead_of_dependsOn {s : Coordinator D} (hsound : s.Sound) (hgated : s.graph.Gated)
    (hunpoisoned : s.graph.Unpoisoned)
    (hentered : ∀ (t : ComputeTaskId) (st : TaskState), s.graph.states[t]? = some st → st.isEntered = true)
    {t d : ComputeTaskId} (hdep : s.graph.DependsOn t d) (hdead : (s.graph.state d).isDead = true) :
    (s.graph.state t).isDead = true := by
  obtain ⟨task, htask, hd⟩ := hdep
  obtain ⟨st, hst⟩ : ∃ st, s.graph.states[t]? = some st := by
    rw [← Option.isSome_iff_exists, hsound.wellFormed.coherent.isSome_states t]
    exact Option.isSome_iff_exists.mpr ⟨task, htask⟩
  obtain ⟨std, hstd⟩ : ∃ std, s.graph.states[d]? = some std := by
    cases hs : s.graph.states[d]? with
    | none =>
        rw [TaskGraph.state, hs] at hdead
        cases hdead
    | some std => exact ⟨std, rfl⟩
  rw [Ledger.state_of_view hstd] at hdead
  rw [Ledger.state_of_view hst]
  by_cases hpast : st.isPastGate = true
  · have hsucc := hgated t task st htask hst hpast d hd
    rw [Option.some.inj (hstd.symm.trans hsucc)] at hdead
    cases hdead
  · have hblocked : st ≠ .blocked := by
      rintro rfl
      rw [hunpoisoned t task htask hst d hd std hstd] at hdead
      cases hdead
    have hst' := hentered t st hst
    cases st <;> first | rfl | exact absurd rfl hpast | exact absurd rfl hblocked | cases hst'

/-- **Dependency failure propagates.** In a run in which no event ends a task that another one is blocked on,
    no blocked task has a dead dependency in any state, and every transitive dependent of a dead task has
    ended too. -/
theorem dependency_failure_propagates {events : List (Event D)} {s : Coordinator D}
    (hrun : run env events = some s)
    (hcond : RunMeets env (fun s e => s.endsNoneWaiting env e = true) events) :
    (∀ t d, s.graph.state t = .blocked → s.graph.DependsOn t d → (s.graph.state d).isDead = false) ∧
    ∀ t d, (s.graph.state d).isDead = true → Relation.TransGen s.graph.DependsOn t d →
      (s.graph.state t).isTerminal = true := by
  have hunpoisoned := run_unpoisoned hrun hcond
  have hsound := run_sound hrun
  have hdead : ∀ t d, s.graph.DependsOn t d → (s.graph.state d).isDead = true →
      (s.graph.state t).isDead = true :=
    fun t d hdep => dead_of_dependsOn hsound (run_gated hrun) hunpoisoned (fun _ _ => run_isEntered hrun _) hdep
  constructor
  · intro t d ht hdep
    by_contra hd
    rw [Bool.not_eq_false] at hd
    have := hdead t d hdep hd
    rw [ht] at this
    cases this
  · intro t d hd htrans
    have hend : (s.graph.state t).isDead = true := by
      induction htrans using Relation.TransGen.head_induction_on with
      | single hdep => exact hdead _ _ hdep hd
      | head hdep _ ih => exact hdead _ _ hdep ih
    cases hst : s.graph.state t <;> rw [hst] at hend <;> first | rfl | cases hend

end Events

/-- The two tasks of a chain, both with a deadline five seconds on. -/
def Demo.submitDue : List (Event ℚ) :=
  [.command (.taskSubmit ⟨0, 9⟩ 2 0 { task := { Demo.task 1 with
      hasDeadline := true, deadlineEpochMs := 5000 } }),
   .command (.taskSubmit ⟨0, 9⟩ 2 0 { task := { Demo.task 1 with
      id := ⟨0, 2⟩, dependencies := [Demo.taskId], hasDeadline := true, deadlineEpochMs := 5000 } })]

/-- Both tasks expire in one sweep, so the second one does not outlive the first. -/
theorem dependency_failure_propagates_expired :
    ∃ s, run (Demo.env 3000 2) (Demo.submitDue ++ [.sweep, .sweep]) = some s ∧
      s.graph.state Demo.taskId = .expired ∧ (s.graph.state ⟨0, 2⟩).isTerminal = true := by
  have hfacts : ((run (Demo.env 3000 2) (Demo.submitDue ++ [.sweep, .sweep])).map fun s =>
      (s.graph.state Demo.taskId, (s.graph.find ⟨0, 2⟩).map fun task => task.dependencies)) =
        some (.expired, some [Demo.taskId]) := by
    decide +kernel
  have hcond : RunMeets (Demo.env 3000 2) (fun s e => s.endsNoneWaiting (Demo.env 3000 2) e = true)
      (Demo.submitDue ++ [.sweep, .sweep]) := by
    decide +kernel
  obtain ⟨s, hs, hpair⟩ := Option.map_eq_some_iff.mp hfacts
  obtain ⟨hstate, hfind⟩ := Prod.mk.inj hpair
  obtain ⟨task, htask, hdeps⟩ := Option.map_eq_some_iff.mp hfind
  refine ⟨s, hs, hstate, ?_⟩
  refine (dependency_failure_propagates hs hcond).2 ⟨0, 2⟩ Demo.taskId (by rw [hstate]; rfl) (.single ?_)
  exact ⟨task, htask, by rw [hdeps]; exact List.mem_singleton_self _⟩

/-- The attempt of the first task fails for good. The second one stays blocked on it, sweep after sweep. -/
theorem failed_dependency_strands :
    ((run (Demo.env 3000 100) [Demo.register 1, Demo.submit 1, Demo.submitAfter, .sweep, Demo.started 2,
      Demo.failed 2, .sweep, .sweep]).map fun s =>
        (s.graph.state Demo.taskId, s.graph.state ⟨0, 2⟩,
          (s.graph.find ⟨0, 2⟩).map fun task => task.dependencies)) =
      some (.failed, .blocked, some [Demo.taskId]) := by
  decide +kernel

end ComputeFabric
