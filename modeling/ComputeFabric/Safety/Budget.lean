import ComputeFabric.Coordinator.Invariants

/-!
# `Safety.Budget` — how often a task is dispatched

`retry.max_attempts` should bound the number of attempts handed out for a task in its whole life. The count is
kept in `dispatchLog`, which no restart clears.

A task is put back in front of the scheduler in five places: submission, a failure report, a node loss, a
dispatch timeout and recovery. Only the failure report looks at `max_attempts`, and it counts from the attempt
the report names; the others never ask how many attempts there have been. `keepsBudget` is the question none of
them asks, whether an attempt is left, put to each of the five. When it is answered before the task is put back,
the bound holds (`retry_budget`): every other transition into a state that awaits dispatch comes from one.
-/

namespace ComputeFabric

open Coordinator
open ExecutionAttempt (markStarted markCommitted markFailed markCancelled)

variable {D : Type}

/-! ## The condition -/

/-- States of a task the scheduler has yet to dispatch. -/
def TaskState.awaitsDispatch : TaskState → Bool
  | submitted | blocked | ready | retryPending => true
  | _ => false

/-- Fewer attempts of `t` than the task allows have been dispatched. -/
def Coordinator.budgetLeft (s : Coordinator D) (t : ComputeTaskId) (task : ComputeTask D) : Bool :=
  (s.view t).dispatched < task.retry.maxAttempts.toNat

/-- If the event puts `t` back in front of the scheduler, an attempt is left. -/
def Coordinator.keepsBudget (env : Env) (t : ComputeTaskId) (s : Coordinator D) : Event D → Bool
  | .command (.taskSubmit _ _ _ sub) => sub.task.id ≠ t || !s.accepts sub || s.budgetLeft t sub.task
  | .command (.attemptFailed _ _ fa) =>
      match s.findActiveAttempt fa.attemptId with
      | none => true
      | some (_, a) =>
          a.taskId ≠ t || a.coordinatorEpoch ≠ s.durable.epoch || a.state = .succeeded || a.committed ||
            !s.retriesFailure a (.ofUInt8 fa.failureKind) || !(s.graph.state t).isLegal .retryPending ||
            (s.graph.find t).all (s.budgetLeft t)
  | .sweep =>
      ((s.lostNodes env (s.now env)).all fun n =>
        t ∉ s.affectedBy n || (s.graph.state t).isAbsorbing ||
          (s.graph.find t).all fun task => !retriesNodeLoss task || s.budgetLeft t task) &&
      (t ∉ (s.tick.lossPhase env (s.now env)).staleDispatches (s.now env) || (s.graph.find t).all (s.budgetLeft t))
  | .restart =>
      let d := s.file.getD {}
      d.tasks[t]?.all fun task =>
        !((d.view t 0).state.any fun st => st.awaitsDispatch) || s.budgetLeft t task
  | _ => true

/-! ## One task -/

/-- At most `m` attempts were dispatched, and fewer if the task awaits another. -/
def TaskView.WithinBudget (m : Nat) (v : TaskView D) : Prop :=
  v.dispatched ≤ m ∧ ∀ st, v.state = some st → st.awaitsDispatch = true → v.dispatched < m

/-- Within budget in the middle of an event that found the row `v₀`; each attempt added since was dispatched
    since. -/
def TaskView.Budgeted (v₀ : TaskView D) (m : Nat) (v : TaskView D) : Prop :=
  v.WithinBudget m ∧ v.state.isSome = true ∧
    v.attempts.length + v₀.dispatched = v₀.attempts.length + v.dispatched

namespace TaskView

variable {m : Nat} {v₀ v : TaskView D}

theorem WithinBudget.of_lt (h : v.dispatched < m) : v.WithinBudget m := ⟨h.le, fun _ _ _ => h⟩

/-- A legal move to a state that awaits dispatch needs an attempt left; no other move needs anything. -/
theorem Budgeted.move (h : v₀.Budgeted m v) (dst : TaskState)
    (hdst : dst.awaitsDispatch = true → ∀ cur, v.state = some cur → cur.isLegal dst = true →
      v.dispatched < m) : v₀.Budgeted m (v.move dst) := by
  obtain ⟨⟨hle, hlt⟩, hknown, hsent⟩ := h
  refine ⟨⟨hle, ?_⟩, by simpa using hknown, hsent⟩
  intro st hst hawaits
  obtain ⟨cur, hcur, rfl⟩ := Option.map_eq_some_iff.mp hst
  unfold TaskState.next at hawaits
  split_ifs at hawaits with hlegal
  · exact hdst hawaits cur hcur hlegal
  · exact hlt cur hcur hawaits

theorem Budgeted.rewrite (h : v₀.Budgeted m v) (i : Nat) (f : ExecutionAttempt D → ExecutionAttempt D) :
    v₀.Budgeted m (v.rewrite i f) :=
  ⟨h.1, h.2.1, by simpa using h.2.2⟩

/-- Before the sweep's dispatch phase the count is still the one the event found. -/
theorem Budgeted.dispatched_eq (h : v₀.Budgeted m v) (hattempts : v.attempts = v₀.attempts) :
    v.dispatched = v₀.dispatched := by
  have hsent := h.2.2
  rw [hattempts] at hsent
  omega

end TaskView

section Steps

variable {env : Env} {s : Coordinator D} {t : ComputeTaskId} {e : Event D} {task : ComputeTask D}
  {v v' : TaskView D}

theorem TaskStep.budgeted (h : TaskStep env s t e v v') (hc : s.keepsBudget env t e = true)
    (htask : s.graph.find t = some task) (hopen : (s.graph.state t).isAbsorbing = false)
    (hv : (s.view t).Budgeted task.retry.maxAttempts.toNat v) :
    (s.view t).Budgeted task.retry.maxAttempts.toNat v' := by
  cases h with
  | submit hid hnew =>
      have hknown := hv.2.1
      rw [hnew] at hknown
      cases hknown
  | start hfind htask' hepoch => exact (hv.rewrite _ _).move .running nofun
  | commit hfind htask' hcommitted hcancel hvalid => exact (hv.rewrite _ _).move .succeeded nofun
  | abandon hfind htask' hcommitted hcancel => exact (hv.rewrite _ _).move .preempted nofun
  | unblock hstate => exact hv.move .ready fun _ _ _ _ => hv.1.2 _ hstate rfl
  | @fail conn req fa i a time retryAt hfind htask' hepoch hstate hcommitted hretry =>
      have hrewritten := hv.rewrite i (markFailed (.ofUInt8 fa.failureKind) fa.failureReason time)
      dsimp only
      split_ifs
      · exact hrewritten
      · refine hrewritten.move (Ledger.afterFailure retryAt) ?_
        intro hawaits cur hcur hlegal
        cases retryAt with
        | none => cases hawaits
        | some time' =>
            have hstate' : s.graph.state t = cur := Ledger.state_of_view hcur
            have hlegal' : cur.isLegal .retryPending = true := hlegal
            simpa [keepsBudget, hfind, htask', hepoch, hstate, hcommitted, ← hretry, hstate', hlegal', htask,
              budgetLeft] using hc
  | cancelAttempt hfind htask' hepoch => exact (hv.rewrite _ _).move .preempted nofun
  | requestCancel hstate => exact hv
  | cancelTask hstate hterminal hrunning hlegal => exact hv.move .cancelled nofun
  | @lose v n task' retryAt hlost haffected hattempts htask' hretry =>
      refine TaskView.Budgeted.move (hv.move .lost nofun) (Ledger.afterFailure retryAt) ?_
      intro hawaits cur hcur hlegal
      cases retryAt with
      | none => cases hawaits
      | some time =>
          have hn := List.all_eq_true.mp (Bool.and_eq_true_iff.mp hc).1 n hlost
          rw [htask] at htask'
          obtain rfl := Option.some.inj htask'
          show v.dispatched < _
          rw [hv.dispatched_eq hattempts]
          simpa [haffected, hopen, htask, ← hretry, budgetLeft] using hn
  | timeout hstale hattempts hstate =>
      refine TaskView.Budgeted.move hv .ready ?_
      intro _ _ _ _
      have hn := (Bool.and_eq_true_iff.mp hc).2
      rw [hv.dispatched_eq hattempts]
      simpa [hstale, htask, budgetLeft] using hn
  | requeue hstate => exact hv.move .ready fun _ _ _ _ => hv.1.2 _ hstate rfl
  | expire hstate hst => exact TaskView.Budgeted.move hv .expired nofun
  | expireReady hstate => exact hv.move .expired nofun
  | dispatch hstate hlive hcommitted =>
      obtain ⟨⟨hle, hlt⟩, -, hsent⟩ := hv
      refine ⟨⟨hlt .ready hstate rfl, ?_⟩, rfl, ?_⟩
      · intro st hst hawaits
        cases hst
        cases hawaits
      · dsimp only
        rw [List.length_append, List.length_singleton]
        omega

/-- Only a `Ready` task is dispatched. -/
theorem TaskStep.dispatched_eq (h : TaskStep env s t e v v') (hready : v.state ≠ some .ready) :
    v'.dispatched = v.dispatched := by
  cases h with
  | fail hfind htask hepoch hstate hcommitted hretry =>
      dsimp only
      split_ifs <;> rfl
  | dispatch hstate hlive hcommitted => exact absurd hstate hready
  | _ => rfl

end Steps

/-! ## Runs -/

/-- The row of `t` respects the budget of the task known by that id. -/
def Coordinator.Budgeted (t : ComputeTaskId) (s : Coordinator D) : Prop :=
  ∀ task, s.graph.find t = some task → (s.view t).WithinBudget task.retry.maxAttempts.toNat

section Runs

variable [DoubleArith D] {env : Env} {s s' : Coordinator D} {e : Event D} {t : ComputeTaskId}

/-- A task known after an event was known before it or is the one submitted. -/
theorem CoreSteps.find_origin (h : CoreSteps env s e s s') (hsound : s.Sound) {task : ComputeTask D}
    (htask : s'.graph.find t = some task) :
    s.graph.find t = some task ∨ ∃ client conn req sub, e = .command (.taskSubmit client conn req sub) ∧
      s.accepts sub = true ∧ sub.task = task ∧ task.id = t := by
  let I : Ledger D → Prop := fun l => l.WellFormed ∧ ∀ task, l.graph.find t = some task →
    s.graph.find t = some task ∨ ∃ client conn req sub, e = .command (.taskSubmit client conn req sub) ∧
      s.accepts sub = true ∧ sub.task = task ∧ task.id = t
  have hI : I s'.toLedger := by
    refine h.ledger_invariant (I := I) ?_ ⟨hsound.wellFormed, fun _ h => .inl h⟩
    rintro l l' ⟨hwf, hl⟩ hstep
    refine ⟨hstep.wellFormed hwf, ?_⟩
    intro task' hfound
    rcases hstep.tasks hwf.coherent with hsame | ⟨client, conn, req, sub, he, haccepts, rfl, -, hins⟩
    · exact hl task' (by rwa [TaskGraph.find, hsame] at hfound)
    · rw [TaskGraph.find, hins t] at hfound
      split_ifs at hfound with hid
      · obtain rfl := Option.some.inj hfound
        exact .inr ⟨client, conn, req, sub, he, haccepts, rfl, hid⟩
      · exact hl task' hfound
  exact hI.2 task htask

/-- **One event** keeps the budget. -/
theorem step_budgeted (hsound : s.Sound) (hc : s.keepsBudget env t e = true) (hs : s.Budgeted t)
    (he : step env s e = some s') : s'.Budgeted t := by
  intro task htask
  cases hlocal : e.isLocal with
  | true =>
      have hsteps := step_steps hlocal he
      rcases hsteps.find_origin hsound htask with hknown | ⟨client, conn, req, sub, rfl, haccepts, rfl, hid⟩
      · have hsome : (s.view t).state.isSome = true := by
          have hcoh := hsound.wellFormed.coherent.isSome_states t
          rw [show s.graph.tasks[t]? = some task from hknown] at hcoh
          exact hcoh
        obtain ⟨st, hst⟩ := Option.isSome_iff_exists.mp hsome
        have hstate : s.graph.state t = st := Ledger.state_of_view hst
        cases habs : st.isAbsorbing with
        | true =>
            -- nothing moves or dispatches the task
            obtain ⟨hst', hn⟩ := hsteps.view_invariant
              (J := fun v => v.state = some st ∧ v.dispatched = (s.view t).dispatched) t
              (fun v v' hv hstep => ⟨hstep.absorbing hv.1 habs, (hstep.dispatched_eq (by
                rw [hv.1]
                rintro ⟨⟩
                cases habs)).trans hv.2⟩) hsound.wellFormed ⟨hst, rfl⟩
            obtain ⟨hle, hlt⟩ := hs task hknown
            refine ⟨hn ▸ hle, ?_⟩
            rw [hst', hn]
            intro st' hst''
            rw [← hst] at hst''
            exact hlt st' hst''
        | false =>
            refine (hsteps.view_invariant (J := (s.view t).Budgeted task.retry.maxAttempts.toNat) t ?_
              hsound.wellFormed ⟨hs task hknown, hsome, rfl⟩).1
            intro v v' hv hstep
            exact hstep.budgeted hc hknown (by rw [hstate, habs]) hv
      · -- the count goes with the id: it is the one of any earlier task with this id
        have hn : (s'.view t).dispatched = (s.view t).dispatched := by
          refine hsteps.view_invariant (J := fun v => v.dispatched = (s.view t).dispatched) t ?_
            hsound.wellFormed rfl
          intro v v' hv hstep
          cases hstep with
          | submit hid' hnew' => exact hv
        refine .of_lt ?_
        rw [hn]
        simpa [keepsBudget, hid, haccepts, budgetLeft] using hc
  | false =>
      cases e with
      | restart =>
          have hstarted := step_restart hsound he
          have hd : (s.file.getD {}).tasks[t]? = some task := (hstarted.tasks t).symm.trans htask
          have hview : s'.view t = (s.file.getD {}).view t (s.view t).dispatched := hstarted.view t
          rw [hview]
          refine ⟨(hs task (hsound.file_tasks t task hd)).1, ?_⟩
          intro st hst hawaits
          have hst' : ((s.file.getD {}).view t 0).state = some st := hst
          show (s.view t).dispatched < _
          simpa [keepsBudget, hd, hst', hawaits, budgetLeft] using hc
      | _ => cases hlocal

/-- **Retry budget.** In every run whose steps meet the condition, a task is dispatched at most
    `max_attempts` times, restarts included. -/
theorem retry_budget {events : List (Event D)} (hrun : run env events = some s)
    (hcond : RunMeets env (fun s e => s.keepsBudget env t e = true) events) {task : ComputeTask D}
    (htask : s.graph.find t = some task) : (s.view t).dispatched ≤ task.retry.maxAttempts.toNat := by
  have hbudget := (run_invariant (I := Coordinator.Budgeted t) ?_
    (fun _ _ _ hsound hs hc he => step_budgeted hsound hc hs he) hcond hrun).2
  · exact (hbudget task htask).1
  · intro s hs task htask
    have hnone : s.graph.tasks[t]? = none := ((boot_spec hs).tasks t).trans (by simp)
    rw [TaskGraph.find, hnone] at htask
    cases htask

end Runs

/-- A task that allows two attempts: the first runs when the coordinator restarts, the second is sent to the
    node that comes back. -/
theorem retry_budget_restarted :
    ∃ s task, run (Demo.env 100000 8) [Demo.register 1, Demo.submit 2, .sweep, Demo.started 2, .restart,
        Demo.register 2, .sweep] = some s ∧
      s.graph.find Demo.taskId = some task ∧ task.retry.maxAttempts = 2 ∧
      (s.view Demo.taskId).dispatched = 2 ∧
      (s.view Demo.taskId).dispatched ≤ task.retry.maxAttempts.toNat := by
  have hfacts : ((run (Demo.env 100000 8) [Demo.register 1, Demo.submit 2, .sweep, Demo.started 2, .restart,
      Demo.register 2, .sweep]).map fun s => ((s.view Demo.taskId).dispatched,
        (s.graph.find Demo.taskId).map fun task => task.retry.maxAttempts)) = some (2, some 2) := by
    decide +kernel
  obtain ⟨s, hs, hfacts⟩ := Option.map_eq_some_iff.mp hfacts
  obtain ⟨hn, hmax⟩ := Prod.mk.inj hfacts
  obtain ⟨task, hfind, hmax⟩ := Option.map_eq_some_iff.mp hmax
  exact ⟨s, task, hs, hfind, hmax, hn, retry_budget hs (by decide +kernel) hfind⟩

/-- A task that allows one attempt is dispatched again when its node is slow to start it. -/
theorem timeout_exceeds_budget :
    ((run (Demo.env 100000 6) [Demo.register 1, Demo.submit 1, .sweep, .sweep]).map fun s =>
      ((s.graph.find Demo.taskId).map fun task => task.retry.maxAttempts,
        (s.view Demo.taskId).dispatched)) = some (some 1, 2) := by
  decide +kernel

end ComputeFabric
