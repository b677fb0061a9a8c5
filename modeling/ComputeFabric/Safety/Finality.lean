import ComputeFabric.Coordinator.Invariants

/-!
# `Safety.Finality` — what is over stays over

A task in a terminal state should be finished: in a terminal state after every later event, and never
dispatched again.

The table itself does not give that. It leads from `Failed`, `Lost` and `Preempted` on to `RetryPending`, for
the handlers that pass through one of these on the way to a retry; and two handlers request `RetryPending`
without asking whether the task was over already. A report of failure counts the retries from the attempt it
names, however old, and the loss of a node retries every task with a live record there. `keepsFinal` leaves out
these two events, and a restart on a file that was never told of the end; `terminal_final` shows that nothing
else reopens a task.
-/

namespace ComputeFabric

open Coordinator
open ExecutionAttempt (markStarted markCommitted markFailed markCancelled)

variable {D : Type}

/-! ## The condition -/

/-- Terminal, but with a way back in the table. -/
def TaskState.reopens (st : TaskState) : Bool := st.isTerminal && st.isLegal .retryPending

/-- The event does not send the finished task `t` into a retry, or restore it as unfinished. -/
def Coordinator.keepsFinal (env : Env) (t : ComputeTaskId) (s : Coordinator D) : Event D → Bool
  | .command (.attemptFailed _ _ fa) =>
      match s.findActiveAttempt fa.attemptId with
      | none => true
      | some (_, a) =>
          a.taskId ≠ t || a.coordinatorEpoch ≠ s.durable.epoch || a.state = .succeeded || a.committed ||
            !(s.graph.state t).reopens || !s.retriesFailure a (.ofUInt8 fa.failureKind)
  | .sweep =>
      (s.lostNodes env (s.now env)).all fun n =>
        t ∉ s.affectedBy n || !(s.graph.state t).reopens ||
          !(s.graph.find t).any fun task => retriesNodeLoss task
  | .restart =>
      !(s.graph.state t).isTerminal || ((s.file.getD {}).view t 0).state.any fun st => st.isTerminal
  | _ => true

/-! ## One task -/

namespace TaskState

theorem isAbsorbing_or_reopens {st : TaskState} (h : st.isTerminal = true) :
    st.isAbsorbing = true ∨ st.reopens = true := by
  cases st <;> first | exact .inl rfl | exact .inr rfl | cases h

/-- Only a request for `ready` or `retryPending` leads out of the terminal states. -/
theorem isTerminal_next {st dst : TaskState} (h : st.isTerminal = true) (hready : dst ≠ ready)
    (hretry : dst ≠ retryPending) : (next st dst).isTerminal = true := by
  cases st <;> cases dst <;>
    first | rfl | exact absurd rfl hready | exact absurd rfl hretry | cases h

end TaskState

/-- The task is over and was dispatched `n` times; `reopens` says whether the table has a way back. -/
def TaskView.Over (reopens : Bool) (n : Nat) (v : TaskView D) : Prop :=
  ∃ st, v.state = some st ∧ st.isTerminal = true ∧ (reopens = true ∨ st.isAbsorbing = true) ∧
    v.dispatched = n

namespace TaskView

variable {reopens : Bool} {n : Nat} {v : TaskView D}

/-- What is over survives every request but one for a retry, and that one too if the table refuses it. -/
theorem Over.move (h : v.Over reopens n) {dst : TaskState} (hready : dst ≠ .ready)
    (hretry : dst = .retryPending → reopens = false) : (v.move dst).Over reopens n := by
  obtain ⟨st, hst, hterm, hway, hn⟩ := h
  have hmove : (v.move dst).state = some (st.next dst) := by
    show v.state.map _ = _
    rw [hst]
    rfl
  rcases hway with hway | habs
  · refine ⟨st.next dst, hmove, TaskState.isTerminal_next hterm hready ?_, .inl hway, hn⟩
    intro hdst
    rw [hretry hdst] at hway
    cases hway
  · rw [TaskState.next_absorbing habs] at hmove
    exact ⟨st, hmove, hterm, .inr habs, hn⟩

theorem Over.isTerminal (h : v.Over reopens n) {st : TaskState} (hst : v.state = some st) :
    st.isTerminal = true := by
  obtain ⟨st', hst', hterm, -, -⟩ := h
  rw [hst] at hst'
  rwa [Option.some.inj hst']

end TaskView

section Steps

variable {env : Env} {s : Coordinator D} {t : ComputeTaskId} {e : Event D}

theorem afterFailure_ne_ready (retryAt : Option Int64) : Ledger.afterFailure retryAt ≠ .ready := by
  rcases Ledger.afterFailure_eq retryAt with hr | hr <;> rw [hr] <;> decide

theorem isSome_of_afterFailure {retryAt : Option Int64} (h : Ledger.afterFailure retryAt = .retryPending) :
    retryAt.isSome = true := by
  cases retryAt with
  | none => cases h
  | some time => rfl

/-- No transition of a finished task reopens it or dispatches it. -/
theorem TaskStep.over {v v' : TaskView D} {n : Nat} (h : TaskStep env s t e v v')
    (hc : s.keepsFinal env t e = true) (hv : v.Over (s.graph.state t).reopens n) :
    v'.Over (s.graph.state t).reopens n := by
  cases h with
  | submit hid hnew =>
      obtain ⟨st, hst, -⟩ := hv
      rw [hnew] at hst
      cases hst
  | unblock hstate => cases hv.isTerminal hstate
  | @fail conn req fa i a time retryAt hfind htask hepoch hstate hcommitted hretry =>
      dsimp only
      split_ifs
      · exact hv
      · refine TaskView.Over.move (v := ((s.view t).rewrite i _).release) hv (afterFailure_ne_ready _) ?_
        intro hafter
        rw [isSome_of_afterFailure hafter] at hretry
        simpa [keepsFinal, hfind, htask, hepoch, hstate, hcommitted, ← hretry] using hc
  | requestCancel hstate => exact hv
  | @lose v m task retryAt hlost haffected hattempts htask hretry =>
      have hmoved := (hv.move (by decide) (fun h => by cases h) : (v.move .lost).Over _ n)
      refine hmoved.move (afterFailure_ne_ready _) ?_
      intro hafter
      rw [isSome_of_afterFailure hafter] at hretry
      have hn := List.all_eq_true.mp hc m hlost
      simpa [haffected, htask, ← hretry] using hn
  | timeout hstale hattempts hstate => cases hv.isTerminal hstate
  | requeue hstate => cases hv.isTerminal hstate
  | expireReady hstate => cases hv.isTerminal hstate
  | dispatch hstate hlive hcommitted => cases hv.isTerminal hstate
  | _ => exact TaskView.Over.move hv (by decide) fun h => by cases h

end Steps

/-! ## Runs -/

section Runs

variable [DoubleArith D] {env : Env}

omit [DoubleArith D] in
theorem view_state_of_isTerminal {s : Coordinator D} {t : ComputeTaskId}
    (h : (s.graph.state t).isTerminal = true) : (s.view t).state = some (s.graph.state t) := by
  show s.graph.states[t]? = some (s.graph.states[t]?.getD .submitted)
  cases hst : s.graph.states[t]? with
  | none =>
      rw [TaskGraph.state, hst] at h
      cases h
  | some st => rfl

/-- **One event** leaves a finished task finished. -/
theorem step_terminal {s s' : Coordinator D} {e : Event D} {t : ComputeTaskId} (hsound : s.Sound)
    (hc : s.keepsFinal env t e = true) (hterm : (s.graph.state t).isTerminal = true)
    (he : step env s e = some s') :
    (s'.graph.state t).isTerminal = true ∧ (s'.view t).dispatched = (s.view t).dispatched := by
  cases hlocal : e.isLocal with
  | true =>
      have hover : (s.view t).Over (s.graph.state t).reopens (s.view t).dispatched :=
        ⟨_, view_state_of_isTerminal hterm, hterm, (TaskState.isAbsorbing_or_reopens hterm).symm, rfl⟩
      obtain ⟨st, hst, hst', -, hn⟩ := (step_steps hlocal he).view_invariant t
        (fun v v' hv hstep => hstep.over hc hv) hsound.wellFormed hover
      exact ⟨by rwa [Ledger.state_of_view hst], hn⟩
  | false =>
      cases e with
      | restart =>
          have hstarted := step_restart hsound he
          have hview := hstarted.view t
          have hfile : (((s.file.getD {}).view t 0).state.any fun st => st.isTerminal) = true := by
            simpa [keepsFinal, hterm] using hc
          obtain ⟨st, hst, hst'⟩ := (Option.any_eq_true _ _).mp hfile
          have hstate : (s'.view t).state = some st := by
            rw [hview]
            exact hst
          exact ⟨by rwa [Ledger.state_of_view hstate], by rw [hview]; rfl⟩
      | _ => cases hlocal

/-- **Terminal is final.** From any reachable state, and through any later events that meet the condition:
    a task that is in a terminal state stays in one and is not dispatched again. -/
theorem terminal_final {events after : List (Event D)} {s s' : Coordinator D} {t : ComputeTaskId}
    (hrun : run env events = some s) (hafter : runFrom env s after = some s')
    (hcond : Lts.Along (step env) (fun s e => s.keepsFinal env t e = true) s after)
    (hterm : (s.graph.state t).isTerminal = true) :
    (s'.graph.state t).isTerminal = true ∧ (s'.view t).dispatched = (s.view t).dispatched := by
  refine (Lts.run_invariant (I := fun x => x.Sound ∧ (x.graph.state t).isTerminal = true ∧
    (x.view t).dispatched = (s.view t).dispatched) ?_ ⟨run_sound hrun, hterm, rfl⟩ hcond hafter).2
  rintro x e x' ⟨hsound, hx, hn⟩ hc he
  obtain ⟨hx', hn'⟩ := step_terminal hsound hc hx he
  exact ⟨step_sound hsound he, hx', hn'.trans hn⟩

end Runs

/-- A preempted task stays over when its attempt reports again, the node is swept and the coordinator
    restarts. -/
theorem terminal_final_preempted :
    ∃ s s', run (Demo.env 3000 100) [Demo.register 1, Demo.submit 1, .sweep, Demo.started 2,
        Demo.cancelled 2] = some s ∧
      runFrom (Demo.env 3000 100) s [Demo.failed 2, .sweep, .restart, .sweep] = some s' ∧
      s.graph.state Demo.taskId = .preempted ∧ (s'.graph.state Demo.taskId).isTerminal = true ∧
      (s'.view Demo.taskId).dispatched = (s.view Demo.taskId).dispatched := by
  have hfacts : ((run (Demo.env 3000 100) [Demo.register 1, Demo.submit 1, .sweep, Demo.started 2,
      Demo.cancelled 2]).map fun s => (s.graph.state Demo.taskId,
        (runFrom (Demo.env 3000 100) s [Demo.failed 2, .sweep, .restart, .sweep]).isSome,
        decide (Lts.Along (step (Demo.env 3000 100))
          (fun s e => s.keepsFinal (Demo.env 3000 100) Demo.taskId e = true) s
          [Demo.failed 2, .sweep, .restart, .sweep]))) = some (.preempted, true, true) := by
    decide +kernel
  obtain ⟨s, hs, hfacts⟩ := Option.map_eq_some_iff.mp hfacts
  obtain ⟨hstate, hrest⟩ := Prod.mk.inj hfacts
  obtain ⟨hsome, halong⟩ := Prod.mk.inj hrest
  obtain ⟨s', hs'⟩ := Option.isSome_iff_exists.mp hsome
  exact ⟨s, s', hs, hs', hstate,
    terminal_final hs hs' (of_decide_eq_true halong) (by rw [hstate]; rfl)⟩

/-- A preempted task whose only attempt is then reported as failed is retried, and dispatched a second
    time. -/
theorem late_failure_reopens :
    ((run (Demo.env 100000 9) [Demo.register 1, Demo.submit 3, .sweep, Demo.started 2,
      Demo.cancelled 2]).map fun s => (s.graph.state Demo.taskId, (s.view Demo.taskId).dispatched)) =
        some (.preempted, 1) ∧
    ((run (Demo.env 100000 9) [Demo.register 1, Demo.submit 3, .sweep, Demo.started 2,
      Demo.cancelled 2, Demo.failed 2]).map fun s => s.graph.state Demo.taskId) = some .retryPending ∧
    ((run (Demo.env 100000 9) [Demo.register 1, Demo.submit 3, .sweep, Demo.started 2,
      Demo.cancelled 2, Demo.failed 2, .sweep]).map fun s =>
        (s.graph.state Demo.taskId, (s.view Demo.taskId).dispatched)) = some (.dispatching, 2) := by
  decide +kernel

end ComputeFabric
