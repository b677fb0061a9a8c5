import ComputeFabric.Coordinator.Invariants

/-!
# `Safety.Commit` — a task commits at most once

A task has at most one committed attempt, and it has one exactly when it is `Succeeded`. The commit is two
writes, the attempt's flag and the task's state, and the second one is gated: `Dispatching → Succeeded` is
not in the lifecycle table, while `handle_attempt_complete` accepts a completion for a `Dispatching` task.
Such a completion leaves a committed attempt on a task that is still due for dispatch
(`early_completion_commits_twice`); without one, the property holds in every run (`commit_at_most_once`).
-/

namespace ComputeFabric

open Coordinator
open ExecutionAttempt (markStarted markCommitted markFailed markCancelled)

variable {D : Type}

/-! ## The condition -/

/-- The event commits no attempt of a task that has not been reported running. -/
def Coordinator.commitsWhileRunning (s : Coordinator D) : Event D → Bool
  | .command (.attemptComplete _ _ co) =>
      (s.commits co).all fun a => s.graph.state a.taskId = .running
  | _ => true

/-! ## The invariant of one task -/

/-- At most one attempt is committed, and one is exactly when the task has succeeded. -/
structure TaskView.CommittedOnce (v : TaskView D) : Prop where
  once : (v.attempts.map ExecutionAttempt.committed).count true ≤ 1
  succeeded_iff : v.state = some .succeeded ↔ true ∈ v.attempts.map ExecutionAttempt.committed

namespace TaskView.CommittedOnce

variable {v v' : TaskView D}

/-- The invariant reads the commit flags and whether the task has succeeded. -/
theorem congr (h : v.CommittedOnce)
    (hflags : v'.attempts.map ExecutionAttempt.committed = v.attempts.map ExecutionAttempt.committed)
    (hstate : v'.state = some .succeeded ↔ v.state = some .succeeded) : v'.CommittedOnce :=
  ⟨hflags ▸ h.once, by rw [hflags, hstate, h.succeeded_iff]⟩

theorem unknown : (TaskView.unknown : TaskView D).CommittedOnce where
  once := by simp [TaskView.unknown]
  succeeded_iff := by simp [TaskView.unknown]

/-- Only a commit moves a task to `Succeeded`. -/
theorem move (h : v.CommittedOnce) (st : TaskState) (hst : st ≠ .succeeded) :
    (v.move st).CommittedOnce := by
  refine h.congr rfl ?_
  rw [TaskView.move_state]
  cases v.state with
  | none => simp
  | some cur => simp [TaskState.next_eq_succeeded, hst]

theorem release (h : v.CommittedOnce) : v.release.CommittedOnce := ⟨h.once, h.succeeded_iff⟩

theorem uncancel (h : v.CommittedOnce) : v.uncancel.CommittedOnce := ⟨h.once, h.succeeded_iff⟩

theorem rewrite (h : v.CommittedOnce) (i : Nat) (f : ExecutionAttempt D → ExecutionAttempt D)
    (hf : ∀ a, (f a).committed = a.committed) : (v.rewrite i f).CommittedOnce :=
  h.congr (TaskView.map_modify i f _ _ hf) Iff.rfl

/-- The commit of a running task. -/
theorem commit (h : v.CommittedOnce) (hrunning : v.state = some .running) {i : Nat}
    {a : ExecutionAttempt D} (ha : v.attempts[i]? = some a) (co : AttemptComplete D) (time : Int64) :
    ((v.rewrite i (markCommitted co time)).move .succeeded).CommittedOnce := by
  -- nothing was committed before, since the task has not succeeded
  have hnone : true ∉ v.attempts.map ExecutionAttempt.committed := by
    rw [← h.succeeded_iff, hrunning]
    simp
  obtain ⟨hi, -⟩ := List.getElem?_eq_some_iff.mp ha
  have hflags : (v.attempts.modify i (markCommitted co time)).map ExecutionAttempt.committed =
      (v.attempts.map ExecutionAttempt.committed).set i true := by
    apply List.ext_getElem?
    intro j
    rw [List.getElem?_map, List.getElem?_modify, List.getElem?_set, List.getElem?_map]
    by_cases hij : i = j
    · subst hij
      rw [ha]
      simp [markCommitted, hi]
    · simp [hij]
  constructor
  · show ((v.attempts.modify i _).map ExecutionAttempt.committed).count true ≤ 1
    rw [hflags, List.count_set (by simpa using hi), List.count_eq_zero_of_not_mem hnone]
    simp
  · show (v.state.map fun cur => cur.next .succeeded) = some .succeeded ↔
      true ∈ (v.attempts.modify i _).map ExecutionAttempt.committed
    rw [hflags, hrunning]
    refine iff_of_true rfl (List.mem_set (by simpa using hi) true)

theorem restored (h : v.CommittedOnce) (retry : Bool) (n : Nat) :
    (v.restored retry n).CommittedOnce where
  once := (List.filter_sublist.map ExecutionAttempt.committed).count_le true |>.trans h.once
  succeeded_iff := by
    have hmem : true ∈ (v.restored retry n).attempts.map ExecutionAttempt.committed ↔
        true ∈ v.attempts.map ExecutionAttempt.committed := by
      simp [TaskView.restored]
    rw [hmem, ← h.succeeded_iff]
    show v.state.map (recoveredState retry) = some .succeeded ↔ _
    cases v.state with
    | none => simp
    | some st => simp [recoveredState_eq_succeeded]

end TaskView.CommittedOnce

/-! ## The theorem -/

theorem TaskStep.committedOnce {env : Env} {s : Coordinator D} {t : ComputeTaskId} {e : Event D} {v v' : TaskView D}
    (hstep : TaskStep env s t e v v') (hcond : s.commitsWhileRunning e = true) (h : v.CommittedOnce) :
    v'.CommittedOnce := by
  cases hstep with
  | submit hid hnew =>
      refine h.congr rfl ?_
      rw [hnew]
      unfold Ledger.initialState
      split_ifs <;> simp
  | start hfind htask hepoch => exact (h.rewrite _ (markStarted _) fun _ => rfl).move .running (by decide)
  | commit hfind htask hcommitted hcancel hvalid =>
      have hcommits := Coordinator.commits_eq_some hfind hcommitted (htask ▸ hcancel) hvalid
      have hrunning : s.graph.state t = .running := by
        simpa [Coordinator.commitsWhileRunning, hcommits, htask] using hcond
      exact (h.commit ((Ledger.state_eq_iff (by decide)).mp hrunning) (Ledger.findActiveAttempt_eq_some hfind).1
        _ _).release.uncancel
  | abandon hfind htask hcommitted hcancel =>
      exact ((h.rewrite _ (markCancelled _ _) fun _ => rfl).move .preempted (by decide)).release
  | unblock hstate => exact h.move .ready (by decide)
  | @fail conn req fa i a time retryAt hfind htask hepoch hstate hcommitted hretry =>
      have hreleased := (h.rewrite i (markFailed (.ofUInt8 fa.failureKind) fa.failureReason time)
        fun _ => rfl).release
      dsimp only
      split_ifs
      · exact hreleased
      · refine hreleased.move _ ?_
        rcases Ledger.afterFailure_eq retryAt with hst | hst <;> rw [hst] <;> decide
  | cancelAttempt hfind htask hepoch =>
      exact (h.rewrite _ (markCancelled _ _) fun _ => rfl).release.move .preempted (by decide)
  | requestCancel hstate => exact ⟨h.once, h.succeeded_iff⟩
  | cancelTask hstate hterminal hrunning hlegal => exact (h.move .cancelled (by decide)).release.uncancel
  | @lose v n task retryAt hlost haffected hattempts htask hretry =>
      refine ((h.move .lost (by decide)).move _ ?_).release
      rcases Ledger.afterFailure_eq retryAt with hst | hst <;> rw [hst] <;> decide
  | timeout hstale hattempts hstate => exact h.release.move .ready (by decide)
  | requeue hstate => exact h.move .ready (by decide)
  | expire hstate hst => exact h.release.move .expired (by decide)
  | expireReady hstate => exact h.move .expired (by decide)
  | dispatch hstate hlive hcommitted =>
      constructor
      · simpa [hcommitted] using h.once
      · have := h.succeeded_iff
        simpa [hstate, hcommitted] using this

section

variable [DoubleArith D] {env : Env}

/-- **At-most-once commit.** In a run that commits running tasks only, a task has at most one committed
    attempt, and has one exactly when it has succeeded. -/
theorem commit_at_most_once {events : List (Event D)} {s : Coordinator D}
    (hrun : run env events = some s)
    (hcond : RunMeets env (fun s e => s.commitsWhileRunning e = true) events) (t : ComputeTaskId) :
    (s.attemptsOf t).countP (fun a => a.committed) ≤ 1 ∧
      (s.graph.state t = .succeeded ↔ ∃ a ∈ s.attemptsOf t, a.committed = true) := by
  have hinv : (s.view t).CommittedOnce :=
    run_view_invariant t .unknown (fun _ _ _ _ _ hc hv hstep => hstep.committedOnce hc hv)
      (fun retry n _ hv => hv.restored retry n) hcond hrun
  refine ⟨?_, ?_⟩
  · simpa [List.count, List.countP_map, Function.comp_def, Ledger.view] using hinv.once
  · rw [Ledger.state_eq_iff (by decide)]
    exact hinv.succeeded_iff.trans (by simp [Ledger.view])

end

/-- One attempt of one task, reported started and then complete. -/
theorem commit_at_most_once_single :
    ∃ s, run (Demo.env 3000 100) [Demo.register 1, Demo.submit 1, .sweep, Demo.started 2, Demo.complete 2 1] =
        some s ∧
      (s.attemptsOf Demo.taskId).countP (fun a => a.committed) ≤ 1 ∧
      (s.graph.state Demo.taskId = .succeeded ↔
        ∃ a ∈ s.attemptsOf Demo.taskId, a.committed = true) := by
  obtain ⟨s, hs⟩ := Option.isSome_iff_exists.mp (show (run (Demo.env 3000 100) [Demo.register 1,
    Demo.submit 1, .sweep, Demo.started 2, Demo.complete 2 1]).isSome = true by decide +kernel)
  exact ⟨s, hs, commit_at_most_once hs (by decide +kernel) Demo.taskId⟩

/-- A completion that overtakes the start report commits the first attempt and leaves the task
    `Dispatching`; the dispatch times out, and a second attempt commits as well. -/
theorem early_completion_commits_twice :
    ((run (Demo.env 100000 7) [Demo.register 1, Demo.submit 1, .sweep, Demo.complete 2 1, .sweep,
        Demo.complete 4 3]).map fun s =>
      (s.graph.state Demo.taskId, (s.attemptsOf Demo.taskId).map fun a => a.committed)) =
    some (.dispatching, [true, true]) := by
  decide +kernel

end ComputeFabric
