import ComputeFabric.Coordinator.Invariants

/-!
# `Safety.Cancellation` — a cancelled task never succeeds

`handle_task_cancel` takes two routes. A task that is not running is moved to `Cancelled`, which absorbs; a
running one only gets its flag set in `cancel_requested_`, and every completion of one of its attempts is
turned into `Preempted` from then on. The flag is erased in two places: by the second route, which leaves
`Cancelled` behind, and by a commit, which the flag itself prevents. So within one process either the flag or
`Cancelled` stays, and neither admits a commit.

- `TaskView.Called` — the row of a task whose cancellation was accepted.
- `cancelled_never_succeeds` — no later event of the process commits one of its attempts.
-/

namespace ComputeFabric

open Coordinator
open ExecutionAttempt (markStarted markCommitted markFailed markCancelled)

variable {D : Type}

/-! ## The answer -/

/-- The answer of `handle_task_cancel`. -/
def Coordinator.cancelResponse (s : Coordinator D) (t : ComputeTaskId) : TaskCancelResponse :=
  match s.graph.find t with
  | none => ⟨false, false, text "task not found"⟩
  | some _ =>
      let st := s.graph.state t
      if st.isTerminal then ⟨true, false, text ("task already " ++ st.name)⟩
      else if st = .running then ⟨true, true, text "cancel requested; will take effect cooperatively"⟩
      else match s.graph.setState t .cancelled with
        | .error e => ⟨true, false, e.message⟩
        | .ok _ => ⟨true, true, []⟩

/-- A running task's cancellation up to the answer: the flag is set and the attempt's node is told. -/
def Coordinator.cancelNotice (env : Env) (t : ComputeTaskId) (s : Coordinator D) : Coordinator D :=
  let s := s.onLedger fun l => (l.requestCancel t).touchAttempts t
  match s.outstandingAttempt t with
  | some a => s.sendToNode env a.nodeId (.attemptCancel a.id (text "task cancelled by client"))
  | none => s

/-- **The three outcomes of a cancellation**: refused, requested of a running task, or done and saved. Each
    ends with the answer. -/
theorem handleTaskCancel_cases (env : Env) (s : Coordinator D) (client : Id128) (conn : ConnId) (req : UInt64)
    (t : ComputeTaskId) :
    ((s.cancelResponse t).cancelled = false ∧ s.handleTaskCancel env client conn req t =
        s.respondClient env client conn req (.taskCancelResponse (s.cancelResponse t))) ∨
      ((s.cancelResponse t).cancelled = true ∧ s.graph.states[t]? = some .running ∧
        s.handleTaskCancel env client conn req t =
          (s.cancelNotice env t).respondClient env client conn req (.taskCancelResponse (s.cancelResponse t))) ∨
      ((s.cancelResponse t).cancelled = true ∧ ∃ st, s.graph.states[t]? = some st ∧ st.isTerminal = false ∧
        st ≠ .running ∧ st.isLegal .cancelled = true ∧ s.handleTaskCancel env client conn req t =
          ((s.onLedger fun l => l.cancelTask t).persist env).respondClient env client conn req
            (.taskCancelResponse (s.cancelResponse t))) := by
  unfold handleTaskCancel cancelResponse
  cases hfind : s.graph.find t with
  | none => exact .inl ⟨rfl, rfl⟩
  | some task =>
      dsimp only
      by_cases hterminal : (s.graph.state t).isTerminal = true
      · simp only [if_pos hterminal]
        exact .inl ⟨trivial, trivial⟩
      simp only [if_neg hterminal]
      by_cases hrunning : s.graph.state t = .running
      · simp only [if_pos hrunning]
        exact .inr (.inl ⟨trivial, (Ledger.state_eq_iff (by decide)).mp hrunning, rfl⟩)
      simp only [if_neg hrunning]
      cases hset : s.graph.setState t .cancelled with
      | error err => exact .inl ⟨rfl, rfl⟩
      | ok g =>
          obtain ⟨cur, hcur, hlegal⟩ := TaskGraph.legal_of_setState hset
          rw [Ledger.state_of_view hcur] at hterminal hrunning
          exact .inr (.inr ⟨rfl, cur, hcur, by simpa using hterminal, hrunning, hlegal, rfl⟩)

/-! ## The row of a cancelled task -/

/-- The task has not succeeded, and its cancellation is either requested or done. -/
def TaskView.Called (v : TaskView D) : Prop :=
  v.state ≠ some .succeeded ∧ (v.cancel = true ∨ v.state = some .cancelled)

theorem TaskView.Called.move {v : TaskView D} (h : v.Called) {dst : TaskState} (hdst : dst ≠ .succeeded) :
    (v.move dst).Called := by
  obtain ⟨hne, hcalled⟩ := h
  constructor
  · intro hst
    obtain ⟨cur, hcur, hnext⟩ := Option.map_eq_some_iff.mp hst
    rw [TaskState.eq_of_next_eq hnext hdst] at hcur
    exact hne hcur
  · rcases hcalled with hflag | hst
    · exact .inl hflag
    · exact .inr (TaskView.move_absorbing hst rfl dst)

section Steps

variable (env : Env) {s : Coordinator D} {t : ComputeTaskId}

theorem cancelNotice_toLedger (t : ComputeTaskId) :
    (s.cancelNotice env t).toLedger = (s.toLedger.requestCancel t).touchAttempts t := by
  unfold cancelNotice
  dsimp only
  split
  · exact sendToNode_toLedger _ _ _ _
  · rfl

/-- What an accepted cancellation does to the books: one of its two routes. -/
theorem handleTaskCancel_accepted (client : Id128) (conn : ConnId) (req : UInt64)
    (h : (s.cancelResponse t).cancelled = true) :
    (s.graph.states[t]? = some .running ∧ (s.handleTaskCancel env client conn req t).toLedger =
        (s.toLedger.requestCancel t).touchAttempts t) ∨
      ((s.view t).move .cancelled).state = some .cancelled ∧
        (s.handleTaskCancel env client conn req t).toLedger = s.toLedger.cancelTask t := by
  rcases handleTaskCancel_cases env s client conn req t with
    ⟨hrefused, -⟩ | ⟨-, hrunning, hhandler⟩ | ⟨-, st, hst, -, -, hlegal, hhandler⟩
  · rw [h] at hrefused
    cases hrefused
  · refine .inl ⟨hrunning, ?_⟩
    rw [hhandler, respondClient_toLedger, cancelNotice_toLedger]
  · refine .inr ⟨?_, ?_⟩
    · show s.graph.states[t]?.map _ = _
      rw [hst, Option.map_some, TaskState.next, if_pos hlegal]
    · rw [hhandler, respondClient_toLedger, persist_toLedger]
      rfl

/-- An accepted cancellation leaves its mark, and no attempt is touched. -/
theorem handleTaskCancel_called (client : Id128) (conn : ConnId) (req : UInt64)
    (h : (s.cancelResponse t).cancelled = true) :
    ((s.handleTaskCancel env client conn req t).view t).Called ∧
      ((s.handleTaskCancel env client conn req t).view t).attempts = (s.view t).attempts := by
  rcases handleTaskCancel_accepted env client conn req h with ⟨hstate, hledger⟩ | ⟨hnext, hledger⟩
  · rw [hledger, Ledger.view_touchAttempts, Ledger.view_requestCancel, if_pos rfl]
    refine ⟨⟨?_, .inl rfl⟩, rfl⟩
    show s.graph.states[t]? ≠ some .succeeded
    rw [hstate]
    decide
  · rw [hledger, Ledger.view_cancelTask, if_pos rfl]
    refine ⟨⟨?_, .inr hnext⟩, rfl⟩
    show ((s.view t).move .cancelled).state ≠ some .succeeded
    rw [hnext]
    decide

omit env in
/-- A cancelled task admits no commit. -/
theorem not_commits_of_called (hs : (s.view t).Called) {co : AttemptComplete D} {a : ExecutionAttempt D}
    (h : s.commits co = some a) : a.taskId ≠ t := by
  rintro rfl
  rcases hs.2 with hflag | hst
  · have hclear := cancel_of_commits h
    rw [show s.isCancelRequested a.taskId = true from hflag] at hclear
    cases hclear
  · have hstate := Ledger.state_of_view hst
    rcases (live_of_commits h).2 with hrun | hdisp
    · rw [hrun] at hstate
      cases hstate
    · rw [hdisp] at hstate
      cases hstate

/-- **One transition** of a cancelled task keeps it cancelled. -/
theorem TaskStep.called {env : Env} {e : Event D} {v v' : TaskView D} (h : TaskStep env s t e v v')
    (hs : (s.view t).Called)
    (hv : v.Called) : v'.Called := by
  cases h with
  | submit hid hnew =>
      -- the flag of a task the graph does not know is kept as well
      rcases hv.2 with hflag | hst
      · refine ⟨?_, .inl hflag⟩
        unfold Ledger.initialState
        split_ifs <;> simp
      · rw [hnew] at hst
        cases hst
  | commit hfind htask hcommitted hcancel hvalid =>
      exact absurd htask (not_commits_of_called hs (commits_eq_some hfind hcommitted (htask ▸ hcancel) hvalid))
  | fail hfind htask hepoch hstate hcommitted hretry =>
      dsimp only
      split_ifs
      · exact hv
      · refine TaskView.Called.move (v := ((s.view t).rewrite _ _).release) hv ?_
        rcases Ledger.afterFailure_eq _ with hr | hr <;> rw [hr] <;> decide
  | requestCancel hstate => exact ⟨hv.1, .inl rfl⟩
  | cancelTask hstate hterminal hrunning hlegal =>
      have hnext : ((s.view t).move .cancelled).state = some .cancelled := by
        rw [TaskView.move_state, hstate, Option.map_some, TaskState.next, if_pos hlegal]
      exact ⟨by show ((s.view t).move .cancelled).state ≠ _; rw [hnext]; decide, .inr hnext⟩
  | lose hlost haffected hattempts htask hretry =>
      refine TaskView.Called.move (TaskView.Called.move hv (by decide)) ?_
      rcases Ledger.afterFailure_eq _ with hr | hr <;> rw [hr] <;> decide
  | dispatch hstate hlive hcommitted =>
      rcases hv.2 with hflag | hst
      · exact ⟨by simp, .inl hflag⟩
      · rw [hstate] at hst
        cases hst
  | _ => exact TaskView.Called.move hv (by decide)

end Steps

/-! ## Runs -/

section Runs

variable [DoubleArith D] {env : Env} {s s' : Coordinator D} {t : ComputeTaskId}

/-- **One event** of the process keeps a cancelled task cancelled, and commits none of its attempts. -/
theorem step_called {e : Event D} (hsound : s.Sound) (hs : (s.view t).Called) (hlocal : e.isLocal = true)
    (he : step env s e = some s') :
    (s'.view t).Called ∧ ∀ i : Nat, ((s'.attemptsOf t)[i]?.map ExecutionAttempt.committed) = some true →
      ((s.attemptsOf t)[i]?.map ExecutionAttempt.committed) = some true := by
  have hsteps := step_steps hlocal he
  refine ⟨hsteps.view_invariant t (fun v v' hv hstep => hstep.called hs hv) hsound.wellFormed hs, ?_⟩
  intro i hi
  refine hsteps.view_invariant t (J := fun v => (v.attempts[i]?.map ExecutionAttempt.committed) = some true →
    ((s.attemptsOf t)[i]?.map ExecutionAttempt.committed) = some true) ?_ hsound.wellFormed id hi
  intro v v' hv hstep hv'
  rcases hstep.committed_origin hv' with hold | ⟨conn, req, co, a, -, hcommits, ha⟩
  · exact hv hold
  · exact absurd (hsound.wellFormed.keyed t a (List.mem_of_getElem? ha)) (not_commits_of_called hs hcommits)

/-- **A cancelled task never succeeds.** From any reachable state in which `handle_task_cancel` answers
    `cancelled = true` for `t`, and through any later events of the same process: `t` is not `Succeeded`, no
    completion would commit one of its attempts, and none of its attempts has become committed. -/
theorem cancelled_never_succeeds {events after : List (Event D)} (hrun : run env events = some s)
    (hcancel : (s.cancelResponse t).cancelled = true) (client : Id128) (conn : ConnId) (req : UInt64)
    (hafter : runFrom env (s.process env (.taskCancel client conn req t)) after = some s')
    (hlocal : ∀ e ∈ after, e.isLocal = true) :
    s'.graph.state t ≠ .succeeded ∧
      (∀ co a, s'.commits co = some a → a.taskId ≠ t) ∧
      ∀ i : Nat, ((s'.attemptsOf t)[i]?.map ExecutionAttempt.committed) = some true →
        ((s.attemptsOf t)[i]?.map ExecutionAttempt.committed) = some true := by
  have hsound := run_sound hrun
  obtain ⟨hcalled, hattempts⟩ := handleTaskCancel_called env client conn req hcancel
  have hstep : step env s (.command (.taskCancel client conn req t)) =
    some (s.process env (.taskCancel client conn req t)) := rfl
  have halong : Lts.Along (step env) (fun _ e => True ∧ e.isLocal = true)
      (s.process env (.taskCancel client conn req t)) after :=
    (Lts.Along.of_forall fun _ _ => trivial).and_mem hlocal
  obtain ⟨-, hcalled', hcommitted⟩ := Lts.run_invariant (I := fun x : Coordinator D => x.Sound ∧
      (x.view t).Called ∧ ∀ i : Nat, ((x.attemptsOf t)[i]?.map ExecutionAttempt.committed) = some true →
        ((s.attemptsOf t)[i]?.map ExecutionAttempt.committed) = some true)
    (fun x e x' hx hc he => by
      obtain ⟨hxsound, hx, hxi⟩ := hx
      obtain ⟨hx', hxi'⟩ := step_called hxsound hx hc.2 he
      exact ⟨step_sound hxsound he, hx', fun i hi => hxi i (hxi' i hi)⟩)
    ⟨step_sound hsound hstep, hcalled, fun i hi => by
      rwa [show (s.process env (.taskCancel client conn req t)).attemptsOf t = s.attemptsOf t from
        hattempts] at hi⟩ halong hafter
  refine ⟨?_, fun co a h => not_commits_of_called hcalled' h, hcommitted⟩
  intro hst
  exact hcalled'.1 ((Ledger.state_eq_iff (by decide)).mp hst)

end Runs

/-- A running task is cancelled; its node then reports that the attempt completed, the coordinator sweeps, and
    the client cancels again. -/
theorem cancelled_never_succeeds_running :
    ∃ s s', run (Demo.env 3000 100) [Demo.register 1, Demo.submit 1, .sweep, Demo.started 2] = some s ∧
      runFrom (Demo.env 3000 100) s [Demo.cancel, Demo.complete 2 1, .sweep, Demo.cancel] = some s' ∧
      (s.cancelResponse Demo.taskId).cancelled = true ∧ s.graph.state Demo.taskId = .running ∧
      s'.graph.state Demo.taskId ≠ .succeeded := by
  have hfacts : ((run (Demo.env 3000 100) [Demo.register 1, Demo.submit 1, .sweep, Demo.started 2]).map
      fun s => ((s.cancelResponse Demo.taskId).cancelled, s.graph.state Demo.taskId,
        (runFrom (Demo.env 3000 100) s [Demo.cancel, Demo.complete 2 1, .sweep, Demo.cancel]).isSome)) =
          some (true, .running, true) := by
    decide +kernel
  obtain ⟨s, hs, hfacts⟩ := Option.map_eq_some_iff.mp hfacts
  obtain ⟨hcancel, hrest⟩ := Prod.mk.inj hfacts
  obtain ⟨hstate, hsome⟩ := Prod.mk.inj hrest
  obtain ⟨s', hs'⟩ := Option.isSome_iff_exists.mp hsome
  obtain ⟨s₁, hs₁, hafter⟩ := Lts.run_cons.mp hs'
  rw [← Option.some.inj hs₁] at hafter
  refine ⟨s, s', hs, hs', hcancel, hstate, ?_⟩
  exact (cancelled_never_succeeds hs hcancel ⟨0, 9⟩ 2 0 hafter (by decide)).1

end ComputeFabric
