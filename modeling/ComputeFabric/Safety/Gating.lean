import ComputeFabric.Coordinator.GraphSteps
import ComputeFabric.Coordinator.Invariants

/-!
# `Safety.Gating` — dependencies come first

A task is past the gate when it is `Ready` or has been; everything but `Submitted`, `Blocked`, `Cancelled` and
`Expired`. `Gated` says that the dependencies of such a task have all succeeded.

- A task passes the gate in two places, an unconditional submission and the success cascade; every other
  transition needs it past the gate already (`LedgerStep.gated`). `Succeeded` is never left.
- The file is written from a gated state, and recovery moves no task past the gate, so what a restart finds
  is gated as well, however old the file is.

`dependency_gating` adds what this means for dispatch: whenever an attempt is sent out, the dependencies of
its task had succeeded before the event, each with a committed attempt.
-/

namespace ComputeFabric

open Coordinator
open ExecutionAttempt (markStarted markCommitted markFailed markCancelled)

variable {D : Type}

/-! ## The invariant -/

/-- The dependencies of every task past the gate have succeeded. -/
def Gated (tasks : ComputeTaskId → Option (ComputeTask D)) (states : ComputeTaskId → Option TaskState) :
    Prop :=
  ∀ t task st, tasks t = some task → states t = some st → st.isPastGate = true →
    ∀ d ∈ task.dependencies, states d = some .succeeded

def TaskGraph.Gated (g : TaskGraph D) : Prop := ComputeFabric.Gated (fun t => g.tasks[t]?) fun t => g.states[t]?

/-- What a start on the file would find is gated. -/
def DurableState.Gated (d : DurableState D) : Prop :=
  ComputeFabric.Gated (fun t => d.tasks[t]?) fun t => (d.view t 0).state

/-- A state change other than to `Ready` needs no check; one to `Ready` needs the gate open. -/
theorem TaskGraph.Gated.trySetState {g : TaskGraph D} (hg : g.Gated) (t : ComputeTaskId) {dst : TaskState}
    (hopen : dst = .ready → ∀ cur task, g.states[t]? = some cur → g.tasks[t]? = some task →
      cur.isPastGate = true ∨ ∀ d ∈ task.dependencies, g.states[d]? = some .succeeded) :
    (g.trySetState t dst).Gated := by
  intro u task st htask hst hpast d hd
  dsimp only at hst ⊢
  rw [TaskGraph.trySetState_tasks] at htask
  rw [TaskGraph.getElem?_states_trySetState] at hst ⊢
  -- the dependencies had succeeded before the change
  have hdone : g.states[d]? = some .succeeded := by
    split_ifs at hst with htu
    · subst htu
      obtain ⟨cur, hcur, rfl⟩ := Option.map_eq_some_iff.mp hst
      by_cases hready : dst = .ready
      · rcases hopen hready cur task hcur htask with hgate | hsat
        · exact hg t task cur htask hcur hgate d hd
        · exact hsat d hd
      · exact hg t task cur htask hcur (TaskState.isPastGate_of_next hready hpast) d hd
    · exact hg u task st htask hst hpast d hd
  rw [hdone]
  split_ifs
  · exact congrArg some (TaskState.next_absorbing rfl dst)
  · rfl

theorem TaskGraph.Gated.insertTask {g : TaskGraph D} (hg : g.Gated) (hcoh : g.Coherent)
    {task : ComputeTask D} (hnew : g.tasks[task.id]? = none) : (g.insertTask task).Gated := by
  intro u task' st htask hst hpast d hd
  dsimp only at htask hst ⊢
  rw [TaskGraph.getElem?_states_insertTask] at hst ⊢
  rw [TaskGraph.getElem?_tasks_insertTask] at htask
  split_ifs at htask hst with hu
  · cases hst
    cases hpast
  · have hdone := hg u task' st htask hst hpast d hd
    rw [if_neg ?_]
    · exact hdone
    · -- the new task had no state
      rintro rfl
      exact absurd ((hcoh.states_none hnew).symm.trans hdone) (by simp)

/-! ## Transitions -/

section Transitions

variable {env : Env} {s₀ : Coordinator D} {e : Event D}

/-- **Every change of the graph** keeps it gated. -/
theorem GraphStep.gated {g g' : TaskGraph D} (h : GraphStep s₀ e g g') (hcoh : g.Coherent) (hg : g.Gated) :
    g'.Gated := by
  cases h with
  | @move e g t dst hreq =>
      refine hg.trySetState t ?_
      intro hready cur task hcur htask
      rcases hreq.ready hready with hdisp | hretry | ⟨-, hsat⟩
      · rw [hdisp] at hcur
        cases hcur
        exact .inl rfl
      · rw [hretry] at hcur
        cases hcur
        exact .inl rfl
      · right
        intro d hd
        have hall := List.all_eq_true.mp hsat d ((hcoh.mem_dependencies htask d).mpr hd)
        simpa using hall
  | @submit client conn req sub hnew hdeps haccepts =>
      refine (hg.insertTask hcoh hnew).trySetState sub.task.id ?_
      intro hready cur task _ htask
      -- a task starts out `Ready` only without dependencies
      rw [TaskGraph.getElem?_tasks_insertTask, if_pos rfl] at htask
      right
      intro d hd
      unfold Ledger.initialState at hready
      split_ifs at hready with hempty
      rw [← Option.some.inj htask, List.isEmpty_iff.mp hempty] at hd
      cases hd
  | refuse hadd =>
      obtain ⟨htasks, hstates, -⟩ := TaskGraph.addTask_error hcoh hadd
      unfold TaskGraph.Gated
      rwa [htasks, hstates]

variable [DoubleArith D] {l l' : Ledger D}

theorem LedgerStep.gated (h : LedgerStep env s₀ e l l') (hwf : l.WellFormed) (hg : l.graph.Gated) :
    l'.graph.Gated :=
  h.graph_invariant (fun _ _ hcoh hg hstep => hstep.gated hcoh hg) hwf hg

end Transitions

/-! ## Files -/

theorem recoveredState_isPastGate {retry : Bool} {st : TaskState} :
    (recoveredState retry st).isPastGate = st.isPastGate := by
  cases retry <;> cases st <;> rfl

theorem DurableState.Gated.empty : DurableState.Gated ({} : DurableState D) := by
  intro t task st htask
  simp at htask

/-- A gated state is saved as a gated file. -/
theorem DurableState.Gated.snapshot {s : Coordinator D} (hcoh : s.graph.Coherent) (hg : s.graph.Gated) :
    s.snapshot.Gated := by
  intro t task st htask hst hpast d hd
  dsimp only at hst ⊢
  rw [view_snapshot hcoh] at hst ⊢
  obtain ⟨cur, hcur, rfl⟩ := Option.map_eq_some_iff.mp hst
  rw [recoveredState_isPastGate] at hpast
  have hdone : (s.view d).state = some .succeeded := hg t task cur htask hcur hpast d hd
  show (s.view d).state.map _ = _
  rw [hdone]
  exact congrArg some (recoveredState_eq_succeeded.mpr rfl)

/-- The graph of a process that has started is read from the file. -/
theorem Started.graph_eq {w : World D} {d : DurableState D} {s : Coordinator D} (h : Started w d s) :
    (fun t : ComputeTaskId => s.graph.tasks[t]?) = (fun t => d.tasks[t]?) ∧
      (fun t : ComputeTaskId => s.graph.states[t]?) = fun t => (d.view t 0).state :=
  ⟨funext h.tasks, funext h.states⟩

theorem Started.gated {w : World D} {d : DurableState D} {s : Coordinator D} (h : Started w d s)
    (hd : d.Gated) : s.graph.Gated ∧ (s.file.getD {}).Gated := by
  have hgraph : s.graph.Gated := by
    unfold TaskGraph.Gated
    rw [h.graph_eq.1, h.graph_eq.2]
    exact hd
  refine ⟨hgraph, ?_⟩
  rcases h.file with hfile | hfile
  · rw [hfile]
    exact hd
  · rw [hfile]
    exact .snapshot h.wellFormed.coherent hgraph

/-! ## Runs -/

@[simp] theorem Ledger.retryOrFail_dispatchLog (l : Ledger D) (t : ComputeTaskId) (r : Option Int64) :
    (l.retryOrFail t r).dispatchLog = l.dispatchLog := by
  cases r <;> rfl

section Runs

variable [DoubleArith D] {env : Env}

/-- **Gating holds in every reachable state.** -/
theorem run_gated {events : List (Event D)} {s : Coordinator D} (hrun : run env events = some s) :
    s.graph.Gated := by
  refine (run_invariant (I := fun s => s.graph.Gated ∧ (s.file.getD {}).Gated) (C := fun _ _ => True)
    (fun _ hs => (boot_spec hs).gated .empty) ?_ (.of_forall (fun _ _ => trivial) events) hrun).2.1
  intro s e s' hsound hI _ he
  refine step_invariant (I := fun s => s.graph.Gated ∧ (s.file.getD {}).Gated) ?_ (fun _ hs => hs.gated hI.2)
    hsound hI he
  intro x x' hx hxI hcore
  exact hcore.books_invariant (R := fun l d => l.graph.Gated ∧ d.Gated)
    (fun _ hd hact => ⟨hact.gated hx.wellFormed hd.1, hd.2⟩)
    (fun hd => ⟨hd.1, .snapshot hx.wellFormed.coherent hd.1⟩) hxI

/-- A task that has succeeded has a committed attempt. -/
theorem run_succeeded_committed {events : List (Event D)} {s : Coordinator D}
    (hrun : run env events = some s) {t : ComputeTaskId} (ht : s.graph.states[t]? = some .succeeded) :
    ∃ a ∈ s.attemptsOf t, a.committed = true := by
  have hflag : ∃ i : Nat, ((s.view t).attempts[i]?.map fun a => a.committed) = some true := by
    refine run_view_invariant (J := fun v => v.state = some .succeeded →
      ∃ i : Nat, (v.attempts[i]?.map fun a => a.committed) = some true) (C := fun _ _ => True)
      t nofun ?_ ?_ (.of_forall (fun _ _ => trivial) events) hrun ht
    · intro s e v v' _ _ hv hstep hst
      rcases hstep.succeeded_origin hst with hold | ⟨-, -, -, i, -, -, hi⟩
      · obtain ⟨i, hi⟩ := hv hold
        exact ⟨i, hstep.committed_kept hi⟩
      · exact ⟨i, hi⟩
    · intro retry n v hv hst
      obtain ⟨st, hst', hrec⟩ := Option.map_eq_some_iff.mp hst
      rw [recoveredState_eq_succeeded] at hrec
      obtain ⟨i, hi⟩ := hv (hrec ▸ hst')
      obtain ⟨a, ha, hc⟩ := Option.map_eq_some_iff.mp hi
      have hmem : a ∈ v.attempts.filter fun a => a.committed :=
        List.mem_filter.mpr ⟨List.mem_of_getElem? ha, hc⟩
      obtain ⟨j, hj⟩ := List.mem_iff_getElem?.mp hmem
      exact ⟨j, by show ((v.attempts.filter _)[j]?).map _ = _; rw [hj, Option.map_some, hc]⟩
  obtain ⟨i, hi⟩ := hflag
  obtain ⟨a, ha, hc⟩ := Option.map_eq_some_iff.mp hi
  exact ⟨a, List.mem_of_getElem? ha, hc⟩

/-- Only a sweep dispatches, and only a `Ready` task. -/
theorem LedgerStep.dispatched {s₀ : Coordinator D} {e : Event D} {l l' : Ledger D}
    (h : LedgerStep env s₀ e l l') (t : ComputeTaskId) :
    (l'.view t).dispatched = (l.view t).dispatched ∨
      e = .sweep ∧ l.graph.states[t]? = some .ready ∧ ∃ task, l.graph.find t = some task := by
  cases h with
  | @dispatch l u task nodeId node executor slots device time time' resv a hstate htask hnode hconnected
      hgrant hresv ha =>
      by_cases hu : u = t
      · exact .inr ⟨rfl, hu ▸ hstate, task, hu ▸ htask⟩
      · left
        rw [l.view_dispatch u t hstate, if_neg hu]
  | fail hfind hepoch hstate hcommitted hretry =>
      left
      unfold Ledger.failAttempt
      dsimp only
      split_ifs <;> simp [Ledger.view, Ledger.updateAttempt]
  | @loseNode l n tasks hlost hattempts hgraph htasks hall =>
      left
      refine Ledger.foldl_loseTask_induction (P := fun x => (x.view t).dispatched = (l.view t).dispatched)
        (l.dropNode n) tasks rfl ?_
      intro l₁ u r hl₁
      rw [Ledger.view_loseTask, ← hl₁]
      split_ifs <;> rfl
  | _ =>
      left
      simp [Ledger.view, Ledger.registerNode, Ledger.updateNode, Ledger.startAttempt, Ledger.commitAttempt,
        Ledger.abandonAttempt, Ledger.unblockTask, Ledger.cancelAttempt, Ledger.releaseReservation,
        Ledger.submitTask, Ledger.touchAttempts, Ledger.requestCancel, Ledger.cancelTask,
        Ledger.timeoutDispatch, Ledger.requeueTask, Ledger.expireTask, Ledger.setState,
        Ledger.updateAttempt]

/-- During a sweep no task succeeds. -/
theorem LedgerStep.succeeded_of_sweep {s₀ : Coordinator D} {l l' : Ledger D}
    (h : LedgerStep env s₀ .sweep l l') (hwf : l.WellFormed) {t : ComputeTaskId}
    (ht : l'.graph.states[t]? = some .succeeded) : l.graph.states[t]? = some .succeeded := by
  refine Lts.steps_invariant (P := fun v => v.state = some .succeeded → (l.view t).state = some .succeeded)
    ?_ (fun h => h) (h.taskSteps hwf t) ht
  intro v v' hv hstep hst
  rcases hstep.succeeded_origin hst with hold | ⟨conn, req, co, i, he, -, -⟩
  · exact hv hold
  · cases he

/-- An event that dispatches a task finds all its dependencies succeeded. -/
theorem step_dispatched {s s' : Coordinator D} {e : Event D} (hsound : s.Sound) (hg : s.graph.Gated)
    (he : step env s e = some s') {t : ComputeTaskId} (ht : (s.view t).dispatched < (s'.view t).dispatched) :
    ∃ task, s'.graph.find t = some task ∧
      ∀ d ∈ task.dependencies, s.graph.states[d]? = some .succeeded := by
  -- besides gating: what has succeeded in the course of a sweep had succeeded before it
  let I : Coordinator D → Prop := fun x => x.graph.Gated ∧
    (e = .sweep → ∀ d : ComputeTaskId, x.graph.states[d]? = some .succeeded →
      s.graph.states[d]? = some .succeeded) ∧
    ((s.view t).dispatched < (x.view t).dispatched → ∃ task, x.graph.find t = some task ∧
      ∀ d ∈ task.dependencies, s.graph.states[d]? = some .succeeded)
  have hI : I s' := by
    refine step_invariant (I := I) ?_ ?_ hsound ⟨hg, fun _ _ h => h, fun h => absurd h (lt_irrefl _)⟩ he
    · rintro x x' hx ⟨hgx, hsweep, hdisp⟩ hcore
      rcases hcore.ledger with hledger | hact
      · show I x'
        simp only [I, hledger]
        exact ⟨hgx, hsweep, hdisp⟩
      · refine ⟨hact.gated hx.wellFormed hgx, ?_, ?_⟩
        · rintro rfl d hd
          exact hsweep rfl d (hact.succeeded_of_sweep hx.wellFormed hd)
        · intro hlt
          have htasks : ∀ task, x.graph.find t = some task → x'.graph.find t = some task :=
            fun task ht => hact.tasks_mono hx.wellFormed.coherent ht
          rcases hact.dispatched t with hsame | ⟨rfl, hready, task, htask⟩
          · obtain ⟨task, htask, hdone⟩ := hdisp (hsame ▸ hlt)
            exact ⟨task, htasks task htask, hdone⟩
          · refine ⟨task, htasks task htask, ?_⟩
            intro d hd
            exact hsweep rfl d (hgx t task .ready htask hready rfl d hd)
    · rintro rfl hstarted
      have hlog : (s'.view t).dispatched = (s.view t).dispatched := by
        show s'.dispatchLog.countP _ = s.dispatchLog.countP _
        rw [hstarted.dispatchLog]
        rfl
      exact absurd ht (by rw [hlog]; exact lt_irrefl _)
  exact hI.2.2 ht

/-- **Dependency gating.** In every reachable state the dependencies of every task past the gate have
    succeeded; and when an event dispatches an attempt, every dependency of its task had succeeded before
    the event, with a committed attempt. -/
theorem dependency_gating {events : List (Event D)} {s : Coordinator D} (hrun : run env events = some s) :
    (∀ t task, s.graph.find t = some task → (s.graph.state t).isPastGate = true →
      ∀ d ∈ task.dependencies, s.graph.state d = .succeeded) ∧
    ∀ e s' t, step env s e = some s' → (s.view t).dispatched < (s'.view t).dispatched →
      ∃ task, s'.graph.find t = some task ∧
        ∀ d ∈ task.dependencies, s.graph.state d = .succeeded ∧
          ∃ a ∈ s.attemptsOf d, a.committed = true := by
  have hg := run_gated hrun
  constructor
  · intro t task htask hpast d hd
    obtain ⟨st, hst⟩ : ∃ st, s.graph.states[t]? = some st := by
      cases hs : s.graph.states[t]? with
      | none =>
          rw [TaskGraph.state, hs] at hpast
          cases hpast
      | some st => exact ⟨st, rfl⟩
    rw [Ledger.state_of_view hst] at hpast
    exact Ledger.state_of_view (hg t task st htask hst hpast d hd)
  · intro e s' t he hlt
    obtain ⟨task, htask, hdone⟩ := step_dispatched (run_sound hrun) hg he hlt
    refine ⟨task, htask, ?_⟩
    intro d hd
    exact ⟨Ledger.state_of_view (hdone d hd), run_succeeded_committed hrun (hdone d hd)⟩

end Runs

/-- A second task that waits for the first. -/
def Demo.submitAfter : Event ℚ :=
  .command (.taskSubmit ⟨0, 9⟩ 2 0 { task := { Demo.task 1 with
    id := ⟨0, 2⟩, dependencies := [Demo.taskId] } })

/-- The second task is dispatched in the sweep after the first one has committed. -/
theorem dependency_gating_chain :
    ∃ s s', run (Demo.env 3000 100) [Demo.register 1, Demo.submit 1, Demo.submitAfter, .sweep, Demo.started 2,
        Demo.complete 2 1] = some s ∧
      step (Demo.env 3000 100) s .sweep = some s' ∧ (s.view ⟨0, 2⟩).dispatched < (s'.view ⟨0, 2⟩).dispatched ∧
      ∃ task, s'.graph.find ⟨0, 2⟩ = some task ∧
        ∀ d ∈ task.dependencies, s.graph.state d = .succeeded ∧
          ∃ a ∈ s.attemptsOf d, a.committed = true := by
  have hfacts : ((run (Demo.env 3000 100) [Demo.register 1, Demo.submit 1, Demo.submitAfter, .sweep,
      Demo.started 2, Demo.complete 2 1]).map fun s => (step (Demo.env 3000 100) s .sweep).map fun s' =>
        decide ((s.view ⟨0, 2⟩).dispatched < (s'.view ⟨0, 2⟩).dispatched)) = some (some true) := by
    decide +kernel
  obtain ⟨s, hs, hstep⟩ := Option.map_eq_some_iff.mp hfacts
  obtain ⟨s', hs', hlt⟩ := Option.map_eq_some_iff.mp hstep
  have hlt' := of_decide_eq_true hlt
  exact ⟨s, s', hs, hs', hlt', (dependency_gating hs).2 .sweep s' ⟨0, 2⟩ hs' hlt'⟩

end ComputeFabric
