import ComputeFabric.Coordinator.Restart

/-!
# `Coordinator.Invariants` — invariants of whole runs

The induction rules every safety theorem is an instance of. A run is a first start on an empty store
followed by any events, restarts included; `RunMeets` says that each of its steps meets a condition on the
state before it and the event.

- **`Sound`** holds in every state of every run: the ledger is well formed, and the file on disk is one the
  coordinator saved, of tasks it still knows.
- **`run_invariant`** is the induction over the events of a run.
- **`run_view_invariant`** is the rule for a property of one task: it is enough to look at that task's own
  transitions and at what a restart makes of its row.
-/

namespace ComputeFabric

open Coordinator

variable {D : Type}

/-! ## One row across a restart -/

/-- The row a task has after a restart, when it had row `v` at the last save. -/
def TaskView.restored (retry : Bool) (n : Nat) (v : TaskView D) : TaskView D where
  state := v.state.map (recoveredState retry)
  attempts := v.attempts.filter fun a => a.committed
  resv := none
  cancel := false
  dispatched := n

/-- The row a start on the file `d` gives a task that was dispatched `n` times. -/
def DurableState.view (d : DurableState D) (t : ComputeTaskId) (n : Nat) : TaskView D where
  state := d.tasks[t]?.map fun task =>
    recoveredState (retriesNodeLoss task) (d.taskStates[t]?.getD .submitted)
  attempts := d.attempts[t]?.getD []
  resv := none
  cancel := false
  dispatched := n

theorem Started.view {w : World D} {d : DurableState D} {s : Coordinator D} (h : Started w d s)
    (t : ComputeTaskId) : s.view t = d.view t (w.dispatchLog.countP fun x => x.1 = t) := by
  refine TaskView.ext (h.states t) ?_ ?_ ?_ ?_
  · show s.attempts[t]?.getD [] = _
    rw [h.attempts]
    rfl
  · show s.taskReservation[t]? = _
    rw [h.taskReservation]
    simp [DurableState.view]
  · show s.cancelRequested[t]?.getD false = _
    rw [h.cancelRequested]
    simp [DurableState.view]
  · show s.dispatchLog.countP _ = _
    rw [h.dispatchLog]
    rfl

/-- A restart on a state that was just saved. -/
theorem view_snapshot {s : Coordinator D} (hcoh : s.graph.Coherent) (t : ComputeTaskId) (n : Nat) :
    s.snapshot.view t n =
      (s.view t).restored ((s.graph.find t).any fun task => retriesNodeLoss task) n := by
  refine TaskView.ext ?_ (getD_attempts_snapshot s t) rfl rfl rfl
  show (s.graph.tasks[t]?.map fun task =>
      recoveredState (retriesNodeLoss task) ((graphStates s.graph)[t]?.getD .submitted)) =
    (s.graph.states[t]?).map _
  have hsome := hcoh.isSome_states t
  cases htask : s.graph.tasks[t]? with
  | none =>
      rw [hcoh.states_none htask]
      rfl
  | some task =>
      rw [htask] at hsome
      obtain ⟨st, hst⟩ := Option.isSome_iff_exists.mp hsome
      have hstates : (graphStates s.graph)[t]? = some st := by
        simp [graphStates, htask, TaskGraph.state, hst]
      have hfind : s.graph.find t = some task := htask
      rw [hstates, hst, hfind]
      rfl

/-! ## Tasks are never forgotten -/

@[simp] theorem Ledger.failAttempt_tasks (l : Ledger D) (p : AttemptPtr) (a : ExecutionAttempt D) (kind : FailureKind)
    (reason : Text) (now : Int64) (r : Option Int64) :
    (l.failAttempt p a kind reason now r).graph.tasks = l.graph.tasks := by
  unfold Ledger.failAttempt
  dsimp only
  split_ifs <;> simp [Ledger.updateAttempt]

section Sound

variable [DoubleArith D] {env : Env}

/-- Only a submission adds a task, under an id that was free. -/
theorem LedgerStep.tasks {s₀ : Coordinator D} {e : Event D} {l l' : Ledger D}
    (h : LedgerStep env s₀ e l l') (hcoh : l.graph.Coherent) :
    l'.graph.tasks = l.graph.tasks ∨
      ∃ client conn req sub, e = .command (.taskSubmit client conn req sub) ∧ s₀.accepts sub = true ∧
        l = s₀.toLedger ∧ l.graph.tasks[sub.task.id]? = none ∧
        ∀ u : ComputeTaskId, l'.graph.tasks[u]? =
          if sub.task.id = u then some sub.task else l.graph.tasks[u]? := by
  cases h with
  | @submit client conn req sub g time hdeps hadd haccepts =>
      obtain ⟨hnew, rfl⟩ := TaskGraph.addTask_ok hadd
      refine .inr ⟨client, conn, req, sub, rfl, haccepts, rfl, hnew, ?_⟩
      intro u
      rw [Ledger.submitTask, Ledger.setState]
      simp only [TaskGraph.trySetState_tasks, TaskGraph.getElem?_tasks_insertTask]
  | refuse hadd => exact .inl (TaskGraph.addTask_error hcoh hadd).1
  | loseNode hlost hattempts hgraph htasks hall =>
      left
      refine Ledger.foldl_loseTask_induction (P := fun x => x.graph.tasks = l.graph.tasks)
        (l.dropNode _) _ rfl ?_
      intro l₁ u r hl₁
      rwa [Ledger.loseTask_tasks]
  | _ =>
      left
      simp [Ledger.registerNode, Ledger.updateNode, Ledger.startAttempt, Ledger.commitAttempt,
        Ledger.abandonAttempt, Ledger.unblockTask, Ledger.cancelAttempt, Ledger.releaseReservation,
        Ledger.touchAttempts, Ledger.requestCancel, Ledger.cancelTask, Ledger.timeoutDispatch,
        Ledger.requeueTask, Ledger.expireTask, Ledger.dispatch, Ledger.setState, Ledger.updateAttempt,
        Ledger.pushAttempt, Ledger.holdReservation, Ledger.addReservation]

theorem LedgerStep.tasks_mono {s₀ : Coordinator D} {e : Event D} {l l' : Ledger D}
    (h : LedgerStep env s₀ e l l') (hcoh : l.graph.Coherent) {t : ComputeTaskId} {task : ComputeTask D}
    (ht : l.graph.tasks[t]? = some task) : l'.graph.tasks[t]? = some task := by
  rcases h.tasks hcoh with hsame | ⟨client, conn, req, sub, -, -, -, hnew, hins⟩
  · rwa [hsame]
  · rw [hins t, if_neg ?_]
    · exact ht
    · rintro rfl
      rw [hnew] at ht
      cases ht

/-- What holds in every state of every run. -/
structure Coordinator.Sound (s : Coordinator D) : Prop where
  wellFormed : s.WellFormed
  fileOk : FileOk (s.file.getD {})
  file_tasks : ∀ (t : ComputeTaskId) (task : ComputeTask D),
    (s.file.getD {}).tasks[t]? = some task → s.graph.tasks[t]? = some task

omit [DoubleArith D] in
theorem Started.sound {w : World D} {d : DurableState D} {s : Coordinator D} (h : Started w d s)
    (hd : FileOk d) : s.Sound := by
  refine ⟨h.wellFormed, ?_, ?_⟩
  · rcases h.file with hfile | hfile
    · rwa [hfile]
    · rw [hfile]
      exact .snapshot h.wellFormed
  · intro t task ht
    rcases h.file with hfile | hfile
    · rw [hfile] at ht
      exact (h.tasks t).trans ht
    · rwa [hfile] at ht

theorem CoreStep.sound {s₀ s s' : Coordinator D} {e : Event D} (h : CoreStep env s₀ e s s')
    (hs : s.Sound) : s'.Sound := by
  obtain ⟨hwf, hfile, htasks⟩ := h.books_invariant (R := fun l d => l.WellFormed ∧ FileOk d ∧
      ∀ (t : ComputeTaskId) (task : ComputeTask D), d.tasks[t]? = some task → l.graph.tasks[t]? = some task)
    (fun d hd hact => by
      obtain ⟨hwf, hfile, htasks⟩ := hd
      exact ⟨hact.wellFormed hwf, hfile, fun t task ht => hact.tasks_mono hwf.coherent (htasks t task ht)⟩)
    (fun hd => ⟨hd.1, .snapshot hd.1, fun t task ht => ht⟩) ⟨hs.wellFormed, hs.fileOk, hs.file_tasks⟩
  exact ⟨hwf, hfile, htasks⟩

omit [DoubleArith D] in
theorem ok_of_toOption {x : Except Error (Coordinator D)} {s : Coordinator D} (h : x.toOption = some s) :
    x = .ok s := by
  cases x with
  | error err => cases h
  | ok s' => exact congrArg Except.ok (Option.some.inj h)

theorem start_of_restart {s s' : Coordinator D} (h : step env s .restart = some s') :
    start env s.world = .ok s' :=
  ok_of_toOption h

theorem start_of_boot {s : Coordinator D} (h : boot env = some s) : start env {} = .ok s :=
  ok_of_toOption h

theorem step_restart {s s' : Coordinator D} (hs : s.Sound) (h : step env s .restart = some s') :
    Started s.world (s.file.getD {}) s' :=
  start_spec (start_of_restart h) hs.fileOk

theorem boot_spec {s : Coordinator D} (h : boot env = some s) : Started {} {} s :=
  start_spec (start_of_boot h) .empty

/-- **The induction over the core steps of one event**, for a property of sound states. A restart is the
    one event that is not made of core steps. -/
theorem step_invariant {I : Coordinator D → Prop} {s s' : Coordinator D} {e : Event D}
    (hcore : ∀ x x', x.Sound → I x → CoreStep env s e x x' → I x')
    (hrestart : e = .restart → Started s.world (s.file.getD {}) s' → I s')
    (hsound : s.Sound) (hs : I s) (h : step env s e = some s') : I s' := by
  cases hlocal : e.isLocal with
  | true =>
      refine (Lts.steps_invariant (P := fun x => x.Sound ∧ I x) ?_ ⟨hsound, hs⟩ (step_steps hlocal h)).2
      rintro x x' ⟨hx, hI⟩ hstep
      exact ⟨hstep.sound hx, hcore x x' hx hI hstep⟩
  | false =>
      cases e with
      | restart => exact hrestart rfl (step_restart hsound h)
      | _ => cases hlocal

theorem step_sound {s s' : Coordinator D} {e : Event D} (hs : s.Sound) (h : step env s e = some s') :
    s'.Sound :=
  step_invariant (fun _ _ hx _ hstep => hstep.sound hx) (fun _ hstarted => hstarted.sound hs.fileOk) hs hs h

end Sound

/-! ## Runs -/

section Runs

variable [DoubleArith D] {env : Env}

/-- Every step of the run meets `C`. -/
def RunMeets (env : Env) (C : Coordinator D → Event D → Prop) (events : List (Event D)) : Prop :=
  match boot env with
  | none => True
  | some s => Lts.Along (step env) C s events

instance (C : Coordinator D → Event D → Prop) [∀ s e, Decidable (C s e)] (events : List (Event D)) :
    Decidable (RunMeets env C events) :=
  match h : boot env with
  | none => isTrue (by simp [RunMeets, h])
  | some s => decidable_of_iff (Lts.Along (step env) C s events) (by simp [RunMeets, h])

theorem RunMeets.of_forall {C : Coordinator D → Event D → Prop} (h : ∀ s e, C s e)
    (events : List (Event D)) : RunMeets env C events := by
  unfold RunMeets
  split
  · trivial
  · exact Lts.Along.of_forall h

theorem RunMeets.and_mem {C : Coordinator D → Event D → Prop} {events : List (Event D)}
    (h : RunMeets env C events) : RunMeets env (fun s e => C s e ∧ e ∈ events) events := by
  unfold RunMeets at h ⊢
  split
  · trivial
  · next s hs =>
      simp only [hs] at h
      exact h.and_mem fun _ he => he

theorem run_append {events events' : List (Event D)} {s : Coordinator D} :
    run env (events ++ events') = some s ↔
      ∃ s₁, run env events = some s₁ ∧ runFrom env s₁ events' = some s := by
  unfold run runFrom
  cases boot (D := D) env with
  | none => simp
  | some s₀ => exact Lts.run_append

theorem RunMeets.append {C : Coordinator D → Event D → Prop} {events events' : List (Event D)}
    {s : Coordinator D} (hrun : run env events = some s) :
    RunMeets env C (events ++ events') ↔ RunMeets env C events ∧ Lts.Along (step env) C s events' := by
  obtain ⟨s₀, hs₀, hrun'⟩ := Option.bind_eq_some_iff.mp hrun
  simp only [RunMeets, hs₀]
  exact Lts.along_append hrun'

/-- **The induction over the events of a run.** -/
theorem run_invariant {I : Coordinator D → Prop} {C : Coordinator D → Event D → Prop}
    (hboot : ∀ s, boot env = some s → I s)
    (hstep : ∀ s e s', s.Sound → I s → C s e → step env s e = some s' → I s')
    {events : List (Event D)} {s : Coordinator D} (hC : RunMeets env C events)
    (hrun : run env events = some s) : s.Sound ∧ I s := by
  obtain ⟨s₀, hs₀, hrun'⟩ := Option.bind_eq_some_iff.mp hrun
  simp only [RunMeets, hs₀] at hC
  refine Lts.run_invariant (I := fun s => s.Sound ∧ I s) ?_ ?_ hC hrun'
  · rintro s e s' ⟨hsound, hI⟩ hc he
    exact ⟨step_sound hsound he, hstep s e s' hsound hI hc he⟩
  · exact ⟨(boot_spec hs₀).sound .empty, hboot s₀ hs₀⟩

theorem run_sound {events : List (Event D)} {s : Coordinator D} (hrun : run env events = some s) :
    s.Sound :=
  (run_invariant (I := fun _ => True) (C := fun _ _ => True) (fun _ _ => trivial)
    (fun _ _ _ _ _ _ _ => trivial) (.of_forall (fun _ _ => trivial) events) hrun).1

/-- **The rule for a property of the ledger** that every start establishes. -/
theorem run_ledger_invariant {I : Ledger D → Prop} {C : Coordinator D → Event D → Prop}
    (hstarted : ∀ (w : World D) (d : DurableState D) (s : Coordinator D), Started w d s → FileOk d → I s.toLedger)
    (hstep : ∀ s e l l', C s e → l.WellFormed → I l → LedgerStep env s e l l' → I l')
    {events : List (Event D)} {s : Coordinator D} (hC : RunMeets env C events)
    (hrun : run env events = some s) : I s.toLedger := by
  refine (run_invariant (I := fun s => I s.toLedger) (fun s hs => hstarted _ _ s (boot_spec hs) .empty)
    ?_ hC hrun).2
  intro s e s' hsound hI hc he
  refine step_invariant (I := fun s => I s.toLedger) ?_ (fun _ hs => hstarted _ _ s' hs hsound.fileOk)
    hsound hI he
  intro x x' hx hx' hcore
  exact hcore.books_invariant (R := fun l _ => I l)
    (fun _ hl hact => hstep s e _ _ hc hx.wellFormed hl hact) id hx'

/-- The row of a task nobody has submitted. -/
def TaskView.unknown : TaskView D where
  state := none
  attempts := []
  resv := none
  cancel := false
  dispatched := 0

/-- **The rule for a property of one task.** -/
theorem run_view_invariant {J : TaskView D → Prop} {C : Coordinator D → Event D → Prop}
    (t : ComputeTaskId) (hunknown : J .unknown)
    (hstep : ∀ s e v v', s.Sound → C s e → J v → TaskStep env s t e v v' → J v')
    (hrestored : ∀ retry n v, J v → J (v.restored retry n))
    {events : List (Event D)} {s : Coordinator D} (hC : RunMeets env C events)
    (hrun : run env events = some s) : J (s.view t) := by
  have hempty : ∀ n, J (DurableState.view ({} : DurableState D) t n) := by
    intro n
    have hview : DurableState.view ({} : DurableState D) t n = TaskView.unknown.restored false n := by
      simp [DurableState.view, TaskView.restored, TaskView.unknown]
    rw [hview]
    exact hrestored false n _ hunknown
  -- the row in memory and the row any restart on the file would give
  let I : Coordinator D → Prop := fun s => J (s.view t) ∧ ∀ n, J ((s.file.getD {}).view t n)
  have hstarted : ∀ {w : World D} {d : DurableState D} {s : Coordinator D}, Started w d s →
      (∀ n, J (d.view t n)) → I s := by
    intro w d s hs hd
    refine ⟨hs.view t ▸ hd _, ?_⟩
    intro n
    rcases hs.file with hfile | hfile
    · rw [hfile]
      exact hd n
    · rw [hfile, Option.getD_some, view_snapshot hs.wellFormed.coherent]
      exact hrestored _ n _ (hs.view t ▸ hd _)
  refine (run_invariant (I := I) (fun s hs => hstarted (boot_spec hs) hempty) ?_ hC hrun).2.1
  intro s e s' hsound hI hc he
  refine step_invariant ?_ (fun _ hs => hstarted hs hI.2) hsound hI he
  intro x x' hx hxI hcore
  refine hcore.books_invariant (R := fun l d => J (l.view t) ∧ ∀ n, J (d.view t n)) ?_ ?_ hxI
  · rintro d ⟨hview, hfile⟩ hact
    exact ⟨Lts.steps_invariant (fun v v' hv hv' => hstep s e v v' hsound hc hv hv') hview
      (hact.taskSteps hx.wellFormed t), hfile⟩
  · rintro ⟨hview, -⟩
    refine ⟨hview, fun n => ?_⟩
    rw [view_snapshot hx.wellFormed.coherent]
    exact hrestored _ n _ hview

end Runs

end ComputeFabric
