import ComputeFabric.Coordinator.Cascade
import ComputeFabric.Coordinator.GraphSteps
import ComputeFabric.Coordinator.Invariants
import ComputeFabric.Safety.Gating

/-!
# `Safety.Blocked` — no task is blocked without a reason

A blocked task waits for a dependency that has not succeeded. Readiness is recomputed in one place only, the
cascade of a commit, which looks at the dependents of the task that has just succeeded. That is enough for
every task that was submitted before the last of its dependencies succeeded. A task submitted after it starts
out `Blocked` all the same, and nobody looks at it again (`late_submission_blocks`).

The cascade finds the dependents through `dependents_`, so the proof carries along that every edge of the graph
is recorded at both ends.
-/

namespace ComputeFabric

open Coordinator
open ExecutionAttempt (markStarted markCommitted markFailed markCancelled)

variable {D : Type}

/-! ## The condition -/

/-- A submission that creates a blocked task names a dependency that has not succeeded. -/
def Coordinator.blocksWithReason (s : Coordinator D) : Event D → Bool
  | .command (.taskSubmit _ _ _ sub) =>
      !s.accepts sub || sub.task.dependencies.isEmpty ||
        sub.task.dependencies.any fun d => s.graph.states[d]? ≠ some .succeeded
  | _ => true

/-! ## Edges -/

/-- The graph knows both ends of every edge, and the edge at both ends. -/
structure TaskGraph.Wired (g : TaskGraph D) : Prop where
  linked : g.Linked
  closed : TaskGraph.Closed g.tasks

theorem TaskGraph.Wired.trySetState {g : TaskGraph D} (h : g.Wired) (t : ComputeTaskId) (st : TaskState) :
    (g.trySetState t st).Wired :=
  ⟨h.linked.congr (by simp) (by simp), by simpa using h.closed⟩

theorem TaskGraph.Wired.insertTask {g : TaskGraph D} (h : g.Wired) (hcoh : g.Coherent) {task : ComputeTask D}
    (hnew : g.tasks[task.id]? = none) (hdeps : ∀ d ∈ task.dependencies, g.hasTask d = true) :
    (g.insertTask task).Wired := by
  refine ⟨h.linked.insertTask hcoh hnew, ?_⟩
  intro t tk ht d hd
  rw [TaskGraph.getElem?_tasks_insertTask] at ht ⊢
  split_ifs with hself
  · rfl
  · split_ifs at ht
    · obtain rfl := Option.some.inj ht
      have hknown := hdeps d hd
      rwa [TaskGraph.hasTask, Std.ExtTreeMap.contains_eq_isSome_getElem?] at hknown
    · exact h.closed t tk ht d hd

theorem GraphStep.wired {s₀ : Coordinator D} {e : Event D} {g g' : TaskGraph D} (h : GraphStep s₀ e g g')
    (hcoh : g.Coherent) (hg : g.Wired) : g'.Wired := by
  cases h with
  | move hreq => exact hg.trySetState _ _
  | submit hnew hdeps haccepts => exact (hg.insertTask hcoh hnew hdeps).trySetState _ _
  | refuse hadd =>
      refine ⟨hg.linked.addTask_error hcoh hg.closed hadd, ?_⟩
      rw [(TaskGraph.addTask_error hcoh hadd).1]
      exact hg.closed

/-! ## The invariant -/

/-- Every blocked task has a dependency that has not succeeded or is in `except`. -/
def Reasoned (except : ComputeTaskId → Prop) (tasks : ComputeTaskId → Option (ComputeTask D))
    (states : ComputeTaskId → Option TaskState) : Prop :=
  ∀ t task, tasks t = some task → states t = some .blocked →
    ∃ d ∈ task.dependencies, states d ≠ some .succeeded ∨ except d

def TaskGraph.Reasoned (except : ComputeTaskId → Prop) (g : TaskGraph D) : Prop :=
  ComputeFabric.Reasoned except (fun t => g.tasks[t]?) fun t => g.states[t]?

/-- What a start on the file would find. -/
def DurableState.Reasoned (d : DurableState D) : Prop :=
  ComputeFabric.Reasoned (fun _ => False) (fun t => d.tasks[t]?) fun t => (d.view t 0).state

namespace TaskGraph.Reasoned

variable {except : ComputeTaskId → Prop} {g : TaskGraph D}

theorem mono {except' : ComputeTaskId → Prop} (h : g.Reasoned except) (hsub : ∀ d, except d → except' d) :
    g.Reasoned except' := by
  intro t task htask hst
  obtain ⟨d, hd, hreason⟩ := h t task htask hst
  exact ⟨d, hd, hreason.imp_right (hsub d)⟩

/-- No state change but a success takes a reason away, and only a submission blocks a task. -/
theorem trySetState (h : g.Reasoned except) (u : ComputeTaskId) (dst : TaskState) (hblocked : dst ≠ .blocked)
    (hsucceeded : dst = .succeeded → except u) : (g.trySetState u dst).Reasoned except := by
  intro t task htask hst
  dsimp only at htask hst ⊢
  rw [TaskGraph.trySetState_tasks] at htask
  have hbefore : g.states[t]? = some .blocked := by
    rw [TaskGraph.getElem?_states_trySetState] at hst
    split_ifs at hst
    · obtain ⟨cur, hcur, hnext⟩ := Option.map_eq_some_iff.mp hst
      rwa [TaskState.eq_of_next_eq hnext hblocked] at hcur
    · exact hst
  obtain ⟨d, hd, hreason⟩ := h t task htask hbefore
  refine ⟨d, hd, ?_⟩
  rcases hreason with hne | hexcept
  · by_cases hdst : dst = .succeeded ∧ u = d
    · exact .inr (hdst.2 ▸ hsucceeded hdst.1)
    · left
      rw [TaskGraph.getElem?_states_trySetState]
      split_ifs with hu
      · intro hsucc
        obtain ⟨cur, hcur, hnext⟩ := Option.map_eq_some_iff.mp hsucc
        rw [TaskState.eq_of_next_eq hnext fun hdst' => hdst ⟨hdst', hu⟩] at hcur
        exact hne hcur
      · exact hne
  · exact .inr hexcept

/-- A submitted task is blocked for a reason, and is no reason less for the others. -/
theorem submit (h : g.Reasoned except) {task : ComputeTask D}
    (hreason : task.dependencies.isEmpty = true ∨ ∃ d ∈ task.dependencies, g.states[d]? ≠ some .succeeded) :
    ((g.insertTask task).trySetState task.id (Ledger.initialState task)).Reasoned except := by
  intro t tk htask hst
  dsimp only at htask hst ⊢
  rw [TaskGraph.trySetState_tasks, TaskGraph.getElem?_tasks_insertTask] at htask
  -- a dependency that had not succeeded has not succeeded now: the new task has not either
  have hkeep : ∀ d : ComputeTaskId, g.states[d]? ≠ some .succeeded →
      ((g.insertTask task).trySetState task.id (Ledger.initialState task)).states[d]? ≠ some .succeeded := by
    intro d hd
    rw [TaskGraph.getElem?_states_trySetState, TaskGraph.getElem?_states_insertTask]
    split_ifs
    · unfold Ledger.initialState
      split_ifs <;> decide
    · exact hd
  split_ifs at htask with ht
  · obtain rfl := Option.some.inj htask
    rcases hreason with hempty | ⟨d, hd, hne⟩
    · rw [TaskGraph.getElem?_states_trySetState, if_pos ht, TaskGraph.getElem?_states_insertTask, if_pos ht,
        Ledger.initialState, if_pos hempty] at hst
      cases hst
    · exact ⟨d, hd, .inl (hkeep d hne)⟩
  · rw [TaskGraph.getElem?_states_trySetState, if_neg ht, TaskGraph.getElem?_states_insertTask, if_neg ht] at hst
    obtain ⟨d, hd, hne | hexcept⟩ := h t tk htask hst
    · exact ⟨d, hd, .inl (hkeep d hne)⟩
    · exact ⟨d, hd, .inr hexcept⟩

end TaskGraph.Reasoned

/-- **Every change of the graph** keeps the blocked tasks reasoned, if `except` has the task that commits. -/
theorem GraphStep.reasoned {s₀ : Coordinator D} {e : Event D} {g g' : TaskGraph D}
    {except : ComputeTaskId → Prop} (h : GraphStep s₀ e g g') (hcoh : g.Coherent)
    (hc : s₀.blocksWithReason e = true)
    (hcommit : ∀ conn req co a, e = .command (.attemptComplete conn req co) → s₀.commits co = some a →
      except a.taskId) (hg : g.Reasoned except) : g'.Reasoned except := by
  cases h with
  | @move e g t dst hreq =>
      refine hg.trySetState t dst hreq.entered.2 ?_
      intro hdst
      obtain ⟨conn, req, co, a, he, hcommits, rfl⟩ := hreq.succeeded hdst
      exact hcommit conn req co a he hcommits
  | @submit client conn req sub hnew hdeps haccepts =>
      refine hg.submit ?_
      simpa [blocksWithReason, haccepts] using hc
  | refuse hadd =>
      obtain ⟨htasks, hstates, -⟩ := TaskGraph.addTask_error hcoh hadd
      unfold TaskGraph.Reasoned
      rwa [htasks, hstates]

/-- The cascade of a commit gives every dependent its reason back. -/
theorem TaskGraph.Reasoned.cascade (env : Env) (fuel : Nat) {id : ComputeTaskId} {s : Coordinator D}
    (hcoh : s.graph.Coherent) (hlinked : s.graph.Linked) (h : s.graph.Reasoned fun d => d = id) :
    (onTaskSucceededRecursive env (fuel + 1) id s).graph.Reasoned fun _ => False := by
  have hcascaded := onTaskSucceededRecursive_cascaded env (fuel + 1) id s
  intro t task htask hst
  dsimp only at htask hst ⊢
  rw [hcascaded.tasks] at htask
  by_contra hno
  have hall : ∀ d ∈ task.dependencies, s.graph.states[d]? = some .succeeded := by
    intro d hd
    by_contra hne
    exact hno ⟨d, hd, .inl fun hsucc => hne ((hcascaded.succeeded_iff d).mp hsucc)⟩
  -- the only reason left is the task that has just succeeded, so the cascade went over this one
  obtain ⟨d, hd, hne | rfl⟩ := h t task htask (hcascaded.blocked hst)
  · exact hne (hall d hd)
  · refine onTaskSucceededRecursive_clears env fuel d s
      (hlinked t d ((hcoh.mem_dependencies htask d).mpr hd)) ⟨hst, ?_⟩
    rw [hcascaded.dependenciesSatisfied]
    refine List.all_eq_true.mpr fun d hd => ?_
    simpa using hall d ((hcoh.mem_dependencies htask d).mp hd)

/-! ## Files -/

theorem recoveredState_eq_blocked {retry : Bool} {st : TaskState} :
    recoveredState retry st = .blocked ↔ st = .blocked :=
  recoveredState_eq_iff rfl (by decide) (by decide)

theorem DurableState.Reasoned.empty : DurableState.Reasoned ({} : DurableState D) := by
  intro t task htask
  simp at htask

theorem DurableState.Reasoned.snapshot {s : Coordinator D} (hcoh : s.graph.Coherent)
    (h : s.graph.Reasoned fun _ => False) : s.snapshot.Reasoned := by
  intro t task htask hst
  dsimp only at hst ⊢
  rw [view_snapshot hcoh] at hst
  obtain ⟨cur, hcur, hblocked⟩ := Option.map_eq_some_iff.mp hst
  rw [recoveredState_eq_blocked.mp hblocked] at hcur
  obtain ⟨d, hd, hne | hfalse⟩ := h t task htask hcur
  · refine ⟨d, hd, .inl ?_⟩
    rw [view_snapshot hcoh]
    intro hsucc
    obtain ⟨cur', hcur', hsucc'⟩ := Option.map_eq_some_iff.mp hsucc
    rw [recoveredState_eq_succeeded.mp hsucc'] at hcur'
    exact hne hcur'
  · exact hfalse.elim

theorem Started.reasoned {w : World D} {d : DurableState D} {s : Coordinator D} (h : Started w d s)
    (hd : d.Reasoned) : (s.graph.Reasoned fun _ => False) ∧ (s.file.getD {}).Reasoned := by
  have hgraph : s.graph.Reasoned fun _ => False := by
    unfold TaskGraph.Reasoned
    rw [h.graph_eq.1, h.graph_eq.2]
    exact hd
  refine ⟨hgraph, ?_⟩
  rcases h.file with hfile | hfile
  · rw [hfile]
    exact hd
  · rw [hfile]
    exact .snapshot h.wellFormed.coherent hgraph

/-! ## A start links the edges again -/

theorem TaskGraph.rebuild_linked {list : List (ComputeTask D)} {g g' : TaskGraph D}
    (h : Coordinator.rebuild list g = .ok g') (hg : g.Coherent) (hlinked : g.Linked) : g'.Linked := by
  induction list generalizing g with
  | nil =>
      cases h
      exact hlinked
  | cons task rest ih =>
      unfold Coordinator.rebuild at h
      split at h
      · next g₁ hadd =>
          obtain ⟨hnew, rfl⟩ := addTask_ok hadd
          exact ih h (hg.insertTask hnew) (hlinked.insertTask hg hnew)
      · cases h

theorem restoreStates_dependents (states : IdMap TaskState) (g : TaskGraph D) :
    (restoreStates states g).dependents = g.dependents := by
  refine List.foldlRecOn (motive := fun x : TaskGraph D => x.dependents = g.dependents) _ _ rfl ?_
  intro x hx entry _
  rw [← hx]
  unfold TaskGraph.restoreState
  split_ifs <;> rfl

theorem recoverTask_dependents (env : Env) (s : Coordinator D) (x : ComputeTaskId × ComputeTask D) :
    (recoverTask env s x).graph.dependents = s.graph.dependents := by
  unfold recoverTask
  split_ifs
  · split
    · rfl
    · next g hset =>
        obtain ⟨cur, hcur, hlegal⟩ := TaskGraph.legal_of_setState hset
        rw [TaskGraph.setState_of_legal hcur hlegal] at hset
        obtain rfl := Except.ok.inj hset
        unfold requeueOrFail
        split_ifs
        · exact (TaskGraph.trySetState_dependents _ _ _).trans (TaskGraph.trySetState_dependents _ _ _)
        · exact (TaskGraph.trySetState_dependents _ _ _).trans (TaskGraph.trySetState_dependents _ _ _)
  · rfl

/-- A start keeps the edges of the graph it rebuilds: writing states back and recovery change states only. -/
theorem start_edges [DoubleArith D] {env : Env} {w : World D} {s : Coordinator D} {g : TaskGraph D}
    (h : start env w = .ok s) (hrebuild : rebuild ((w.file.getD {}).tasks.toList.map Prod.snd) {} = .ok g) :
    s.graph.tasks = g.tasks ∧ s.graph.deps = g.deps ∧ s.graph.dependents = g.dependents := by
  obtain ⟨w', g', -, hrebuild', rfl⟩ := start_ok h
  obtain rfl := Except.ok.inj (hrebuild.symm.trans hrebuild')
  have hcoh := (TaskGraph.rebuild_spec hrebuild .empty (by simp)).1
  obtain ⟨-, htasks, hdeps, -⟩ := TaskGraph.restoreStates_spec (w.file.getD {}).taskStates hcoh
  have hbooks := recovery_books env w' (w.file.getD {}) g
  have hdependents : ((w.file.getD {}).tasks.toList.foldl (recoverTask env)
      (loaded env w' (w.file.getD {}) g)).graph.dependents = g.dependents := by
    refine List.foldlRecOn (motive := fun x : Coordinator D => x.graph.dependents = g.dependents) _ _
      (restoreStates_dependents _ _) ?_
    intro x hx entry _
    exact (recoverTask_dependents env x entry).trans hx
  rw [persist_toLedger]
  exact ⟨hbooks.tasks.trans htasks, hbooks.deps.trans hdeps, hdependents⟩

theorem start_wired [DoubleArith D] {env : Env} {w : World D} {s : Coordinator D} (h : start env w = .ok s)
    (hfile : FileOk (w.file.getD {})) (hclosed : TaskGraph.Closed (w.file.getD {}).tasks) : s.graph.Wired := by
  obtain ⟨-, g, -, hrebuild, -⟩ := start_ok h
  obtain ⟨-, hdeps, hdependents⟩ := start_edges h hrebuild
  refine ⟨?_, ?_⟩
  · have hlinked : g.Linked := by
      refine TaskGraph.rebuild_linked hrebuild .empty ?_
      intro t d hd
      simp [TaskGraph.dependencies] at hd
    exact hlinked.congr hdeps hdependents
  · intro t task ht d hd
    rw [(start_spec h hfile).tasks] at ht ⊢
    exact hclosed t task ht d hd

/-! ## Runs -/

section Runs

variable [DoubleArith D] {env : Env}

/-- The edges of the graph, and of what a start would rebuild, are recorded at both ends. -/
def Coordinator.Wired (s : Coordinator D) : Prop :=
  s.graph.Wired ∧ TaskGraph.Closed (s.file.getD {}).tasks

omit [DoubleArith D] in
theorem Started.closed {w : World D} {d : DurableState D} {s : Coordinator D} (h : Started w d s)
    (hd : TaskGraph.Closed d.tasks) (hs : s.graph.Wired) : s.Wired := by
  refine ⟨hs, ?_⟩
  rcases h.file with hfile | hfile
  · rw [hfile]
    exact hd
  · rw [hfile]
    exact hs.closed

theorem step_wired {s s' : Coordinator D} {e : Event D} (hsound : s.Sound) (hs : s.Wired)
    (he : step env s e = some s') : s'.Wired := by
  refine step_invariant (I := Coordinator.Wired) ?_ ?_ hsound hs he
  · intro x x' hx hxw hcore
    refine hcore.books_invariant (R := fun l d => l.graph.Wired ∧ TaskGraph.Closed d.tasks) ?_ ?_ hxw
    · rintro d ⟨hw, hd⟩ hact
      exact ⟨hact.graph_invariant (fun _ _ hcoh hg hstep => hstep.wired hcoh hg) hx.wellFormed hw, hd⟩
    · rintro ⟨hw, -⟩
      exact ⟨hw, hw.closed⟩
  · rintro rfl hstarted
    exact hstarted.closed hs.2 (start_wired (start_of_restart he) hsound.fileOk hs.2)

/-- A commit takes the reason of its task away, and its cascade looks at every dependent. -/
theorem commit_reasoned {s : Coordinator D} {conn : ConnId} {req : UInt64} {co : AttemptComplete D}
    {a : ExecutionAttempt D} (hcommits : s.commits co = some a) (hsound : s.Sound) (hwired : s.graph.Wired)
    (hs : (s.graph.Reasoned fun _ => False) ∧ (s.file.getD {}).Reasoned) :
    ((s.handleAttemptComplete env conn req co).graph.Reasoned fun _ => False) ∧
      ((s.handleAttemptComplete env conn req co).file.getD {}).Reasoned := by
  obtain ⟨p, -, heq⟩ := handleAttemptComplete_of_commits env conn req co hcommits
  have hgraph : (s.commitAndReply env conn req co p a).graph = s.graph.trySetState a.taskId .succeeded := by
    rw [commitAndReply_toLedger]
    exact Ledger.releaseTaskReservation_graph _ _
  have hfile := (commitAndReply_store env conn req co p a s).1
  rw [heq]
  generalize s.commitAndReply env conn req co p a = s₁ at hgraph hfile
  have hcoh : s₁.graph.Coherent := hgraph ▸ hsound.wellFormed.coherent.trySetState _ _
  have hwired₁ : s₁.graph.Wired := hgraph ▸ hwired.trySetState _ _
  have hreasoned : s₁.graph.Reasoned fun d => d = a.taskId := by
    rw [hgraph]
    exact (hs.1.mono fun _ hfalse => hfalse.elim).trySetState a.taskId .succeeded (by decide) fun _ => rfl
  have hdone := hreasoned.cascade env s₁.graph.tasks.size hcoh hwired₁.linked
  have hcascaded := onTaskSucceededRecursive_cascaded env (s₁.graph.tasks.size + 1) a.taskId s₁
  generalize onTaskSucceededRecursive env (s₁.graph.tasks.size + 1) a.taskId s₁ = s₂ at hdone hcascaded
  refine ⟨by rwa [persist_toLedger], ?_⟩
  rcases persist_file env s₂ with hsame | hsaved
  · rw [hsame, hcascaded.file, hfile]
    exact hs.2
  · rw [hsaved]
    exact .snapshot (hcascaded.coherent hcoh) hdone

theorem step_reasoned {s s' : Coordinator D} {e : Event D} (hsound : s.Sound) (hwired : s.Wired)
    (hc : s.blocksWithReason e = true)
    (hs : (s.graph.Reasoned fun _ => False) ∧ (s.file.getD {}).Reasoned) (he : step env s e = some s') :
    (s'.graph.Reasoned fun _ => False) ∧ (s'.file.getD {}).Reasoned := by
  by_cases hcommit : ∃ conn req co a, e = .command (.attemptComplete conn req co) ∧ s.commits co = some a
  · obtain ⟨conn, req, co, a, rfl, hcommits⟩ := hcommit
    obtain rfl := Option.some.inj he
    exact commit_reasoned hcommits hsound hwired.1 hs
  · refine step_invariant (I := fun x => (x.graph.Reasoned fun _ => False) ∧ (x.file.getD {}).Reasoned)
      ?_ (fun _ hstarted => hstarted.reasoned hs.2) hsound hs he
    intro x x' hx hxr hcore
    refine hcore.books_invariant (R := fun l d => (l.graph.Reasoned fun _ => False) ∧ d.Reasoned) ?_ ?_ hxr
    · rintro d ⟨hl, hd⟩ hact
      refine ⟨hact.graph_invariant (fun _ _ hcoh hg hstep => hstep.reasoned hcoh hc ?_ hg) hx.wellFormed hl, hd⟩
      intro conn req co a hev hcommits
      exact hcommit ⟨conn, req, co, a, hev, hcommits⟩
    · rintro ⟨hl, -⟩
      exact ⟨hl, .snapshot hx.wellFormed.coherent hl⟩

/-- **No task is blocked without a reason.** In a run in which every submission that blocks its task names a
    dependency that has not succeeded, every blocked task has such a dependency in every state. -/
theorem blocked_for_a_reason {events : List (Event D)} {s : Coordinator D} (hrun : run env events = some s)
    (hcond : RunMeets env (fun s e => s.blocksWithReason e = true) events) {t : ComputeTaskId}
    (ht : s.graph.state t = .blocked) :
    ∃ task, s.graph.find t = some task ∧ ∃ d ∈ task.dependencies, s.graph.state d ≠ .succeeded := by
  have hI : s.Sound ∧ s.Wired ∧ (s.graph.Reasoned fun _ => False) ∧ (s.file.getD {}).Reasoned := by
    refine run_invariant (I := fun x => x.Wired ∧ (x.graph.Reasoned fun _ => False) ∧
      (x.file.getD {}).Reasoned) ?_ ?_ hcond hrun
    · intro x hx
      have hclosed : TaskGraph.Closed (World.file ({} : World D) |>.getD {}).tasks := by
        intro t task htask
        simp at htask
      exact ⟨(boot_spec hx).closed hclosed (start_wired (start_of_boot hx) .empty hclosed),
        (boot_spec hx).reasoned .empty⟩
    · rintro x e x' hsound ⟨hwired, hx⟩ hc he
      exact ⟨step_wired hsound hwired he, step_reasoned hsound hwired hc hx he⟩
  obtain ⟨hsound, -, hreasoned, -⟩ := hI
  have hstate : s.graph.states[t]? = some .blocked := (Ledger.state_eq_iff (by decide)).mp ht
  obtain ⟨task, htask⟩ : ∃ task, s.graph.tasks[t]? = some task := by
    rw [← Option.isSome_iff_exists, ← hsound.wellFormed.coherent.isSome_states t, hstate]
    rfl
  obtain ⟨d, hd, hne | hfalse⟩ := hreasoned t task htask hstate
  · exact ⟨task, htask, d, hd, fun hsucc => hne ((Ledger.state_eq_iff (by decide)).mp hsucc)⟩
  · exact hfalse.elim

end Runs

/-- A task submitted while its dependency runs is blocked for a reason. -/
theorem blocked_for_a_reason_running :
    ∃ s task, run (Demo.env 3000 100) [Demo.register 1, Demo.submit 1, .sweep, Demo.started 2,
        Demo.submitAfter] = some s ∧ s.graph.state ⟨0, 2⟩ = .blocked ∧ s.graph.find ⟨0, 2⟩ = some task ∧
      ∃ d ∈ task.dependencies, s.graph.state d ≠ .succeeded := by
  have hfacts : ((run (Demo.env 3000 100) [Demo.register 1, Demo.submit 1, .sweep, Demo.started 2,
      Demo.submitAfter]).map fun s => s.graph.state ⟨0, 2⟩) = some .blocked := by
    decide +kernel
  have hcond : RunMeets (Demo.env 3000 100) (fun s e => s.blocksWithReason e = true) [Demo.register 1,
      Demo.submit 1, .sweep, Demo.started 2, Demo.submitAfter] := by
    decide +kernel
  obtain ⟨s, hs, hstate⟩ := Option.map_eq_some_iff.mp hfacts
  obtain ⟨task, htask, hreason⟩ := blocked_for_a_reason hs hcond hstate
  exact ⟨s, task, hs, hstate, htask, hreason⟩

/-- The same task, submitted after its only dependency has succeeded: it is blocked, and two sweeps later it
    still is. -/
theorem late_submission_blocks :
    ((run (Demo.env 3000 100) [Demo.register 1, Demo.submit 1, .sweep, Demo.started 2, Demo.complete 2 1,
      Demo.submitAfter, .sweep, .sweep]).map fun s =>
        (s.graph.state ⟨0, 2⟩, (s.graph.find ⟨0, 2⟩).map fun task => task.dependencies,
          s.graph.state Demo.taskId)) =
      some (.blocked, some [Demo.taskId], .succeeded) := by
  decide +kernel

end ComputeFabric
