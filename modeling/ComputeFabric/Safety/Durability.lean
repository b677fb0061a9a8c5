import ComputeFabric.Coordinator.Cascade
import ComputeFabric.Coordinator.Invariants

/-!
# `Safety.Durability` — committed results survive

`persist` rebuilds the durable state from the maps in memory, and `start` reloads it: only committed attempts
are saved, and states only for known tasks. A `Fact` is something the coordinator must never forget — a task
it accepted, a workload it recorded, a result it committed, a success — and the two levels agree on facts:

- `holds_snapshot`, `Started.knows` — a save writes exactly the facts in memory, a start reads exactly those
  of the file.
- `CoreStep.knows` — no step forgets a fact.
- `CoreStep.learned` — a step learns one only in a commit or an accepted submission, and both end in a save.

So, when saves succeed, the file holds every fact at the end of every event (`Settled`), and a fact known once
is known in every later state of the run, through any number of restarts.
-/

namespace ComputeFabric

open Coordinator

variable {D : Type}

/-! ## Facts -/

inductive Fact (D : Type) where
  | task (t : ComputeTaskId) (task : ComputeTask D)
  | succeeded (t : ComputeTaskId)
  | result (t : ComputeTaskId) (r : AttemptResult)
  | workload (w : WorkloadId) (wl : Workload)

/-- The coordinator has the fact in memory. -/
def Coordinator.Knows (s : Coordinator D) : Fact D → Prop
  | .task t task => s.graph.find t = some task
  | .succeeded t => s.graph.state t = .succeeded
  | .result t r => ∃ a ∈ s.attemptsOf t, a.result = some r
  | .workload w wl => s.durable.workloads[w]? = some wl

/-- A start on the file `d` finds the fact. -/
def DurableState.Holds (d : DurableState D) : Fact D → Prop
  | .task t task => d.tasks[t]? = some task
  | .succeeded t => (d.view t 0).state = some .succeeded
  | .result t r => ∃ a ∈ d.attempts[t]?.getD [], a.result = some r
  | .workload w wl => d.workloads[w]? = some wl

/-- A fact about one task, read off its row. -/
theorem knows_succeeded {s : Coordinator D} {t : ComputeTaskId} :
    s.Knows (.succeeded t) ↔ (s.view t).state = some .succeeded :=
  Ledger.state_eq_iff (by decide)

theorem knows_result {s : Coordinator D} {t : ComputeTaskId} {r : AttemptResult} :
    s.Knows (.result t r) ↔ ∃ i : Nat, ((s.view t).attempts[i]?.bind ExecutionAttempt.result) = some r := by
  show (∃ a ∈ s.attemptsOf t, a.result = some r) ↔ _
  simp only [List.mem_iff_getElem?, Option.bind_eq_some_iff]
  constructor
  · rintro ⟨a, ⟨i, hi⟩, hr⟩
    exact ⟨i, a, hi, hr⟩
  · rintro ⟨i, a, hi, hr⟩
    exact ⟨a, ⟨i, hi⟩, hr⟩

/-- **A save writes the facts in memory**, all of them and no others. -/
theorem holds_snapshot {s : Coordinator D} (hcoh : s.graph.Coherent) (f : Fact D) :
    s.snapshot.Holds f ↔ s.Knows f := by
  cases f with
  | task t task => exact Iff.rfl
  | succeeded t =>
      rw [knows_succeeded, DurableState.Holds, view_snapshot hcoh]
      show (s.view t).state.map _ = _ ↔ _
      cases (s.view t).state <;> simp [recoveredState_eq_succeeded]
  | result t r =>
      show (∃ a ∈ s.snapshot.attempts[t]?.getD [], a.result = some r) ↔ ∃ a ∈ s.attemptsOf t, a.result = some r
      rw [getD_attempts_snapshot]
      constructor
      · rintro ⟨a, ha, hr⟩
        exact ⟨a, List.mem_of_mem_filter ha, hr⟩
      · rintro ⟨a, ha, hr⟩
        -- only a committed attempt has a result, so the filter keeps it
        have hcommitted : a.committed = true := by rw [← a.isSome_result, hr, Option.isSome_some]
        exact ⟨a, List.mem_filter.mpr ⟨ha, hcommitted⟩, hr⟩
  | workload w wl => exact Iff.rfl

/-- **A start reads the facts of the file**, all of them and no others. -/
theorem Started.knows {w : World D} {d : DurableState D} {s : Coordinator D} (h : Started w d s)
    (hworkloads : s.durable.workloads = d.workloads) (f : Fact D) : s.Knows f ↔ d.Holds f := by
  cases f with
  | task t task =>
      show s.graph.tasks[t]? = some task ↔ _
      rw [h.tasks]
      rfl
  | succeeded t =>
      rw [knows_succeeded, h.view]
      rfl
  | result t r =>
      show (∃ a ∈ s.attempts[t]?.getD [], a.result = some r) ↔ _
      rw [h.attempts]
      rfl
  | workload w wl =>
      show s.durable.workloads[w]? = some wl ↔ _
      rw [hworkloads]
      rfl

/-! ## One step -/

section Steps

variable [DoubleArith D] {env : Env} {s₀ s s' : Coordinator D} {e : Event D}

/-- The event commits an attempt or accepts a submission. -/
def Coordinator.learns (s : Coordinator D) : Event D → Bool
  | .command (.attemptComplete _ _ co) => (s.commits co).isSome
  | .command (.taskSubmit _ _ _ sub) => s.accepts sub
  | _ => false

omit [DoubleArith D] in
theorem DurableState.Records.workload_kept {d d' : DurableState D} (h : d.Records s₀ e d') {w : WorkloadId}
    {wl : Workload} (hw : d.workloads[w]? = some wl) : d'.workloads[w]? = some wl := by
  rcases h with rfl | ⟨client, conn, req, sub, -, -, rfl⟩
  · exact hw
  · unfold recordWorkload
    split_ifs with hknown
    · exact hw
    · -- only a workload that has no record yet gets one
      have hne : sub.workloadId ≠ w := by
        rintro rfl
        rw [Std.ExtTreeMap.contains_eq_isSome_getElem?, hw] at hknown
        exact hknown rfl
      simpa [Std.ExtTreeMap.getElem?_insert, hne] using hw

/-- **No step forgets a fact.** -/
theorem CoreStep.knows (h : CoreStep env s₀ e s s') (hsound : s.Sound) {f : Fact D} (hf : s.Knows f) :
    s'.Knows f := by
  have hrow : ∀ {J : TaskView D → Prop} (t : ComputeTaskId),
      (∀ v v', J v → TaskStep env s₀ t e v v' → J v') → J (s.view t) → J (s'.view t) :=
    fun t hJ hs => CoreSteps.view_invariant t hJ hsound.wellFormed (.single h) hs
  cases f with
  | task t task =>
      rcases h.ledger with hsame | hact
      · show s'.toLedger.graph.find t = some task
        rwa [hsame]
      · exact hact.tasks_mono hsound.wellFormed.coherent hf
  | succeeded t =>
      rw [knows_succeeded] at hf ⊢
      exact hrow t (fun v v' hv hstep => hstep.absorbing hv rfl) hf
  | result t r =>
      obtain ⟨i, hi⟩ := knows_result.mp hf
      refine knows_result.mpr ⟨i, ?_⟩
      exact hrow (J := fun v => (v.attempts[i]?.bind ExecutionAttempt.result) = some r) t
        (fun v v' hv hstep => hstep.result_kept hv) hi
  | workload w wl =>
      cases h with
      | quiet _ hdurable => exact (congrArg (fun d : DurableState D => d.workloads[w]?) hdurable).trans hf
      | save =>
          show (s.persist env).durable.workloads[w]? = some wl
          rw [persist_durable]
          exact hf
      | act _ hdurable => exact hdurable.workload_kept hf

/-- A row learns a success or a result only from a commit. -/
theorem CoreStep.row_learned {J : TaskView D → Prop} (h : CoreStep env s₀ e s s') (hsound : s.Sound)
    (hquiet : s₀.learns e = false) (t : ComputeTaskId)
    (horigin : ∀ v v', TaskStep env s₀ t e v v' → J v' → J v ∨
      ∃ conn req co, e = .command (.attemptComplete conn req co) ∧ (s₀.commits co).isSome = true)
    (hs' : J (s'.view t)) : J (s.view t) := by
  refine CoreSteps.view_invariant t (J := fun v => J v → J (s.view t)) ?_ hsound.wellFormed (.single h) id hs'
  intro v v' hv hstep hv'
  rcases horigin v v' hstep hv' with hold | ⟨conn, req, co, rfl, hcommits⟩
  · exact hv hold
  · exact absurd (hcommits.symm.trans hquiet) (by decide)

omit [DoubleArith D] in
theorem DurableState.Records.workload_learned {d d' : DurableState D} (h : d.Records s₀ e d')
    (hquiet : s₀.learns e = false) : d' = d := by
  rcases h with hsame | ⟨client, conn, req, sub, rfl, haccepts, -⟩
  · exact hsame
  · exact absurd (haccepts.symm.trans hquiet) (by decide)

/-- **A fact is learned in a commit or in an accepted submission**, and in no other event. -/
theorem CoreStep.learned (h : CoreStep env s₀ e s s') (hsound : s.Sound) (hquiet : s₀.learns e = false)
    {f : Fact D} (hf : s'.Knows f) : s.Knows f := by
  cases f with
  | task t task =>
      have htasks : s'.graph.tasks = s.graph.tasks := by
        rcases h.ledger with hsame | hact
        · rw [hsame]
        · rcases hact.tasks hsound.wellFormed.coherent with hsame | ⟨client, conn, req, sub, rfl, haccepts, -⟩
          · exact hsame
          · exact absurd (haccepts.symm.trans hquiet) (by decide)
      exact (congrArg (fun m : IdMap (ComputeTask D) => m[t]?) htasks).symm.trans hf
  | succeeded t =>
      rw [knows_succeeded] at hf ⊢
      refine h.row_learned (J := fun v => v.state = some .succeeded) hsound hquiet t ?_ hf
      intro v v' hstep hv'
      rcases hstep.succeeded_origin hv' with hold | ⟨conn, req, co, -, he, hcommits, -⟩
      · exact .inl hold
      · exact .inr ⟨conn, req, co, he, hcommits⟩
  | result t r =>
      obtain ⟨i, hi⟩ := knows_result.mp hf
      refine knows_result.mpr ⟨i, ?_⟩
      refine h.row_learned (J := fun v => (v.attempts[i]?.bind ExecutionAttempt.result) = some r) hsound hquiet
        t ?_ hi
      intro v v' hstep hv'
      exact hstep.result_origin hv'
  | workload w wl =>
      cases h with
      | quiet _ hdurable => exact (congrArg (fun d : DurableState D => d.workloads[w]?) hdurable).symm.trans hf
      | save =>
          show s.snapshot.workloads[w]? = some wl
          rw [← persist_durable env s]
          exact hf
      | act _ hdurable =>
          have hsame := hdurable.workload_learned hquiet
          exact (congrArg (fun d : DurableState D => d.workloads[w]?) hsame).symm.trans hf

end Steps

/-! ## Saves -/

/-- The file holds every fact the coordinator knows. -/
def Coordinator.Settled (s : Coordinator D) : Prop := ∀ f, s.Knows f → (s.file.getD {}).Holds f

section Saves

variable {env : Env} {s : Coordinator D}

theorem persist_of_saveOk (hsave : env.saveOk s.saves = true) : (s.persist env).file = some s.snapshot := by
  rw [persist, if_pos hsave]

/-- Facts are read from the ledger and from the recorded workloads. -/
theorem knows_congr {s' : Coordinator D} (hledger : s'.toLedger = s.toLedger)
    (hworkloads : s'.durable.workloads = s.durable.workloads) (f : Fact D) : s'.Knows f ↔ s.Knows f := by
  cases f with
  | task t task =>
      show s'.toLedger.graph.find t = _ ↔ _
      rw [hledger]
      rfl
  | succeeded t =>
      show s'.toLedger.graph.state t = _ ↔ _
      rw [hledger]
      rfl
  | result t r =>
      show (∃ a ∈ s'.toLedger.attemptsOf t, _) ↔ _
      rw [hledger]
      rfl
  | workload w wl =>
      show s'.durable.workloads[w]? = _ ↔ _
      rw [hworkloads]
      rfl

/-- A successful save settles everything. -/
theorem settled_persist (hsave : env.saveOk s.saves = true) (hcoh : s.graph.Coherent) :
    (s.persist env).Settled := by
  intro f hf
  rw [persist_of_saveOk hsave, Option.getD_some, holds_snapshot hcoh]
  exact (knows_congr (persist_toLedger env s) (by rw [persist_durable]; rfl) f).mp hf

variable (env) in
theorem respondClient_store (client : Id128) (conn : ConnId) (req : UInt64)
    (m : Message D) :
    (s.respondClient env client conn req m).file = s.file ∧
      (s.respondClient env client conn req m).durable = s.durable := by
  unfold respondClient queueOutbound
  split_ifs <;> exact ⟨rfl, rfl⟩

theorem Coordinator.Settled.respondClient (h : s.Settled) (client : Id128) (conn : ConnId) (req : UInt64)
    (m : Message D) :
    (s.respondClient env client conn req m).Settled := by
  obtain ⟨hfile, hdurable⟩ := respondClient_store env (s := s) client conn req m
  intro f hf
  rw [hfile]
  exact h f ((knows_congr (respondClient_toLedger env s client conn req m) (by rw [hdurable]) f).mp hf)

variable (env) in
/-- An accepted submission: the task is recorded and saved, and then the client is told. -/
theorem handleTaskSubmit_of_accepts (client : Id128) (conn : ConnId) (req : UInt64) {sub : TaskSubmit D}
    (h : s.accepts sub = true) : ∃ g, s.graph.addTask sub.task = (g, .ok ()) ∧
      s.handleTaskSubmit env client conn req sub = (s.acceptTask env sub g).respondClient env client conn req
        (.taskSubmitResponse { accepted := true, taskId := sub.task.id, error := [] }) := by
  simp only [accepts, Bool.and_eq_true, Bool.not_eq_true'] at h
  obtain ⟨⟨⟨⟨hnew, hrunning⟩, hzero⟩, hdeps⟩, hadd⟩ := h
  have hdeps' : (sub.task.dependencies.find? fun d => !s.graph.hasTask d) = none := by
    rw [List.find?_eq_none]
    intro d hd
    simpa using List.all_eq_true.mp hdeps d hd
  split at hadd
  · next g hok =>
      refine ⟨g, hok, ?_⟩
      unfold handleTaskSubmit
      simp only [hnew, hrunning, hzero, hdeps', hok, Bool.false_eq_true, if_false]
  · cases hadd

end Saves

section Runs

variable [DoubleArith D] {env : Env} {s s' : Coordinator D}

/-- Both kinds of event that learn something end in a save. -/
theorem step_settled_of_learns {e : Event D} (hsave : ∀ i, env.saveOk i = true) (hlearns : s.learns e = true)
    (hsound : s.Sound) (h : step env s e = some s') : s'.Settled := by
  have hcoh' : s'.graph.Coherent := (step_sound hsound h).wellFormed.coherent
  cases e with
  | command c =>
      obtain rfl : s.process env c = s' := Option.some.inj h
      cases c with
      | attemptComplete conn req co =>
          obtain ⟨a, hcommits⟩ := Option.isSome_iff_exists.mp hlearns
          obtain ⟨p, -, hhandler⟩ := handleAttemptComplete_of_commits env conn req co hcommits
          show (s.handleAttemptComplete env conn req co).Settled
          have hcoh : (s.handleAttemptComplete env conn req co).graph.Coherent := hcoh'
          rw [hhandler] at hcoh ⊢
          exact settled_persist (hsave _) (persist_toLedger env _ ▸ hcoh)
      | taskSubmit client conn req sub =>
          obtain ⟨g, -, hhandler⟩ := handleTaskSubmit_of_accepts env client conn req hlearns
          show (s.handleTaskSubmit env client conn req sub).Settled
          have hcoh : (s.handleTaskSubmit env client conn req sub).graph.Coherent := hcoh'
          rw [hhandler, respondClient_toLedger] at hcoh
          rw [hhandler]
          have hsaved : (s.acceptTask env sub g).Settled := settled_persist (hsave _) (persist_toLedger env _ ▸ hcoh)
          exact hsaved.respondClient client conn req _
      | _ => cases hlearns
  | _ => cases hlearns

/-- A restart finds every fact the file holds. -/
theorem restart_knows (hsound : s.Sound)
    (h : step env s .restart = some s') (f : Fact D) : s'.Knows f ↔ (s.file.getD {}).Holds f :=
  (step_restart hsound h).knows (start_workloads (start_of_restart h)) f

/-- A start saves what it found. -/
theorem start_settled (hsave : ∀ i, env.saveOk i = true) {w : World D} (hfile : FileOk (w.file.getD {}))
    (h : start env w = .ok s) : s.Settled := by
  intro f hf
  rw [start_saved h (hsave _), Option.getD_some, holds_snapshot (start_spec h hfile).wellFormed.coherent]
  exact hf

/-- **At the end of every event the file holds every fact.** -/
theorem step_settled {e : Event D} (hsave : ∀ i, env.saveOk i = true) (hsound : s.Sound) (hs : s.Settled)
    (h : step env s e = some s') : s'.Settled := by
  cases hlearns : s.learns e with
  | true => exact step_settled_of_learns hsave hlearns hsound h
  | false =>
      cases hlocal : e.isLocal with
      | false =>
          cases e with
          | restart => exact start_settled hsave hsound.fileOk (start_of_restart h)
          | _ => cases hlocal
      | true =>
          refine step_invariant (I := Coordinator.Settled) ?_ (fun he _ => by subst he; cases hlocal) hsound hs h
          intro x x' hx hsettled hcore f hf
          have hold := hcore.learned hx hlearns hf
          cases hcore with
          | quiet _ _ hfile => exact hfile ▸ hsettled f hold
          | save => exact settled_persist (hsave _) hx.wellFormed.coherent f hf
          | act _ _ hfile => exact hfile ▸ hsettled f hold

/-- No event forgets a fact. -/
theorem step_knows {e : Event D} (hsound : s.Sound) (hs : s.Settled) (h : step env s e = some s') {f : Fact D}
    (hf : s.Knows f) : s'.Knows f := by
  cases hlocal : e.isLocal with
  | false =>
      cases e with
      | restart => exact (restart_knows hsound h f).mpr (hs f hf)
      | _ => cases hlocal
  | true =>
      refine step_invariant (I := fun x => x.Knows f) (fun x x' hx hx' hcore => hcore.knows hx hx')
        (fun he _ => by subst he; cases hlocal) hsound hf h

/-- **Committed results survive.** In a run whose saves all succeed, whatever the coordinator knows — an
    accepted task, a recorded workload, the result of a committed attempt, a success — it knows in every later
    state, through commands, sweeps and restarts in any order. -/
theorem committed_results_survive (hsave : ∀ i, env.saveOk i = true) {events after : List (Event D)}
    (hrun : run env events = some s) (hafter : runFrom env s after = some s') (f : Fact D) (hf : s.Knows f) :
    s'.Knows f := by
  have hinv : s.Sound ∧ s.Settled :=
    run_invariant (I := Coordinator.Settled) (C := fun _ _ => True)
      (fun s hs => start_settled hsave .empty (start_of_boot hs))
      (fun s e s' hsound hs _ he => step_settled hsave hsound hs he) (.of_forall (fun _ _ => trivial) events) hrun
  refine (Lts.run_invariant (I := fun x : Coordinator D => (x.Sound ∧ x.Settled) ∧ x.Knows f)
    (C := fun _ _ => True) ?_ ⟨hinv, hf⟩ (.of_forall fun _ _ => trivial) hafter).2
  rintro x e x' ⟨⟨hsound, hsettled⟩, hx⟩ - he
  exact ⟨⟨step_sound hsound he, step_settled hsave hsound hsettled he⟩, step_knows hsound hsettled he hx⟩

end Runs

/-- A task is submitted, run and committed; the coordinator is restarted, is shut down and restarted again. -/
theorem committed_results_survive_restarts :
    ∃ s s', run (Demo.env 3000 100) [Demo.register 1, Demo.submit 1, .sweep, Demo.started 2, Demo.complete 2 1] =
        some s ∧
      runFrom (Demo.env 3000 100) s [.restart, .sweep, .stopRequested, .restart] = some s' ∧
      s.Knows (.result Demo.taskId ⟨Demo.id 2, [], 0⟩) ∧ s'.Knows (.result Demo.taskId ⟨Demo.id 2, [], 0⟩) := by
  have hfacts : ((run (Demo.env 3000 100) [Demo.register 1, Demo.submit 1, .sweep, Demo.started 2,
      Demo.complete 2 1]).map fun s => ((s.attemptsOf Demo.taskId).map ExecutionAttempt.result,
        (runFrom (Demo.env 3000 100) s [.restart, .sweep, .stopRequested, .restart]).isSome)) =
      some ([some ⟨Demo.id 2, [], 0⟩], true) := by
    decide +kernel
  obtain ⟨s, hs, hfacts⟩ := Option.map_eq_some_iff.mp hfacts
  obtain ⟨hresult, hsome⟩ := Prod.mk.inj hfacts
  obtain ⟨s', hs'⟩ := Option.isSome_iff_exists.mp hsome
  have hknows : s.Knows (.result Demo.taskId ⟨Demo.id 2, [], 0⟩) :=
    List.mem_map.mp (by rw [hresult]; exact List.mem_singleton.mpr rfl)
  exact ⟨s, s', hs, hs', hknows, committed_results_survive (fun _ => rfl) hs hs' _ hknows⟩

end ComputeFabric
