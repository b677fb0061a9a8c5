import ComputeFabric.Coordinator.TaskSteps

/-!
# `Coordinator.GraphSteps` — what an event can do to the task graph

Seen from the graph alone, every ledger transition is a sequence of gated state changes, a submission or a
rejected submission. `Requested` says why a state change is asked for; an invariant of the graph needs no more
than that, and does not look at attempts, reservations or timers.
-/

namespace ComputeFabric

open Coordinator
open ExecutionAttempt (markStarted markCommitted markFailed markCancelled)

variable {D : Type}

/-- States a task passes through while it is executed: no other task waits for one of them. -/
def TaskState.isInner : TaskState → Bool
  | planning | reserved | dispatching | running | retryPending | lost | preempted => true
  | _ => false

/-- The reasons for which the event `e`, which began in `s₀`, asks for task `t` to enter `dst`. -/
structure Requested (s₀ : Coordinator D) (e : Event D) (g : TaskGraph D) (t : ComputeTaskId)
    (dst : TaskState) : Prop where
  entered : dst ≠ .submitted ∧ dst ≠ .blocked
  ready : dst = .ready → g.states[t]? = some .dispatching ∨ g.states[t]? = some .retryPending ∨
    g.states[t]? = some .blocked ∧ g.dependenciesSatisfied t = true
  succeeded : dst = .succeeded → ∃ conn req co a,
    e = .command (.attemptComplete conn req co) ∧ s₀.commits co = some a ∧ a.taskId = t
  failed : dst = .failed → e = .sweep ∨ ∃ conn req fa p a,
    e = .command (.attemptFailed conn req fa) ∧ s₀.findActiveAttempt fa.attemptId = some (p, a) ∧
      a.coordinatorEpoch = s₀.durable.epoch ∧ a.state ≠ .succeeded ∧ a.committed = false ∧ a.taskId = t ∧
      s₀.retriesFailure a (.ofUInt8 fa.failureKind) = false ∧ g = s₀.graph
  cancelled : dst = .cancelled → ∃ client conn req st,
    e = .command (.taskCancel client conn req t) ∧ s₀.graph.states[t]? = some st ∧ st.isTerminal = false ∧
      st ≠ .running ∧ st.isLegal .cancelled = true ∧ g = s₀.graph
  expired : dst = .expired → e = .sweep

namespace Requested

variable {s₀ : Coordinator D} {e : Event D} {g : TaskGraph D} {t : ComputeTaskId}

theorem inner {dst : TaskState} (h : dst.isInner = true) : Requested s₀ e g t dst := by
  refine ⟨⟨?_, ?_⟩, ?_, ?_, ?_, ?_, ?_⟩ <;>
    · rintro rfl
      cases h

/-- A request for `ready`. -/
theorem of_ready (h : g.states[t]? = some .dispatching ∨ g.states[t]? = some .retryPending ∨
    g.states[t]? = some .blocked ∧ g.dependenciesSatisfied t = true) : Requested s₀ e g t .ready where
  entered := by decide
  ready _ := h
  succeeded h := by cases h
  failed h := by cases h
  cancelled h := by cases h
  expired h := by cases h

/-- A request that a sweep makes. -/
theorem of_sweep {dst : TaskState} (h : dst.isInner = true ∨ dst = .failed ∨ dst = .expired) :
    Requested s₀ .sweep g t dst := by
  rcases h with hinner | rfl | rfl
  · exact .inner hinner
  · exact ⟨by decide, fun h => (by cases h), fun h => (by cases h), fun _ => .inl rfl, fun h => (by cases h),
      fun h => (by cases h)⟩
  · exact ⟨by decide, fun h => (by cases h), fun h => (by cases h), fun h => (by cases h),
      fun h => (by cases h), fun _ => rfl⟩

end Requested

/-- One change of the graph. -/
inductive GraphStep (s₀ : Coordinator D) : Event D → TaskGraph D → TaskGraph D → Prop
  | move {e : Event D} {g : TaskGraph D} {t : ComputeTaskId} {dst : TaskState}
      (hreq : Requested s₀ e g t dst) : GraphStep s₀ e g (g.trySetState t dst)
  | submit {client : Id128} {conn : ConnId} {req : UInt64} {sub : TaskSubmit D}
      (hnew : s₀.graph.tasks[sub.task.id]? = none)
      (hdeps : ∀ d ∈ sub.task.dependencies, s₀.graph.hasTask d = true) (haccepts : s₀.accepts sub = true) :
      GraphStep s₀ (.command (.taskSubmit client conn req sub)) s₀.graph
        ((s₀.graph.insertTask sub.task).trySetState sub.task.id (Ledger.initialState sub.task))
  | refuse {client : Id128} {conn : ConnId} {req : UInt64} {sub : TaskSubmit D} {g : TaskGraph D}
      {err : Error} (hadd : s₀.graph.addTask sub.task = (g, .error err)) :
      GraphStep s₀ (.command (.taskSubmit client conn req sub)) s₀.graph g

/-- Every change of the graph keeps its maps in agreement. -/
theorem GraphStep.coherent {s₀ : Coordinator D} {e : Event D} {g g' : TaskGraph D} (h : GraphStep s₀ e g g')
    (hg : g.Coherent) : g'.Coherent := by
  cases h with
  | move hreq => exact hg.trySetState _ _
  | submit hnew hdeps haccepts => exact (hg.insertTask hnew).trySetState _ _
  | refuse hadd =>
      obtain ⟨htasks, hstates, hdeps⟩ := TaskGraph.addTask_error hg hadd
      exact hg.congr htasks (fun _ => by rw [hstates]) hdeps

abbrev GraphSteps (s₀ : Coordinator D) (e : Event D) := Relation.ReflTransGen (GraphStep s₀ e)

section Simulation

variable {env : Env} {s₀ : Coordinator D} {e : Event D}

theorem graphSteps_of_eq {g g' : TaskGraph D} (h : g' = g) : GraphSteps s₀ e g g' := by
  rw [h]

theorem graphSteps_move {g g' : TaskGraph D} (t : ComputeTaskId) (dst : TaskState)
    (h : g' = g.trySetState t dst) (hreq : Requested s₀ e g t dst) : GraphSteps s₀ e g g' := by
  rw [h]
  exact .single (.move hreq)

/-- The loop of a node loss. -/
theorem foldl_loseTask_graphSteps (tasks : List (ComputeTaskId × Option Int64)) (l : Ledger D) :
    GraphSteps s₀ .sweep l.graph (tasks.foldl (fun l x => l.loseTask x.1 x.2) l).graph := by
  induction tasks generalizing l with
  | nil => exact .refl
  | cons x rest ih =>
      rw [List.foldl_cons]
      refine Relation.ReflTransGen.trans ?_ (ih _)
      have hgraph : (l.loseTask x.1 x.2).graph =
          (l.graph.trySetState x.1 .lost).trySetState x.1 (Ledger.afterFailure x.2) := by
        rw [Ledger.loseTask, Ledger.releaseTaskReservation_graph]
        cases x.2 <;> rfl
      rw [hgraph]
      refine .tail (.single (.move (.of_sweep (.inl rfl)))) (.move (.of_sweep ?_))
      rcases Ledger.afterFailure_eq x.2 with h | h <;> rw [h]
      · exact .inl rfl
      · exact .inr (.inl rfl)

variable [DoubleArith D]

/-- **Simulation.** Every ledger transition is a sequence of changes of the graph. -/
theorem LedgerStep.graphSteps {l l' : Ledger D} (h : LedgerStep env s₀ e l l') :
    GraphSteps s₀ e l.graph l'.graph := by
  cases h with
  | start hfind hepoch => exact graphSteps_move _ .running rfl (.inner rfl)
  | @commit conn req co p a time hfind hcommitted hcancel hvalid =>
      have hcommits := Coordinator.commits_eq_some hfind hcommitted hcancel hvalid
      refine graphSteps_move a.taskId .succeeded (Ledger.releaseTaskReservation_graph _ _) ?_
      exact ⟨by decide, fun h => (by cases h), fun _ => ⟨conn, req, co, a, rfl, hcommits, rfl⟩,
        fun h => (by cases h), fun h => (by cases h), fun h => (by cases h)⟩
  | @abandon conn req co p a time hfind hcommitted hcancel =>
      exact graphSteps_move a.taskId .preempted (Ledger.releaseTaskReservation_graph _ _) (.inner rfl)
  | unblock hblocked hsat => exact graphSteps_move _ .ready rfl (.of_ready (.inr (.inr ⟨hblocked, hsat⟩)))
  | @fail conn req fa p a time retryAt hfind hepoch hstate hcommitted hretry =>
      unfold Ledger.failAttempt
      dsimp only
      split_ifs
      · exact graphSteps_of_eq (Ledger.releaseTaskReservation_graph _ _)
      · cases retryAt with
        | some time' =>
            refine graphSteps_move a.taskId .retryPending ?_ (.inner rfl)
            exact congrArg (fun g : TaskGraph D => g.trySetState a.taskId .retryPending)
              (Ledger.releaseTaskReservation_graph _ _)
        | none =>
            refine graphSteps_move a.taskId .failed ?_ ?_
            · exact congrArg (fun g : TaskGraph D => g.trySetState a.taskId .failed)
                (Ledger.releaseTaskReservation_graph _ _)
            · exact ⟨by decide, fun h => (by cases h), fun h => (by cases h),
                fun _ => .inr ⟨conn, req, fa, p, a, rfl, hfind, hepoch, hstate, hcommitted, rfl, hretry.symm,
                  rfl⟩,
                fun h => (by cases h), fun h => (by cases h)⟩
  | @cancelAttempt ca p a time hfind hepoch =>
      refine graphSteps_move a.taskId .preempted ?_ (.inner rfl)
      exact congrArg (fun g : TaskGraph D => g.trySetState a.taskId .preempted)
        (Ledger.releaseTaskReservation_graph _ _)
  | submit hdeps hadd haccepts =>
      obtain ⟨hnew, rfl⟩ := TaskGraph.addTask_ok hadd
      exact .single (.submit hnew hdeps haccepts)
  | refuse hadd => exact .single (.refuse hadd)
  | @cancelTask client conn req t st hstate hterminal hrunning hlegal =>
      refine graphSteps_move t .cancelled (Ledger.releaseTaskReservation_graph _ _) ?_
      exact ⟨by decide, fun h => (by cases h), fun h => (by cases h), fun h => (by cases h),
        fun _ => ⟨client, conn, req, st, rfl, hstate, hterminal, hrunning, hlegal, rfl⟩, fun h => (by cases h)⟩
  | @loseNode l n tasks hlost hattempts hgraph htasks hall =>
      exact foldl_loseTask_graphSteps tasks (l.dropNode n)
  | @timeout l t time hstale hattempts hstate =>
      refine graphSteps_move t .ready ?_ (.of_ready (.inl hstate))
      exact congrArg (fun g : TaskGraph D => g.trySetState t .ready) (Ledger.releaseTaskReservation_graph _ _)
  | requeue hstate => exact graphSteps_move _ .ready rfl (.of_ready (.inr (.inl hstate)))
  | @expire l t st hstate hst =>
      refine graphSteps_move t .expired ?_ (.of_sweep (.inr (.inr rfl)))
      exact congrArg (fun g : TaskGraph D => g.trySetState t .expired) (Ledger.releaseTaskReservation_graph _ _)
  | expireReady hstate => exact graphSteps_move _ .expired rfl (.of_sweep (.inr (.inr rfl)))
  | dispatch hstate htask hnode hconnected hgrant hresv ha =>
      exact .tail (.tail (.single (.move (.inner rfl))) (.move (.inner rfl))) (.move (.inner rfl))
  | _ => exact .refl

/-- **The rule for a property of the graph**: what every change of the graph keeps, a ledger transition
    keeps. -/
theorem LedgerStep.graph_invariant {P : TaskGraph D → Prop}
    (hP : ∀ g g', g.Coherent → P g → GraphStep s₀ e g g' → P g') {l l' : Ledger D}
    (h : LedgerStep env s₀ e l l') (hwf : l.WellFormed) (hl : P l.graph) : P l'.graph := by
  refine (Lts.steps_invariant (P := fun g => g.Coherent ∧ P g) ?_ ⟨hwf.coherent, hl⟩ h.graphSteps).2
  rintro g g' ⟨hcoh, hg⟩ hstep
  exact ⟨hstep.coherent hcoh, hP g g' hcoh hg hstep⟩

end Simulation

end ComputeFabric
