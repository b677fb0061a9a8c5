import ComputeFabric.Fabric.Run
import ComputeFabric.Safety.Cancellation

/-!
# `Safety.Rerun` — a cancelled task is run again

Once `handle_task_cancel` has answered `cancelled = true`, the task should never be dispatched again. The
coordinator keeps a note of the answer in `cancel_requested_`, but only `handle_attempt_complete` reads it. The
other ways an attempt can end do not: a node reports a cancellation that its kernel sees as `AttemptFailed`,
which `handle_attempt_failed` retries like any failure, and the loss of the node retries the task as well.

The setting is the whole fabric, with nodes that behave as `NodeRuntime` does.

- `TaskView.Parked` — the row of a task the scheduler will not touch: running, or over.
- `keepsParked` — the events that send a parked task back to the scheduler are left out.
- `cancelled_not_rerun` — then it is not dispatched again.
- `cancelled_kernel_reruns` — a run of one node in which a cancelled task is.
-/

namespace ComputeFabric

open Coordinator
open ExecutionAttempt (markStarted markCommitted markFailed markCancelled)

variable {D : Type}

/-! ## The condition -/

/-- No scheduler looks at a task in this state. -/
def TaskState.isParked (st : TaskState) : Bool := st = .running || st.isTerminal

/-- The event does not send the parked task `t` into a retry, or bring it back as unfinished work. -/
def Coordinator.keepsParked (env : Env) (t : ComputeTaskId) (s : Coordinator D) : Event D → Bool
  | .command (.attemptFailed _ _ fa) =>
      match s.findActiveAttempt fa.attemptId with
      | none => true
      | some (_, a) =>
          a.taskId ≠ t || a.coordinatorEpoch ≠ s.durable.epoch || a.state = .succeeded || a.committed ||
            !(s.graph.state t).isLegal .retryPending || !s.retriesFailure a (.ofUInt8 fa.failureKind)
  | .command (.taskSubmit _ _ _ sub) => sub.task.id ≠ t || !s.accepts sub
  | .sweep =>
      (s.lostNodes env (s.now env)).all fun n =>
        t ∉ s.affectedBy n || !(s.graph.state t).isLegal .retryPending ||
          !(s.graph.find t).any fun task => retriesNodeLoss task
  | .restart => ((s.file.getD {}).view t 0).state.all fun st => st.isParked
  | _ => true

/-- The same for an event of the fabric. -/
def Fabric.keepsParked (env : Env) (t : ComputeTaskId) (f : Fabric D) (e : FabricEvent D) : Bool :=
  (f.coreEvent e).all fun ev => f.coordinator.keepsParked env t ev

/-! ## One task -/

namespace TaskState

/-- A parked task leaves for the scheduler only on a request for `ready` or `retryPending`. -/
theorem isParked_next {st dst : TaskState} (h : st.isParked = true) (hready : dst ≠ ready)
    (hretry : dst = retryPending → st.isLegal retryPending = false) : (next st dst).isParked = true := by
  unfold next
  split_ifs with hlegal
  · cases st <;> cases dst <;>
      first
        | rfl
        | exact absurd rfl hready
        | (cases h; done)
        | (cases hlegal; done)
        | cases hretry rfl
  · exact h

/-- Whether a parked task may be retried does not depend on how it came to be parked. -/
theorem isLegal_retryPending_of_next {st dst : TaskState} (h : st.isParked = true)
    (hst : st.isLegal retryPending = false) : next st dst = st := by
  refine next_absorbing ?_ dst
  cases st <;> first | rfl | (cases h; done) | cases hst

end TaskState

/-- The task is unknown or parked, and was dispatched `n` times. `retries` says whether a request for a retry
    would be granted. -/
def TaskView.Parked (retries : Bool) (n : Nat) (v : TaskView D) : Prop :=
  v.dispatched = n ∧ ∀ st, v.state = some st →
    st.isParked = true ∧ (retries = false → st.isLegal .retryPending = false)

namespace TaskView

variable {retries : Bool} {n : Nat} {v : TaskView D}

theorem Parked.move (h : v.Parked retries n) {dst : TaskState} (hready : dst ≠ .ready)
    (hretry : dst = .retryPending → retries = false) : (v.move dst).Parked retries n := by
  refine ⟨h.1, ?_⟩
  intro st hst
  obtain ⟨cur, hcur, rfl⟩ := Option.map_eq_some_iff.mp hst
  obtain ⟨hparked, hlegal⟩ := h.2 cur hcur
  refine ⟨TaskState.isParked_next hparked hready fun hdst => hlegal (hretry hdst), fun hr => ?_⟩
  rw [TaskState.isLegal_retryPending_of_next hparked (hlegal hr)]
  exact hlegal hr

theorem Parked.ne (h : v.Parked retries n) {st : TaskState} (hst : st.isParked = false) :
    v.state ≠ some st := by
  intro hv
  rw [(h.2 st hv).1] at hst
  cases hst

end TaskView

section Steps

variable {env : Env} {s : Coordinator D} {t : ComputeTaskId} {e : Event D}

/-- A request for a retry would be granted. -/
def Coordinator.wouldRetry (s : Coordinator D) (t : ComputeTaskId) : Bool :=
  (s.graph.state t).isLegal .retryPending

/-- **One transition** of a parked task neither dispatches it nor hands it to the scheduler. -/
theorem TaskStep.parked {v v' : TaskView D} {n : Nat} (h : TaskStep env s t e v v')
    (hc : s.keepsParked env t e = true) (hv : v.Parked (s.wouldRetry t) n) :
    v'.Parked (s.wouldRetry t) n := by
  cases h with
  | submit hid hnew haccepts => simp [keepsParked, hid, haccepts] at hc
  | unblock hstate => exact absurd hstate (hv.ne rfl)
  | @fail conn req fa i a time retryAt hfind htask hepoch hstate hcommitted hretry =>
      dsimp only
      split_ifs
      · exact hv
      · refine TaskView.Parked.move (v := ((s.view t).rewrite i _).release) hv ?_ ?_
        · rcases Ledger.afterFailure_eq retryAt with hr | hr <;> rw [hr] <;> decide
        · -- a retry is asked for only where the condition says that it is refused
          intro hafter
          have hsome : retryAt.isSome = true := by
            cases retryAt with
            | none => cases hafter
            | some time => rfl
          rw [hsome] at hretry
          simpa [keepsParked, hfind, htask, hepoch, hstate, hcommitted, ← hretry, wouldRetry] using hc
  | requestCancel hstate => exact hv
  | cancelTask hstate hterminal hrunning hlegal =>
      refine absurd hstate (hv.ne ?_)
      simp [TaskState.isParked, hterminal, hrunning]
  | @lose v m task retryAt hlost haffected hattempts htask hretry =>
      have hlost' : (v.move .lost).Parked (s.wouldRetry t) n := hv.move (by decide) nofun
      refine TaskView.Parked.move hlost' ?_ ?_
      · rcases Ledger.afterFailure_eq retryAt with hr | hr <;> rw [hr] <;> decide
      · intro hafter
        have hsome : retryAt.isSome = true := by
          cases retryAt with
          | none => cases hafter
          | some time => rfl
        rw [hsome] at hretry
        have hm := List.all_eq_true.mp hc m hlost
        simpa [haffected, htask, ← hretry, wouldRetry] using hm
  | timeout hstale hattempts hstate => exact absurd hstate (hv.ne rfl)
  | requeue hstate => exact absurd hstate (hv.ne rfl)
  | expire hstate hst =>
      refine absurd hstate (hv.ne ?_)
      rcases hst with rfl | rfl | rfl <;> rfl
  | expireReady hstate => exact absurd hstate (hv.ne rfl)
  | dispatch hstate hlive hcommitted => exact absurd hstate (hv.ne rfl)
  | _ => exact TaskView.Parked.move hv (by decide) nofun

end Steps

/-! ## Runs of the coordinator -/

section Runs

variable [DoubleArith D] {env : Env} {s s' : Coordinator D} {t : ComputeTaskId}

/-- The task is unknown or parked, and was dispatched `n` times. -/
def Coordinator.ParkedAt (s : Coordinator D) (t : ComputeTaskId) (n : Nat) : Prop :=
  (s.view t).dispatched = n ∧ ∀ st, (s.view t).state = some st → st.isParked = true

omit [DoubleArith D] in
theorem parked_of_parkedAt {n : Nat} (h : s.ParkedAt t n) : (s.view t).Parked (s.wouldRetry t) n := by
  refine ⟨h.1, fun st hst => ⟨h.2 st hst, fun hr => ?_⟩⟩
  rw [← hr, wouldRetry, Ledger.state_of_view hst]

/-- **One event** keeps a parked task parked and does not dispatch it. -/
theorem step_parked {e : Event D} {n : Nat} (hsound : s.Sound) (hc : s.keepsParked env t e = true)
    (hs : s.ParkedAt t n) (he : step env s e = some s') : s'.ParkedAt t n := by
  cases hlocal : e.isLocal with
  | true =>
      obtain ⟨hn, hstates⟩ := (step_steps hlocal he).view_invariant t
        (fun v v' hv hstep => hstep.parked hc hv) hsound.wellFormed (parked_of_parkedAt hs)
      exact ⟨hn, fun st hst => (hstates st hst).1⟩
  | false =>
      cases e with
      | restart =>
          have hview := (step_restart hsound he).view t
          refine ⟨by rw [hview]; exact hs.1, fun st hst => ?_⟩
          have hall : ((s.file.getD {}).view t 0).state.all (fun st => st.isParked) = true := hc
          rw [hview] at hst
          rwa [show ((s.file.getD {}).view t 0).state = some st from hst, Option.all_some] at hall
      | _ => cases hlocal

omit [DoubleArith D] in
/-- An accepted cancellation leaves the task parked, and dispatches nothing. -/
theorem handleTaskCancel_parked (env : Env) (client : Id128) (conn : ConnId) (req : UInt64)
    (h : (s.cancelResponse t).cancelled = true) :
    (s.handleTaskCancel env client conn req t).ParkedAt t (s.view t).dispatched := by
  unfold ParkedAt
  rcases handleTaskCancel_accepted env client conn req h with ⟨hstate, hledger⟩ | ⟨hnext, hledger⟩
  · rw [hledger, Ledger.view_touchAttempts, Ledger.view_requestCancel, if_pos rfl]
    refine ⟨rfl, fun st hst => ?_⟩
    obtain rfl : st = .running := Option.some.inj (hst.symm.trans hstate)
    rfl
  · rw [hledger, Ledger.view_cancelTask, if_pos rfl]
    refine ⟨rfl, fun st hst => ?_⟩
    obtain rfl : st = .cancelled := Option.some.inj (hst.symm.trans hnext)
    rfl

end Runs

/-! ## Runs of the fabric -/

section Fabric

variable [DoubleArith D] {env : Env} {f f₁ f' : Fabric D} {t : ComputeTaskId}

/-- **A cancelled task is not run again**, unless an event sends it back to the scheduler. From any state of a
    coordinator with its nodes in which `handle_task_cancel` answers `cancelled = true` for `t`, and through
    any later steps of the fabric that meet the condition, no attempt of `t` is dispatched. -/
theorem cancelled_not_rerun {events after : List (FabricEvent D)} (hrun : Fabric.run env events = some f)
    (hcancel : (f.coordinator.cancelResponse t).cancelled = true) {client : Id128} {conn : ConnId}
    {req : UInt64} (hstep : f.step env (.client (.taskCancel client conn req t)) = some f₁)
    (hafter : Fabric.runFrom env f₁ after = some f')
    (hcond : Lts.Along (Fabric.step env) (fun f e => f.keepsParked env t e = true) f₁ after) :
    (f'.coordinator.dispatchLog.countP fun x => x.1 = t) = f.coordinator.dispatchLog.countP fun x => x.1 = t := by
  obtain ⟨core, hcore⟩ := Fabric.run_coordinator hrun
  have hsound := run_sound hcore
  have hstep₁ : step env f.coordinator (.command (.taskCancel client conn req t)) = some f₁.coordinator := by
    rcases Fabric.step_coordinator hstep with ⟨hnone, -⟩ | ⟨ev, hev, hstep₁⟩
    · cases hnone
    · rwa [← Option.some.inj hev] at hstep₁
  have hparked : f₁.coordinator.ParkedAt t (f.coordinator.view t).dispatched := by
    rw [← Option.some.inj hstep₁]
    exact handleTaskCancel_parked env client conn req hcancel
  refine (Lts.run_invariant (I := fun x : Fabric D => x.coordinator.Sound ∧
    x.coordinator.ParkedAt t (f.coordinator.view t).dispatched) ?_ ⟨step_sound hsound hstep₁, hparked⟩
    hcond hafter).2.1
  rintro x e x' ⟨hx, hxp⟩ hc he
  rcases Fabric.step_coordinator he with ⟨-, hsame⟩ | ⟨ev, hev, hstep₂⟩
  · rw [hsame]
    exact ⟨hx, hxp⟩
  · rw [Fabric.keepsParked, hev] at hc
    exact ⟨step_sound hx hstep₂, step_parked hx hc hxp hstep₂⟩

end Fabric

/-! ## One node -/

namespace Demo

/-- Three rounds of `KernelType::HashInteger`, up to two attempts. -/
def hashTask : ComputeTask ℚ := { task 2 with kernel := .hashInteger, kernelParamN := 3 }

/-- A node registers, a client submits the task, and the node starts it and enters the kernel. -/
def enterKernel : List (FabricEvent ℚ) :=
  [.spawn { cpuSlots := 4 } nodeId, .connect 0 1, .read 1, .read 1, .node 0 .receive,
   .client (.taskSubmit ⟨0, 9⟩ 2 0 { task := hashTask }), .sweep, .node 0 .receive, .node 0 .take,
   .node 0 (.begin 0 0), .read 1, .node 0 (.check 0)]

def clientCancel : FabricEvent ℚ := .client (.taskCancel ⟨0, 9⟩ 2 0 taskId)

/-- The cancellation reaches the node, and the kernel sees it in its second round. The node reports. -/
def kernelSees : List (FabricEvent ℚ) :=
  [.node 0 .receive, .node 0 (.finish 0 (some 1) 0), .node 0 .report, .node 0 (.send .reporter), .read 1]

/-- The kernel is done before it sees anything. -/
def kernelDone : List (FabricEvent ℚ) :=
  [.node 0 .receive, .node 0 (.finish 0 none 0), .node 0 .report, .node 0 (.send .reporter), .read 1]

end Demo

/-- A cancelled task whose kernel completes regardless stays parked, sweep after sweep. -/
theorem cancelled_not_rerun_completed :
    ∃ f f₁ f', Fabric.run (Demo.env 100000 8) Demo.enterKernel = some f ∧
      (f.coordinator.cancelResponse Demo.taskId).cancelled = true ∧
      f.step (Demo.env 100000 8) Demo.clientCancel = some f₁ ∧
      Fabric.runFrom (Demo.env 100000 8) f₁ (Demo.kernelDone ++ [.sweep, .sweep]) = some f' ∧
      (f'.coordinator.dispatchLog.countP fun x => x.1 = Demo.taskId) =
        f.coordinator.dispatchLog.countP fun x => x.1 = Demo.taskId := by
  have hfacts : ((Fabric.run (Demo.env 100000 8) Demo.enterKernel).map fun f =>
      ((f.coordinator.cancelResponse Demo.taskId).cancelled,
        (f.step (Demo.env 100000 8) Demo.clientCancel).map fun f₁ =>
          ((Fabric.runFrom (Demo.env 100000 8) f₁ (Demo.kernelDone ++ [.sweep, .sweep])).isSome,
            decide (Lts.Along (Fabric.step (Demo.env 100000 8))
              (fun f e => f.keepsParked (Demo.env 100000 8) Demo.taskId e = true) f₁
              (Demo.kernelDone ++ [.sweep, .sweep]))))) = some (true, some (true, true)) := by
    decide +kernel
  obtain ⟨f, hf, hfacts⟩ := Option.map_eq_some_iff.mp hfacts
  obtain ⟨hcancel, hrest⟩ := Prod.mk.inj hfacts
  obtain ⟨f₁, hf₁, hrest⟩ := Option.map_eq_some_iff.mp hrest
  obtain ⟨hsome, halong⟩ := Prod.mk.inj hrest
  obtain ⟨f', hf'⟩ := Option.isSome_iff_exists.mp hsome
  exact ⟨f, f₁, f', hf, hcancel, hf₁, hf', cancelled_not_rerun hf hcancel hf₁ hf' (of_decide_eq_true halong)⟩

/-- The kernel of a cancelled task sees the request, the node reports a failure of kind `Cancelled`, and a
    later sweep dispatches the task a second time. -/
theorem cancelled_kernel_reruns :
    ((Fabric.run (Demo.env 100000 8) Demo.enterKernel).map fun f =>
      ((f.coordinator.cancelResponse Demo.taskId).cancelled, f.coordinator.graph.state Demo.taskId,
        (f.coordinator.view Demo.taskId).dispatched)) = some (true, .running, 1) ∧
    ((Fabric.run (Demo.env 100000 8) (Demo.enterKernel ++ [Demo.clientCancel] ++ Demo.kernelSees)).map fun f =>
      ((f.coordinator.attemptsOf Demo.taskId).map fun a => (a.state, a.failureKind),
        f.coordinator.graph.state Demo.taskId)) = some ([(.failed, .cancelled)], .retryPending) ∧
    ((Fabric.run (Demo.env 100000 8)
      (Demo.enterKernel ++ [Demo.clientCancel] ++ Demo.kernelSees ++ [.sweep])).map fun f =>
        (f.coordinator.graph.state Demo.taskId, (f.coordinator.view Demo.taskId).dispatched)) =
      some (.dispatching, 2) := by
  decide +kernel

end ComputeFabric
