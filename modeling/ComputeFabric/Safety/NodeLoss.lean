import ComputeFabric.Coordinator.SweepStates
import ComputeFabric.Coordinator.Invariants

/-!
# `Safety.NodeLoss` — which tasks the loss of a node touches

`handle_node_loss` looks for affected tasks in the whole attempt history: a task is affected when *any* of its
attempts is still outstanding on the lost node, not when its current one is. An attempt given up by a dispatch
timeout stays outstanding, so a task that has moved to another node since is lost with the old one.

- `handleNodeLoss_reservations` — which reservations are given back;
- `node_loss_spares_iff` — exactly when a task keeps its state, its reservation entry and its reservation;
- `node_loss_hits_moved_task` — a task that runs on one node is requeued when another node is lost.
-/

namespace ComputeFabric

open Coordinator
open ReservationRegistry (giveBack)

variable {D : Type}

/-! ## Reservations -/

/-- A reservation that a lost task holds. -/
def Ledger.isHeldBy (l : Ledger D) (ts : List ComputeTaskId) (rid : ReservationId) : Bool :=
  ts.any fun u => (l.graph.find u).isSome && l.taskReservation[u]? = some rid

theorem loseTask_reservations (env : Env) (s : Coordinator D) (u : ComputeTaskId) (rid : ReservationId) :
    (loseTask env s u).reservations[rid]? =
      if (s.graph.find u).isSome = true ∧ s.taskReservation[u]? = some rid then s.reservations[rid]?.map giveBack
      else s.reservations[rid]? := by
  have hlose : ∀ r : Option Int64, (s.toLedger.loseTask u r).reservations[rid]? =
      if s.taskReservation[u]? = some rid then s.reservations[rid]?.map giveBack else s.reservations[rid]? := by
    intro r
    have hentry : ((s.toLedger.setState u .lost).retryOrFail u r).taskReservation = s.taskReservation := by
      cases r <;> rfl
    have hresv : ((s.toLedger.setState u .lost).retryOrFail u r).reservations = s.reservations := by
      cases r <;> rfl
    unfold Ledger.loseTask Ledger.releaseTaskReservation
    dsimp only
    rw [hentry]
    cases s.taskReservation[u]? with
    | none =>
        dsimp only
        rw [hresv]
        simp
    | some held =>
        dsimp only
        rw [hresv, ReservationRegistry.getElem?_tryRelease]
        simp
  unfold loseTask
  split
  · next hfind => simp [hfind]
  · next task hfind =>
      rw [hfind]
      simp only [Option.isSome_some, true_and]
      by_cases hretry : retriesNodeLoss task = true
      · rw [if_pos hretry]
        exact hlose (some (s.retryTime env task))
      · rw [if_neg hretry]
        exact hlose none

/-- The loop of `handle_node_loss` gives back what the listed tasks hold. -/
theorem foldl_loseTask_reservations (env : Env) (ts : List ComputeTaskId) (s : Coordinator D)
    (rid : ReservationId) :
    (ts.foldl (loseTask env) s).reservations[rid]? =
      if s.isHeldBy ts rid = true then s.reservations[rid]?.map giveBack else s.reservations[rid]? := by
  induction ts generalizing s with
  | nil => rfl
  | cons u ts ih =>
      have hfind : ∀ v, (loseTask env s u).graph.find v = s.graph.find v := fun v =>
        congrArg (fun m : IdMap (ComputeTask D) => m[v]?) (loseTask_tasks env s u)
      -- the round drops the entry of its own task, and no other
      have hentry : ∀ v, (loseTask env s u).taskReservation[v]? =
          if u = v ∧ (s.graph.find u).isSome = true then none else s.taskReservation[v]? := by
        intro v
        have hview := congrArg TaskView.resv (loseTask_view env s u v)
        refine hview.trans ?_
        by_cases hu : u = v
        · subst hu
          rw [if_pos rfl, Ledger.lostView]
          cases s.graph.find u with
          | none => simp [Ledger.view]
          | some task => simp [TaskView.lost]
        · simp [hu, Ledger.view]
      have hheld : s.isHeldBy (u :: ts) rid = true ↔
          ((s.graph.find u).isSome = true ∧ s.taskReservation[u]? = some rid) ∨
            (loseTask env s u).isHeldBy ts rid = true := by
        simp only [Ledger.isHeldBy, List.any_cons, Bool.or_eq_true, Bool.and_eq_true, decide_eq_true_eq,
          List.any_eq_true, hfind, hentry]
        constructor
        · rintro (hu | ⟨v, hv, hknown, hrid⟩)
          · exact .inl hu
          · by_cases huv : u = v ∧ (s.graph.find u).isSome = true
            · exact .inl ⟨huv.2, huv.1 ▸ hrid⟩
            · exact .inr ⟨v, hv, hknown, by rw [if_neg huv]; exact hrid⟩
        · rintro (hu | ⟨v, hv, hknown, hrid⟩)
          · exact .inl hu
          · split_ifs at hrid
            exact .inr ⟨v, hv, hknown, hrid⟩
      rw [List.foldl_cons, ih, loseTask_reservations]
      by_cases hu : (s.graph.find u).isSome = true ∧ s.taskReservation[u]? = some rid
      · rw [if_pos hu, if_pos (hheld.mpr (.inl hu))]
        split_ifs
        · cases s.reservations[rid]? <;> rfl
        · rfl
      · have hrest := hheld.trans (or_iff_right hu)
        simp only [if_neg hu, hrest]

/-- **The loss of a node** gives back the reservations on it and those its tasks hold. -/
theorem handleNodeLoss_reservations (env : Env) (s : Coordinator D) (n : NodeId) (rid : ReservationId) :
    (handleNodeLoss env s n).reservations[rid]? = s.reservations[rid]?.map fun r =>
      if s.isOnline n = true ∧ (r.nodeId = n ∨ s.isHeldBy (s.affectedBy n) rid = true) then giveBack r
      else r := by
  rcases handleNodeLoss_cases env s n with ⟨hoff, heq⟩ | ⟨hon, node, x, -, -, hledger, heq⟩
  · simp [heq, hoff]
  · have hheld : x.isHeldBy (s.affectedBy n) rid = s.isHeldBy (s.affectedBy n) rid := by
      rw [hledger]
      rfl
    have hdropped : x.reservations[rid]? = s.reservations[rid]?.map fun r =>
        if r.nodeId = n then giveBack r else r := by
      rw [hledger]
      exact ReservationRegistry.getElem?_releaseAllForNode _ _ _
    simp only [heq, persist_toLedger, foldl_loseTask_reservations, hheld, hdropped, hon, true_and]
    cases s.reservations[rid]? with
    | none => simp
    | some r =>
        simp only [Option.map_some]
        by_cases hn : r.nodeId = n
        · simp only [hn, if_true, true_or]
          split_ifs <;> rfl
        · simp only [hn, if_false, false_or]
          split_ifs <;> rfl

/-! ## One task -/

/-- The loss of `n` leaves the task `t` alone: `n` is offline already, or

    - the reservation the task holds has been given back before, or is on another node and no lost task holds
      it, and
    - no attempt of the task is outstanding on `n`, or there is nothing to take: no reservation entry, and a
      state that a loss does not change. -/
def Coordinator.lossSpares (s : Coordinator D) (n : NodeId) (t : ComputeTaskId) : Bool :=
  !s.isOnline n ||
    ((s.taskReservation[t]?).all fun rid => (s.reservations[rid]?).all fun r =>
      r.released || r.nodeId ≠ n && !s.isHeldBy (s.affectedBy n) rid) &&
    (!(s.affectedBy n).contains t || (s.graph.find t).all fun task =>
      (s.taskReservation[t]?).isNone && (s.graph.states[t]?).all fun st => lossState task st = st)

/-- A loss changes nothing in the row of a task that has nothing to lose. -/
theorem lostView_same_iff (l : Ledger D) (t : ComputeTaskId) :
    ((l.lostView t).state = (l.view t).state ∧ (l.lostView t).resv = (l.view t).resv) ↔
      ((l.graph.find t).all fun task => (l.taskReservation[t]?).isNone &&
        (l.graph.states[t]?).all fun st => lossState task st = st) = true := by
  unfold Ledger.lostView
  cases l.graph.find t with
  | none => simp
  | some task =>
      show ((l.graph.states[t]?).map (lossState task) = l.graph.states[t]? ∧ none = l.taskReservation[t]?) ↔ _
      cases l.graph.states[t]? <;> cases l.taskReservation[t]? <;> simp

/-- The flag of a reservation stays unless the reservation is given back now. -/
theorem released_same_iff (s : Coordinator D) {n : NodeId} (hn : s.isOnline n = true) (rid : ReservationId) :
    ((s.reservations[rid]?.map fun r =>
        if s.isOnline n = true ∧ (r.nodeId = n ∨ s.isHeldBy (s.affectedBy n) rid = true) then giveBack r
        else r).map fun r => r.released) = (s.reservations[rid]?.map fun r => r.released) ↔
      ((s.reservations[rid]?).all fun r =>
        r.released || r.nodeId ≠ n && !s.isHeldBy (s.affectedBy n) rid) = true := by
  cases s.reservations[rid]? with
  | none => simp
  | some r =>
      simp only [hn, true_and, Option.map_some, Option.some.injEq, Option.all_some]
      split_ifs with hgiven
      · have hkept : (decide (r.nodeId ≠ n) && !s.isHeldBy (s.affectedBy n) rid) = false := by
          rcases hgiven with h | h <;> simp [h]
        rw [hkept, Bool.or_false]
        exact eq_comm
      · rw [not_or] at hgiven
        simp [hgiven.1, hgiven.2]

/-- **What the loss of a node touches.** For every state, node and task — in particular for a task whose last
    attempt is on another node — state, reservation entry and reservation stay as they are if and only if
    `lossSpares` holds. -/
theorem node_loss_spares_iff (env : Env) (s : Coordinator D) (n : NodeId) (t : ComputeTaskId) :
    ((handleNodeLoss env s n).graph.states[t]? = s.graph.states[t]? ∧
      (handleNodeLoss env s n).taskReservation[t]? = s.taskReservation[t]? ∧
      ∀ rid, s.taskReservation[t]? = some rid →
        ((handleNodeLoss env s n).reservations[rid]?.map fun r => r.released) =
          s.reservations[rid]?.map fun r => r.released) ↔
    s.lossSpares n t = true := by
  have hview := handleNodeLoss_view env s n t
  have hstate := congrArg TaskView.state hview
  have hresv := congrArg TaskView.resv hview
  simp only [handleNodeLoss_reservations]
  rw [show (handleNodeLoss env s n).graph.states[t]? = ((handleNodeLoss env s n).view t).state from rfl,
    show (handleNodeLoss env s n).taskReservation[t]? = ((handleNodeLoss env s n).view t).resv from rfl,
    hstate, hresv, lossSpares]
  by_cases hn : s.isOnline n = true
  · have hflags : (∀ rid, s.taskReservation[t]? = some rid → ((s.reservations[rid]?.map fun r =>
        if s.isOnline n = true ∧ (r.nodeId = n ∨ s.isHeldBy (s.affectedBy n) rid = true) then giveBack r
        else r).map fun r => r.released) = s.reservations[rid]?.map fun r => r.released) ↔
        ((s.taskReservation[t]?).all fun rid => (s.reservations[rid]?).all fun r =>
          r.released || r.nodeId ≠ n && !s.isHeldBy (s.affectedBy n) rid) = true := by
      simp only [released_same_iff s hn]
      cases s.taskReservation[t]? <;> simp
    rw [hflags, hn, Bool.not_true, Bool.false_or, Bool.and_eq_true, ← and_assoc, and_comm]
    refine and_congr_right fun _ => ?_
    by_cases ht : t ∈ s.affectedBy n
    · rw [if_pos ⟨rfl, ht⟩, List.contains_iff_mem.mpr ht, Bool.not_true, Bool.false_or]
      exact lostView_same_iff s.toLedger t
    · rw [if_neg fun h => ht h.2]
      have hnot : (s.affectedBy n).contains t = false := by simpa using ht
      rw [hnot]
      exact ⟨fun _ => rfl, fun _ => ⟨rfl, rfl⟩⟩
  · rw [if_neg fun h => hn h.1, Bool.eq_false_iff.mpr hn, Bool.not_false, Bool.true_or]
    refine ⟨fun _ => rfl, fun _ => ⟨rfl, rfl, ?_⟩⟩
    intro rid _
    cases s.reservations[rid]? <;> simp

/-! ## A task that has moved -/

/-- A second node. -/
def Demo.registerOther : Event ℚ :=
  .command (.nodeRegister 3 0 { nodeId := ⟨0, 8⟩, capacity :=
    { cpuWorkerSlots := 4, executors := [{ slots := 4, relativeSpeed := 1 }] } })

/-- The first dispatch of the task times out while its node drains; the second one runs on another node. -/
def Demo.moved : List (Event ℚ) :=
  [Demo.register 1, Demo.submit 3, .sweep, Demo.registerOther,
   .command (.nodeDrain ⟨0, 9⟩ 2 0 { nodeId := Demo.nodeId }), .sweep, Demo.started 5]

/-- The last attempt of the task runs on the second node, and the loss of the first one requeues the task and
    gives back its reservation on the second. -/
theorem node_loss_hits_moved_task :
    ((run (Demo.env 100000 7) Demo.moved).map fun s =>
      ((s.attemptsOf Demo.taskId).getLast?.map fun a => (a.nodeId, a.reservationId),
        s.graph.state Demo.taskId, s.taskReservation[Demo.taskId]?,
        s.reservations[Demo.id 4]?.map fun r => (r.nodeId, r.released))) =
      some (some (⟨0, 8⟩, Demo.id 4), .running, some (Demo.id 4), some (⟨0, 8⟩, false)) ∧
    ((run (Demo.env 100000 7) Demo.moved).map fun s =>
      let s' := handleNodeLoss (Demo.env 100000 7) s Demo.nodeId
      (s'.graph.state Demo.taskId, s'.taskReservation[Demo.taskId]?,
        s'.reservations[Demo.id 4]?.map fun r => (r.nodeId, r.released))) =
      some (.retryPending, none, some (⟨0, 8⟩, true)) := by
  constructor <;> decide +kernel

end ComputeFabric
