import ComputeFabric.Coordinator.SweepStates
import ComputeFabric.Coordinator.Cascade

/-!
# `Coordinator.Clock` — readings of the clock

Every `now_millis()` call takes the next answer of the clock oracle, and `clockReads` counts the calls: it never
goes back, not even over a restart. For a sweep the calls can be bounded by what the state shows before it: one at
its beginning, one for each task that a lost node takes down, and three for each round of the scheduling loop.
-/

namespace ComputeFabric

open Coordinator

variable {D : Type}

/-! ## What reads no clock -/

section Frame

variable (env : Env) (s : Coordinator D)

@[simp] theorem queueOutbound_clockReads (conn : ConnId) (req : UInt64) (m : Message D) :
    (s.queueOutbound env conn req m).clockReads = s.clockReads := by
  unfold queueOutbound
  split_ifs <;> rfl

@[simp] theorem sendToNode_clockReads (n : NodeId) (m : Message D) :
    (s.sendToNode env n m).clockReads = s.clockReads := by
  unfold sendToNode
  split
  · rfl
  · exact queueOutbound_clockReads env s _ _ _

@[simp] theorem respondClient_clockReads (client : Id128) (conn : ConnId) (req : UInt64) (m : Message D) :
    (s.respondClient env client conn req m).clockReads = s.clockReads := by
  unfold respondClient
  split_ifs
  · exact queueOutbound_clockReads env s _ _ _
  · rfl

@[simp] theorem persist_clockReads : (s.persist env).clockReads = s.clockReads := by
  unfold persist
  split_ifs <;> rfl

@[simp] theorem stopTransport_clockReads (n : NodeId) (node : NodeRecord D) :
    (s.stopTransport n node).clockReads = s.clockReads := by
  unfold stopTransport
  split_ifs
  · rfl
  · split <;> rfl

@[simp] theorem recordCompletion_clockReads [DoubleArith D] (a : ExecutionAttempt D) (co : AttemptComplete D) :
    (s.recordCompletion a co).clockReads = s.clockReads := by
  unfold recordCompletion
  split <;> rfl

@[simp] theorem timeoutDispatch_clockReads (time : Int64) (t : ComputeTaskId) :
    (timeoutDispatch env time s t).clockReads = s.clockReads := persist_clockReads env _

@[simp] theorem requeueTask_clockReads (time : Int64) (entry : ComputeTaskId × Int64) :
    (requeueTask env time s entry).clockReads = s.clockReads := by
  unfold requeueTask
  split_ifs
  · exact persist_clockReads env _
  · rfl

@[simp] theorem expireTask_clockReads (time : Int64) (t : ComputeTaskId) :
    (expireTask env time s t).clockReads = s.clockReads := by
  unfold expireTask
  split
  · rfl
  · dsimp only
    split_ifs
    · exact persist_clockReads env _
    · rfl
    · rfl

end Frame

/-- A loop reads the clock at most as often as its rounds do. `P` is what the rounds keep. -/
theorem foldl_clockReads {X : Type} {f : Coordinator D → X → Coordinator D} {w : X → Nat} {P : Coordinator D → Prop}
    (xs : List X) (hf : ∀ y, ∀ x ∈ xs, P y →
      P (f y x) ∧ y.clockReads ≤ (f y x).clockReads ∧ (f y x).clockReads ≤ y.clockReads + w x)
    {s : Coordinator D} (hs : P s) :
    P (xs.foldl f s) ∧ s.clockReads ≤ (xs.foldl f s).clockReads ∧
      (xs.foldl f s).clockReads ≤ s.clockReads + (xs.map w).sum := by
  induction xs generalizing s with
  | nil => exact ⟨hs, le_rfl, le_rfl⟩
  | cons x xs ih =>
      obtain ⟨hP, hlo, hhi⟩ := hf s x List.mem_cons_self hs
      obtain ⟨hP', hlo', hhi'⟩ := ih (fun y z hz => hf y z (List.mem_cons_of_mem x hz)) hP
      refine ⟨hP', hlo.trans hlo', ?_⟩
      rw [List.map_cons, List.sum_cons, List.foldl_cons]
      omega

/-- A loop without readings. -/
theorem foldl_clockReads_eq {X : Type} {f : Coordinator D → X → Coordinator D}
    (hf : ∀ (y : Coordinator D) (x : X), (f y x).clockReads = y.clockReads) (xs : List X) (s : Coordinator D) :
    (xs.foldl f s).clockReads = s.clockReads := by
  refine List.foldlRecOn (motive := fun y : Coordinator D => y.clockReads = s.clockReads) xs f rfl ?_
  intro y hy x _
  exact (hf y x).trans hy

/-! ## Sweeps -/

section Sweep

variable (env : Env) (s : Coordinator D)

theorem loseTask_clockReads (t : ComputeTaskId) :
    s.clockReads ≤ (loseTask env s t).clockReads ∧ (loseTask env s t).clockReads ≤ s.clockReads + 1 := by
  unfold loseTask
  split
  · exact ⟨le_rfl, Nat.le_succ _⟩
  · split_ifs
    · exact ⟨Nat.le_succ _, le_rfl⟩
    · exact ⟨le_rfl, Nat.le_succ _⟩

theorem handleNodeLoss_clockReads (n : NodeId) :
    s.clockReads ≤ (handleNodeLoss env s n).clockReads ∧
      (handleNodeLoss env s n).clockReads ≤ s.clockReads + (s.affectedBy n).length := by
  rcases handleNodeLoss_cases env s n with ⟨-, heq⟩ | ⟨-, node, x, -, hx, -, heq⟩
  · rw [heq]
    exact ⟨le_rfl, Nat.le_add_right _ _⟩
  · have hloop := (foldl_clockReads (w := fun _ => 1) (P := fun _ => True) (s.affectedBy n)
      (fun y t _ _ => ⟨trivial, loseTask_clockReads env y t⟩) (s := x) trivial).2
    have hstart : x.clockReads = s.clockReads := hx ▸ stopTransport_clockReads s n node
    rw [heq, persist_clockReads, ← hstart]
    simpa using hloop

/-- The readings the loss phase of a sweep may make: one for each live attempt on a node that is lost. -/
def Coordinator.lossReadings : Nat := ((s.lostNodes env (s.now env)).map fun n => (s.affectedBy n).length).sum

theorem lossPhase_clockReads :
    s.clockReads + 1 ≤ (s.tick.lossPhase env (s.now env)).clockReads ∧
      (s.tick.lossPhase env (s.now env)).clockReads ≤ s.clockReads + 1 + s.lossReadings env := by
  have hloop := (foldl_clockReads (f := handleNodeLoss env) (w := fun n => (s.affectedBy n).length)
    (P := fun x => x.attempts = s.attempts) (s.lostNodes env (s.now env)) ?_ (s := s.tick) rfl).2
  · exact hloop
  · intro y n _ hy
    refine ⟨(handleNodeLoss_frame env y n).2.1.trans hy, ?_⟩
    rw [← Ledger.affectedBy_congr hy n]
    exact handleNodeLoss_clockReads env y n

theorem timeoutPhase_clockReads (time : Int64) : (s.timeoutPhase env time).clockReads = s.clockReads :=
  foldl_clockReads_eq (fun y t => timeoutDispatch_clockReads env y time t) _ s

/-- After the loss phase the timers read no clock. -/
theorem timersDone_clockReads_eq : (s.timersDone env).clockReads = (s.tick.lossPhase env (s.now env)).clockReads :=
  (foldl_clockReads_eq (fun y t => expireTask_clockReads env y (s.now env) t) _ _).trans
    ((foldl_clockReads_eq (fun y entry => requeueTask_clockReads env y (s.now env) entry) _ _).trans
      (timeoutPhase_clockReads env _ _))

variable [DoubleArith D]

theorem placeTask_clockReads (t : ComputeTaskId) (task : ComputeTask D) :
    s.clockReads ≤ (s.placeTask env t task).clockReads ∧ (s.placeTask env t task).clockReads ≤ s.clockReads + 2 := by
  have hreserve : ∀ (x : Coordinator D) (n : NodeId) (node : NodeRecord D) (d : PlacementDecision D),
      x.clockReads ≤ (x.reserveAndDispatch env t task n node d).clockReads ∧
        (x.reserveAndDispatch env t task n node d).clockReads ≤ x.clockReads + 2 := by
    intro x n node d
    unfold reserveAndDispatch
    dsimp only
    split
    · exact ⟨le_rfl, Nat.le_add_right _ _⟩
    · split
      · exact ⟨Nat.le_succ _, Nat.le_succ _⟩
      · split
        · exact ⟨Nat.le_succ _, Nat.le_succ _⟩
        · unfold dispatchAttempt
          dsimp only
          rw [persist_clockReads]
          show _ ≤ (sendToNode env n _ _).clockReads ∧ (sendToNode env n _ _).clockReads ≤ _
          rw [sendToNode_clockReads]
          exact ⟨Nat.le_add_right _ 2, le_rfl⟩
  obtain ⟨decision, heq | ⟨n, node, -, -, -, heq⟩⟩ := placeTask_cases env s t task <;> rw [heq]
  · exact ⟨le_rfl, Nat.le_add_right _ _⟩
  · exact hreserve (s.recordPlacement t decision) n node decision

theorem scheduleTask_clockReads (t : ComputeTaskId) :
    s.clockReads ≤ (scheduleTask env s t).clockReads ∧ (scheduleTask env s t).clockReads ≤ s.clockReads + 3 := by
  rcases scheduleTask_cases env s t with
    heq | ⟨task, -, -, -, ⟨-, -, heq⟩ | ⟨-, -, heq⟩ | ⟨-, heq⟩⟩ <;> rw [heq]
  · exact ⟨le_rfl, Nat.le_add_right _ _⟩
  · rw [persist_clockReads]
    exact ⟨Nat.le_succ _, Nat.add_le_add_left (by decide) _⟩
  · obtain ⟨hlo, hhi⟩ := placeTask_clockReads env s.tick t task
    have htick : s.tick.clockReads = s.clockReads + 1 := rfl
    omega
  · obtain ⟨hlo, hhi⟩ := placeTask_clockReads env s t task
    omega

theorem foldl_scheduleTask_clockReads (ts : List ComputeTaskId) :
    s.clockReads ≤ (ts.foldl (scheduleTask env) s).clockReads ∧
      (ts.foldl (scheduleTask env) s).clockReads ≤ s.clockReads + 3 * ts.length := by
  have hloop := (foldl_clockReads (f := scheduleTask env) (w := fun _ => 3) (P := fun _ => True) ts
    (fun y t _ _ => ⟨trivial, scheduleTask_clockReads env y t⟩) (s := s) trivial).2
  rw [List.map_const', List.sum_replicate, smul_eq_mul] at hloop
  omega

/-- **The readings of a sweep up to a round of its scheduling loop.** -/
theorem scheduling_clockReads (before : List ComputeTaskId) :
    s.clockReads + 1 ≤ (before.foldl (scheduleTask env) (s.timersDone env)).clockReads ∧
      (before.foldl (scheduleTask env) (s.timersDone env)).clockReads ≤
        s.clockReads + 1 + s.lossReadings env + 3 * before.length := by
  obtain ⟨hlo, hhi⟩ := lossPhase_clockReads env s
  obtain ⟨hlo', hhi'⟩ := foldl_scheduleTask_clockReads env (s.timersDone env) before
  rw [timersDone_clockReads_eq] at hlo' hhi'
  omega

end Sweep

/-! ## All events -/

section Events

variable (env : Env) (s : Coordinator D)

theorem unblockTask_clockReads (dep : ComputeTaskId) : s.clockReads ≤ (s.unblockTask env dep).clockReads := by
  unfold unblockTask
  split_ifs
  · exact Nat.le_succ _
  · exact le_rfl

theorem onTaskSucceededRecursive_clockReads (fuel : Nat) :
    ∀ (id : ComputeTaskId) (s : Coordinator D), s.clockReads ≤ (onTaskSucceededRecursive env fuel id s).clockReads := by
  induction fuel with
  | zero => exact fun id s => le_rfl
  | succ fuel ih =>
      intro id s
      rw [onTaskSucceededRecursive_succ]
      refine List.foldlRecOn (motive := fun y : Coordinator D => s.clockReads ≤ y.clockReads) _ _ le_rfl ?_
      intro y hy dep _
      refine (hy.trans (unblockTask_clockReads env y dep)).trans ?_
      rcases cascadeRound_eq env fuel y dep with hround | hround <;> rw [hround]
      exact ih dep _

theorem handleTaskSubmit_clockReads (client : Id128) (conn : ConnId) (req : UInt64) (sub : TaskSubmit D) :
    s.clockReads ≤ (s.handleTaskSubmit env client conn req sub).clockReads := by
  unfold handleTaskSubmit
  dsimp only
  split_ifs
  · rw [respondClient_clockReads]
  · rw [respondClient_clockReads]
  · rw [respondClient_clockReads]
  · split
    · rw [respondClient_clockReads]
    · split
      · rw [respondClient_clockReads]
      · rw [respondClient_clockReads, acceptTask, persist_clockReads]
        exact Nat.le_succ _

theorem handleTaskCancel_clockReads (client : Id128) (conn : ConnId) (req : UInt64) (t : ComputeTaskId) :
    (s.handleTaskCancel env client conn req t).clockReads = s.clockReads := by
  unfold handleTaskCancel
  dsimp only
  split
  · exact respondClient_clockReads ..
  · split_ifs
    · exact respondClient_clockReads ..
    · rw [respondClient_clockReads]
      split
      · exact sendToNode_clockReads ..
      · rfl
    · split
      · exact respondClient_clockReads ..
      · rw [respondClient_clockReads]
        exact persist_clockReads ..

theorem handleCoordinatorShutdown_clockReads (client : Id128) (conn : ConnId) (req : UInt64) :
    (s.handleCoordinatorShutdown env client conn req).clockReads = s.clockReads := by
  unfold handleCoordinatorShutdown
  dsimp only
  rw [persist_clockReads]
  show (List.foldl (askToExit env) _ _).clockReads = _
  refine (foldl_clockReads_eq ?_ _ _).trans (respondClient_clockReads ..)
  intro y entry
  unfold askToExit
  split_ifs
  · exact sendToNode_clockReads ..
  · rfl

variable [DoubleArith D]

theorem handleAttemptComplete_clockReads (conn : ConnId) (req : UInt64) (co : AttemptComplete D) :
    s.clockReads ≤ (s.handleAttemptComplete env conn req co).clockReads := by
  unfold handleAttemptComplete
  dsimp only
  split
  · rw [queueOutbound_clockReads]
  · split_ifs
    · rw [queueOutbound_clockReads]
    · rw [queueOutbound_clockReads, persist_clockReads]
      exact Nat.le_succ _
    · split
      · rw [queueOutbound_clockReads]
      · rw [persist_clockReads]
        refine le_trans ?_ (onTaskSucceededRecursive_clockReads env _ _ _)
        rw [queueOutbound_clockReads, recordCompletion_clockReads]
        exact Nat.le_succ _

/-- **A command never sets the clock back.** -/
theorem process_clockReads (c : Command D) : s.clockReads ≤ (s.process env c).clockReads := by
  cases c with
  | nodeRegister conn req reg =>
      show _ ≤ (s.handleNodeRegister env conn req reg).clockReads
      unfold handleNodeRegister
      dsimp only
      split_ifs
      · exact le_rfl
      · split
        · rw [queueOutbound_clockReads]
        · rw [queueOutbound_clockReads]
          -- superseding the old transport reads no clock, the new session reads it twice
          refine le_trans ?_ (Nat.le_add_right _ 2)
          split
          · split_ifs <;> exact le_rfl
          · exact le_rfl
  | nodeHeartbeat conn req hb =>
      show _ ≤ (s.handleNodeHeartbeat env conn req hb).clockReads
      unfold handleNodeHeartbeat
      split
      · rw [queueOutbound_clockReads]
      · dsimp only
        rw [queueOutbound_clockReads]
        exact Nat.le_succ _
  | nodeShutdown conn req n =>
      show _ ≤ (s.handleNodeShutdown env conn req n).clockReads
      unfold handleNodeShutdown
      split_ifs
      · exact (queueOutbound_clockReads env s conn req _).ge
      · exact le_rfl
  | nodeDisconnected conn n =>
      show _ ≤ (s.handleNodeDisconnect env conn n).clockReads
      unfold handleNodeDisconnect
      dsimp only
      split_ifs
      · split
        · exact le_rfl
        · split_ifs
          · exact le_rfl
          · exact Nat.le_succ _
      · exact le_rfl
  | attemptStarted st =>
      show _ ≤ (s.handleAttemptStarted env st).clockReads
      unfold handleAttemptStarted
      split
      · exact le_rfl
      · split_ifs
        · exact le_rfl
        · rw [persist_clockReads]
          exact le_rfl
  | attemptProgress pr => exact le_rfl
  | attemptComplete conn req co => exact handleAttemptComplete_clockReads env s conn req co
  | attemptFailed conn req fa =>
      show _ ≤ (s.handleAttemptFailed env conn req fa).clockReads
      unfold handleAttemptFailed
      dsimp only
      split
      · rw [queueOutbound_clockReads]
      · split_ifs
        · exact le_rfl
        · exact le_rfl
        · rw [persist_clockReads, queueOutbound_clockReads]
          exact (Nat.le_succ _).trans (Nat.le_add_right _ _)
  | attemptCancelled ca =>
      show _ ≤ (s.handleAttemptCancelled env ca).clockReads
      unfold handleAttemptCancelled
      split
      · exact le_rfl
      · split_ifs
        · exact le_rfl
        · dsimp only
          rw [persist_clockReads]
          exact Nat.le_succ _
  | reservationRelease conn req rel =>
      show _ ≤ (s.handleReservationRelease env conn req rel).clockReads
      unfold handleReservationRelease
      dsimp only
      rw [queueOutbound_clockReads]
      split
      · split_ifs <;> exact le_rfl
      · exact le_rfl
  | clientConnected client conn =>
      show _ ≤ (s.handleClientConnected client conn).clockReads
      unfold handleClientConnected
      split_ifs
      · exact le_rfl
      · dsimp only
        split
        · split_ifs <;> exact le_rfl
        · exact le_rfl
  | clientDisconnected client conn =>
      show _ ≤ (s.handleClientDisconnected client conn).clockReads
      unfold handleClientDisconnected
      split_ifs <;> exact le_rfl
  | taskSubmit client conn req sub => exact handleTaskSubmit_clockReads env s client conn req sub
  | taskInspect client conn req t =>
      show _ ≤ (s.handleTaskInspect env client conn req t).clockReads
      unfold handleTaskInspect
      split
      · rw [respondClient_clockReads]
      · rw [respondClient_clockReads]
        exact le_rfl
  | taskCancel client conn req t => exact (handleTaskCancel_clockReads env s client conn req t).ge
  | workloadInspect client conn req w =>
      show _ ≤ (s.handleWorkloadInspect env client conn req w).clockReads
      unfold handleWorkloadInspect
      split <;> exact (respondClient_clockReads ..).ge
  | nodeDrain client conn req drain =>
      show _ ≤ (s.handleNodeDrain env client conn req drain).clockReads
      unfold handleNodeDrain
      dsimp only
      split
      · rw [respondClient_clockReads]
      · split
        · rw [respondClient_clockReads]
        · rw [respondClient_clockReads]
          exact le_rfl
  | coordinatorShutdown client conn req => exact (handleCoordinatorShutdown_clockReads env s client conn req).ge
  | taskList client conn req filter => exact (respondClient_clockReads ..).ge
  | fabricStatus client conn req => exact (respondClient_clockReads ..).ge
  | placementQuery client conn req task => exact (respondClient_clockReads ..).ge
  | nodeList client conn req => exact (respondClient_clockReads ..).ge

end Events

theorem Demo.monotone_clock (heartbeatTimeoutMs : Int64) (jump : Nat) :
    Monotone fun i => ((Demo.env heartbeatTimeoutMs jump).nowMillis i).toInt := by
  intro i j hij
  dsimp only [Demo.env]
  split_ifs with hi hj
  · exact le_rfl
  · decide
  · omega
  · exact le_rfl

end ComputeFabric
