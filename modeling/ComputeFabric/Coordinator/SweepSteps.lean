import ComputeFabric.Coordinator.Steps

/-!
# `Coordinator.SweepSteps` — a sweep as a sequence of core steps

The phases of `Coordinator::sweep` run one after the other, each on the ledger the earlier ones left. The
first two decide by attempts and dispatch times that nothing in them writes: `Ledger.Frame` carries this
from the state before the sweep to the phase that needs it.

At the end, **`step_steps`**: every event other than a restart is a sequence of core steps.
-/

namespace ComputeFabric

open Coordinator

variable {D : Type}

/-- What the node-loss and dispatch-timeout phases of a sweep do not change. -/
structure Ledger.Frame (l₀ l : Ledger D) : Prop where
  tasks : l.graph.tasks = l₀.graph.tasks
  attempts : l.attempts = l₀.attempts
  dispatchAtMs : l.dispatchAtMs = l₀.dispatchAtMs
  dispatching : ∀ t : ComputeTaskId, l.graph.states[t]? = some .dispatching →
    l₀.graph.states[t]? = some .dispatching

namespace Ledger

theorem Frame.refl (l : Ledger D) : Frame l l := ⟨rfl, rfl, rfl, fun _ h => h⟩

@[simp] theorem retryOrFail_attempts (l : Ledger D) (t : ComputeTaskId) (r : Option Int64) :
    (l.retryOrFail t r).attempts = l.attempts := by
  cases r <;> rfl

@[simp] theorem retryOrFail_dispatchAtMs (l : Ledger D) (t : ComputeTaskId) (r : Option Int64) :
    (l.retryOrFail t r).dispatchAtMs = l.dispatchAtMs := by
  cases r <;> rfl

@[simp] theorem retryOrFail_tasks (l : Ledger D) (t : ComputeTaskId) (r : Option Int64) :
    (l.retryOrFail t r).graph.tasks = l.graph.tasks := by
  cases r <;> simp [retryOrFail, setState]

@[simp] theorem releaseTaskReservation_dispatchAtMs (l : Ledger D) (t : ComputeTaskId) :
    (l.releaseTaskReservation t).dispatchAtMs = l.dispatchAtMs := by
  unfold releaseTaskReservation
  split <;> rfl

@[simp] theorem loseTask_attempts (l : Ledger D) (t : ComputeTaskId) (r : Option Int64) :
    (l.loseTask t r).attempts = l.attempts := by
  simp [loseTask, setState]

@[simp] theorem loseTask_tasks (l : Ledger D) (t : ComputeTaskId) (r : Option Int64) :
    (l.loseTask t r).graph.tasks = l.graph.tasks := by
  simp [loseTask, setState]

@[simp] theorem retryOrFail_nodes (l : Ledger D) (t : ComputeTaskId) (r : Option Int64) :
    (l.retryOrFail t r).nodes = l.nodes := by
  cases r <;> rfl

@[simp] theorem loseTask_nodes (l : Ledger D) (t : ComputeTaskId) (r : Option Int64) :
    (l.loseTask t r).nodes = l.nodes := by
  simp [Ledger.loseTask, Ledger.setState]

/-- What every round of the node-loss loop keeps, the loop keeps. -/
theorem foldl_loseTask_induction {P : Ledger D → Prop} (l : Ledger D)
    (tasks : List (ComputeTaskId × Option Int64)) (h₀ : P l)
    (hround : ∀ (l : Ledger D) (t : ComputeTaskId) (r : Option Int64), P l → P (l.loseTask t r)) :
    P (tasks.foldl (fun l x => l.loseTask x.1 x.2) l) :=
  List.foldlRecOn tasks _ h₀ fun l hl x _ => hround l x.1 x.2 hl

theorem Frame.loseTask {l₀ l : Ledger D} (h : Frame l₀ l) (t : ComputeTaskId) (r : Option Int64) :
    Frame l₀ (l.loseTask t r) where
  tasks := by rw [loseTask_tasks, h.tasks]
  attempts := by rw [loseTask_attempts, h.attempts]
  dispatchAtMs := by simp [Ledger.loseTask, setState, h.dispatchAtMs]
  dispatching := by
    intro u hu
    refine h.dispatching u ?_
    have hview : ((l.loseTask t r).view u).state = some .dispatching := hu
    rw [view_loseTask] at hview
    split_ifs at hview with htu
    · -- both states asked for are others, so the task was dispatching already
      have hne : afterFailure r ≠ .dispatching := by
        rcases afterFailure_eq r with h | h <;> rw [h] <;> decide
      obtain ⟨st, hst, hnext⟩ := Option.map_eq_some_iff.mp hview
      obtain ⟨cur, hcur, rfl⟩ := Option.map_eq_some_iff.mp hst
      have := TaskState.eq_of_next_eq (TaskState.eq_of_next_eq hnext hne) (by decide)
      rw [this] at hcur
      exact hcur
    · exact hview

theorem Frame.dropNode {l₀ l : Ledger D} (h : Frame l₀ l) (n : NodeId) : Frame l₀ (l.dropNode n) :=
  ⟨h.tasks, h.attempts, h.dispatchAtMs, h.dispatching⟩

theorem affectedBy_congr {l l' : Ledger D} (h : l.attempts = l'.attempts) (n : NodeId) :
    l.affectedBy n = l'.affectedBy n := by
  unfold affectedBy
  rw [h]

end Ledger

/-! ## Node loss -/

/-- The loop of `handle_node_loss`, as a list of ledger transitions. -/
theorem foldl_loseTask (env : Env) (ts : List ComputeTaskId) (s : Coordinator D) :
    ∃ tasks : List (ComputeTaskId × Option Int64),
      (ts.foldl (loseTask env) s).toLedger = tasks.foldl (fun l x => l.loseTask x.1 x.2) s.toLedger ∧
      (ts.foldl (loseTask env) s).durable = s.durable ∧
      (ts.foldl (loseTask env) s).file = s.file ∧
      (ts.foldl (loseTask env) s).effects = s.effects ∧
      (∀ x ∈ tasks, x.1 ∈ ts ∧
        ∃ task, s.graph.find x.1 = some task ∧ x.2.isSome = retriesNodeLoss task) ∧
      (∀ t ∈ ts, (s.graph.find t).isSome → t ∈ tasks.map Prod.fst) := by
  induction ts generalizing s with
  | nil => exact ⟨[], rfl, rfl, rfl, rfl, by simp, by simp⟩
  | cons t ts ih =>
      rw [List.foldl_cons]
      cases hfind : s.graph.find t with
      | none =>
          have hround : loseTask env s t = s := by simp [loseTask, hfind]
          rw [hround]
          obtain ⟨tasks, hl, hd, hf, he, hin, hall⟩ := ih s
          refine ⟨tasks, hl, hd, hf, he, ?_, ?_⟩
          · intro x hx
            exact ⟨List.mem_cons_of_mem t (hin x hx).1, (hin x hx).2⟩
          · intro u hu hsome
            rcases List.mem_cons.mp hu with rfl | hu
            · simp [hfind] at hsome
            · exact hall u hu hsome
      | some task =>
          obtain ⟨retryAt, hretry, hround⟩ : ∃ retryAt : Option Int64,
              retryAt.isSome = retriesNodeLoss task ∧
              ((loseTask env s t).toLedger = s.toLedger.loseTask t retryAt ∧
                (loseTask env s t).durable = s.durable ∧ (loseTask env s t).file = s.file ∧
                (loseTask env s t).effects = s.effects) := by
            simp only [loseTask, hfind]
            split_ifs with hr
            · exact ⟨some _, by simp [hr], rfl, rfl, rfl, rfl⟩
            · exact ⟨none, by simp [hr], rfl, rfl, rfl, rfl⟩
          have htasks : ∀ u, (loseTask env s t).graph.find u = s.graph.find u := by
            intro u
            show (loseTask env s t).graph.tasks[u]? = s.graph.tasks[u]?
            rw [hround.1, Ledger.loseTask_tasks]
          obtain ⟨tasks, hl, hd, hf, he, hin, hall⟩ := ih (loseTask env s t)
          refine ⟨(t, retryAt) :: tasks, ?_, hd.trans hround.2.1, hf.trans hround.2.2.1,
            he.trans hround.2.2.2, ?_, ?_⟩
          · rw [hl, hround.1]
            rfl
          · intro x hx
            rcases List.mem_cons.mp hx with rfl | hx
            · exact ⟨List.mem_cons_self, task, hfind, hretry⟩
            · obtain ⟨hmem, task', hfind', hr⟩ := hin x hx
              exact ⟨List.mem_cons_of_mem t hmem, task', (htasks _) ▸ hfind', hr⟩
          · intro u hu hsome
            rcases List.mem_cons.mp hu with rfl | hu
            · exact List.mem_cons_self
            · exact List.mem_cons_of_mem _ (hall u hu (by rwa [htasks]))

theorem frame_foldl_loseTask {l₀ l : Ledger D} (h : l₀.Frame l)
    (tasks : List (ComputeTaskId × Option Int64)) :
    l₀.Frame (tasks.foldl (fun l x => l.loseTask x.1 x.2) l) :=
  Ledger.foldl_loseTask_induction l tasks h fun _ t r hl => hl.loseTask t r

/-- `handle_node_loss` acts on this node: it is known and not offline yet. -/
def Ledger.isOnline (l : Ledger D) (n : NodeId) : Bool := (l.nodes[n]?).any fun node => node.health ≠ .offline

/-- **What a node loss does**: nothing, or it stops the transport, drops the node, loses the tasks and saves. -/
theorem handleNodeLoss_cases (env : Env) (s : Coordinator D) (n : NodeId) :
    s.isOnline n = false ∧ handleNodeLoss env s n = s ∨
    s.isOnline n = true ∧ ∃ node x, s.nodes[n]? = some node ∧
      x = ((s.stopTransport n node).onLedger fun l => l.dropNode n) ∧ x.toLedger = s.toLedger.dropNode n ∧
      handleNodeLoss env s n = ((s.affectedBy n).foldl (loseTask env) x).persist env := by
  unfold handleNodeLoss Ledger.isOnline
  cases hnode : s.nodes[n]? with
  | none => exact .inl ⟨rfl, rfl⟩
  | some node =>
      by_cases hoff : node.health = .offline
      · exact .inl ⟨by simp [hoff], if_pos hoff⟩
      · have hledger : ((s.stopTransport n node).onLedger fun l => l.dropNode n).toLedger = s.toLedger.dropNode n :=
          congrArg (fun l : Ledger D => l.dropNode n) (stopTransport_toLedger s n node)
        refine .inr ⟨by simp [hoff], node, _, rfl, rfl, hledger, (if_neg hoff).trans ?_⟩
        dsimp only
        rw [hledger]
        rfl

variable [DoubleArith D] {env : Env} {s₀ : Coordinator D}

theorem stopTransport_step {e : Event D} (s : Coordinator D) (n : NodeId) (node : NodeRecord D) :
    CoreStep env s₀ e s (s.stopTransport n node) := by
  unfold stopTransport
  split_ifs
  · exact .of_same rfl rfl rfl rfl
  · split
    · exact stopConnection_step _ _
    · exact .of_same rfl rfl rfl rfl

theorem handleNodeLoss_steps {s : Coordinator D} {n : NodeId}
    (hn : n ∈ s₀.lostNodes env (s₀.now env)) (hframe : s₀.toLedger.Frame s.toLedger) :
    CoreSteps env s₀ .sweep s (handleNodeLoss env s n) ∧
      s₀.toLedger.Frame (handleNodeLoss env s n).toLedger := by
  rcases handleNodeLoss_cases env s n with ⟨-, heq⟩ | ⟨-, node, x, -, rfl, hledger, heq⟩
  · rw [heq]
    exact ⟨.refl, hframe⟩
  · have hstop : CoreStep env s₀ .sweep s (s.stopTransport n node) := stopTransport_step s n node
    have haff : s.affectedBy n = s₀.affectedBy n := Ledger.affectedBy_congr hframe.attempts n
    have hfind : ∀ t, (s.toLedger.dropNode n).graph.find t = s₀.graph.find t :=
      fun t => congrArg (fun m : IdMap (ComputeTask D) => m[t]?) hframe.tasks
    obtain ⟨tasks, hl, hd, hf, he, hin, hall⟩ := foldl_loseTask env (s.affectedBy n)
      ((s.stopTransport n node).onLedger fun l => l.dropNode n)
    rw [hledger] at hl
    simp only [haff, hledger, hfind] at hin hall
    rw [heq]
    refine ⟨((Relation.ReflTransGen.single hstop).tail (.of_ledger ?_ hd hf he)).tail (persist_step _), ?_⟩
    · rw [hl, stopTransport_toLedger]
      exact .loseNode hn hframe.attempts hframe.tasks hin hall
    · rw [persist_toLedger, hl]
      exact frame_foldl_loseTask (hframe.dropNode n) tasks

/-! ## Timers -/

omit [DoubleArith D] in
theorem mem_staleDispatches {s : Coordinator D} {time : Int64} {t : ComputeTaskId} :
    t ∈ s.staleDispatches time ↔ ∃ sent, s.dispatchAtMs[t]? = some sent ∧
      s.graph.states[t]? = some .dispatching ∧ time - sent > dispatchTimeoutMs := by
  unfold staleDispatches
  simp only [List.mem_map, List.mem_filter, Prod.exists, exists_and_right, exists_eq_right,
    Std.ExtTreeMap.mem_toList_iff_getElem?_eq_some, Bool.and_eq_true, decide_eq_true_eq,
    @Ledger.state_eq_iff D s.toLedger _ .dispatching (by decide)]

omit [DoubleArith D] in
theorem nodup_staleDispatches (s : Coordinator D) (time : Int64) : (s.staleDispatches time).Nodup :=
  (OrdMap.nodup_toList_keys s.dispatchAtMs).sublist (List.filter_sublist.map Prod.fst)

/-- The dispatch-timeout loop. The list was computed before the loop, and each round moves only its own
    task, so a task is still dispatching when its turn comes. -/
theorem foldl_timeoutDispatch_steps (time : Int64) (ts : List ComputeTaskId) (hnd : ts.Nodup)
    {s : Coordinator D} (hattempts : s.attempts = s₀.attempts)
    (hstale : ∀ t ∈ ts, t ∈ (s₀.tick.lossPhase env (s₀.now env)).staleDispatches (s₀.now env))
    (hstate : ∀ t ∈ ts, s.graph.states[t]? = some .dispatching) :
    CoreSteps env s₀ .sweep s (ts.foldl (timeoutDispatch env time) s) := by
  induction ts generalizing s with
  | nil => exact .refl
  | cons t ts ih =>
      obtain ⟨hnotin, hnd'⟩ := List.nodup_cons.mp hnd
      rw [List.foldl_cons]
      have hledger : (timeoutDispatch env time s t).toLedger = s.toLedger.timeoutDispatch t time :=
        persist_toLedger env _
      have hround : CoreSteps env s₀ .sweep s (timeoutDispatch env time s t) := by
        refine (Relation.ReflTransGen.single (.of_ledger ?_ rfl rfl rfl)).tail (persist_step _)
        exact .timeout (hstale t List.mem_cons_self) hattempts (hstate t List.mem_cons_self)
      refine hround.trans (ih hnd' ?_ ?_ ?_)
      · rw [hledger]
        simpa [Ledger.timeoutDispatch, Ledger.setState] using hattempts
      · intro u hu
        exact hstale u (List.mem_cons_of_mem t hu)
      · intro u hu
        have hne : t ≠ u := fun h => hnotin (h ▸ hu)
        have hview := s.toLedger.view_timeoutDispatch t u time
        rw [if_neg hne] at hview
        have := congrArg TaskView.state hview
        rw [hledger]
        exact this.trans (hstate u (List.mem_cons_of_mem t hu))

theorem requeueTask_steps (time : Int64) (s : Coordinator D) (entry : ComputeTaskId × Int64) :
    CoreSteps env s₀ .sweep s (requeueTask env time s entry) := by
  unfold requeueTask
  split_ifs with h
  · refine (Relation.ReflTransGen.single (.of_ledger ?_ rfl rfl rfl)).tail (persist_step _)
    exact .requeue ((Ledger.state_eq_iff (by decide)).mp h.1)
  · exact .refl

theorem expireTask_steps (time : Int64) (s : Coordinator D) (t : ComputeTaskId) :
    CoreSteps env s₀ .sweep s (expireTask env time s t) := by
  unfold expireTask
  split
  · exact .refl
  · dsimp only
    split_ifs with _ h
    · refine (Relation.ReflTransGen.single (.of_ledger ?_ rfl rfl rfl)).tail (persist_step _)
      rcases h.1 with hst | hst | hst
      · exact .expire ((Ledger.state_eq_iff (by decide)).mp hst) (.inl rfl)
      · exact .expire ((Ledger.state_eq_iff (by decide)).mp hst) (.inr (.inl rfl))
      · exact .expire ((Ledger.state_eq_iff (by decide)).mp hst) (.inr (.inr rfl))
    · exact .refl
    · exact .refl

/-! ## Scheduling -/

omit [DoubleArith D] in
theorem sendToNode_frame (env : Env) (n : NodeId) (m : Message D) (s : Coordinator D) :
    (s.sendToNode env n m).durable = s.durable ∧ (s.sendToNode env n m).file = s.file ∧
      ((s.sendToNode env n m).effects = s.effects ∨
        ∃ conn req, (s.sendToNode env n m).effects = .queued conn req m :: s.effects) := by
  unfold sendToNode
  split
  · exact ⟨rfl, rfl, .inl rfl⟩
  · next conn _ =>
      unfold queueOutbound
      split_ifs
      · exact ⟨rfl, rfl, .inl rfl⟩
      · exact ⟨rfl, rfl, .inl rfl⟩
      · exact ⟨rfl, rfl, .inr ⟨conn, 0, rfl⟩⟩

/-- What a dispatch does to the books, from the grant on. -/
theorem dispatchAttempt_toLedger (env : Env) (s : Coordinator D) (t : ComputeTaskId) (task : ComputeTask D)
    (nodeId : NodeId) (session : NodeSessionId) (executor : ExecutorType) (device : Text) (resv : Reservation) :
    (s.dispatchAttempt env t task nodeId session executor device resv).toLedger =
      ((s.toLedger.holdReservation t resv.id).pushAttempt t
        (Ledger.newAttempt (s.toLedger.holdReservation t resv.id) t nodeId session s.durable.epoch resv.id
          executor device (s.nextId env) (s.now env))).setState t .dispatching := by
  unfold dispatchAttempt
  rw [persist_toLedger]
  show (sendToNode env nodeId _ _).toLedger.setState t .dispatching = _
  rw [sendToNode_toLedger]
  rfl

/-- The process between the grant of a reservation and the dispatch. -/
def Coordinator.reservedFor (t : ComputeTaskId) (resv : Reservation) (s : Coordinator D) : Coordinator D :=
  s.tick.onLedger fun l => ((l.addReservation resv).setState t .planning).setState t .reserved

/-- A ready task is dispatched when the reservation is granted: neither transition can be refused. -/
theorem reserveAndDispatch_eq (env : Env) {s : Coordinator D} {t : ComputeTaskId} (task : ComputeTask D)
    (nodeId : NodeId) (node : NodeRecord D) (decision : PlacementDecision D)
    (hready : s.graph.states[t]? = some .ready) :
    s.reserveAndDispatch env t task nodeId node decision = s ∨
      ∃ resv, s.reservations.refusal node (decision.chosenExecutor.getD task.requiredExecutor)
          (SchedulerPolicyEngine.requiredSlots task (decision.chosenExecutor.getD task.requiredExecutor))
          task.scratchMemoryBytes = none ∧
        resv = ReservationRegistry.grant node s.durable.epoch t
          (decision.chosenExecutor.getD task.requiredExecutor)
          (SchedulerPolicyEngine.requiredSlots task (decision.chosenExecutor.getD task.requiredExecutor))
          task.scratchMemoryBytes (s.nextId env) (s.now env) ∧
        s.reserveAndDispatch env t task nodeId node decision =
          (s.reservedFor t resv).dispatchAttempt env t task nodeId node.session
            (decision.chosenExecutor.getD task.requiredExecutor) decision.chosenDevice resv := by
  have hplan : ∀ r, (s.tick.onLedger fun l => l.addReservation r).graph.setState t .planning =
      .ok (s.graph.trySetState t .planning) :=
    fun _ => TaskGraph.setState_of_legal hready rfl
  have hplanned : (s.graph.trySetState t .planning).states[t]? = some .planning := by
    rw [TaskGraph.getElem?_states_trySetState, if_pos rfl, hready]
    rfl
  have hreserve : (s.graph.trySetState t .planning).setState t .reserved =
      .ok ((s.graph.trySetState t .planning).trySetState t .reserved) :=
    TaskGraph.setState_of_legal hplanned rfl
  unfold reserveAndDispatch ReservationRegistry.tryReserve
  dsimp only
  split
  · exact .inl rfl
  · next resv h =>
      split at h
      · cases h
      · next hrefusal =>
          cases h
          refine .inr ⟨_, hrefusal, rfl, ?_⟩
          rw [hplan]
          dsimp only
          rw [hreserve]
          rfl

/-- The state before a grant and the state after the send are one ledger transition apart. -/
theorem dispatchAttempt_steps {s : Coordinator D} {t : ComputeTaskId} {task : ComputeTask D}
    {nodeId : NodeId} {node : NodeRecord D} {executor : ExecutorType} {slots : UInt32}
    {resv : Reservation} {time : Int64} {device : Text}
    (hepoch : s.durable.epoch = s₀.durable.epoch) (hstate : s.graph.states[t]? = some .ready)
    (htask : s.graph.find t = some task) (hnode : s.nodes[nodeId]? = some node)
    (hconnected : node.connected = true)
    (hgrant : s.reservations.refusal node executor slots task.scratchMemoryBytes = none)
    (hresv : resv = ReservationRegistry.grant node s.durable.epoch t executor slots
      task.scratchMemoryBytes (s.nextId env) time)
    (hslots : slots = SchedulerPolicyEngine.requiredSlots task executor)
    (hchosen : s.toLedger.Chosen task nodeId executor device) :
    CoreSteps env s₀ .sweep s
      ((s.reservedFor t resv).dispatchAttempt env t task nodeId node.session executor device resv) := by
  have hledger := dispatchAttempt_toLedger env (s.reservedFor t resv) t task nodeId node.session executor
    device resv
  unfold dispatchAttempt at hledger ⊢
  rw [persist_toLedger] at hledger
  refine (Relation.ReflTransGen.single (.act ?_ (.inl ?_) ?_ ?_)).tail (persist_step _)
  · rw [hledger]
    show LedgerStep env s₀ .sweep s.toLedger (s.toLedger.dispatch t resv (Ledger.newAttempt s.toLedger t nodeId
      node.session s.durable.epoch resv.id executor device _ _))
    rw [hepoch]
    exact .dispatch hstate htask hnode hconnected hgrant (hepoch ▸ hresv) rfl hslots hchosen
  · show (sendToNode env nodeId _ _).durable = s.durable
    rw [(sendToNode_frame _ _ _ _).1]
    rfl
  · show (sendToNode env nodeId _ _).file = s.file
    rw [(sendToNode_frame _ _ _ _).2.1]
    rfl
  · rcases (sendToNode_frame _ _ _ _).2.2 with hsame | ⟨conn, req, hqueued⟩
    · exact .inl hsame
    · exact .inr ⟨conn, req, _, hqueued, fun h => by cases h⟩

theorem reserveAndDispatch_steps {s : Coordinator D} {t : ComputeTaskId} {task : ComputeTask D}
    {nodeId : NodeId} {node : NodeRecord D} (decision : PlacementDecision D)
    (hepoch : s.durable.epoch = s₀.durable.epoch) (hstate : s.graph.states[t]? = some .ready)
    (htask : s.graph.find t = some task) (hnode : s.nodes[nodeId]? = some node)
    (hconnected : node.connected = true)
    (hchosen : s.toLedger.Chosen task nodeId (decision.chosenExecutor.getD task.requiredExecutor)
      decision.chosenDevice) :
    CoreSteps env s₀ .sweep s (s.reserveAndDispatch env t task nodeId node decision) := by
  rcases reserveAndDispatch_eq env task nodeId node decision hstate with heq | ⟨resv, hrefusal, hresv, heq⟩
  · rw [heq]
  · rw [heq]
    exact dispatchAttempt_steps hepoch hstate htask hnode hconnected hrefusal hresv rfl hchosen

/-- What `place` chooses among the registered nodes. -/
theorem chosen_of_place {s : Coordinator D} {task : ComputeTask D} {n : NodeId}
    (h : (s.scheduler.place task s.nodes s.reservations s.stateLocality).chosenNode = some n) :
    s.toLedger.Chosen task n
      ((s.scheduler.place task s.nodes s.reservations s.stateLocality).chosenExecutor.getD task.requiredExecutor)
      (s.scheduler.place task s.nodes s.reservations s.stateLocality).chosenDevice := by
  obtain ⟨node, hmem, hid, hreasons, cap, hoffers, hexecutor, hdevice⟩ := SchedulerPolicyEngine.place_chosen h
  exact ⟨node, hmem, hid, hreasons, cap, hoffers, by rw [hexecutor]; rfl, hdevice⟩

/-- **What a placement does**: it records the decision and, when a connected node is chosen, asks for the
    reservation. -/
theorem placeTask_cases (env : Env) (s : Coordinator D) (t : ComputeTaskId) (task : ComputeTask D) :
    ∃ decision, s.placeTask env t task = s.recordPlacement t decision ∨
      ∃ nodeId node, s.nodes[nodeId]? = some node ∧ node.connected = true ∧
        s.toLedger.Chosen task nodeId (decision.chosenExecutor.getD task.requiredExecutor)
          decision.chosenDevice ∧
        s.placeTask env t task =
          (s.recordPlacement t decision).reserveAndDispatch env t task nodeId node decision := by
  unfold placeTask
  dsimp only
  have hplace : ∀ n, (s.scheduler.place task s.nodes s.reservations s.stateLocality).chosenNode = some n → _ :=
    fun n => chosen_of_place (n := n)
  generalize s.scheduler.place task s.nodes s.reservations s.stateLocality = decision at hplace ⊢
  refine ⟨decision, ?_⟩
  split_ifs
  · exact .inl rfl
  · split
    · exact .inl rfl
    · next nodeId hchosen =>
        split
        · exact .inl rfl
        · next node hnode =>
            split_ifs with hconnected
            · exact .inl rfl
            · exact .inr ⟨nodeId, node, hnode, by simpa using hconnected, hplace nodeId hchosen, rfl⟩

/-- **A placement dispatches the task or leaves the ledger alone.** The reservation and the attempt are stamped by
    the next two readings of the clock. -/
theorem placeTask_spec (env : Env) {s : Coordinator D} {t : ComputeTaskId} (task : ComputeTask D)
    (hready : s.graph.states[t]? = some .ready) :
    (s.placeTask env t task).toLedger = s.toLedger ∨
      ∃ nodeId node executor device resv a, s.nodes[nodeId]? = some node ∧ node.connected = true ∧
        s.toLedger.Chosen task nodeId executor device ∧
        resv = ReservationRegistry.grant node s.durable.epoch t executor
          (SchedulerPolicyEngine.requiredSlots task executor) task.scratchMemoryBytes (env.random s.drawn)
          (env.nowMillis s.clockReads) ∧
        a = s.toLedger.newAttempt t nodeId node.session s.durable.epoch resv.id executor device
          (env.random (s.drawn + 1)) (env.nowMillis (s.clockReads + 1)) ∧
        (s.placeTask env t task).toLedger = s.toLedger.dispatch t resv a := by
  obtain ⟨decision, heq | ⟨nodeId, node, hnode, hconnected, hchosen, heq⟩⟩ := placeTask_cases env s t task <;>
    rw [heq]
  · exact .inl rfl
  · have hready' : (s.recordPlacement t decision).graph.states[t]? = some .ready := hready
    rcases reserveAndDispatch_eq env task nodeId node decision hready' with heq | ⟨resv, -, hresv, heq⟩ <;> rw [heq]
    · exact .inl rfl
    · rw [dispatchAttempt_toLedger]
      exact .inr ⟨nodeId, node, _, _, resv, _, hnode, hconnected, hchosen, hresv, rfl, rfl⟩

theorem placeTask_steps {s : Coordinator D} {t : ComputeTaskId} {task : ComputeTask D}
    (hepoch : s.durable.epoch = s₀.durable.epoch) (hstate : s.graph.states[t]? = some .ready)
    (htask : s.graph.find t = some task) :
    CoreSteps env s₀ .sweep s (s.placeTask env t task) := by
  have hrecord : ∀ decision, CoreStep env s₀ .sweep s (s.recordPlacement t decision) :=
    fun _ => .of_same rfl rfl rfl rfl
  obtain ⟨decision, heq | ⟨nodeId, node, hnode, hconnected, hchosen, heq⟩⟩ := placeTask_cases env s t task <;>
    rw [heq]
  · exact .single (hrecord decision)
  · exact .head (hrecord decision) (reserveAndDispatch_steps decision hepoch hstate htask hnode hconnected hchosen)

/-- **What a round of the scheduling loop does**: nothing, or it looks at the deadline of its task, if there is one,
    and expires the task or places it. -/
theorem scheduleTask_cases (env : Env) (s : Coordinator D) (t : ComputeTaskId) :
    scheduleTask env s t = s ∨ ∃ task, s.stopping = false ∧ s.graph.find t = some task ∧
      s.graph.states[t]? = some .ready ∧
      (task.hasDeadline = true ∧ task.deadlineEpochMs ≤ s.now env ∧
          scheduleTask env s t = (s.tick.onLedger fun l => l.setState t .expired).persist env ∨
        task.hasDeadline = true ∧ ¬task.deadlineEpochMs ≤ s.now env ∧
          scheduleTask env s t = s.tick.placeTask env t task ∨
        task.hasDeadline = false ∧ scheduleTask env s t = s.placeTask env t task) := by
  unfold scheduleTask
  split
  · exact .inl rfl
  · next hgo =>
      split
      · exact .inl rfl
      · next task hfind =>
          split
          · exact .inl rfl
          · next hne =>
              have hready : s.graph.states[t]? = some .ready := (Ledger.state_eq_iff (by decide)).mp (not_not.mp hne)
              refine .inr ⟨task, by simpa using hgo, hfind, hready, ?_⟩
              split_ifs with hdeadline hpast
              · exact .inl ⟨hdeadline, hpast, rfl⟩
              · exact .inr (.inl ⟨hdeadline, hpast, rfl⟩)
              · exact .inr (.inr ⟨by simpa using hdeadline, rfl⟩)

theorem scheduleTask_steps {s : Coordinator D} (hepoch : s.durable.epoch = s₀.durable.epoch)
    (t : ComputeTaskId) : CoreSteps env s₀ .sweep s (scheduleTask env s t) := by
  rcases scheduleTask_cases env s t with
    heq | ⟨task, -, htask, hready, ⟨-, -, heq⟩ | ⟨-, -, heq⟩ | ⟨-, heq⟩⟩ <;> rw [heq]
  · refine (Relation.ReflTransGen.single (.of_ledger ?_ rfl rfl rfl)).tail (persist_step _)
    exact .expireReady hready
  · refine .head (b := s.tick) (.of_same rfl rfl rfl rfl) ?_
    exact placeTask_steps hepoch hready htask
  · exact placeTask_steps hepoch hready htask

/-! ## The whole sweep -/

theorem Coordinator.sweep_eq (env : Env) (s : Coordinator D) :
    s.sweep env = (s.timersDone env).scheduleReadyTasks env := rfl

section Phases

variable {s : Coordinator D}

theorem lossPhase_steps (env : Env) (s : Coordinator D) : CoreSteps env s .sweep s (s.tick.lossPhase env (s.now env)) ∧
    s.toLedger.Frame (s.tick.lossPhase env (s.now env)).toLedger := by
  obtain ⟨hloss, hframe⟩ := Lts.foldl_steps (r := CoreStep env s .sweep)
    (P := fun x => s.toLedger.Frame x.toLedger) (s.lostNodes env (s.now env))
    (fun x n hn hx => handleNodeLoss_steps hn hx) (Ledger.Frame.refl s.tick.toLedger)
  exact ⟨.head (b := s.tick) (.of_same rfl rfl rfl rfl) hloss, hframe⟩

/-- The dispatches found stale after the node-loss phase were stale before it. -/
theorem stale_of_lossPhase {t : ComputeTaskId}
    (h : t ∈ (s.tick.lossPhase env (s.now env)).staleDispatches (s.now env)) : t ∈ s.staleDispatches (s.now env) := by
  have hframe := (lossPhase_steps env s).2
  obtain ⟨sent, hsent, hst, hlate⟩ := mem_staleDispatches.mp h
  exact mem_staleDispatches.mpr ⟨sent, hframe.dispatchAtMs ▸ hsent, hframe.dispatching t hst, hlate⟩

theorem timeoutPhase_steps : CoreSteps env s .sweep (s.tick.lossPhase env (s.now env)) (s.beforeRequeue env) :=
  foldl_timeoutDispatch_steps (s.now env) _ (nodup_staleDispatches _ _) (lossPhase_steps env s).2.attempts
    (fun _ ht => ht) fun _ ht => (mem_staleDispatches.mp ht).choose_spec.2.1

theorem requeuePhase_steps (time : Int64) (s₂ : Coordinator D) :
    CoreSteps env s .sweep s₂ (s₂.requeuePhase env time) :=
  (Lts.foldl_steps (P := fun _ => True) _
    (fun x entry _ _ => ⟨requeueTask_steps time x entry, trivial⟩) trivial).1

theorem expirePhase_steps (time : Int64) (s₃ : Coordinator D) :
    CoreSteps env s .sweep s₃ (s₃.expirePhase env time) :=
  (Lts.foldl_steps (P := fun _ => True) _
    (fun x t _ _ => ⟨expireTask_steps time x t, trivial⟩) trivial).1

theorem scheduleReadyTasks_steps {s₄ : Coordinator D} (hepoch : s₄.durable.epoch = s.durable.epoch) :
    CoreSteps env s .sweep s₄ (s₄.scheduleReadyTasks env) :=
  (Lts.foldl_steps (P := fun x => x.durable.epoch = s.durable.epoch) _
    (fun x t _ hx => by
      have hsteps : CoreSteps env s .sweep x (scheduleTask env x t) := scheduleTask_steps hx t
      exact ⟨hsteps, hsteps.epoch_eq.trans hx⟩) hepoch).1

theorem timersDone_steps : CoreSteps env s .sweep s (s.timersDone env) := by
  exact (((lossPhase_steps env s).1.trans timeoutPhase_steps).trans (requeuePhase_steps _ _)).trans
    (expirePhase_steps _ _)

/-- **A sweep is a sequence of core steps.** -/
theorem sweep_steps (s : Coordinator D) : CoreSteps env s .sweep s (s.sweep env) := by
  have htimers : CoreSteps env s .sweep s (s.timersDone env) := timersDone_steps
  exact htimers.trans (scheduleReadyTasks_steps htimers.epoch_eq)

end Phases

/-- **Every event inside one process is a sequence of core steps.** -/
theorem step_steps {s s' : Coordinator D} {e : Event D} (hlocal : e.isLocal = true)
    (h : step env s e = some s') : CoreSteps env s e s s' := by
  cases e with
  | command c =>
      obtain rfl : s.process env c = s' := Option.some.inj h
      exact process_steps c
  | sweep =>
      obtain rfl : s.sweep env = s' := Option.some.inj h
      exact sweep_steps s
  | connectionStopped conn =>
      obtain rfl : s.stopConnection conn = s' := Option.some.inj h
      exact .single (stopConnection_step s conn)
  | stopRequested =>
      obtain rfl : s.requestStop = s' := Option.some.inj h
      exact .single (requestStop_step s)
  | restart => cases hlocal

end ComputeFabric
