import ComputeFabric.Scheduler.Choice
import ComputeFabric.Safety.Placement
import ComputeFabric.Safety.NodeLoss

/-!
# `Safety.Connectivity` — nodes without a connection and the scheduler

A lost connection clears `connected` and leaves the health of the node alone, and the exclusion rule of the
scheduler tests `connected` only on nodes that are not online. So a node whose connection is gone stays a
candidate until the grace period ends, and when it wins, `schedule_ready_tasks` drops the decision:
`disconnected_wins_iff` says in which reachable states this can happen, `disconnected_wins` is a run in which a
task is left waiting next to an idle, connected node.
-/

namespace ComputeFabric

open Coordinator SchedulerPolicyEngine

variable {D : Type}

/-! ## Nodes that some task is placed on -/

/-- The node is online and has a healthy executor with slots: there are tasks it is eligible for. -/
def NodeRecord.IsSchedulable (node : NodeRecord D) : Prop :=
  node.health = .online ∧
    ∃ executor cap, findExecutorCap node executor = some cap ∧ cap.healthy = true ∧ 0 < cap.slots.toInt

/-- A node that is eligible for a task is schedulable. -/
theorem isSchedulable_of_exclusionReasons {task : ComputeTask D} {node : NodeRecord D}
    (h : exclusionReasons task node = []) (hlisted : node.health.isListed = true) : node.IsSchedulable := by
  have heligible := eligible_of_exclusionReasons h
  obtain ⟨cap, hoffers⟩ := heligible.offers
  exact ⟨NodeHealth.eq_online hlisted heligible.notOffline heligible.notDraining heligible.notSuspect,
    task.requiredExecutor, cap, hoffers.find, hoffers.healthy, slots_pos_of_eligible h hoffers.find⟩

section Light

variable [DoubleArith D]

/-- A task that asks for no slots of an executor, anywhere but on `forbidden`. -/
def lightTask (executor : ExecutorType) (forbidden : List NodeId) : ComputeTask D where
  requiredExecutor := executor
  requiredCpuSlots := 0
  requiredGpuSlots := 0
  forbiddenNodes := forbidden
  estimatedDurationSeconds := 0.0
  expectedTransferGb := 0.0
  expectedRecomputeCostSeconds := 0.0
  costEstimate := 0.0

theorem exclusionReasons_lightTask {executor : ExecutorType} {node : NodeRecord D} {cap : ExecutorCapability D}
    (honline : node.health = .online) (hfind : findExecutorCap node executor = some cap)
    (hhealthy : cap.healthy = true) (hslots : 0 < cap.slots.toInt) {forbidden : List NodeId}
    (hallowed : node.id ∉ forbidden) :
    exclusionReasons (lightTask executor forbidden : ComputeTask D) node = [] := by
  have hcapable : capabilityCompatible (lightTask executor forbidden : ComputeTask D) node = true := by
    have hpos : ¬cap.slots ≤ 0 := fun hle => absurd (Int32.le_iff_toInt_le.mp hle) (not_le.mpr hslots)
    unfold capabilityCompatible
    simp [lightTask, hfind, hhealthy, hpos]
  have hroom : ¬cap.slots < (requiredSlots (lightTask executor forbidden : ComputeTask D) executor).toInt32 := by
    intro hlt
    have hzero : (requiredSlots (lightTask executor forbidden : ComputeTask D) executor).toInt32 = 0 := by
      unfold requiredSlots
      split_ifs <;> rfl
    rw [hzero, Int32.lt_iff_toInt_lt] at hlt
    exact absurd hlt (not_lt.mpr hslots.le)
  have hforbidden : ∀ fn ∈ forbidden, ¬fn = node.id := fun fn hfn heq => hallowed (heq ▸ hfn)
  have hscratch : ¬(0 : UInt64) > node.capacity.hostMemorySchedulingBytes := UInt64.not_lt.mpr (UInt64.zero_le)
  unfold exclusionReasons
  rw [hcapable]
  simp only [honline]
  simp [lightTask, hfind] at hroom ⊢
  exact ⟨if_neg (Int32.not_lt.mpr hroom), hforbidden⟩

end Light

/-! ## The nodes in the course of a sweep -/

/-- The record of a node that has been declared offline. -/
def NodeRecord.lost (node : NodeRecord D) : NodeRecord D := { node with health := .offline, connected := false }

/-- Every node of `l'` is a node of `l`, or one that has been declared offline. -/
def Ledger.OnlyLoses (l l' : Ledger D) : Prop :=
  ∀ (n : NodeId) (node : NodeRecord D), l'.nodes[n]? = some node →
    ∃ old, l.nodes[n]? = some old ∧ (node = old ∨ node = old.lost)

namespace Ledger.OnlyLoses

variable {l l' l'' : Ledger D}

theorem of_eq (h : l'.nodes = l.nodes) : l.OnlyLoses l' := fun _ node hnode => ⟨node, h ▸ hnode, .inl rfl⟩

theorem trans (h : l.OnlyLoses l') (h' : l'.OnlyLoses l'') : l.OnlyLoses l'' := by
  intro n node hnode
  obtain ⟨mid, hmid, hlast⟩ := h' n node hnode
  obtain ⟨old, hold, hfirst⟩ := h n mid hmid
  refine ⟨old, hold, ?_⟩
  rcases hfirst with rfl | rfl
  · exact hlast
  · exact .inr (hlast.elim id id)

theorem dropNode (l : Ledger D) (n : NodeId) : l.OnlyLoses (l.dropNode n) := by
  intro m node hnode
  have hget : (l.dropNode n).nodes[m]? = if n = m then l.nodes[n]?.map NodeRecord.lost else l.nodes[m]? := by
    show _ = if n = m then l.nodes[n]?.map fun node => { node with health := .offline, connected := false } else _
    simp [Ledger.dropNode, Ledger.updateNode, Std.ExtTreeMap.getElem?_modify]
  rw [hget] at hnode
  split_ifs at hnode with hnm
  · obtain ⟨old, hold, rfl⟩ := Option.map_eq_some_iff.mp hnode
    exact ⟨old, hnm ▸ hold, .inr rfl⟩
  · exact ⟨node, hnode, .inl rfl⟩

end Ledger.OnlyLoses

/-- A loop whose rounds only lose nodes only loses nodes. -/
theorem foldl_onlyLoses {X : Type} {f : Coordinator D → X → Coordinator D}
    (hf : ∀ (s : Coordinator D) (x : X), s.toLedger.OnlyLoses (f s x).toLedger) (xs : List X) (s : Coordinator D) :
    s.toLedger.OnlyLoses (xs.foldl f s).toLedger := by
  induction xs generalizing s with
  | nil => exact .of_eq rfl
  | cons x xs ih => exact (hf s x).trans (ih (f s x))

theorem handleNodeLoss_onlyLoses (env : Env) (s : Coordinator D) (n : NodeId) :
    s.toLedger.OnlyLoses (handleNodeLoss env s n).toLedger := by
  rcases handleNodeLoss_cases env s n with ⟨-, heq⟩ | ⟨-, node, x, -, -, hledger, heq⟩
  · rw [heq]
    exact .of_eq rfl
  · obtain ⟨tasks, hl, -⟩ := foldl_loseTask env (s.affectedBy n) x
    rw [heq, persist_toLedger, hl, hledger]
    refine (Ledger.OnlyLoses.dropNode s.toLedger n).trans (.of_eq ?_)
    exact Ledger.foldl_loseTask_induction (P := fun l => l.nodes = _) _ tasks rfl fun l t r hl => by
      rw [Ledger.loseTask_nodes, hl]

variable [DoubleArith D]

theorem scheduleTask_nodes (env : Env) (s : Coordinator D) (t : ComputeTaskId) :
    (scheduleTask env s t).nodes = s.nodes := by
  have hplace : ∀ (y : Coordinator D) (task : ComputeTask D), y.graph.states[t]? = some .ready →
      (y.placeTask env t task).nodes = y.nodes := by
    intro y task hready
    rcases placeTask_spec env task hready with hsame |
      ⟨n, node, executor, device, r, a, -, -, -, -, -, hledger⟩
    · rw [hsame]
    · rw [hledger]
      rfl
  rcases scheduleTask_cases env s t with
    heq | ⟨task, -, -, hready, ⟨-, -, heq⟩ | ⟨-, -, heq⟩ | ⟨-, heq⟩⟩ <;> rw [heq]
  · rw [persist_toLedger]
    rfl
  · exact hplace s.tick task hready
  · exact hplace s task hready

/-- **A sweep only loses nodes**, up to any round of its scheduling loop. -/
theorem scheduling_onlyLoses (env : Env) (s : Coordinator D) (before : List ComputeTaskId) :
    s.toLedger.OnlyLoses (before.foldl (scheduleTask env) (s.timersDone env)).toLedger := by
  have hloss : s.toLedger.OnlyLoses (s.tick.lossPhase env (s.now env)).toLedger :=
    foldl_onlyLoses (handleNodeLoss_onlyLoses env) _ s.tick
  have htimeout : ∀ x : Coordinator D, x.toLedger.OnlyLoses (x.timeoutPhase env (s.now env)).toLedger := by
    refine fun x => foldl_onlyLoses (fun y t => .of_eq ?_) _ x
    rw [timeoutDispatch, persist_toLedger]
    simp [onLedger, Ledger.timeoutDispatch, Ledger.setState]
  have hrequeue : ∀ x : Coordinator D, x.toLedger.OnlyLoses (x.requeuePhase env (s.now env)).toLedger := by
    refine fun x => foldl_onlyLoses (fun y entry => .of_eq ?_) _ x
    unfold requeueTask
    split_ifs
    · rw [persist_toLedger]
      rfl
    · rfl
  have hexpire : ∀ x : Coordinator D, x.toLedger.OnlyLoses (x.expirePhase env (s.now env)).toLedger := by
    refine fun x => foldl_onlyLoses (fun y t => .of_eq ?_) _ x
    unfold expireTask
    split
    · rfl
    · dsimp only
      split_ifs
      · rw [persist_toLedger]
        simp [onLedger, Ledger.expireTask, Ledger.setState]
      · rfl
      · rfl
  have hschedule := foldl_onlyLoses (fun x t => .of_eq (scheduleTask_nodes env x t)) before (s.timersDone env)
  exact (((hloss.trans (htimeout _)).trans (hrequeue _)).trans (hexpire _)).trans hschedule

/-! ## The winner of a placement -/

/-- No node without a connection is schedulable. -/
def Ledger.ExcludesDisconnected (l : Ledger D) : Prop :=
  ∀ (n : NodeId) (node : NodeRecord D), l.nodes[n]? = some node → node.connected = false → ¬node.IsSchedulable

omit [DoubleArith D] in
theorem Ledger.ExcludesDisconnected.onlyLoses {l l' : Ledger D} (h : l.ExcludesDisconnected)
    (hl : l.OnlyLoses l') : l'.ExcludesDisconnected := by
  intro n node hnode hconnected hsched
  obtain ⟨old, hold, rfl | rfl⟩ := hl n node hnode
  · exact h n _ hold hconnected hsched
  · cases hsched.1

/-- The decision of the scheduler for a task in this state. -/
def Coordinator.decision (s : Coordinator D) (task : ComputeTask D) : PlacementDecision D :=
  s.scheduler.place task s.nodes s.reservations s.stateLocality

/-- The feasible decision names a registered and connected node. -/
theorem decision_connected {s : Coordinator D} (hwf : s.WellFormed) (hlisted : s.Listed)
    (h : s.ExcludesDisconnected) {task : ComputeTask D} (hfeasible : (s.decision task).feasible = true) :
    ∃ n node, (s.decision task).chosenNode = some n ∧ s.nodes[n]? = some node ∧ node.connected = true := by
  rcases s.scheduler.place_cases task s.nodes s.reservations s.stateLocality with
    ⟨-, hdeclines⟩ | ⟨best, rest, -, hchooses⟩
  · cases hdeclines.feasible.symm.trans hfeasible
  · obtain ⟨node, hmem, hid, hreasons, -⟩ := place_chosen hchooses.node
    obtain ⟨n, hnode⟩ := OrdMap.mem_values.mp hmem
    have hn : best.nodeId = n := hid.symm.trans (hwf.nodes n node hnode)
    refine ⟨n, node, hn ▸ hchooses.node, hnode, ?_⟩
    by_contra hconnected
    exact h n node hnode (by simpa using hconnected)
      (isSchedulable_of_exclusionReasons hreasons (hlisted n node hnode))

/-- A schedulable node is the only candidate for a light task that forbids all others. -/
theorem decision_lightTask {s : Coordinator D} (hwf : s.WellFormed) {n : NodeId} {node : NodeRecord D}
    (hnode : s.nodes[n]? = some node) (hsched : node.IsSchedulable) :
    ∃ task : ComputeTask D, (s.decision task).feasible = true ∧ (s.decision task).chosenNode = some n := by
  obtain ⟨honline, executor, cap, hfind, hhealthy, hslots⟩ := hsched
  have hid := hwf.nodes n node hnode
  let task : ComputeTask D := lightTask executor ((s.nodes.toList.map Prod.fst).filter (· ≠ n))
  have hreasons : exclusionReasons task node = [] :=
    exclusionReasons_lightTask honline hfind hhealthy hslots (by simp [hid])
  refine ⟨task, ?_⟩
  rcases s.scheduler.place_cases task s.nodes s.reservations s.stateLocality with
    ⟨hempty, -⟩ | ⟨best, rest, -, hchooses⟩
  · rw [place_candidates, List.map_eq_nil_iff, List.filter_eq_nil_iff] at hempty
    exact absurd (List.isEmpty_iff.mpr hreasons) (hempty node (OrdMap.mem_values.mpr ⟨n, hnode⟩))
  · refine ⟨hchooses.feasible, hchooses.node.trans ?_⟩
    obtain ⟨winner, hmem, hwinner, hwinnerReasons, -⟩ := place_chosen hchooses.node
    obtain ⟨m, hm⟩ := OrdMap.mem_values.mp hmem
    have hmid := hwf.nodes m winner hm
    have hallowed := (eligible_of_exclusionReasons hwinnerReasons).allowed
    have hmn : m = n := by
      by_contra hne
      refine hallowed (List.mem_filter.mpr ⟨List.mem_map.mpr ⟨(m, winner), ?_, hmid.symm⟩, by simp [hmid, hne]⟩)
      exact Std.ExtTreeMap.mem_toList_iff_getElem?_eq_some.mpr hm
    rw [← hwinner, hmid, hmn]

/-- A feasible decision on a connected node goes on to the reservation. -/
theorem placeTask_of_connected (env : Env) {s : Coordinator D} {t : ComputeTaskId} {task : ComputeTask D} {n : NodeId}
    {node : NodeRecord D} (hfeasible : (s.decision task).feasible = true)
    (hchosen : (s.decision task).chosenNode = some n) (hnode : s.nodes[n]? = some node)
    (hconnected : node.connected = true) :
    s.placeTask env t task =
      (s.recordPlacement t (s.decision task)).reserveAndDispatch env t task n node (s.decision task) := by
  have hnode' : (s.recordPlacement t (s.decision task)).nodes[n]? = some node := hnode
  unfold decision at hfeasible hchosen hnode' ⊢
  unfold placeTask
  generalize s.scheduler.place task s.nodes s.reservations s.stateLocality = d at hfeasible hchosen hnode' ⊢
  simp [hfeasible, hchosen, hnode', hconnected]

/-- **Disconnected nodes and placement.** In every reachable state, every feasible decision names a connected node
    and no round of the scheduling loop drops a feasible decision while a connected node is eligible, exactly when
    no node without a connection is schedulable. -/
theorem disconnected_wins_iff {env : Env} {events : List (CrashEvent D)} {s : Coordinator D}
    (hrun : crashRun env events = some s) :
    ((∀ task : ComputeTask D, (s.decision task).feasible = true →
        ∃ n node, (s.decision task).chosenNode = some n ∧ s.nodes[n]? = some node ∧ node.connected = true) ∧
      ∀ (before : List ComputeTaskId) (t : ComputeTaskId) (task : ComputeTask D),
        let x := before.foldl (scheduleTask env) (s.timersDone env)
        (x.decision task).feasible = true →
        (∃ (n : NodeId) (node : NodeRecord D), x.nodes[n]? = some node ∧ node.connected = true ∧
          exclusionReasons task node = []) →
        ∃ n node, (x.decision task).chosenNode = some n ∧ x.nodes[n]? = some node ∧
          x.placeTask env t task =
            (x.recordPlacement t (x.decision task)).reserveAndDispatch env t task n node (x.decision task)) ↔
      s.ExcludesDisconnected := by
  have hwf := (crashRun_logged hrun).1.wellFormed
  have hlisted := crashRun_listed hrun
  constructor
  · rintro ⟨hconnected, -⟩ n node hnode hgone hsched
    obtain ⟨task, hfeasible, hchosen⟩ := decision_lightTask hwf hnode hsched
    obtain ⟨m, winner, hm, hwinner, hon⟩ := hconnected task hfeasible
    obtain rfl : m = n := Option.some.inj (hm.symm.trans hchosen)
    obtain rfl := Option.some.inj (hwinner.symm.trans hnode)
    cases hgone.symm.trans hon
  · intro h
    refine ⟨fun task hfeasible => decision_connected hwf hlisted h hfeasible, ?_⟩
    intro before t task x hfeasible _
    obtain ⟨hwf', hlisted'⟩ := scheduling_wellFormed hrun before
    obtain ⟨n, node, hchosen, hnode, hon⟩ :=
      decision_connected hwf' hlisted' (h.onlyLoses (scheduling_onlyLoses env s before)) hfeasible
    exact ⟨n, node, hchosen, hnode, placeTask_of_connected env hfeasible hchosen hnode hon⟩

/-- With one node, registered and connected, every feasible decision is for it. -/
theorem disconnected_wins_alone :
    ∃ s, crashRun (Demo.env 3000 100) [.event (Demo.register 1)] = some s ∧
      ∀ task : ComputeTask ℚ, (s.decision task).feasible = true →
        ∃ n node, (s.decision task).chosenNode = some n ∧ s.nodes[n]? = some node ∧ node.connected = true := by
  have hfacts : ((crashRun (Demo.env 3000 100) [.event (Demo.register 1)]).map fun s =>
      s.nodes.toList.all fun entry => entry.2.connected) = some true := by
    decide +kernel
  obtain ⟨s, hs, hconnected⟩ := Option.map_eq_some_iff.mp hfacts
  refine ⟨s, hs, ((disconnected_wins_iff hs).mpr ?_).1⟩
  intro n node hnode hgone
  have hmem := Std.ExtTreeMap.mem_toList_iff_getElem?_eq_some.mpr hnode
  have hon := List.all_eq_true.mp hconnected (n, node) hmem
  cases hgone.symm.trans hon

/-- Two nodes and a task; then the connection of the first node is lost. -/
def Demo.disconnected : List (Event ℚ) :=
  [Demo.register 1, Demo.registerOther, Demo.submit 1, .command (.nodeDisconnected 1 Demo.nodeId)]

/-- **The scheduler chooses the node without a connection**, though the other one is connected and eligible, and the
    sweep leaves the task waiting. -/
theorem disconnected_wins :
    ((run (Demo.env 3000 100) Demo.disconnected).map fun s =>
      ((s.decision (Demo.task 1)).feasible, (s.decision (Demo.task 1)).chosenNode,
        s.nodes.toList.map fun entry =>
          (entry.1, entry.2.connected, (exclusionReasons (Demo.task 1) entry.2).isEmpty))) =
      some (true, some Demo.nodeId, [(Demo.nodeId, false, true), (⟨0, 8⟩, true, true)]) ∧
    ((run (Demo.env 3000 100) (Demo.disconnected ++ [.sweep])).map fun s =>
      (s.graph.state Demo.taskId, (s.attemptsOf Demo.taskId).length)) = some (.ready, 0) := by
  constructor <;> decide +kernel

end ComputeFabric
