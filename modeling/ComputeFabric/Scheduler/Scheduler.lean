import ComputeFabric.Scheduler.CostModel

/-!
# `Scheduler.Scheduler` — deterministic placement

`SchedulerPolicyEngine` (`scheduler.h`) and the decision records of `placements.h`: which nodes are
excluded and why, how the rest is scored under either policy, and the choice of the best candidate by
score, then node id, then executor.
-/

namespace ComputeFabric

inductive SchedulerPolicy where
  | baseline | costAware
deriving DecidableEq

/-- `scheduler_policy_name`. -/
def SchedulerPolicy.name : SchedulerPolicy → String
  | baseline => "baseline"
  | costAware => "cost_aware"

structure CandidateScore (D : Type) where
  nodeId : NodeId
  executor : ExecutorType
  device : Text
  score : D
  executionCost : D
  queueCost : D
  transferCost : D
  recomputeCost : D
  pressureCost : D
  affinityCost : D
  capabilityCost : D
  stateLocalityScore : D
  resourcePressureScore : D

structure Exclusion where
  nodeId : NodeId
  reasons : List Text

/-- The record of one scheduling decision. -/
structure PlacementDecision (D : Type) where
  feasible : Bool
  chosenNode : Option NodeId
  chosenExecutor : Option ExecutorType
  chosenDevice : Text
  candidates : List (CandidateScore D)
  excluded : List Exclusion
  totalCost : D
  executionCost : D
  queueCost : D
  transferCost : D
  recomputeCost : D
  pressureCost : D
  affinityCost : D
  capabilityCost : D
  stateLocalityScore : D
  resourcePressureScore : D
  reason : Text

/-- The decision chooses a candidate: all it reports is what the candidate was scored with. -/
structure PlacementDecision.Chooses {D : Type} (d : PlacementDecision D) (best : CandidateScore D) : Prop where
  feasible : d.feasible = true
  node : d.chosenNode = some best.nodeId
  executor : d.chosenExecutor = some best.executor
  device : d.chosenDevice = best.device
  total : d.totalCost = best.score
  execution : d.executionCost = best.executionCost
  queue : d.queueCost = best.queueCost
  transfer : d.transferCost = best.transferCost
  recompute : d.recomputeCost = best.recomputeCost
  pressure : d.pressureCost = best.pressureCost
  affinity : d.affinityCost = best.affinityCost
  capability : d.capabilityCost = best.capabilityCost
  stateLocality : d.stateLocalityScore = best.stateLocalityScore
  resourcePressure : d.resourcePressureScore = best.resourcePressureScore
  reason : d.reason = text "best candidate"

/-- The decision found no node. -/
structure PlacementDecision.Declines {D : Type} (d : PlacementDecision D) : Prop where
  feasible : d.feasible = false
  node : d.chosenNode = none
  executor : d.chosenExecutor = none
  device : d.chosenDevice = []
  reason : d.reason = text "no schedulable node"

/-- `HistoryKey`: the map is ordered by task class, then backend, then node. -/
structure HistoryKey where
  taskClass : TaskClass
  backend : ExecutorType
  node : NodeId
deriving DecidableEq

/-- `HistoryStats`, without the never written `queue_delay_seconds`. -/
structure HistoryStats (D : Type) where
  runCount : UInt64
  successCount : UInt64
  failureCount : UInt64
  meanDurationSeconds : D
  recentDurationSeconds : D
  bytesTransferred : UInt64

/-- The engine. `history` is only ever looked up by key, so it is an association list with the newest
    entry of a key in front. -/
structure SchedulerPolicyEngine (D : Type) where
  policy : SchedulerPolicy
  costModel : CostModel D
  history : List (HistoryKey × HistoryStats D)

namespace SchedulerPolicyEngine

variable {D : Type}

/-- `history_.find(key)`. -/
def historyOf (e : SchedulerPolicyEngine D) (key : HistoryKey) : Option (HistoryStats D) :=
  (e.history.find? fun entry => entry.1 = key).map Prod.snd

/-- `capability_compatible`. -/
def capabilityCompatible (task : ComputeTask D) (node : NodeRecord D) : Bool :=
  match findExecutorCap node task.requiredExecutor with
  | none => false
  | some cap =>
      if !cap.healthy then false
      else if cap.slots ≤ 0 then false
      else if task.requiredExecutor = .cuda ∧ task.minComputeCapabilityMajor > 0 then
        if cap.major < task.minComputeCapabilityMajor then false
        else if cap.major = task.minComputeCapabilityMajor ∧
            cap.minor < task.minComputeCapabilityMinor then false
        else true
      else true

/-- The slot count a task asks of an executor. -/
def requiredSlots (task : ComputeTask D) (executor : ExecutorType) : UInt32 :=
  if executor = .cuda then task.requiredGpuSlots else task.requiredCpuSlots

/-- `exclusion_reasons`: empty when the node is eligible. -/
def exclusionReasons (task : ComputeTask D) (node : NodeRecord D) : List Text :=
  (if node.health = .offline then [text "node offline"] else []) ++
  (if node.health = .draining then [text "node draining"] else []) ++
  (if node.health = .suspect then [text "node suspect"] else []) ++
  (if !node.connected ∧ node.health ≠ .online then [text "not connected"] else []) ++
  (if !capabilityCompatible task node then
    [text "capability mismatch or executor unavailable"] else []) ++
  (match findExecutorCap node task.requiredExecutor with
    | some cap =>
        if cap.slots < (requiredSlots task task.requiredExecutor).toInt32 then
          [text "insufficient executor slots"] else []
    | none => []) ++
  (if task.scratchMemoryBytes > node.capacity.hostMemorySchedulingBytes then
    [text "insufficient scratch budget"] else []) ++
  (task.forbiddenNodes.flatMap fun fn =>
    if fn = node.id then [text "node forbidden by task"] else []) ++
  (task.requiredTags.flatMap fun rt =>
    if node.capacity.tags.contains rt then [] else [text "missing required tag: " ++ rt])

/-- `eligible_nodes`, in id order. -/
def eligibleNodes (task : ComputeTask D) (nodes : IdMap (NodeRecord D)) : List NodeId :=
  (nodes.toList.filter fun entry => (exclusionReasons task entry.2).isEmpty).map Prod.fst

/-! ## Which nodes are eligible -/

/-- The executor capability a task runs on, of a node that can take it. -/
structure Offers (task : ComputeTask D) (node : NodeRecord D) (cap : ExecutorCapability D) : Prop where
  find : findExecutorCap node task.requiredExecutor = some cap
  healthy : cap.healthy = true
  compute : task.requiredExecutor = .cuda → task.minComputeCapabilityMajor > 0 →
    task.minComputeCapabilityMajor < cap.major ∨
      task.minComputeCapabilityMajor = cap.major ∧ task.minComputeCapabilityMinor ≤ cap.minor

theorem offers_of_capabilityCompatible {task : ComputeTask D} {node : NodeRecord D}
    (h : capabilityCompatible task node = true) : ∃ cap, Offers task node cap := by
  unfold capabilityCompatible at h
  split at h
  · cases h
  · next cap hfind =>
      split_ifs at h with hhealthy hslots hcuda hmajor hminor
      · refine ⟨cap, hfind, by simpa using hhealthy, fun _ _ => ?_⟩
        rcases Int32.lt_or_eq_of_le (Int32.not_lt.mp hmajor) with hlt | heq
        · exact .inl hlt
        · exact .inr ⟨heq, Int32.not_lt.mp fun hlt => hminor ⟨heq.symm, hlt⟩⟩
      · exact ⟨cap, hfind, by simpa using hhealthy, fun hc hpos => absurd ⟨hc, hpos⟩ hcuda⟩

/-- The hard constraints of a task, met by a node. -/
structure Eligible (task : ComputeTask D) (node : NodeRecord D) : Prop where
  notOffline : node.health ≠ .offline
  notDraining : node.health ≠ .draining
  notSuspect : node.health ≠ .suspect
  offers : ∃ cap, Offers task node cap
  scratch : task.scratchMemoryBytes ≤ node.capacity.hostMemorySchedulingBytes
  allowed : node.id ∉ task.forbiddenNodes
  tagged : ∀ tag ∈ task.requiredTags, node.capacity.tags.contains tag = true

/-- **A node without exclusion reasons meets every hard constraint.** -/
theorem eligible_of_exclusionReasons {task : ComputeTask D} {node : NodeRecord D}
    (h : exclusionReasons task node = []) : Eligible task node := by
  simp only [exclusionReasons, List.append_eq_nil_iff, ite_eq_right_iff, List.cons_ne_nil, imp_false,
    List.flatMap_eq_nil_iff] at h
  obtain ⟨⟨⟨⟨⟨⟨⟨⟨hoffline, hdraining⟩, hsuspect⟩, -⟩, hcapable⟩, -⟩, hscratch⟩, hforbidden⟩, htags⟩ := h
  refine ⟨hoffline, hdraining, hsuspect, offers_of_capabilityCompatible (by simpa using hcapable),
    UInt64.not_lt.mp hscratch, fun hmem => hforbidden _ hmem rfl, ?_⟩
  intro tag htag
  by_contra hmissing
  have := htags tag htag
  rw [if_neg hmissing] at this
  cases this

variable [DoubleArith D]

open DoubleArith (lt le)

/-- `record_history`. -/
def recordHistory (e : SchedulerPolicyEngine D) (key : HistoryKey) (durationSeconds : D)
    (success : Bool) (bytesTransferred : UInt64) : SchedulerPolicyEngine D :=
  let s : HistoryStats D := (e.historyOf key).getD
    { runCount := 0, successCount := 0, failureCount := 0, meanDurationSeconds := 0.0,
      recentDurationSeconds := 0.0, bytesTransferred := 0 }
  let runCount := s.runCount + 1
  let total := s.meanDurationSeconds * ((runCount - 1).toNat : D)
  let s' : HistoryStats D :=
    { runCount
      successCount := if success then s.successCount + 1 else s.successCount
      failureCount := if success then s.failureCount else s.failureCount + 1
      meanDurationSeconds := (total + durationSeconds) / (runCount.toNat : D)
      recentDurationSeconds := durationSeconds
      bytesTransferred := s.bytesTransferred + bytesTransferred }
  { e with history := (key, s') :: e.history }

/-- `better`: by score, then node id, then executor. -/
def better (a b : CandidateScore D) : Bool :=
  if !DoubleArith.eq a.score b.score then lt a.score b.score
  else if a.nodeId ≠ b.nodeId then (compare a.nodeId b.nodeId).isLT
  else a.executor.toUInt8 < b.executor.toUInt8

/-- The body of the candidate loop of `place`, for a node that is not excluded. -/
def scoreCandidate (e : SchedulerPolicyEngine D) (task : ComputeTask D) (node : NodeRecord D)
    (resv : ReservationRegistry) (state : StateLocalityRegistry D) : CandidateScore D :=
  let cap := findExecutorCap node task.requiredExecutor
  let executor := (cap.map ExecutorCapability.type).getD task.requiredExecutor
  let device := (cap.map ExecutorCapability.name).getD (text "unknown")
  match e.policy with
  | .baseline =>
      let score := 0.0 + state.transferSecondsFor task node.id
        e.costModel.context.bandwidthBytesPerSec e.costModel.context.transferLatencySeconds
        + task.estimatedDurationSeconds
      let b := e.costModel.evaluate task node resv state (-1.0)
      { nodeId := node.id, executor, device, score
        executionCost := b.execution
        queueCost := b.queue
        transferCost := b.transfer
        recomputeCost := b.recompute
        pressureCost := 0.0
        affinityCost := 0.0
        capabilityCost := 0.0
        stateLocalityScore := CostModel.stateLocalityScore task node state
        resourcePressureScore := b.resourcePressureScore }
  | .costAware =>
      let duration :=
        match e.historyOf ⟨task.taskClass, task.requiredExecutor, node.id⟩ with
        | some h => if h.runCount > 0 then h.meanDurationSeconds else task.estimatedDurationSeconds
        | none => task.estimatedDurationSeconds
      let b := e.costModel.evaluate task node resv state duration
      { nodeId := node.id, executor, device
        score := b.total
        executionCost := b.execution
        queueCost := b.queue
        transferCost := b.transfer
        recomputeCost := b.recompute
        pressureCost := b.pressure
        affinityCost := b.affinity
        capabilityCost := b.capability
        stateLocalityScore := b.stateLocalityScore
        resourcePressureScore := b.resourcePressureScore }

/-- `SchedulerPolicyEngine::place`. -/
def place (e : SchedulerPolicyEngine D) (task : ComputeTask D) (nodes : IdMap (NodeRecord D))
    (resv : ReservationRegistry) (state : StateLocalityRegistry D) : PlacementDecision D :=
  let excluded := (nodes.values.filter fun node => !(exclusionReasons task node).isEmpty).map
    fun node => (⟨node.id, exclusionReasons task node⟩ : Exclusion)
  let candidates := (nodes.values.filter fun node => (exclusionReasons task node).isEmpty).map
    fun node => e.scoreCandidate task node resv state
  match candidates.insertionSort (fun a b => !better b a) with
  | [] =>
      { feasible := false, chosenNode := none, chosenExecutor := none, chosenDevice := []
        candidates, excluded
        totalCost := 0.0, executionCost := 0.0, queueCost := 0.0, transferCost := 0.0
        recomputeCost := 0.0, pressureCost := 0.0, affinityCost := 0.0, capabilityCost := 0.0
        stateLocalityScore := 0.0, resourcePressureScore := 0.0
        reason := text "no schedulable node" }
  | best :: _ =>
      { feasible := true, chosenNode := some best.nodeId, chosenExecutor := some best.executor
        chosenDevice := best.device, candidates, excluded
        totalCost := best.score
        executionCost := best.executionCost
        queueCost := best.queueCost
        transferCost := best.transferCost
        recomputeCost := best.recomputeCost
        pressureCost := best.pressureCost
        affinityCost := best.affinityCost
        capabilityCost := best.capabilityCost
        stateLocalityScore := best.stateLocalityScore
        resourcePressureScore := best.resourcePressureScore
        reason := text "best candidate" }

/-! ## What `place` chooses -/

theorem scoreCandidate_nodeId (e : SchedulerPolicyEngine D) (task : ComputeTask D) (node : NodeRecord D)
    (resv : ReservationRegistry) (state : StateLocalityRegistry D) :
    (e.scoreCandidate task node resv state).nodeId = node.id := by
  unfold scoreCandidate
  cases e.policy <;> rfl

/-- `c.device`: the name of the capability, if the node has it. -/
def candidateDevice (task : ComputeTask D) (node : NodeRecord D) : Text :=
  ((findExecutorCap node task.requiredExecutor).map ExecutorCapability.name).getD (text "unknown")

theorem scoreCandidate_device (e : SchedulerPolicyEngine D) (task : ComputeTask D) (node : NodeRecord D)
    (resv : ReservationRegistry) (state : StateLocalityRegistry D) :
    (e.scoreCandidate task node resv state).device = candidateDevice task node := by
  unfold scoreCandidate
  cases e.policy <;> rfl

theorem scoreCandidate_cap (e : SchedulerPolicyEngine D) {task : ComputeTask D} {node : NodeRecord D}
    (resv : ReservationRegistry) (state : StateLocalityRegistry D) {cap : ExecutorCapability D}
    (h : findExecutorCap node task.requiredExecutor = some cap) :
    (e.scoreCandidate task node resv state).executor = cap.type ∧
      (e.scoreCandidate task node resv state).device = cap.name := by
  unfold scoreCandidate
  rw [h]
  cases e.policy <;> exact ⟨rfl, rfl⟩

section Place

variable (e : SchedulerPolicyEngine D) (task : ComputeTask D) (nodes : IdMap (NodeRecord D))
  (resv : ReservationRegistry) (state : StateLocalityRegistry D)

theorem place_candidates : (e.place task nodes resv state).candidates =
    (nodes.values.filter fun node => (exclusionReasons task node).isEmpty).map
      fun node => e.scoreCandidate task node resv state := by
  unfold place
  dsimp only
  split <;> rfl

theorem place_excluded : (e.place task nodes resv state).excluded =
    (nodes.values.filter fun node => !(exclusionReasons task node).isEmpty).map
      fun node => (⟨node.id, exclusionReasons task node⟩ : Exclusion) := by
  unfold place
  dsimp only
  split <;> rfl

/-- The first candidate in the order of `better` is chosen, if there is one. -/
theorem place_cases :
    ((e.place task nodes resv state).candidates = [] ∧ (e.place task nodes resv state).Declines) ∨
    ∃ best rest, (e.place task nodes resv state).candidates.insertionSort (fun a b => !better b a) = best :: rest ∧
      (e.place task nodes resv state).Chooses best := by
  rw [place_candidates]
  unfold place
  dsimp only
  split
  · next hsorted =>
      refine .inl ⟨List.length_eq_zero_iff.mp ?_, rfl, rfl, rfl, rfl, rfl⟩
      rw [← List.length_insertionSort (fun a b => !better b a), hsorted, List.length_nil]
  · next best rest hsorted =>
      refine .inr ⟨best, rest, hsorted, ?_⟩
      constructor <;> rfl

end Place

/-- **The chosen node has no exclusion reason**, and the executor and the device are those of the capability the
    scheduler looked at. -/
theorem place_chosen {e : SchedulerPolicyEngine D} {task : ComputeTask D} {nodes : IdMap (NodeRecord D)}
    {resv : ReservationRegistry} {state : StateLocalityRegistry D} {n : NodeId}
    (h : (e.place task nodes resv state).chosenNode = some n) :
    ∃ node ∈ nodes.values, node.id = n ∧ exclusionReasons task node = [] ∧
      ∃ cap, Offers task node cap ∧
        (e.place task nodes resv state).chosenExecutor = some cap.type ∧
        (e.place task nodes resv state).chosenDevice = cap.name := by
  rcases e.place_cases task nodes resv state with ⟨-, hdeclines⟩ | ⟨best, rest, hsorted, hchooses⟩
  · rw [hdeclines.node] at h
    cases h
  · have hbest : best ∈ (e.place task nodes resv state).candidates := by
      rw [← List.mem_insertionSort (fun a b => !better b a), hsorted]
      exact List.mem_cons_self
    rw [place_candidates] at hbest
    obtain ⟨node, hnode, rfl⟩ := List.mem_map.mp hbest
    obtain ⟨hmem, hempty⟩ := List.mem_filter.mp hnode
    have hreasons : exclusionReasons task node = [] := List.isEmpty_iff.mp hempty
    obtain ⟨cap, hoffers⟩ := (eligible_of_exclusionReasons hreasons).offers
    obtain ⟨hexecutor, hdevice⟩ := e.scoreCandidate_cap resv state hoffers.find
    refine ⟨node, hmem, ?_, hreasons, cap, hoffers, hchooses.executor.trans (congrArg some hexecutor),
      hchooses.device.trans hdevice⟩
    rw [← scoreCandidate_nodeId e task node resv state]
    exact Option.some.inj (hchooses.node.symm.trans h)

end SchedulerPolicyEngine

end ComputeFabric
