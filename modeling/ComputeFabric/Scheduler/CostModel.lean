import ComputeFabric.Resource.Reservation

/-!
# `Scheduler.CostModel` — state locality and placement cost

`StateLocalityRegistry` (`state_locality.h`) and `CostModel` (`cost_model.h`). Both are pure functions of
the registries; the unit of every cost is a second of duration and lower is better.
-/

namespace ComputeFabric

/-! ## State locality -/

/-- Where a reusable state object is believed to be held. -/
structure StateLocation (D : Type) where
  stateId : Text
  generation : Text
  sizeBytes : UInt64
  residentNodes : List NodeId
  localityQuality : D
  transferEstimateSeconds : D
  recomputeEstimateSeconds : D
  compatibility : Text

/-- `std::map<std::string, StateLocation>`, the registry's only member. -/
abbrev StateLocalityRegistry (D : Type) := TextMap (StateLocation D)

/-- `find_executor_cap`: `Any_` resolves to the CPU executor. -/
def findExecutorCap {D : Type} (node : NodeRecord D) (type : ExecutorType) :
    Option (ExecutorCapability D) :=
  findExecutor node (if type = .any then .cpu else type)

theorem mem_of_findExecutorCap {D : Type} {node : NodeRecord D} {type : ExecutorType} {cap : ExecutorCapability D}
    (h : findExecutorCap node type = some cap) : cap ∈ node.capacity.executors :=
  List.mem_of_find?_eq_some h

namespace StateLocalityRegistry

variable {D : Type}

open DoubleArith (lt le)

/-- `upsert`. -/
def upsert (reg : StateLocalityRegistry D) (loc : StateLocation D) : StateLocalityRegistry D :=
  reg.insert loc.stateId loc

/-- `resident_on`. -/
def residentOn (reg : StateLocalityRegistry D) (stateId : Text) (node : NodeId) : Bool :=
  match reg[stateId]? with
  | none => false
  | some loc => loc.residentNodes.contains node

variable [DoubleArith D]

/-- One round of the loop of `transfer_seconds_for`. -/
def addTransfer (reg : StateLocalityRegistry D) (node : NodeId) (bandwidth latency total : D)
    (dep : StateDependency D) : D :=
  if reg.residentOn dep.stateId node then total
  else if le 0.0 dep.transferEstimateSeconds then total + dep.transferEstimateSeconds
  else
    let loc := reg[dep.stateId]?
    let estimate := loc.filter fun l => le 0.0 l.transferEstimateSeconds
    match estimate with
    | some l => total + l.transferEstimateSeconds
    | none =>
        let bytes := (loc.map StateLocation.sizeBytes).getD dep.sizeBytes
        (if lt 0.0 bandwidth then total + (bytes.toNat : D) / bandwidth else total) + latency

/-- `transfer_seconds_for`. -/
def transferSecondsFor (reg : StateLocalityRegistry D) (task : ComputeTask D) (node : NodeId)
    (bandwidth latency : D) : D :=
  task.stateDependencies.foldl (addTransfer reg node bandwidth latency) 0.0

/-- `recompute_seconds_for`. -/
def recomputeSecondsFor (reg : StateLocalityRegistry D) (task : ComputeTask D) : D :=
  task.stateDependencies.foldl (fun total dep =>
    if le 0.0 dep.recomputeEstimateSeconds then total + dep.recomputeEstimateSeconds
    else match reg[dep.stateId]? with
      | some loc =>
          if le 0.0 loc.recomputeEstimateSeconds then total + loc.recomputeEstimateSeconds else total
      | none => total) 0.0

end StateLocalityRegistry

/-! ## Cost model -/

/-- `CostWeights`. -/
structure CostWeights (D : Type) where
  execution : D
  queue : D
  transfer : D
  recompute : D
  pressure : D
  affinity : D
  capability : D
  stateLocality : D

/-- `CostContext`: bandwidth in bytes per second, latency in seconds, and the pressure scaling. -/
structure CostContext (D : Type) where
  bandwidthBytesPerSec : D
  transferLatencySeconds : D
  pressureThreshold : D
  pressureWeight : D

/-- A single candidate evaluation for a task on a node. -/
structure CostBreakdown (D : Type) where
  execution : D
  queue : D
  transfer : D
  recompute : D
  pressure : D
  affinity : D
  capability : D
  total : D
  stateLocalityScore : D
  resourcePressureScore : D

structure CostModel (D : Type) where
  weights : CostWeights D
  context : CostContext D

namespace CostModel

variable {D : Type} [DoubleArith D]

open DoubleArith (lt le)

/-- The default member values of `CostWeights` and `CostContext`. -/
def default : CostModel D where
  weights :=
    { execution := 1.0, queue := 1.0, transfer := 1.0, recompute := 1.0, pressure := 1.0,
      affinity := 1.0, capability := 1e9, stateLocality := 1.0 }
  context :=
    { bandwidthBytesPerSec := 1.0e9, transferLatencySeconds := 0.001, pressureThreshold := 0.8,
      pressureWeight := 2.0 }

/-- `pressure_score`: used over available slots of the executor, capped at one. -/
def pressureScore (node : NodeRecord D) (executor : ExecutorType) (resv : ReservationRegistry) : D :=
  match findExecutorCap node executor with
  | none => 1.0
  | some cap =>
      if cap.slots ≤ 0 then 1.0
      else
        let usedTotal : UInt32 :=
          if executor = .cpu then resv.usedCpu node.id else resv.usedSlots node.id executor
        DoubleArith.min 1.0 ((usedTotal.toNat : D) / (cap.slots.toInt : D))

/-- `queue_cost`: the task's own estimate once for each active reservation on the node. -/
def queueCost (task : ComputeTask D) (node : NodeRecord D) (resv : ReservationRegistry) : D :=
  resv.allActive.foldl (fun total r =>
    if r.nodeId = node.id then total + DoubleArith.max 0.0 task.estimatedDurationSeconds else total) 0.0

/-- `state_locality_score`: resident bytes over all state bytes; one when there are none. -/
def stateLocalityScore (task : ComputeTask D) (node : NodeRecord D) (state : StateLocalityRegistry D) :
    D :=
  if task.stateDependencies.isEmpty then 1.0
  else
    let sums := task.stateDependencies.foldl (fun (acc : D × D) dep =>
      let bytes := ((state[dep.stateId]?).map StateLocation.sizeBytes).getD dep.sizeBytes
      let total := acc.2 + (bytes.toNat : D)
      if state.residentOn dep.stateId node.id then (acc.1 + (bytes.toNat : D), total)
      else (acc.1, total)) (0.0, 0.0)
    if le sums.2 0.0 then 1.0 else sums.1 / sums.2

/-- The affinity loops of `evaluate`: reward preferred nodes, penalize missing preferred tags. -/
def affinityDelta (task : ComputeTask D) (node : NodeRecord D) : D :=
  let d := task.preferredNodes.foldl (fun (d : D) pn => if pn = node.id then d - 0.1 else d) 0.0
  task.preferredTags.foldl (fun d pt => if node.capacity.tags.contains pt then d else d + 0.1) d

/-- `CostModel::evaluate`; `durationOverride` is negative when there is no history. -/
def evaluate (m : CostModel D) (task : ComputeTask D) (node : NodeRecord D)
    (resv : ReservationRegistry) (state : StateLocalityRegistry D) (durationOverride : D) :
    CostBreakdown D :=
  match findExecutorCap node task.requiredExecutor with
  | none =>
      { execution := 0.0, queue := 0.0, transfer := 0.0, recompute := 0.0, pressure := 0.0,
        affinity := 0.0, capability := m.weights.capability, total := m.weights.capability,
        stateLocalityScore := 0.0, resourcePressureScore := 0.0 }
  | some _ =>
      let duration := if le 0.0 durationOverride then durationOverride
        else task.estimatedDurationSeconds
      let execution := duration * m.weights.execution
      let queue := queueCost task node resv * m.weights.queue
      let transfer := state.transferSecondsFor task node.id m.context.bandwidthBytesPerSec
        m.context.transferLatencySeconds * m.weights.transfer
      let recompute := state.recomputeSecondsFor task * m.weights.recompute
      let score := pressureScore node task.requiredExecutor resv
      let pressure := if lt m.context.pressureThreshold score then
          (score - m.context.pressureThreshold) * m.context.pressureWeight * m.weights.pressure
        else 0.0
      let affinity := affinityDelta task node * m.weights.affinity
      let capability : D := 0.0
      { execution, queue, transfer, recompute, pressure, affinity, capability,
        total := execution + queue + transfer + recompute + pressure + affinity + capability,
        stateLocalityScore := stateLocalityScore task node state,
        resourcePressureScore := score }

end CostModel

end ComputeFabric
