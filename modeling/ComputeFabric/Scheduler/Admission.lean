import ComputeFabric.Scheduler.Choice

/-!
# `Scheduler.Admission` — eligible and reservable

A task passes two admission checks: `exclusion_reasons` when the scheduler looks for a node, and `try_reserve` when
the slots are taken. They were written apart. The scheduler compares slot counts as `int32_t`, accepts a count of
zero and does not look at `cpu_worker_slots`; the registry compares as `uint32_t`, refuses zero and counts CPU work
against `cpu_worker_slots` as well. On an idle node nothing else can make the registry refuse what the scheduler
accepts (`tryReserve_idle_iff`).
-/

namespace ComputeFabric

namespace SchedulerPolicyEngine

variable {D : Type}

/-- The executor a task runs on: `Any_` is the CPU executor. -/
def resolvedExecutor (task : ComputeTask D) : ExecutorType :=
  if task.requiredExecutor = .any then .cpu else task.requiredExecutor

theorem requiredSlots_resolved (task : ComputeTask D) :
    requiredSlots task (resolvedExecutor task) = requiredSlots task task.requiredExecutor := by
  unfold resolvedExecutor
  split_ifs with hany
  · rw [hany]
    rfl
  · rfl

/-- What the scheduler has seen of the executor of an eligible node. -/
theorem eligible_executor {task : ComputeTask D} {node : NodeRecord D} (h : exclusionReasons task node = []) :
    ∃ cap, findExecutor node (resolvedExecutor task) = some cap ∧ cap.healthy = true ∧ 0 < cap.slots ∧
      (requiredSlots task (resolvedExecutor task)).toInt32 ≤ cap.slots := by
  obtain ⟨cap, hoffers⟩ := (eligible_of_exclusionReasons h).offers
  have hfind := hoffers.find
  refine ⟨cap, hfind, hoffers.healthy, ?_⟩
  simp only [exclusionReasons, List.append_eq_nil_iff, ite_eq_right_iff, List.cons_ne_nil, imp_false] at h
  obtain ⟨⟨⟨⟨⟨-, hcapable⟩, hslots⟩, -⟩, -⟩, -⟩ := h
  rw [hfind] at hslots
  dsimp only at hslots
  rw [Bool.not_eq_true', Bool.not_eq_false, capabilityCompatible, hfind] at hcapable
  dsimp only at hcapable
  rw [requiredSlots_resolved]
  constructor
  · split_ifs at hcapable with hhealthy hzero <;> exact Int32.not_le.mp hzero
  · exact Int32.not_lt.mp fun hlt => by simp [hlt] at hslots

end SchedulerPolicyEngine

namespace ReservationRegistry

/-- No unreleased reservation on the node: nothing is in use. -/
theorem idle_of_activeForNode {reg : ReservationRegistry} {n : NodeId} (h : reg.activeForNode n = [])
    (executor : ExecutorType) : reg.usedSlots n executor = 0 ∧ reg.usedCpu n = 0 ∧ reg.usedScratch n = 0 := by
  have hnone : ∀ r ∈ reg.toList.map Prod.snd, ¬(r.nodeId = n ∧ r.released = false) := by
    intro r hr hactive
    have hin : r ∈ reg.activeForNode n := List.mem_filter.mpr ⟨hr, by simp [hactive.1, hactive.2]⟩
    rw [h] at hin
    exact List.not_mem_nil hin
  refine ⟨?_, ?_, ?_⟩
  · refine List.foldlRecOn (motive := fun used => used = 0) _ _ rfl fun used hused r hr => ?_
    rw [if_neg fun hc => hnone r hr ⟨hc.1, hc.2.2⟩, hused]
  · refine List.foldlRecOn (motive := fun used => used = 0) _ _ rfl fun used hused r hr => ?_
    rw [if_neg (hnone r hr), hused]
  · refine List.foldlRecOn (motive := fun used => used = 0) _ _ rfl fun used hused r hr => ?_
    rw [if_neg (hnone r hr), hused]

end ReservationRegistry

section Admission

open SchedulerPolicyEngine

variable {D : Type} {task : ComputeTask D} {node : NodeRecord D}

/-- The two comparisons agree on counts that an `int32_t` can hold. -/
theorem slots_le_iff {slots : UInt32} {capacity : Int32} (hpos : 0 < capacity) (hcast : slots.toInt32 ≤ capacity) :
    slots ≤ capacity.toUInt32 ↔ slots.toNat < 2 ^ 31 := by
  have hslots : slots.toInt32.toInt =
      if 2 * slots.toNat < 2 ^ 32 then (slots.toNat : Int) else (slots.toNat : Int) - 2 ^ 32 :=
    BitVec.toInt_eq_toNat_cond slots.toBitVec
  have hcapacity : capacity.toInt =
      if 2 * capacity.toUInt32.toNat < 2 ^ 32 then (capacity.toUInt32.toNat : Int)
      else (capacity.toUInt32.toNat : Int) - 2 ^ 32 :=
    BitVec.toInt_eq_toNat_cond capacity.toBitVec
  have hbound := capacity.toUInt32.toNat_lt
  rw [Int32.lt_iff_toInt_lt, hcapacity] at hpos
  rw [Int32.le_iff_toInt_le, hslots, hcapacity] at hcast
  rw [UInt32.le_iff_toNat_le]
  have hzero : (0 : Int32).toInt = 0 := rfl
  split_ifs at hpos hcast <;> omega

/-- **Eligible and reservable.** On a node without unreleased reservations, an eligible task gets its reservation
    exactly when it asks for some slots, fewer than 2³¹, and a CPU task for no more than the worker slots. -/
theorem tryReserve_idle_iff (heligible : exclusionReasons task node = []) {reg : ReservationRegistry}
    (hidle : reg.activeForNode node.id = []) (epoch : CoordinatorEpoch) (id : ReservationId) (now : Int64) :
    (∃ r, (reg.tryReserve node epoch task.id (resolvedExecutor task) (requiredSlots task (resolvedExecutor task))
        task.scratchMemoryBytes id now).2 = .ok r) ↔
      requiredSlots task (resolvedExecutor task) ≠ 0 ∧
        (requiredSlots task (resolvedExecutor task)).toNat < 2 ^ 31 ∧
        (resolvedExecutor task = .cpu →
          requiredSlots task (resolvedExecutor task) ≤ node.capacity.cpuWorkerSlots.toUInt32) := by
  have hnode := eligible_of_exclusionReasons heligible
  obtain ⟨cap, hfind, hhealthy, hpos, hcast⟩ := eligible_executor heligible
  obtain ⟨hslots, hcpu, hscratch⟩ := ReservationRegistry.idle_of_activeForNode hidle (resolvedExecutor task)
  generalize requiredSlots task (resolvedExecutor task) = slots at hcast ⊢
  have hrefusal : reg.refusal node (resolvedExecutor task) slots task.scratchMemoryBytes = none ↔
      slots ≠ 0 ∧ slots.toNat < 2 ^ 31 ∧
        (resolvedExecutor task = .cpu → slots ≤ node.capacity.cpuWorkerSlots.toUInt32) := by
    have hmemory : ¬(0 + task.scratchMemoryBytes > node.capacity.hostMemorySchedulingBytes ∧
        task.scratchMemoryBytes > 0) := by
      rw [UInt64.zero_add]
      exact fun h => UInt64.not_lt.mpr hnode.scratch h.1
    unfold ReservationRegistry.refusal
    rw [if_neg hnode.notOffline, if_neg hnode.notDraining, hfind]
    dsimp only
    rw [hhealthy, hslots, hcpu, hscratch, UInt32.zero_add, if_neg hmemory, ← slots_le_iff hpos hcast]
    by_cases hzero : slots = 0
    · simp [hzero]
    by_cases hmany : slots > cap.slots.toUInt32
    · simp [hzero, hmany]
    by_cases hworkers : resolvedExecutor task = .cpu ∧ slots > node.capacity.cpuWorkerSlots.toUInt32
    · simp [hzero, hmany, hworkers]
    · simp only [Bool.not_true, Bool.false_eq_true, if_false, hzero, hmany, hworkers, true_iff]
      exact ⟨hzero, UInt32.not_lt.mp hmany, fun hc => UInt32.not_lt.mp fun hgt => hworkers ⟨hc, hgt⟩⟩
  rw [← hrefusal, ReservationRegistry.tryReserve]
  cases reg.refusal node (resolvedExecutor task) slots task.scratchMemoryBytes with
  | none => simp
  | some reasons => simp

/-- One slot on a node that has one. -/
theorem tryReserve_idle_one :
    ∃ r, (ReservationRegistry.tryReserve ∅ (plainNode ⟨0, 1⟩) 1 plainTask.id (resolvedExecutor plainTask)
      (requiredSlots plainTask (resolvedExecutor plainTask)) plainTask.scratchMemoryBytes ⟨0, 9⟩ 0).2 = .ok r :=
  (tryReserve_idle_iff (by decide +kernel) (by decide +kernel) 1 ⟨0, 9⟩ 0).mpr (by decide +kernel)

/-- A task that asks for no slot is eligible and never gets a reservation. -/
theorem tryReserve_idle_zero :
    exclusionReasons { plainTask with requiredCpuSlots := 0 } (plainNode ⟨0, 1⟩) = [] ∧
      ReservationRegistry.activeForNode ∅ (⟨0, 1⟩ : NodeId) = [] ∧
      (ReservationRegistry.tryReserve ∅ (plainNode ⟨0, 1⟩) 1 plainTask.id .cpu 0 0 ⟨0, 9⟩ 0).2 =
        .error [text "zero slots requested"] := by
  decide +kernel

end Admission

end ComputeFabric
