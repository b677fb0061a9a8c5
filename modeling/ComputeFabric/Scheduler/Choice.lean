import ComputeFabric.Lib.OrdMap
import ComputeFabric.Scheduler.Scheduler

/-!
# `Scheduler.Choice` — what `place` decides, in exact arithmetic

- **Optimality.** Over the rationals the candidates are totally preordered by `better`, so the head of the sorted
  list is a least one: no candidate has a smaller score, or the same score and a smaller id (`place_optimal`).
- **Any_ and Cpu.** `find_executor_cap` resolves `Any_` to the CPU executor, but the pressure score and the history
  lookup take the executor as the task names it. The two tasks are placed alike exactly where the unresolved name
  makes no difference (`place_any_iff`).
-/

namespace ComputeFabric

namespace Id128

theorem lt_irrefl (a : Id128) : ¬a < a := by
  intro h
  have hlt : compare a a = .lt := h
  rw [Std.ReflOrd.compare_self] at hlt
  cases hlt

theorem lt_trans {a b c : Id128} (hab : a < b) (hbc : b < c) : a < c := Std.TransCmp.lt_trans hab hbc

theorem lt_trichotomy (a b : Id128) : a < b ∨ a = b ∨ b < a := by
  cases h : compare a b with
  | lt => exact .inl h
  | eq => exact .inr (.inl (Std.LawfulEqOrd.eq_of_compare h))
  | gt => exact .inr (.inr (Std.OrientedCmp.lt_of_gt h))

end Id128

namespace SchedulerPolicyEngine

/-! ## The order of the candidates -/

/-- `a` need not come after `b`: by score, then node id, then executor. -/
def Precedes (a b : CandidateScore ℚ) : Prop :=
  a.score < b.score ∨ a.score = b.score ∧ (a.nodeId < b.nodeId ∨
    a.nodeId = b.nodeId ∧ a.executor.toUInt8 ≤ b.executor.toUInt8)

section Order

variable {a b c : CandidateScore ℚ}

theorem better_iff : better a b = true ↔
    a.score < b.score ∨ a.score = b.score ∧ (a.nodeId < b.nodeId ∨
      a.nodeId = b.nodeId ∧ a.executor.toUInt8 < b.executor.toUInt8) := by
  have hid : (compare a.nodeId b.nodeId).isLT = true ↔ a.nodeId < b.nodeId := Ordering.isLT_iff_eq_lt
  have heq : DoubleArith.eq a.score b.score = decide (a.score = b.score) := rfl
  have hlt : DoubleArith.lt a.score b.score = decide (a.score < b.score) := rfl
  unfold better
  rw [heq, hlt]
  by_cases hs : a.score = b.score
  · by_cases hn : a.nodeId = b.nodeId
    · simp [hs, hn, Id128.lt_irrefl]
    · simp [hs, hn, hid]
  · simp [hs]

/-- The comparison of the sort. -/
theorem not_better_iff : (!better b a) = true ↔ Precedes a b := by
  rw [Bool.not_eq_true', ← Bool.not_eq_true, better_iff, Precedes]
  constructor
  · intro hnot
    rcases lt_trichotomy a.score b.score with hs | hs | hs
    · exact .inl hs
    · refine .inr ⟨hs, ?_⟩
      rcases Id128.lt_trichotomy a.nodeId b.nodeId with hn | hn | hn
      · exact .inl hn
      · exact .inr ⟨hn, UInt8.not_lt.mp fun hx => hnot (.inr ⟨hs.symm, .inr ⟨hn.symm, hx⟩⟩)⟩
      · exact absurd (.inr ⟨hs.symm, .inl hn⟩) hnot
    · exact absurd (.inl hs) hnot
  · rintro (hs | ⟨hs, hn | ⟨hn, hx⟩⟩) (hs' | ⟨hs', hn' | ⟨hn', hx'⟩⟩)
    · exact lt_asymm hs hs'
    · exact hs.ne hs'.symm
    · exact hs.ne hs'.symm
    · exact hs'.ne hs.symm
    · exact Id128.lt_irrefl _ (Id128.lt_trans hn hn')
    · exact Id128.lt_irrefl _ (hn' ▸ hn)
    · exact hs'.ne hs.symm
    · exact Id128.lt_irrefl _ (hn ▸ hn')
    · exact UInt8.not_lt.mpr hx hx'

theorem Precedes.total (a b : CandidateScore ℚ) : Precedes a b ∨ Precedes b a := by
  rcases lt_trichotomy a.score b.score with hs | hs | hs
  · exact .inl (.inl hs)
  · rcases Id128.lt_trichotomy a.nodeId b.nodeId with hn | hn | hn
    · exact .inl (.inr ⟨hs, .inl hn⟩)
    · rcases UInt8.le_total a.executor.toUInt8 b.executor.toUInt8 with hx | hx
      · exact .inl (.inr ⟨hs, .inr ⟨hn, hx⟩⟩)
      · exact .inr (.inr ⟨hs.symm, .inr ⟨hn.symm, hx⟩⟩)
    · exact .inr (.inr ⟨hs.symm, .inl hn⟩)
  · exact .inr (.inl hs)

theorem Precedes.trans (hab : Precedes a b) (hbc : Precedes b c) : Precedes a c := by
  rcases hab with hs | ⟨hs, hn⟩
  · rcases hbc with hs' | ⟨hs', -⟩
    · exact .inl (hs.trans hs')
    · exact .inl (hs'.symm ▸ hs)
  · rcases hbc with hs' | ⟨hs', hn'⟩
    · exact .inl (hs ▸ hs')
    · refine .inr ⟨hs.trans hs', ?_⟩
      rcases hn with hn | ⟨hn, hx⟩
      · rcases hn' with hn' | ⟨hn', -⟩
        · exact .inl (Id128.lt_trans hn hn')
        · exact .inl (hn' ▸ hn)
      · rcases hn' with hn' | ⟨hn', hx'⟩
        · exact .inl (hn ▸ hn')
        · exact .inr ⟨hn.trans hn', UInt8.le_trans hx hx'⟩

instance : Std.Total fun a b : CandidateScore ℚ => (!better b a) = true where
  total a b := (Precedes.total a b).imp not_better_iff.mpr not_better_iff.mpr

instance : IsTrans (CandidateScore ℚ) fun a b => (!better b a) = true where
  trans _ _ _ hab hbc := not_better_iff.mpr ((not_better_iff.mp hab).trans (not_better_iff.mp hbc))

/-- The head of the sorted candidates comes before all of them. -/
theorem precedes_of_sorted {candidates rest : List (CandidateScore ℚ)} {best : CandidateScore ℚ}
    (h : candidates.insertionSort (fun a b => !better b a) = best :: rest) :
    best ∈ candidates ∧ ∀ c ∈ candidates, Precedes best c := by
  have hsorted := List.pairwise_insertionSort (fun a b : CandidateScore ℚ => (!better b a) = true) candidates
  have hmem : ∀ c, c ∈ candidates ↔ c ∈ best :: rest := fun c => by
    rw [← h, List.mem_insertionSort]
  rw [h, List.pairwise_cons] at hsorted
  refine ⟨(hmem best).mpr List.mem_cons_self, fun c hc => ?_⟩
  rcases List.mem_cons.mp ((hmem c).mp hc) with rfl | hc
  · exact (Precedes.total c c).elim id id
  · exact not_better_iff.mp (hsorted.1 c hc)

end Order

/-! ## Completeness and optimality -/

section Place

variable {D : Type} {nodes : IdMap (NodeRecord D)}
  (hid : ∀ (n : NodeId) (node : NodeRecord D), nodes[n]? = some node → node.id = n)

include hid in
/-- The records with a property, by their own ids, are the entries with it, by key. -/
theorem map_id_filter_values (p : NodeRecord D → Bool) :
    (nodes.values.filter p).map NodeRecord.id = (nodes.toList.filter fun entry => p entry.2).map Prod.fst := by
  rw [OrdMap.values_eq_map_toList, List.filter_map, List.map_map]
  refine List.map_congr_left fun entry hentry => ?_
  exact hid _ _ (Std.ExtTreeMap.mem_toList_iff_getElem?_eq_some.mp (List.mem_of_mem_filter hentry))

include hid in
theorem candidates_ids [DoubleArith D] (e : SchedulerPolicyEngine D) (task : ComputeTask D)
    (resv : ReservationRegistry) (state : StateLocalityRegistry D) :
    (e.place task nodes resv state).candidates.map CandidateScore.nodeId = eligibleNodes task nodes := by
  rw [place_candidates, List.map_map]
  refine Eq.trans ?_ (map_id_filter_values hid fun node => (exclusionReasons task node).isEmpty)
  exact List.map_congr_left fun node _ => scoreCandidate_nodeId e task node resv state

include hid in
theorem excluded_ids [DoubleArith D] (e : SchedulerPolicyEngine D) (task : ComputeTask D)
    (resv : ReservationRegistry) (state : StateLocalityRegistry D) :
    (e.place task nodes resv state).excluded.map Exclusion.nodeId =
      (nodes.toList.filter fun entry => !(exclusionReasons task entry.2).isEmpty).map Prod.fst := by
  rw [place_excluded, List.map_map]
  exact map_id_filter_values hid fun node => !(exclusionReasons task node).isEmpty

end Place

/-- **Placement is complete and optimal.** -/
theorem place_optimal (e : SchedulerPolicyEngine ℚ) (task : ComputeTask ℚ) (nodes : IdMap (NodeRecord ℚ))
    (resv : ReservationRegistry) (state : StateLocalityRegistry ℚ)
    (hid : ∀ (n : NodeId) (node : NodeRecord ℚ), nodes[n]? = some node → node.id = n) :
    ((e.place task nodes resv state).candidates.map CandidateScore.nodeId ++
        (e.place task nodes resv state).excluded.map Exclusion.nodeId).Perm nodes.keys ∧
      (e.place task nodes resv state).candidates.map CandidateScore.nodeId = eligibleNodes task nodes ∧
      ((e.place task nodes resv state).feasible = true ↔ (e.place task nodes resv state).candidates ≠ []) ∧
      ((e.place task nodes resv state).feasible = true →
        ∃ best ∈ (e.place task nodes resv state).candidates, (e.place task nodes resv state).Chooses best ∧
          ∀ c ∈ (e.place task nodes resv state).candidates,
            best.score < c.score ∨ best.score = c.score ∧ (best.nodeId = c.nodeId ∨ best.nodeId < c.nodeId)) := by
  have hcandidates := candidates_ids hid e task resv state
  have hexcluded := excluded_ids hid e task resv state
  have hcases := e.place_cases task nodes resv state
  generalize e.place task nodes resv state = d at hcandidates hexcluded hcases ⊢
  have hperm : (d.candidates.map CandidateScore.nodeId ++ d.excluded.map Exclusion.nodeId).Perm nodes.keys := by
    have hsplit := (List.filter_append_perm
      (fun entry : NodeId × NodeRecord ℚ => (exclusionReasons task entry.2).isEmpty) nodes.toList).map Prod.fst
    rw [List.map_append, Std.ExtTreeMap.map_fst_toList_eq_keys] at hsplit
    rw [hcandidates, hexcluded]
    exact hsplit
  refine ⟨hperm, hcandidates, ?_⟩
  rcases hcases with ⟨hnil, hdeclines⟩ | ⟨best, rest, hsorted, hchooses⟩
  · rw [hdeclines.feasible, hnil]
    exact ⟨⟨(nomatch ·), fun h => absurd rfl h⟩, (nomatch ·)⟩
  · obtain ⟨hmem, hleast⟩ := precedes_of_sorted hsorted
    refine ⟨⟨fun _ => List.ne_nil_of_mem hmem, fun _ => hchooses.feasible⟩, fun _ => ⟨best, hmem, hchooses, ?_⟩⟩
    intro c hc
    rcases hleast c hc with hs | ⟨hs, hn | ⟨hn, -⟩⟩
    · exact .inl hs
    · exact .inr ⟨hs, .inr hn⟩
    · exact .inr ⟨hs, .inl hn⟩

/-- An online node with one CPU slot. -/
def plainNode (n : NodeId) : NodeRecord ℚ where
  id := n
  session := {}
  epoch := 1
  sessionEpoch := 1
  health := .online
  capacity := { cpuWorkerSlots := 1, executors := [{ slots := 1, relativeSpeed := 1 }] }
  lastHeartbeatMs := 0
  registerMs := 0
  connected := true

/-- A task for any executor. -/
def plainTask : ComputeTask ℚ where
  id := ⟨0, 1⟩
  requiredExecutor := .any
  estimatedDurationSeconds := 1
  expectedTransferGb := 0
  expectedRecomputeCostSeconds := 0
  costEstimate := 0

def plainEngine (policy : SchedulerPolicy) : SchedulerPolicyEngine ℚ where
  policy := policy
  costModel := .default
  history := []

/-- Two nodes. -/
def plainPair : IdMap (NodeRecord ℚ) :=
  (∅ : IdMap (NodeRecord ℚ)).insert ⟨0, 2⟩ (plainNode ⟨0, 2⟩) |>.insert ⟨0, 1⟩ (plainNode ⟨0, 1⟩)

/-- Two nodes with one score: the smaller id is chosen. -/
theorem place_optimal_pair :
    ((plainEngine .costAware).place plainTask plainPair ∅ ∅).candidates.map CandidateScore.nodeId =
        eligibleNodes plainTask plainPair ∧
      ((plainEngine .costAware).place plainTask plainPair ∅ ∅).candidates.length = 2 ∧
      ((plainEngine .costAware).place plainTask plainPair ∅ ∅).chosenNode = some ⟨0, 1⟩ := by
  refine ⟨(place_optimal (plainEngine .costAware) plainTask plainPair ∅ ∅ fun n node hn => ?_).2.1,
    by decide +kernel, by decide +kernel⟩
  rw [plainPair, Std.ExtTreeMap.getElem?_insert, Std.ExtTreeMap.getElem?_insert] at hn
  split_ifs at hn with h₁ h₂
  · rw [← Option.some.inj hn, ← Std.LawfulEqOrd.eq_of_compare h₁]
    rfl
  · rw [← Option.some.inj hn, ← Std.LawfulEqOrd.eq_of_compare h₂]
    rfl
  · simp at hn

/-! ## `Any_` and `Cpu` -/

section Any

variable (e : SchedulerPolicyEngine ℚ) (task : ComputeTask ℚ) (node : NodeRecord ℚ) (resv : ReservationRegistry)
  (state : StateLocalityRegistry ℚ)

/-- The same task for the CPU executor. -/
def onCpu (task : ComputeTask ℚ) : ComputeTask ℚ := { task with requiredExecutor := .cpu }

/-- The duration the cost-aware policy expects on a node, from the history under one executor name. -/
def expectedDuration (backend : ExecutorType) : ℚ :=
  let duration :=
    match e.historyOf ⟨task.taskClass, backend, node.id⟩ with
    | some h => if h.runCount > 0 then h.meanDurationSeconds else task.estimatedDurationSeconds
    | none => task.estimatedDurationSeconds
  if 0 ≤ duration then duration else task.estimatedDurationSeconds

/-- The two names lead to the same load and, where it is looked up, to the same expected duration. The load counts
    up to the number of slots: reservations under the name `Any_` for the one, all on the node for the other. -/
structure NamesAgree : Prop where
  load : ∀ cap, findExecutorCap node .cpu = some cap →
    min (resv.usedSlots node.id .any).toNat cap.slots.toInt.toNat =
      min (resv.usedCpu node.id).toNat cap.slots.toInt.toNat
  duration : e.policy = .costAware →
    expectedDuration e task node .any * e.costModel.weights.execution =
      expectedDuration e task node .cpu * e.costModel.weights.execution

variable {task} (hany : task.requiredExecutor = .any)

include hany

theorem findExecutorCap_onCpu :
    findExecutorCap node (onCpu task).requiredExecutor = findExecutorCap node task.requiredExecutor := by
  rw [hany]
  rfl

theorem exclusionReasons_onCpu : exclusionReasons (onCpu task) node = exclusionReasons task node := by
  have hcap := findExecutorCap_onCpu node hany
  have hslots :
      requiredSlots (onCpu task) (onCpu task).requiredExecutor = requiredSlots task task.requiredExecutor := by
    rw [hany]
    rfl
  have hcompatible : capabilityCompatible (onCpu task) node = capabilityCompatible task node := by
    unfold capabilityCompatible
    rw [hcap, hany]
    rfl
  unfold exclusionReasons
  rw [hcap, hslots, hcompatible]
  rfl

end Any

/-! ### The two scores -/

theorem le_zero_eq (x : ℚ) : DoubleArith.le (0.0 : ℚ) x = decide (0 ≤ x) := by
  have hzero : (0.0 : ℚ) = 0 := by norm_num
  rw [hzero]
  rfl

/-- The score counts used slots up to the number there are. -/
theorem capped_eq (used : UInt32) {slots : Int32} (hslots : 0 < slots.toInt) :
    DoubleArith.min (1.0 : ℚ) ((used.toNat : ℚ) / (slots.toInt : ℚ)) =
      (min used.toNat slots.toInt.toNat : ℕ) / (slots.toInt : ℚ) := by
  have hpos : (0 : ℚ) < slots.toInt := by exact_mod_cast hslots
  have hcast : ((slots.toInt.toNat : ℕ) : ℚ) = slots.toInt := by exact_mod_cast Int.toNat_of_nonneg hslots.le
  have hone : (1.0 : ℚ) = 1 := by norm_num
  have hmin : DoubleArith.min (1.0 : ℚ) ((used.toNat : ℚ) / (slots.toInt : ℚ)) =
      if (used.toNat : ℚ) / (slots.toInt : ℚ) < 1 then (used.toNat : ℚ) / (slots.toInt : ℚ) else 1 := by
    rw [hone]
    exact if_congr decide_eq_true_iff rfl rfl
  rw [hmin]
  split_ifs with hlt
  · rw [div_lt_one hpos, ← hcast, Nat.cast_lt] at hlt
    rw [min_eq_left hlt.le]
  · rw [div_lt_one hpos, ← hcast, Nat.cast_lt] at hlt
    rw [min_eq_right (not_lt.mp hlt), hcast, div_self hpos.ne']

theorem pressureScore_eq {node : NodeRecord ℚ} {executor : ExecutorType} {cap : ExecutorCapability ℚ}
    (resv : ReservationRegistry) (hfind : findExecutorCap node executor = some cap) (hslots : 0 < cap.slots.toInt) :
    CostModel.pressureScore node executor resv =
      (min (if executor = .cpu then resv.usedCpu node.id else resv.usedSlots node.id executor).toNat
        cap.slots.toInt.toNat : ℕ) / (cap.slots.toInt : ℚ) := by
  have hpositive : ¬cap.slots ≤ 0 := by
    rw [Int32.le_iff_toInt_le]
    exact not_le.mpr hslots
  rw [CostModel.pressureScore, hfind]
  dsimp only
  rw [if_neg hpositive, capped_eq _ hslots]

/-- The cost of a node that has the executor, from the execution cost and the pressure score. -/
def breakdown (m : CostModel ℚ) (task : ComputeTask ℚ) (node : NodeRecord ℚ) (resv : ReservationRegistry)
    (state : StateLocalityRegistry ℚ) (execution score : ℚ) : CostBreakdown ℚ :=
  let queue := CostModel.queueCost task node resv * m.weights.queue
  let transfer := state.transferSecondsFor task node.id m.context.bandwidthBytesPerSec
    m.context.transferLatencySeconds * m.weights.transfer
  let recompute := state.recomputeSecondsFor task * m.weights.recompute
  let pressure := if DoubleArith.lt m.context.pressureThreshold score then
      (score - m.context.pressureThreshold) * m.context.pressureWeight * m.weights.pressure
    else 0.0
  let affinity := CostModel.affinityDelta task node * m.weights.affinity
  { execution, queue, transfer, recompute, pressure, affinity, capability := 0.0
    total := execution + queue + transfer + recompute + pressure + affinity + 0.0
    stateLocalityScore := CostModel.stateLocalityScore task node state
    resourcePressureScore := score }

theorem evaluate_eq (m : CostModel ℚ) {task : ComputeTask ℚ} {node : NodeRecord ℚ} {cap : ExecutorCapability ℚ}
    (resv : ReservationRegistry) (state : StateLocalityRegistry ℚ) (duration : ℚ)
    (hfind : findExecutorCap node task.requiredExecutor = some cap) :
    m.evaluate task node resv state duration =
      breakdown m task node resv state
        ((if 0 ≤ duration then duration else task.estimatedDurationSeconds) * m.weights.execution)
        (CostModel.pressureScore node task.requiredExecutor resv) := by
  have hduration : (if DoubleArith.le (0.0 : ℚ) duration then duration else task.estimatedDurationSeconds) =
      if 0 ≤ duration then duration else task.estimatedDurationSeconds := by
    rw [le_zero_eq]
    exact if_congr decide_eq_true_iff rfl rfl
  rw [CostModel.evaluate, hfind]
  dsimp only
  rw [hduration]
  rfl

section Any

variable (e : SchedulerPolicyEngine ℚ) {task : ComputeTask ℚ} {node : NodeRecord ℚ} (resv : ReservationRegistry)
  (state : StateLocalityRegistry ℚ) (hany : task.requiredExecutor = .any) {cap : ExecutorCapability ℚ}
  (hfind : findExecutorCap node .cpu = some cap) (hslots : 0 < cap.slots.toInt)

include hfind hslots in
theorem pressureScore_names_iff :
    CostModel.pressureScore node .any resv = CostModel.pressureScore node .cpu resv ↔
      min (resv.usedSlots node.id .any).toNat cap.slots.toInt.toNat =
        min (resv.usedCpu node.id).toNat cap.slots.toInt.toNat := by
  have hne : (cap.slots.toInt : ℚ) ≠ 0 := by exact_mod_cast hslots.ne'
  rw [pressureScore_eq resv hfind hslots, @pressureScore_eq node .any cap resv hfind hslots, div_left_inj' hne,
    Nat.cast_inj]
  rfl

omit hslots in
theorem scoreCandidate_baseline (hfind : findExecutorCap node task.requiredExecutor = some cap)
    (hpolicy : e.policy = .baseline) :
    e.scoreCandidate task node resv state =
      let b := breakdown e.costModel task node resv state
        (task.estimatedDurationSeconds * e.costModel.weights.execution)
        (CostModel.pressureScore node task.requiredExecutor resv)
      { nodeId := node.id
        executor := cap.type
        device := cap.name
        score := 0.0 + state.transferSecondsFor task node.id e.costModel.context.bandwidthBytesPerSec
          e.costModel.context.transferLatencySeconds + task.estimatedDurationSeconds
        executionCost := b.execution
        queueCost := b.queue
        transferCost := b.transfer
        recomputeCost := b.recompute
        pressureCost := 0.0
        affinityCost := 0.0
        capabilityCost := 0.0
        stateLocalityScore := CostModel.stateLocalityScore task node state
        resourcePressureScore := b.resourcePressureScore } := by
  have hnone : ¬(0 : ℚ) ≤ -1.0 := by norm_num
  unfold scoreCandidate
  rw [hpolicy, hfind]
  dsimp only
  rw [evaluate_eq _ _ _ _ hfind, if_neg hnone]
  rfl

omit hslots in
theorem scoreCandidate_costAware (hfind : findExecutorCap node task.requiredExecutor = some cap)
    (hpolicy : e.policy = .costAware) :
    e.scoreCandidate task node resv state =
      let b := breakdown e.costModel task node resv state
        (expectedDuration e task node task.requiredExecutor * e.costModel.weights.execution)
        (CostModel.pressureScore node task.requiredExecutor resv)
      { nodeId := node.id
        executor := cap.type
        device := cap.name
        score := b.total
        executionCost := b.execution
        queueCost := b.queue
        transferCost := b.transfer
        recomputeCost := b.recompute
        pressureCost := b.pressure
        affinityCost := b.affinity
        capabilityCost := b.capability
        stateLocalityScore := b.stateLocalityScore
        resourcePressureScore := b.resourcePressureScore } := by
  unfold scoreCandidate
  rw [hpolicy, hfind]
  dsimp only
  rw [evaluate_eq _ _ _ _ hfind, expectedDuration]
  cases e.historyOf ⟨task.taskClass, task.requiredExecutor, node.id⟩ <;> rfl

include hany hfind hslots in
/-- A node is scored alike under both names exactly when they agree there. -/
theorem scoreCandidate_names_iff :
    e.scoreCandidate task node resv state = e.scoreCandidate (onCpu task) node resv state ↔
      NamesAgree e task node resv := by
  have hfind' : findExecutorCap node task.requiredExecutor = some cap := by
    rw [hany]
    exact hfind
  have hcpu : findExecutorCap node (onCpu task).requiredExecutor = some cap := hfind
  have hagree : NamesAgree e task node resv ↔
      CostModel.pressureScore node .any resv = CostModel.pressureScore node .cpu resv ∧
        (e.policy = .costAware → expectedDuration e task node .any * e.costModel.weights.execution =
          expectedDuration e task node .cpu * e.costModel.weights.execution) := by
    rw [pressureScore_names_iff resv hfind hslots]
    refine ⟨fun h => ⟨h.load cap hfind, h.duration⟩, fun h => ⟨fun cap' hcap' => ?_, h.2⟩⟩
    obtain rfl := Option.some.inj (hfind.symm.trans hcap')
    exact h.1
  rw [hagree]
  cases hpolicy : e.policy with
  | baseline =>
      rw [scoreCandidate_baseline e resv state hfind' hpolicy, scoreCandidate_baseline e resv state hcpu hpolicy, hany]
      refine ⟨fun h => ⟨congrArg CandidateScore.resourcePressureScore h, nofun⟩, fun h => ?_⟩
      rw [h.1]
      rfl
  | costAware =>
      rw [scoreCandidate_costAware e resv state hfind' hpolicy, scoreCandidate_costAware e resv state hcpu hpolicy,
        hany]
      refine ⟨fun h => ⟨congrArg CandidateScore.resourcePressureScore h,
        fun _ => congrArg CandidateScore.executionCost h⟩, fun h => ?_⟩
      rw [h.1, h.2 rfl]
      rfl

end Any

theorem slots_pos_of_eligible {D : Type} {task : ComputeTask D} {node : NodeRecord D} {cap : ExecutorCapability D}
    (h : exclusionReasons task node = []) (hfind : findExecutorCap node task.requiredExecutor = some cap) :
    0 < cap.slots.toInt := by
  simp only [exclusionReasons, List.append_eq_nil_iff, ite_eq_right_iff, List.cons_ne_nil, imp_false] at h
  obtain ⟨⟨⟨⟨⟨-, hcapable⟩, -⟩, -⟩, -⟩, -⟩ := h
  rw [Bool.not_eq_true', Bool.not_eq_false, capabilityCompatible, hfind] at hcapable
  dsimp only at hcapable
  split_ifs at hcapable with hhealthy hslots <;>
    exact not_le.mp fun hle => hslots (Int32.le_iff_toInt_le.mpr hle)

/-- **What `Any_` means.** A task for any executor is placed like the same task for the CPU executor exactly when
    the two names agree on every eligible node. -/
theorem place_any_iff (e : SchedulerPolicyEngine ℚ) {task : ComputeTask ℚ} (hany : task.requiredExecutor = .any)
    (nodes : IdMap (NodeRecord ℚ)) (resv : ReservationRegistry) (state : StateLocalityRegistry ℚ) :
    e.place task nodes resv state = e.place (onCpu task) nodes resv state ↔
      ∀ node ∈ nodes.values, exclusionReasons task node = [] → NamesAgree e task node resv := by
  have hreasons : ∀ node : NodeRecord ℚ, exclusionReasons (onCpu task) node = exclusionReasons task node :=
    fun node => exclusionReasons_onCpu node hany
  have hscore : ∀ node ∈ nodes.values, exclusionReasons task node = [] →
      (e.scoreCandidate task node resv state = e.scoreCandidate (onCpu task) node resv state ↔
        NamesAgree e task node resv) := by
    intro node _ hnode
    obtain ⟨cap, hoffers⟩ := (eligible_of_exclusionReasons hnode).offers
    have hfind : findExecutorCap node .cpu = some cap := by
      rw [← hoffers.find, hany]
      rfl
    exact scoreCandidate_names_iff e resv state hany hfind (slots_pos_of_eligible hnode hoffers.find)
  have hmem : ∀ node, node ∈ nodes.values.filter (fun node => (exclusionReasons task node).isEmpty) ↔
      node ∈ nodes.values ∧ exclusionReasons task node = [] := by
    intro node
    rw [List.mem_filter, List.isEmpty_iff]
  constructor
  · intro h node hnode hempty
    have hcandidates := congrArg PlacementDecision.candidates h
    rw [place_candidates, place_candidates] at hcandidates
    simp only [hreasons] at hcandidates
    exact (hscore node hnode hempty).mp (List.map_inj_left.mp hcandidates node ((hmem node).mpr ⟨hnode, hempty⟩))
  · intro h
    have hcandidates : (nodes.values.filter fun node => (exclusionReasons task node).isEmpty).map
        (fun node => e.scoreCandidate task node resv state) =
        (nodes.values.filter fun node => (exclusionReasons task node).isEmpty).map
          fun node => e.scoreCandidate (onCpu task) node resv state := by
      refine List.map_congr_left fun node hnode => ?_
      obtain ⟨hin, hempty⟩ := (hmem node).mp hnode
      exact (hscore node hin hempty).mpr (h node hin hempty)
    unfold place
    simp only [hreasons, hcandidates]

/-- A CPU reservation on another node, which is draining, and one CPU run on the node, of the estimated duration. -/
theorem place_any_elsewhere :
    let e := (plainEngine .costAware).recordHistory ⟨plainTask.taskClass, .cpu, ⟨0, 1⟩⟩ 1 true 0
    let other := { plainNode ⟨0, 2⟩ with health := .draining }
    let nodes := (∅ : IdMap (NodeRecord ℚ)).insert ⟨0, 1⟩ (plainNode ⟨0, 1⟩) |>.insert ⟨0, 2⟩ other
    let resv : ReservationRegistry :=
      Std.ExtTreeMap.empty.insert ⟨0, 9⟩ (ReservationRegistry.grant other 1 ⟨0, 5⟩ .cpu 1 0 ⟨0, 9⟩ 0)
    e.place plainTask nodes resv ∅ = e.place (onCpu plainTask) nodes resv ∅ := by
  intro e other nodes resv
  refine (place_any_iff e rfl nodes resv ∅).mpr fun node hnode hempty => ?_
  have hvalues : nodes.values = [plainNode ⟨0, 1⟩, other] := rfl
  rw [hvalues, List.mem_pair] at hnode
  rcases hnode with rfl | rfl
  · refine ⟨fun cap _ => ?_, fun _ => by decide +kernel⟩
    have hany : resv.usedSlots (plainNode ⟨0, 1⟩).id .any = 0 := by decide +kernel
    have hcpu : resv.usedCpu (plainNode ⟨0, 1⟩).id = 0 := by decide +kernel
    rw [hany, hcpu]
  · have hdraining : (exclusionReasons plainTask other).length = 1 := by decide +kernel
    rw [hempty] at hdraining
    cases hdraining

/-- One CPU reservation on the node: it is pressure for the one task and not for the other. -/
theorem place_any_differs :
    (plainEngine .costAware).place plainTask ((∅ : IdMap (NodeRecord ℚ)).insert ⟨0, 1⟩ (plainNode ⟨0, 1⟩))
        ((∅ : ReservationRegistry).insert ⟨0, 9⟩
          (ReservationRegistry.grant (plainNode ⟨0, 1⟩) 1 ⟨0, 5⟩ .cpu 1 0 ⟨0, 9⟩ 0)) ∅ ≠
      (plainEngine .costAware).place (onCpu plainTask)
        ((∅ : IdMap (NodeRecord ℚ)).insert ⟨0, 1⟩ (plainNode ⟨0, 1⟩))
        ((∅ : ReservationRegistry).insert ⟨0, 9⟩
          (ReservationRegistry.grant (plainNode ⟨0, 1⟩) 1 ⟨0, 5⟩ .cpu 1 0 ⟨0, 9⟩ 0)) ∅ := by
  intro h
  have hcost := congrArg PlacementDecision.totalCost h
  revert hcost
  decide +kernel

end SchedulerPolicyEngine

end ComputeFabric
