import ComputeFabric.Safety.Acknowledged
import ComputeFabric.Safety.Recovery

/-!
# `Safety.Locality` — locality facts across a restart

`handle_task_submit` copies the state dependencies of a task into the locality registry, where they are shared by
state id and the last writer wins. `start` rebuilds the tasks and leaves the registry empty. What a task is placed
on after a restart is therefore what its own record says.

- **The price of a transfer.** In exact arithmetic `transfer_seconds_for` is linear in the inverse of the bandwidth
  and in the latency (`transferSecondsFor_eq`), so two registries agree for every link exactly when the three
  coefficients do (`transferSecondsFor_eq_iff`).
- **The score.** `state_locality_score` is a quotient of two sums of bytes (`stateLocalityScore_eq`).

`restart_keeps_locality_iff` says which registries an empty one can stand in for.
-/

namespace ComputeFabric

/-- Sums of terms that are pairwise ordered are equal only term by term. -/
theorem sum_map_eq_iff_of_le {α M : Type} [AddCommMonoid M] [PartialOrder M] [IsOrderedCancelAddMonoid M]
    {f g : α → M} {l : List α} (h : ∀ x ∈ l, f x ≤ g x) :
    (l.map f).sum = (l.map g).sum ↔ ∀ x ∈ l, f x = g x := by
  induction l with
  | nil => simp
  | cons x l ih =>
      have hle : (l.map f).sum ≤ (l.map g).sum :=
        List.sum_le_sum fun y hy => h y (List.mem_cons_of_mem _ hy)
      rw [List.map_cons, List.map_cons, List.sum_cons, List.sum_cons,
        add_eq_add_iff_eq_and_eq (h x List.mem_cons_self) hle,
        ih fun y hy => h y (List.mem_cons_of_mem _ hy), List.forall_mem_cons]

namespace StateLocalityRegistry

variable (reg : StateLocalityRegistry ℚ)

/-! ## The price of a transfer -/

/-- The size a dependency is charged with: the registered one, if there is one. -/
def sizeOf (dep : StateDependency ℚ) : ℕ :=
  (((reg[dep.stateId]?).map StateLocation.sizeBytes).getD dep.sizeBytes).toNat

/-- The registry has an estimate for the state. -/
def estimates (dep : StateDependency ℚ) : Prop := ∃ loc, reg[dep.stateId]? = some loc ∧ 0 ≤ loc.transferEstimateSeconds

/-- The seconds of a dependency that do not depend on the link. -/
def fixedSeconds (n : NodeId) (dep : StateDependency ℚ) : ℚ :=
  if reg.residentOn dep.stateId n then 0
  else if 0 ≤ dep.transferEstimateSeconds then dep.transferEstimateSeconds
  else (((reg[dep.stateId]?).map StateLocation.transferEstimateSeconds).filter (0 ≤ ·)).getD 0

/-- The link is paid for: one latency, and the bytes of the state. -/
def overLink (n : NodeId) (dep : StateDependency ℚ) : Bool :=
  !reg.residentOn dep.stateId n && decide (dep.transferEstimateSeconds < 0) &&
    !((reg[dep.stateId]?).any fun loc => 0 ≤ loc.transferEstimateSeconds)

/-- The bytes that go over the link. -/
def linkBytes (n : NodeId) (dep : StateDependency ℚ) : ℕ := if reg.overLink n dep then reg.sizeOf dep else 0

/-- The latencies that are paid. -/
def linkCount (n : NodeId) (dep : StateDependency ℚ) : ℕ := if reg.overLink n dep then 1 else 0

theorem zero_le_iff {x : ℚ} : DoubleArith.le 0.0 x = true ↔ 0 ≤ x := by
  show decide ((0.0 : ℚ) ≤ x) = true ↔ _
  norm_num

theorem zero_lt_iff {x : ℚ} : DoubleArith.lt 0.0 x = true ↔ 0 < x := by
  show decide ((0.0 : ℚ) < x) = true ↔ _
  norm_num

/-- One round of the loop. -/
theorem addTransfer_eq (n : NodeId) (bandwidth latency total : ℚ) (dep : StateDependency ℚ) :
    reg.addTransfer n bandwidth latency total dep = total + (reg.fixedSeconds n dep +
      (if 0 < bandwidth then (reg.linkBytes n dep : ℚ) / bandwidth else 0) + reg.linkCount n dep * latency) := by
  unfold addTransfer fixedSeconds linkBytes linkCount overLink sizeOf
  dsimp only
  by_cases hresident : reg.residentOn dep.stateId n = true
  · simp [hresident]
  by_cases hdep : 0 ≤ dep.transferEstimateSeconds
  · simp [hresident, hdep, zero_le_iff, not_lt.mpr hdep]
  cases hloc : reg[dep.stateId]? with
  | none =>
      by_cases hband : 0 < bandwidth
      · simp [hresident, hdep, zero_le_iff, zero_lt_iff, not_le.mp hdep, hband, add_assoc]
      · simp [hresident, hdep, zero_le_iff, zero_lt_iff, not_le.mp hdep, hband]
  | some loc =>
      by_cases hknown : 0 ≤ loc.transferEstimateSeconds
      · simp [hresident, hdep, zero_le_iff, not_le.mp hdep, hknown, Option.filter]
      · by_cases hband : 0 < bandwidth
        · simp [hresident, hdep, zero_le_iff, zero_lt_iff, not_le.mp hdep, hknown, hband, Option.filter, add_assoc]
        · simp [hresident, hdep, zero_le_iff, zero_lt_iff, not_le.mp hdep, hknown, hband, Option.filter]

/-- `transfer_seconds_for` in exact arithmetic. -/
theorem transferSecondsFor_eq (task : ComputeTask ℚ) (n : NodeId) (bandwidth latency : ℚ) :
    reg.transferSecondsFor task n bandwidth latency = (task.stateDependencies.map (reg.fixedSeconds n)).sum +
      (if 0 < bandwidth then ((task.stateDependencies.map (reg.linkBytes n)).sum : ℚ) / bandwidth else 0) +
      (task.stateDependencies.map (reg.linkCount n)).sum * latency := by
  have hloop : ∀ (deps : List (StateDependency ℚ)) (total : ℚ),
      deps.foldl (reg.addTransfer n bandwidth latency) total = total + ((deps.map (reg.fixedSeconds n)).sum +
        (if 0 < bandwidth then ((deps.map (reg.linkBytes n)).sum : ℚ) / bandwidth else 0) +
        (deps.map (reg.linkCount n)).sum * latency) := by
    intro deps
    induction deps with
    | nil => simp
    | cons dep deps ih =>
        intro total
        rw [List.foldl_cons, ih, addTransfer_eq]
        simp only [List.map_cons, List.sum_cons]
        split_ifs
        · push_cast
          ring
        · push_cast
          ring
  unfold transferSecondsFor
  rw [hloop]
  norm_num

/-- Two registries price every transfer to the node alike when they agree on the three coefficients. -/
theorem transferSecondsFor_eq_iff (reg' : StateLocalityRegistry ℚ) (task : ComputeTask ℚ) (n : NodeId) :
    (∀ bandwidth latency, reg'.transferSecondsFor task n bandwidth latency =
        reg.transferSecondsFor task n bandwidth latency) ↔
      (task.stateDependencies.map (reg.fixedSeconds n)).sum = (task.stateDependencies.map (reg'.fixedSeconds n)).sum ∧
        (task.stateDependencies.map (reg.linkBytes n)).sum = (task.stateDependencies.map (reg'.linkBytes n)).sum ∧
        (task.stateDependencies.map (reg.linkCount n)).sum = (task.stateDependencies.map (reg'.linkCount n)).sum := by
  simp only [transferSecondsFor_eq]
  constructor
  · intro h
    have hfixed := h 0 0
    have hcount := h 0 1
    have hbytes := h 1 0
    simp only [lt_irrefl, if_false, mul_zero, add_zero] at hfixed
    simp only [lt_irrefl, if_false, mul_one, add_zero, hfixed, add_right_inj, Nat.cast_inj] at hcount
    simp only [zero_lt_one, if_true, mul_zero, add_zero, div_one, hfixed, add_right_inj, Nat.cast_inj] at hbytes
    exact ⟨hfixed.symm, hbytes.symm, hcount.symm⟩
  · rintro ⟨hfixed, hbytes, hcount⟩ bandwidth latency
    rw [hfixed, hbytes, hcount]

/-! ## The score -/

/-- The bytes that are on the node. -/
def residentBytes (n : NodeId) (dep : StateDependency ℚ) : ℕ :=
  if reg.residentOn dep.stateId n then reg.sizeOf dep else 0

/-- `state_locality_score` in exact arithmetic. -/
theorem stateLocalityScore_eq (task : ComputeTask ℚ) (node : NodeRecord ℚ) :
    CostModel.stateLocalityScore task node reg =
      if (task.stateDependencies.map reg.sizeOf).sum = 0 then 1
      else ((task.stateDependencies.map (reg.residentBytes node.id)).sum : ℚ) /
        (task.stateDependencies.map reg.sizeOf).sum := by
  have hloop : ∀ (deps : List (StateDependency ℚ)) (acc : ℚ × ℚ),
      deps.foldl (fun (acc : ℚ × ℚ) dep =>
        let bytes := ((reg[dep.stateId]?).map StateLocation.sizeBytes).getD dep.sizeBytes
        let total := acc.2 + (bytes.toNat : ℚ)
        if reg.residentOn dep.stateId node.id then (acc.1 + (bytes.toNat : ℚ), total) else (acc.1, total)) acc =
      (acc.1 + ((deps.map (reg.residentBytes node.id)).sum : ℕ), acc.2 + ((deps.map reg.sizeOf).sum : ℕ)) := by
    intro deps
    induction deps with
    | nil => simp
    | cons dep deps ih =>
        intro acc
        rw [List.foldl_cons, ih]
        by_cases hresident : reg.residentOn dep.stateId node.id = true
        · simp [hresident, residentBytes, sizeOf, add_assoc]
        · simp [hresident, residentBytes, sizeOf, add_assoc]
  unfold CostModel.stateLocalityScore
  dsimp only
  rw [hloop]
  cases hdeps : task.stateDependencies with
  | nil => norm_num
  | cons dep deps =>
      have hle : ∀ k : ℕ, DoubleArith.le ((0.0 : ℚ) + (k : ℚ)) 0.0 = true ↔ k = 0 := by
        intro k
        show decide (((0.0 : ℚ) + (k : ℚ)) ≤ 0.0) = true ↔ _
        norm_num
      simp only [List.isEmpty_cons, Bool.false_eq_true, if_false, hle]
      norm_num

/-! ## An empty registry in place of a full one -/

/-- The bytes of the dependencies that come without an estimate. -/
def unestimatedBytes (task : ComputeTask ℚ) : ℕ :=
  (task.stateDependencies.map fun dep => if dep.transferEstimateSeconds < 0 then reg.sizeOf dep else 0).sum

/-- The task's own record says what the registry says of it, as far as a placement looks at it.

    - `resident`, `estimate`: the registry neither makes a transfer free that the task prices, nor prices one that
      the task leaves to the link.
    - `bytes`: what is left to the link has the same size.
    - `weightless`, `weighted`: no node is credited with bytes. -/
structure KeepsFacts (task : ComputeTask ℚ) : Prop where
  resident : ∀ dep ∈ task.stateDependencies, ∀ n, reg.residentOn dep.stateId n = true →
    dep.transferEstimateSeconds = 0
  estimate : ∀ dep ∈ task.stateDependencies, dep.transferEstimateSeconds < 0 → ¬reg.estimates dep
  bytes : reg.unestimatedBytes task = (∅ : StateLocalityRegistry ℚ).unestimatedBytes task
  weightless : (∀ dep ∈ task.stateDependencies, dep.sizeBytes = 0) →
    ∀ dep ∈ task.stateDependencies, ∀ n, reg.residentOn dep.stateId n = true ∨ reg.sizeOf dep = 0
  weighted : (∃ dep ∈ task.stateDependencies, dep.sizeBytes ≠ 0) →
    (∃ dep ∈ task.stateDependencies, reg.sizeOf dep ≠ 0) ∧
      ∀ dep ∈ task.stateDependencies, ∀ n, reg.residentOn dep.stateId n = true → reg.sizeOf dep = 0

@[simp] theorem residentOn_empty (stateId : Text) (n : NodeId) :
    (∅ : StateLocalityRegistry ℚ).residentOn stateId n = false := rfl

@[simp] theorem sizeOf_empty (dep : StateDependency ℚ) :
    (∅ : StateLocalityRegistry ℚ).sizeOf dep = dep.sizeBytes.toNat := rfl

@[simp] theorem overLink_empty (n : NodeId) (dep : StateDependency ℚ) :
    (∅ : StateLocalityRegistry ℚ).overLink n dep = decide (dep.transferEstimateSeconds < 0) := by
  simp [overLink]

@[simp] theorem fixedSeconds_empty (n : NodeId) (dep : StateDependency ℚ) :
    (∅ : StateLocalityRegistry ℚ).fixedSeconds n dep =
      if 0 ≤ dep.transferEstimateSeconds then dep.transferEstimateSeconds else 0 := by
  simp [fixedSeconds]

theorem overLink_eq_true {n : NodeId} {dep : StateDependency ℚ} :
    reg.overLink n dep = true ↔ reg.residentOn dep.stateId n = false ∧ dep.transferEstimateSeconds < 0 ∧
      ¬reg.estimates dep := by
  simp only [overLink, Bool.and_eq_true, Bool.not_eq_true', decide_eq_true_eq, and_assoc, estimates]
  refine and_congr_right fun _ => and_congr_right fun _ => ?_
  cases reg[dep.stateId]? <;> simp

theorem fixedSeconds_of_overLink {n : NodeId} {dep : StateDependency ℚ} (h : reg.overLink n dep = true) :
    reg.fixedSeconds n dep = 0 := by
  obtain ⟨hresident, hneg, hestimates⟩ := reg.overLink_eq_true.mp h
  unfold fixedSeconds
  rw [hresident, if_neg Bool.false_ne_true, if_neg (not_le.mpr hneg)]
  cases hloc : reg[dep.stateId]? with
  | none => rfl
  | some loc =>
      have hunknown : ¬0 ≤ loc.transferEstimateSeconds := fun hknown => hestimates ⟨loc, hloc, hknown⟩
      simp [Option.filter, hunknown]

theorem fixedSeconds_of_nonneg {n : NodeId} {dep : StateDependency ℚ} (h : 0 ≤ dep.transferEstimateSeconds) :
    reg.fixedSeconds n dep = if reg.residentOn dep.stateId n then 0 else dep.transferEstimateSeconds := by
  rw [fixedSeconds, if_pos h]

/-- The link is paid for as often as without a registry: no state without an estimate is resident or estimated. -/
theorem linkCount_empty_iff (task : ComputeTask ℚ) (n : NodeId) :
    (task.stateDependencies.map (reg.linkCount n)).sum =
        (task.stateDependencies.map ((∅ : StateLocalityRegistry ℚ).linkCount n)).sum ↔
      ∀ dep ∈ task.stateDependencies, dep.transferEstimateSeconds < 0 → reg.overLink n dep = true := by
  have hle : ∀ dep ∈ task.stateDependencies, reg.linkCount n dep ≤ (∅ : StateLocalityRegistry ℚ).linkCount n dep := by
    intro dep _
    unfold linkCount
    rw [overLink_empty]
    split_ifs with hover hdep hdep
    · exact le_rfl
    · exact absurd (decide_eq_true (reg.overLink_eq_true.mp hover).2.1) hdep
    · exact Nat.zero_le 1
    · exact le_rfl
  rw [sum_map_eq_iff_of_le hle]
  refine forall₂_congr fun dep _ => ?_
  unfold linkCount
  rw [overLink_empty]
  by_cases hover : reg.overLink n dep = true
  · simp [hover, (reg.overLink_eq_true.mp hover).2.1]
  · by_cases hdep : dep.transferEstimateSeconds < 0
    · simp [hover, hdep]
    · simp [hover, hdep]

/-- **Transfers to one node** cost the same without the registry. -/
theorem transferSecondsFor_empty_iff (task : ComputeTask ℚ) (n : NodeId) :
    (∀ bandwidth latency, (∅ : StateLocalityRegistry ℚ).transferSecondsFor task n bandwidth latency =
        reg.transferSecondsFor task n bandwidth latency) ↔
      (∀ dep ∈ task.stateDependencies, reg.residentOn dep.stateId n = true → dep.transferEstimateSeconds = 0) ∧
        (∀ dep ∈ task.stateDependencies, dep.transferEstimateSeconds < 0 → ¬reg.estimates dep) ∧
        reg.unestimatedBytes task = (∅ : StateLocalityRegistry ℚ).unestimatedBytes task := by
  rw [transferSecondsFor_eq_iff, linkCount_empty_iff]
  -- once the link is paid for as often, the other two coefficients can be compared term by term
  have hfixed : (∀ dep ∈ task.stateDependencies, dep.transferEstimateSeconds < 0 → reg.overLink n dep = true) →
      ((task.stateDependencies.map (reg.fixedSeconds n)).sum =
          (task.stateDependencies.map ((∅ : StateLocalityRegistry ℚ).fixedSeconds n)).sum ↔
        ∀ dep ∈ task.stateDependencies, reg.residentOn dep.stateId n = true → dep.transferEstimateSeconds = 0) := by
    intro hover
    have hterm : ∀ dep ∈ task.stateDependencies,
        reg.fixedSeconds n dep ≤ (∅ : StateLocalityRegistry ℚ).fixedSeconds n dep ∧
          (reg.fixedSeconds n dep = (∅ : StateLocalityRegistry ℚ).fixedSeconds n dep ↔
            (reg.residentOn dep.stateId n = true → dep.transferEstimateSeconds = 0)) := by
      intro dep hdep
      rw [fixedSeconds_empty]
      by_cases hpos : 0 ≤ dep.transferEstimateSeconds
      · rw [if_pos hpos, reg.fixedSeconds_of_nonneg hpos]
        by_cases hresident : reg.residentOn dep.stateId n = true
        · simp [hresident, hpos, eq_comm]
        · simp [hresident]
      · have hlink := hover dep hdep (not_le.mp hpos)
        rw [if_neg hpos, reg.fixedSeconds_of_overLink hlink]
        simp [(reg.overLink_eq_true.mp hlink).1]
    rw [sum_map_eq_iff_of_le fun dep hdep => (hterm dep hdep).1]
    exact forall₂_congr fun dep hdep => (hterm dep hdep).2
  have hbytes : (∀ dep ∈ task.stateDependencies, dep.transferEstimateSeconds < 0 → reg.overLink n dep = true) →
      ((task.stateDependencies.map (reg.linkBytes n)).sum = reg.unestimatedBytes task ∧
        (task.stateDependencies.map ((∅ : StateLocalityRegistry ℚ).linkBytes n)).sum =
          (∅ : StateLocalityRegistry ℚ).unestimatedBytes task) := by
    intro hover
    refine ⟨congrArg List.sum (List.map_congr_left fun dep hdep => ?_),
      congrArg List.sum (List.map_congr_left fun dep _ => ?_)⟩
    · unfold linkBytes
      by_cases hneg : dep.transferEstimateSeconds < 0
      · rw [if_pos (hover dep hdep hneg), if_pos hneg]
      · rw [if_neg fun hlink => hneg (reg.overLink_eq_true.mp hlink).2.1, if_neg hneg]
    · unfold linkBytes
      rw [overLink_empty]
      simp only [decide_eq_true_eq]
  constructor
  · rintro ⟨hsum, hlink, hover⟩
    refine ⟨(hfixed hover).mp hsum, fun dep hdep hneg => (reg.overLink_eq_true.mp (hover dep hdep hneg)).2.2, ?_⟩
    rw [← (hbytes hover).1, ← (hbytes hover).2]
    exact hlink
  · rintro ⟨hresident, hestimate, hlink⟩
    have hover : ∀ dep ∈ task.stateDependencies, dep.transferEstimateSeconds < 0 → reg.overLink n dep = true := by
      intro dep hdep hneg
      refine reg.overLink_eq_true.mpr ⟨?_, hneg, hestimate dep hdep hneg⟩
      by_contra hon
      rw [hresident dep hdep (Bool.not_eq_false _ ▸ hon)] at hneg
      exact lt_irrefl _ hneg
    refine ⟨(hfixed hover).mpr hresident, ?_, hover⟩
    rw [(hbytes hover).1, (hbytes hover).2]
    exact hlink

/-- **The score of one node** is the same without the registry. -/
theorem stateLocalityScore_empty_iff (task : ComputeTask ℚ) (node : NodeRecord ℚ) :
    CostModel.stateLocalityScore task node ∅ = CostModel.stateLocalityScore task node reg ↔
      ((∀ dep ∈ task.stateDependencies, dep.sizeBytes = 0) →
          ∀ dep ∈ task.stateDependencies, reg.residentOn dep.stateId node.id = true ∨ reg.sizeOf dep = 0) ∧
        ((∃ dep ∈ task.stateDependencies, dep.sizeBytes ≠ 0) →
          (∃ dep ∈ task.stateDependencies, reg.sizeOf dep ≠ 0) ∧
            ∀ dep ∈ task.stateDependencies, reg.residentOn dep.stateId node.id = true → reg.sizeOf dep = 0) := by
  rw [stateLocalityScore_eq, stateLocalityScore_eq]
  have hown : (task.stateDependencies.map (∅ : StateLocalityRegistry ℚ).sizeOf).sum = 0 ↔
      ∀ dep ∈ task.stateDependencies, dep.sizeBytes = 0 := by
    rw [List.sum_eq_zero_iff_forall_eq_nat, List.forall_mem_map]
    refine forall₂_congr fun dep _ => ?_
    rw [sizeOf_empty, ← UInt64.toNat_inj]
    rfl
  have hnone : (task.stateDependencies.map ((∅ : StateLocalityRegistry ℚ).residentBytes node.id)).sum = 0 := by
    rw [List.sum_eq_zero_iff_forall_eq_nat, List.forall_mem_map]
    exact fun _ _ => rfl
  have htotal : (task.stateDependencies.map reg.sizeOf).sum = 0 ↔
      ∀ dep ∈ task.stateDependencies, reg.sizeOf dep = 0 := by
    rw [List.sum_eq_zero_iff_forall_eq_nat, List.forall_mem_map]
  have hresident : (task.stateDependencies.map (reg.residentBytes node.id)).sum = 0 ↔
      ∀ dep ∈ task.stateDependencies, reg.residentOn dep.stateId node.id = true → reg.sizeOf dep = 0 := by
    rw [List.sum_eq_zero_iff_forall_eq_nat, List.forall_mem_map]
    refine forall₂_congr fun dep _ => ?_
    unfold residentBytes
    split_ifs with hon <;> simp [hon]
  have hall : (task.stateDependencies.map (reg.residentBytes node.id)).sum =
        (task.stateDependencies.map reg.sizeOf).sum ↔
      ∀ dep ∈ task.stateDependencies, reg.residentOn dep.stateId node.id = true ∨ reg.sizeOf dep = 0 := by
    rw [sum_map_eq_iff_of_le]
    · refine forall₂_congr fun dep _ => ?_
      unfold residentBytes
      split_ifs with hon <;> simp [hon, eq_comm]
    · intro dep _
      unfold residentBytes
      split_ifs
      · exact le_rfl
      · exact Nat.zero_le _
  rw [hnone, Nat.cast_zero, zero_div]
  generalize (task.stateDependencies.map reg.sizeOf).sum = total at htotal hall ⊢
  generalize (task.stateDependencies.map (reg.residentBytes node.id)).sum = resident at hresident hall ⊢
  by_cases hzero : (task.stateDependencies.map (∅ : StateLocalityRegistry ℚ).sizeOf).sum = 0
  · have hsizes := hown.mp hzero
    have hscore : (1 : ℚ) = (if total = 0 then 1 else (resident : ℚ) / total) ↔ resident = total := by
      split_ifs with hempty
      · refine iff_of_true rfl (hall.mpr fun dep hdep => .inr (htotal.mp hempty dep hdep))
      · rw [eq_div_iff (Nat.cast_ne_zero.mpr hempty), one_mul, Nat.cast_inj, eq_comm]
    rw [if_pos hzero, hscore, hall]
    constructor
    · intro h
      exact ⟨fun _ => h, fun ⟨dep, hdep, hne⟩ => absurd (hsizes dep hdep) hne⟩
    · intro h
      exact h.1 hsizes
  · have hsome : ∃ dep ∈ task.stateDependencies, dep.sizeBytes ≠ 0 := by
      by_contra hnot
      push Not at hnot
      exact hzero (hown.mpr hnot)
    have hscore : (0 : ℚ) = (if total = 0 then 1 else (resident : ℚ) / total) ↔ total ≠ 0 ∧ resident = 0 := by
      split_ifs with hempty
      · simp [hempty]
      · rw [eq_comm, div_eq_zero_iff, Nat.cast_eq_zero, Nat.cast_eq_zero]
        simp [hempty]
    have htotal' : total ≠ 0 ↔ ∃ dep ∈ task.stateDependencies, reg.sizeOf dep ≠ 0 := by
      rw [Ne, htotal]
      push Not
      rfl
    rw [if_neg hzero, hscore, htotal', hresident]
    constructor
    · intro h
      exact ⟨fun hall => absurd hsome (by push Not; exact hall), fun _ => h⟩
    · intro h
      exact h.2 hsome

/-- **An empty registry can stand in** for every node and every link. -/
theorem keepsFacts_iff (task : ComputeTask ℚ) :
    (∀ (node : NodeRecord ℚ) (bandwidth latency : ℚ),
        (∅ : StateLocalityRegistry ℚ).transferSecondsFor task node.id bandwidth latency =
            reg.transferSecondsFor task node.id bandwidth latency ∧
          CostModel.stateLocalityScore task node ∅ = CostModel.stateLocalityScore task node reg) ↔
      reg.KeepsFacts task := by
  have hnode : ∀ n : NodeId, ∃ node : NodeRecord ℚ, node.id = n := fun n =>
    ⟨⟨n, {}, 0, 0, .online, {}, 0, 0, true⟩, rfl⟩
  constructor
  · intro h
    have htransfer := fun node : NodeRecord ℚ =>
      (reg.transferSecondsFor_empty_iff task node.id).mp fun bandwidth latency => (h node bandwidth latency).1
    have hscore := fun node : NodeRecord ℚ => (reg.stateLocalityScore_empty_iff task node).mp (h node 0 0).2
    obtain ⟨node₀, -⟩ := hnode {}
    refine ⟨?_, (htransfer node₀).2.1, (htransfer node₀).2.2, ?_, ?_⟩
    · intro dep hdep n hon
      obtain ⟨node, rfl⟩ := hnode n
      exact (htransfer node).1 dep hdep hon
    · intro hzero dep hdep n
      obtain ⟨node, rfl⟩ := hnode n
      exact (hscore node).1 hzero dep hdep
    · intro hsome
      refine ⟨((hscore node₀).2 hsome).1, ?_⟩
      intro dep hdep n hon
      obtain ⟨node, rfl⟩ := hnode n
      exact ((hscore node).2 hsome).2 dep hdep hon
  · intro h node bandwidth latency
    refine ⟨(reg.transferSecondsFor_empty_iff task node.id).mpr
      ⟨fun dep hdep => h.resident dep hdep node.id, h.estimate, h.bytes⟩ bandwidth latency, ?_⟩
    exact (reg.stateLocalityScore_empty_iff task node).mpr
      ⟨fun hzero dep hdep => h.weightless hzero dep hdep node.id,
        fun hsome => ⟨(h.weighted hsome).1, fun dep hdep => (h.weighted hsome).2 dep hdep node.id⟩⟩

/-- It is enough that each registered entry is resident nowhere, has the size of the task's own record, and adds no
    estimate. -/
theorem KeepsFacts.of_same {reg : StateLocalityRegistry ℚ} {task : ComputeTask ℚ}
    (h : ∀ dep ∈ task.stateDependencies, ∀ loc, reg[dep.stateId]? = some loc →
      loc.residentNodes = [] ∧ loc.sizeBytes = dep.sizeBytes ∧
        (dep.transferEstimateSeconds < 0 → loc.transferEstimateSeconds < 0)) : reg.KeepsFacts task := by
  have hresident : ∀ dep ∈ task.stateDependencies, ∀ n, reg.residentOn dep.stateId n = false := by
    intro dep hdep n
    unfold residentOn
    split
    · rfl
    · next loc hloc =>
        rw [(h dep hdep loc hloc).1]
        rfl
  have hsize : ∀ dep ∈ task.stateDependencies, reg.sizeOf dep = dep.sizeBytes.toNat := by
    intro dep hdep
    unfold sizeOf
    cases hloc : reg[dep.stateId]? with
    | none => rfl
    | some loc => exact congrArg UInt64.toNat (h dep hdep loc hloc).2.1
  refine ⟨?_, ?_, ?_, ?_, ?_⟩
  · intro dep hdep n hon
    rw [hresident dep hdep n] at hon
    cases hon
  · rintro dep hdep hneg ⟨loc, hloc, hknown⟩
    exact absurd hknown (not_le.mpr ((h dep hdep loc hloc).2.2 hneg))
  · refine congrArg List.sum (List.map_congr_left fun dep hdep => ?_)
    rw [hsize dep hdep, sizeOf_empty]
  · intro hzero dep hdep n
    rw [hsize dep hdep, hzero dep hdep]
    exact .inr rfl
  · rintro ⟨dep, hdep, hne⟩
    refine ⟨⟨dep, hdep, ?_⟩, ?_⟩
    · rw [hsize dep hdep]
      exact fun hzero => hne (UInt64.toNat_inj.mp hzero)
    · intro dep' hdep' n hon
      rw [hresident dep' hdep' n] at hon
      cases hon

end StateLocalityRegistry

/-! ## Restarts -/

open Coordinator

/-- **Locality survives a restart** exactly when the registry says no more than the task's own record: for every
    reachable state with a saved file and every task of it, the restart on that file succeeds, knows the task, if
    at all, as it was, and prices transfers and scores nodes for it as before if and only if the registry
    `KeepsFacts`. -/
theorem restart_keeps_locality_iff {env : Env} {events : List (CrashEvent ℚ)} {s : Coordinator ℚ}
    (hrun : crashRun env events = some s) {d : DurableState ℚ} (hfile : s.file = some d) {t : ComputeTaskId}
    {task : ComputeTask ℚ} (htask : s.graph.find t = some task) :
    ∃ s', step env s .restart = some s' ∧ (∀ task', s'.graph.find t = some task' → task' = task) ∧
      ((∀ (node : NodeRecord ℚ) (bandwidth latency : ℚ),
          s'.stateLocality.transferSecondsFor task node.id bandwidth latency =
              s.stateLocality.transferSecondsFor task node.id bandwidth latency ∧
            CostModel.stateLocalityScore task node s'.stateLocality =
              CostModel.stateLocalityScore task node s.stateLocality) ↔
        s.stateLocality.KeepsFacts task) := by
  have hsaved : .saved d ∈ s.effects := mem_of_lastSaved ((crashRun_logged hrun).2.file ▸ hfile)
  obtain ⟨hok, hrestartable⟩ := (crashRun_restartable hrun).2 d hsaved
  obtain ⟨s', hs'⟩ := start_of_restartable env (w := s.world) hfile hok hrestartable
  refine ⟨s', by rw [step, hs']; rfl, ?_, ?_⟩
  · -- the disk is never ahead of memory
    intro task' htask'
    have hload : s'.graph.tasks[t]? = d.tasks[t]? := by
      have htasks := (start_spec hs' (by rw [show s.world.file = some d from hfile]; exact hok)).tasks t
      rwa [show s.world.file = some d from hfile] at htasks
    have hknown := ((Lasting.fact env (.task t task')).kept hrun).1 (by
      rw [hfile]
      exact hload.symm.trans htask')
    exact Option.some.inj (hknown.symm.trans htask)
  · rw [(start_forgets hs').2]
    exact s.stateLocality.keepsFacts_iff task

/-- A task with one state dependency of 10 bytes, resident on the given nodes. -/
def Demo.submitState (residentNodes : List NodeId) : Event ℚ :=
  .command (.taskSubmit ⟨0, 9⟩ 2 0 { task := { Demo.task 1 with stateDependencies :=
    [{ stateId := text "kv", sizeBytes := 10, residentNodes := residentNodes, localityQuality := 0,
       transferEstimateSeconds := -1, recomputeEstimateSeconds := -1 }] } })

/-- The state is resident nowhere. -/
theorem restart_keeps_locality_nowhere :
    ∃ s s' task, crashRun (Demo.env 3000 100) [.event (Demo.submitState [])] = some s ∧
      s.graph.find Demo.taskId = some task ∧ step (Demo.env 3000 100) s .restart = some s' ∧
      ∀ (node : NodeRecord ℚ) (bandwidth latency : ℚ),
        s'.stateLocality.transferSecondsFor task node.id bandwidth latency =
            s.stateLocality.transferSecondsFor task node.id bandwidth latency ∧
          CostModel.stateLocalityScore task node s'.stateLocality =
            CostModel.stateLocalityScore task node s.stateLocality := by
  have hfacts : ((crashRun (Demo.env 3000 100) [.event (Demo.submitState [])]).bind fun s => s.file.bind fun _ =>
      (s.graph.find Demo.taskId).map fun task => task.stateDependencies.all fun dep =>
        (s.stateLocality[dep.stateId]?).all fun loc => decide (loc.residentNodes = [] ∧
          loc.sizeBytes = dep.sizeBytes ∧ loc.transferEstimateSeconds < 0)) = some true := by
    decide +kernel
  obtain ⟨s, hs, hfacts⟩ := Option.bind_eq_some_iff.mp hfacts
  obtain ⟨d, hd, hfacts⟩ := Option.bind_eq_some_iff.mp hfacts
  obtain ⟨task, htask, hall⟩ := Option.map_eq_some_iff.mp hfacts
  obtain ⟨s', hs', -, hiff⟩ := restart_keeps_locality_iff hs hd htask
  refine ⟨s, s', task, hs, htask, hs', hiff.mpr (.of_same ?_)⟩
  intro dep hdep loc hloc
  have hsame := List.all_eq_true.mp hall dep hdep
  rw [hloc, Option.all_some, decide_eq_true_eq] at hsame
  exact ⟨hsame.1, hsame.2.1, fun _ => hsame.2.2⟩

/-- The state is resident on one node. Before the restart the node has it for free, afterwards it does not. -/
theorem restart_forgets_resident :
    ∃ s s' task task', run (Demo.env 3000 100) [Demo.submitState [Demo.nodeId]] = some s ∧
      s.graph.find Demo.taskId = some task ∧ s.graph.state Demo.taskId = .ready ∧
      step (Demo.env 3000 100) s .restart = some s' ∧ s'.graph.find Demo.taskId = some task' ∧
      s.stateLocality.transferSecondsFor task Demo.nodeId 1 0 = 0 ∧
      s'.stateLocality.transferSecondsFor task' Demo.nodeId 1 0 = 10 := by
  have hfacts : ((run (Demo.env 3000 100) [Demo.submitState [Demo.nodeId]]).bind fun s =>
      (s.graph.find Demo.taskId).bind fun task => (step (Demo.env 3000 100) s .restart).bind fun s' =>
        (s'.graph.find Demo.taskId).map fun task' =>
          (s.graph.state Demo.taskId, s.stateLocality.transferSecondsFor task Demo.nodeId 1 0,
            s'.stateLocality.transferSecondsFor task' Demo.nodeId 1 0)) = some (.ready, 0, 10) := by
    decide +kernel
  obtain ⟨s, hs, hfacts⟩ := Option.bind_eq_some_iff.mp hfacts
  obtain ⟨task, htask, hfacts⟩ := Option.bind_eq_some_iff.mp hfacts
  obtain ⟨s', hs', hfacts⟩ := Option.bind_eq_some_iff.mp hfacts
  obtain ⟨task', htask', hfacts⟩ := Option.map_eq_some_iff.mp hfacts
  obtain ⟨hready, hfacts⟩ := Prod.mk.inj hfacts
  obtain ⟨hbefore, hafter⟩ := Prod.mk.inj hfacts
  exact ⟨s, s', task, task', hs, htask, hready, hs', htask', hbefore, hafter⟩

end ComputeFabric
