import ComputeFabric.Lib.Lts
import ComputeFabric.Lib.OrdMap
import ComputeFabric.Resource.Reservation

/-!
# `Safety.Overcommit` — what the registry grants and what a node has

The registry as a system of its own: any sequence of its five operations, from the empty registry on. The
bounds are about sums of natural numbers; the checks of `try_reserve` are about `uint32_t` and `uint64_t` sums,
which wrap. As long as no sum that a check looks at wraps, the checks bound the natural sums too
(`no_overcommit`); a request large enough to wrap is granted on a node that is nearly full
(`wrapped_request_overcommits`).
-/

namespace ComputeFabric

variable {D : Type}

/-! ## The system -/

/-- One call of a public operation of `ReservationRegistry`. -/
inductive RegistryOp (D : Type) where
  | tryReserve (node : NodeRecord D) (epoch : CoordinatorEpoch) (taskId : ComputeTaskId)
      (executor : ExecutorType) (slots : UInt32) (scratchBytes : UInt64) (id : ReservationId) (now : Int64)
  | release (id : ReservationId)
  | releaseAllForNode (node : NodeId)
  | invalidateBefore (current : CoordinatorEpoch)
  | invalidateSession (node : NodeId) (session : NodeSessionId)

namespace ReservationRegistry

/-- The registry after the call, whatever the call returns. -/
def apply (reg : ReservationRegistry) : RegistryOp D → ReservationRegistry
  | .tryReserve node epoch taskId executor slots scratchBytes id now =>
      (reg.tryReserve node epoch taskId executor slots scratchBytes id now).1
  | .release id => reg.tryRelease id
  | .releaseAllForNode node => reg.releaseAllForNode node
  | .invalidateBefore current => reg.invalidateBefore current
  | .invalidateSession node session => reg.invalidateSession node session

/-! ## Sums of natural numbers -/

/-- The slots a reservation takes of one executor type on a node. -/
def slotsTaken (n : NodeId) (executor : ExecutorType) (r : Reservation) : Nat :=
  if r.nodeId = n ∧ r.executor = executor ∧ r.released = false then r.slots.toNat else 0

/-- The slots a reservation takes on a node. -/
def nodeSlotsTaken (n : NodeId) (r : Reservation) : Nat :=
  if r.nodeId = n ∧ r.released = false then r.slots.toNat else 0

def scratchTaken (n : NodeId) (r : Reservation) : Nat :=
  if r.nodeId = n ∧ r.released = false then r.scratchBytes.toNat else 0

def slotSum (reg : ReservationRegistry) (n : NodeId) (executor : ExecutorType) : Nat :=
  OrdMap.weight (slotsTaken n executor) reg

def nodeSlotSum (reg : ReservationRegistry) (n : NodeId) : Nat := OrdMap.weight (nodeSlotsTaken n) reg

def scratchSum (reg : ReservationRegistry) (n : NodeId) : Nat := OrdMap.weight (scratchTaken n) reg

/-- A loop that adds up fixed-width numbers computes the sum of natural numbers, modulo the width. -/
theorem toNat_foldl_add {U X : Type} [Add U] {toNat : U → Nat} {M : Nat}
    (hadd : ∀ a b, toNat (a + b) = (toNat a + toNat b) % M) (hlt : ∀ a, toNat a < M) (p : X → Prop)
    [DecidablePred p] (f : X → U) (xs : List X) (u : U) :
    toNat (xs.foldl (fun used x => if p x then used + f x else used) u) =
      (toNat u + (xs.map fun x => if p x then toNat (f x) else 0).sum) % M := by
  induction xs generalizing u with
  | nil => simp [Nat.mod_eq_of_lt (hlt u)]
  | cons x xs ih =>
      rw [List.foldl_cons, ih, List.map_cons, List.sum_cons]
      split_ifs
      · rw [hadd, Nat.mod_add_mod, Nat.add_assoc]
      · rw [Nat.zero_add]

theorem toNat_usedSlots (reg : ReservationRegistry) (n : NodeId) (executor : ExecutorType) :
    (reg.usedSlots n executor).toNat = reg.slotSum n executor % 2 ^ 32 := by
  have hloop := toNat_foldl_add UInt32.toNat_add UInt32.toNat_lt
    (fun r : Reservation => r.nodeId = n ∧ r.executor = executor ∧ r.released = false) Reservation.slots
    (reg.toList.map Prod.snd) 0
  rw [usedSlots, hloop, UInt32.toNat_zero, Nat.zero_add]
  rfl

theorem toNat_usedCpu (reg : ReservationRegistry) (n : NodeId) :
    (reg.usedCpu n).toNat = reg.nodeSlotSum n % 2 ^ 32 := by
  have hloop := toNat_foldl_add UInt32.toNat_add UInt32.toNat_lt
    (fun r : Reservation => r.nodeId = n ∧ r.released = false) Reservation.slots (reg.toList.map Prod.snd) 0
  rw [usedCpu, hloop, UInt32.toNat_zero, Nat.zero_add]
  rfl

theorem toNat_usedScratch (reg : ReservationRegistry) (n : NodeId) :
    (reg.usedScratch n).toNat = reg.scratchSum n % 2 ^ 64 := by
  have hloop := toNat_foldl_add UInt64.toNat_add UInt64.toNat_lt
    (fun r : Reservation => r.nodeId = n ∧ r.released = false) Reservation.scratchBytes
    (reg.toList.map Prod.snd) 0
  rw [usedScratch, hloop, UInt64.toNat_zero, Nat.zero_add]
  rfl

end ReservationRegistry

/-! ## Capacities -/

/-- The slots of the node's first executor of this type. -/
def NodeCapacity.slotsOf (cap : NodeCapacity D) (executor : ExecutorType) : Nat :=
  ((cap.executors.find? fun e => e.type = executor).map fun e => e.slots.toInt.toNat).getD 0

/-- Slot counts are not negative. -/
def NodeCapacity.NonNegative (cap : NodeCapacity D) : Prop :=
  0 ≤ cap.cpuWorkerSlots ∧ ∀ e ∈ cap.executors, 0 ≤ e.slots

/-- The call presents the node with the capacity `cap` gives it. -/
def RegistryOp.Presents (cap : NodeId → NodeCapacity D) : RegistryOp D → Prop
  | .tryReserve node .. => node.capacity = cap node.id
  | _ => True

/-- Nothing is granted twice. -/
structure ReservationRegistry.Within (reg : ReservationRegistry) (cap : NodeId → NodeCapacity D) : Prop where
  slots : ∀ n executor, reg.slotSum n executor ≤ (cap n).slotsOf executor
  cpu : ∀ n, reg.slotSum n .cpu ≤ (cap n).cpuWorkerSlots.toInt.toNat
  scratch : ∀ n, reg.scratchSum n ≤ (cap n).hostMemorySchedulingBytes.toNat

namespace ReservationRegistry

/-! ## The condition -/

/-- No sum that a check of `try_reserve` looks at exceeds its width. The checks come in the order of the
    source, and one that refuses ends the call. -/
def sumsFit (reg : ReservationRegistry) : RegistryOp D → Bool
  | .tryReserve node _ _ executor slots scratchBytes _ _ =>
      if node.health = .offline ∨ node.health = .draining then true
      else match findExecutor node executor with
        | none => true
        | some cap =>
            if !cap.healthy ∨ slots = 0 then true
            else if reg.slotSum node.id executor + slots.toNat ≥ 2 ^ 32 then false
            else if reg.slotSum node.id executor + slots.toNat > cap.slots.toInt.toNat then true
            else if executor = .cpu ∧ reg.nodeSlotSum node.id + slots.toNat ≥ 2 ^ 32 then false
            else if executor = .cpu ∧
                reg.nodeSlotSum node.id + slots.toNat > node.capacity.cpuWorkerSlots.toInt.toNat then true
            else scratchBytes = 0 ∨ reg.scratchSum node.id + scratchBytes.toNat < 2 ^ 64
  | _ => true

/-! ## Giving back -/

/-- The operations other than `try_reserve` give reservations back, and a reservation that is given back
    takes nothing. -/
theorem within_of_map {reg reg' : ReservationRegistry} {cap : NodeId → NodeCapacity D}
    {p : ReservationId → Reservation → Prop} [∀ k r, Decidable (p k r)]
    (h : ∀ k : ReservationId, reg'[k]? = reg[k]?.map fun r => if p k r then giveBack r else r)
    (hreg : reg.Within cap) : reg'.Within cap where
  slots n executor := by
    refine (OrdMap.weight_le_of_map (fun k r => ?_) h).trans (hreg.slots n executor)
    unfold slotsTaken
    split_ifs <;> simp_all [giveBack]
  cpu n := by
    refine (OrdMap.weight_le_of_map (fun k r => ?_) h).trans (hreg.cpu n)
    unfold slotsTaken
    split_ifs <;> simp_all [giveBack]
  scratch n := by
    refine (OrdMap.weight_le_of_map (fun k r => ?_) h).trans (hreg.scratch n)
    unfold scratchTaken
    split_ifs <;> simp_all [giveBack]

/-! ## Granting -/

/-- What a grant has checked. -/
theorem refusal_eq_none {reg : ReservationRegistry} {node : NodeRecord D} {executor : ExecutorType}
    {slots : UInt32} {scratchBytes : UInt64} (h : reg.refusal node executor slots scratchBytes = none) :
    ¬(node.health = .offline ∨ node.health = .draining) ∧ ∃ cap, findExecutor node executor = some cap ∧
      ¬((!cap.healthy) = true ∨ slots = 0) ∧ reg.usedSlots node.id executor + slots ≤ cap.slots.toUInt32 ∧
      (executor = .cpu → reg.usedCpu node.id + slots ≤ node.capacity.cpuWorkerSlots.toUInt32) ∧
      (scratchBytes = 0 ∨
        reg.usedScratch node.id + scratchBytes ≤ node.capacity.hostMemorySchedulingBytes) := by
  unfold refusal at h
  by_cases hoff : node.health = .offline
  · rw [if_pos hoff] at h
    cases h
  by_cases hdrain : node.health = .draining
  · rw [if_neg hoff, if_pos hdrain] at h
    cases h
  refine ⟨not_or.mpr ⟨hoff, hdrain⟩, ?_⟩
  rw [if_neg hoff, if_neg hdrain] at h
  cases hcap : findExecutor node executor with
  | none =>
      rw [hcap] at h
      cases h
  | some cap =>
      rw [hcap] at h
      dsimp only at h
      split_ifs at h with hhealthy hzero hslots hcpu hscratch
      refine ⟨cap, rfl, not_or.mpr ⟨hhealthy, hzero⟩, UInt32.not_lt.mp hslots, ?_, ?_⟩
      · intro he
        exact UInt32.not_lt.mp fun hlt => hcpu ⟨he, hlt⟩
      · by_cases hs : scratchBytes = 0
        · exact .inl hs
        · exact .inr (UInt64.not_lt.mp fun hlt => hscratch ⟨hlt, UInt64.pos_iff_ne_zero.mpr hs⟩)

theorem toNat_toUInt32_of_nonneg {x : Int32} (h : 0 ≤ x) : x.toUInt32.toNat = x.toInt.toNat := by
  have hnonneg : 0 ≤ x.toInt := by simpa [Int32.le_iff_toInt_le] using h
  have hint : x.toInt = if 2 * x.toUInt32.toNat < 2 ^ 32 then (x.toUInt32.toNat : Int)
      else (x.toUInt32.toNat : Int) - (2 ^ 32 : Nat) := BitVec.toInt_eq_toNat_cond x.toBitVec
  have hlt := UInt32.toNat_lt x.toUInt32
  split_ifs at hint <;> omega

/-- A grant whose sums fit keeps within the capacity it was checked against. -/
theorem grant_fits {reg : ReservationRegistry} {node : NodeRecord D} {epoch : CoordinatorEpoch}
    {taskId : ComputeTaskId} {executor : ExecutorType} {slots : UInt32} {scratchBytes : UInt64}
    {id : ReservationId} {now : Int64} (hcap : node.capacity.NonNegative)
    (hfit : reg.sumsFit (.tryReserve node epoch taskId executor slots scratchBytes id now) = true)
    (h : reg.refusal node executor slots scratchBytes = none) :
    reg.slotSum node.id executor + slots.toNat ≤ node.capacity.slotsOf executor ∧
      (executor = .cpu →
        reg.nodeSlotSum node.id + slots.toNat ≤ node.capacity.cpuWorkerSlots.toInt.toNat) ∧
      (scratchBytes = 0 ∨
        reg.scratchSum node.id + scratchBytes.toNat ≤ node.capacity.hostMemorySchedulingBytes.toNat) := by
  obtain ⟨hhealth, cap, hfind, hok, hslots, hcpu, hscratch⟩ := refusal_eq_none h
  have hnonneg : 0 ≤ cap.slots := hcap.2 cap (List.mem_of_find?_eq_some hfind)
  have hslotsOf : node.capacity.slotsOf executor = cap.slots.toInt.toNat := by
    rw [NodeCapacity.slotsOf, show (node.capacity.executors.find? fun e => e.type = executor) = some cap from hfind]
    rfl
  unfold sumsFit at hfit
  simp only [if_neg hhealth, hfind, if_neg hok] at hfit
  -- a sum that fits is the sum the check has compared
  have hslots' : reg.slotSum node.id executor + slots.toNat < 2 ^ 32 →
      reg.slotSum node.id executor + slots.toNat ≤ cap.slots.toInt.toNat := by
    intro hlt
    rw [UInt32.le_iff_toNat_le, UInt32.toNat_add, toNat_usedSlots, toNat_toUInt32_of_nonneg hnonneg,
      Nat.mod_add_mod, Nat.mod_eq_of_lt hlt] at hslots
    exact hslots
  have hcpu' : executor = .cpu → reg.nodeSlotSum node.id + slots.toNat < 2 ^ 32 →
      reg.nodeSlotSum node.id + slots.toNat ≤ node.capacity.cpuWorkerSlots.toInt.toNat := by
    intro he hlt
    have hle := hcpu he
    rw [UInt32.le_iff_toNat_le, UInt32.toNat_add, toNat_usedCpu, toNat_toUInt32_of_nonneg hcap.1,
      Nat.mod_add_mod, Nat.mod_eq_of_lt hlt] at hle
    exact hle
  have hscratch' : reg.scratchSum node.id + scratchBytes.toNat < 2 ^ 64 → scratchBytes = 0 ∨
      reg.scratchSum node.id + scratchBytes.toNat ≤ node.capacity.hostMemorySchedulingBytes.toNat := by
    intro hlt
    refine hscratch.imp_right fun hle => ?_
    rw [UInt64.le_iff_toNat_le, UInt64.toNat_add, toNat_usedScratch, Nat.mod_add_mod, Nat.mod_eq_of_lt hlt] at hle
    exact hle
  rw [hslotsOf]
  split_ifs at hfit with hwide hfull hwide' hfull'
  · exact absurd (hslots' (by omega)) (by omega)
  · exact absurd (hcpu' hfull'.1 (by have := hfull'.2; by_contra hge; exact hwide' ⟨hfull'.1, by omega⟩)) (by omega)
  · refine ⟨hslots' (by omega), ?_, ?_⟩
    · intro he
      exact hcpu' he (by by_contra hge; exact hwide' ⟨he, by omega⟩)
    · rcases of_decide_eq_true hfit with hzero | hlt
      · exact .inl hzero
      · exact hscratch' hlt

theorem within_tryReserve {reg : ReservationRegistry} {cap : NodeId → NodeCapacity D} {node : NodeRecord D}
    {epoch : CoordinatorEpoch} {taskId : ComputeTaskId} {executor : ExecutorType} {slots : UInt32}
    {scratchBytes : UInt64} {id : ReservationId} {now : Int64} (hcap : (cap node.id).NonNegative)
    (hnode : node.capacity = cap node.id)
    (hfit : reg.sumsFit (.tryReserve node epoch taskId executor slots scratchBytes id now) = true)
    (hreg : reg.Within cap) :
    (reg.tryReserve node epoch taskId executor slots scratchBytes id now).1.Within cap := by
  unfold tryReserve
  split
  · exact hreg
  · next hgrant =>
      obtain ⟨hslots, hcpu, hscratch⟩ := grant_fits (hnode ▸ hcap) hfit hgrant
      rw [hnode] at hslots hcpu hscratch
      have hadded := fun w : Reservation → Nat => OrdMap.weight_insert_le w reg id
        (grant node epoch taskId executor slots scratchBytes id now)
      refine ⟨?_, ?_, ?_⟩
      · intro n e
        refine (hadded (slotsTaken n e)).trans ?_
        have hbefore := hreg.slots n e
        unfold slotSum at hbefore hslots
        by_cases hne : node.id = n ∧ executor = e
        · obtain ⟨rfl, rfl⟩ := hne
          simpa [slotsTaken, grant] using hslots
        · have hnone : slotsTaken n e (grant node epoch taskId executor slots scratchBytes id now) = 0 := by
            simp only [slotsTaken, grant, and_true]
            exact if_neg hne
          omega
      · intro n
        refine (hadded (slotsTaken n .cpu)).trans ?_
        have hbefore := hreg.cpu n
        unfold slotSum at hbefore
        by_cases hne : node.id = n ∧ executor = .cpu
        · obtain ⟨rfl, rfl⟩ := hne
          have hle : OrdMap.weight (slotsTaken node.id .cpu) reg ≤ reg.nodeSlotSum node.id := by
            refine OrdMap.weight_mono ?_ reg
            intro r
            unfold slotsTaken nodeSlotsTaken
            split_ifs <;> simp_all
          have hfits := hcpu rfl
          simp only [slotsTaken, grant, and_self, if_true]
          exact (Nat.add_le_add_right hle _).trans hfits
        · have hnone : slotsTaken n .cpu (grant node epoch taskId executor slots scratchBytes id now) = 0 := by
            simp only [slotsTaken, grant, and_true]
            exact if_neg hne
          omega
      · intro n
        refine (hadded (scratchTaken n)).trans ?_
        have hbefore := hreg.scratch n
        unfold scratchSum at hbefore hscratch
        by_cases hne : node.id = n
        · subst hne
          simp only [scratchTaken, grant, and_self, if_true]
          rcases hscratch with hzero | hle
          · simpa [hzero] using hbefore
          · exact hle
        · have hnone : scratchTaken n (grant node epoch taskId executor slots scratchBytes id now) = 0 := by
            simp [scratchTaken, grant, hne]
          omega

/-! ## Sequences of operations -/

theorem within_empty (cap : NodeId → NodeCapacity D) : Within (∅ : ReservationRegistry) cap where
  slots _ _ := (OrdMap.weight_empty _).le.trans (Nat.zero_le _)
  cpu _ := (OrdMap.weight_empty _).le.trans (Nat.zero_le _)
  scratch _ := (OrdMap.weight_empty _).le.trans (Nat.zero_le _)

theorem within_apply {reg : ReservationRegistry} {cap : NodeId → NodeCapacity D}
    (hcap : ∀ n, (cap n).NonNegative) {op : RegistryOp D} (hop : op.Presents cap)
    (hfit : reg.sumsFit op = true) (hreg : reg.Within cap) : (reg.apply op).Within cap := by
  cases op with
  | tryReserve node epoch taskId executor slots scratchBytes id now =>
      exact within_tryReserve (hcap node.id) hop hfit hreg
  | release id =>
      refine within_of_map (p := fun k _ => id = k) ?_ hreg
      intro k
      rw [apply, getElem?_tryRelease]
      split_ifs
      · rfl
      · simp
  | releaseAllForNode node =>
      refine within_of_map (p := fun _ r => r.nodeId = node) ?_ hreg
      intro k
      exact getElem?_releaseAllForNode reg node k
  | invalidateBefore current =>
      refine within_of_map (p := fun _ r => r.coordinatorEpoch ≠ current ∧ r.released = false) ?_ hreg
      intro k
      simp [apply, invalidateBefore, Std.ExtTreeMap.getElem?_map]
  | invalidateSession node session =>
      refine within_of_map
        (p := fun _ r => r.nodeId = node ∧ r.sessionId = session ∧ r.released = false) ?_ hreg
      intro k
      simp [apply, invalidateSession, Std.ExtTreeMap.getElem?_map]

end ReservationRegistry

/-- **No overcommit.** After any sequence of operations in which every node is always presented with the same
    capacity and no sum that a check looks at exceeds its width, the unreleased reservations on a node take no
    more slots of an executor type than its first executor of that type has, no more `Cpu` slots than the node
    has CPU workers, and no more scratch space than the node schedules. -/
theorem no_overcommit (cap : NodeId → NodeCapacity D) (hcap : ∀ n, (cap n).NonNegative)
    (ops : List (RegistryOp D)) (hops : ∀ op ∈ ops, op.Presents cap)
    (hfit : Lts.Along (fun reg op => some (ReservationRegistry.apply reg op))
      (fun reg op => reg.sumsFit op = true) ∅ ops) (n : NodeId) :
    let reg := ops.foldl ReservationRegistry.apply ∅
    (∀ executor, reg.slotSum n executor ≤ (cap n).slotsOf executor) ∧
      reg.slotSum n .cpu ≤ (cap n).cpuWorkerSlots.toInt.toNat ∧
      reg.scratchSum n ≤ (cap n).hostMemorySchedulingBytes.toNat := by
  have hwithin : (ops.foldl ReservationRegistry.apply (∅ : ReservationRegistry)).Within cap := by
    refine Lts.run_invariant (I := fun reg : ReservationRegistry => reg.Within cap) ?_
      (ReservationRegistry.within_empty cap) (hfit.and_mem hops) (Lts.run_some ReservationRegistry.apply ∅ ops)
    rintro reg op reg' hreg ⟨hfits, hop⟩ happly
    rw [← Option.some.inj happly]
    exact ReservationRegistry.within_apply hcap hop hfits hreg
  exact ⟨fun executor => hwithin.slots n executor, hwithin.cpu n, hwithin.scratch n⟩

/-! ## A node with four slots -/

/-- Four CPU slots and 1000 bytes of scratch space. -/
def Demo.capacity : NodeCapacity ℚ where
  cpuWorkerSlots := 4
  hostMemorySchedulingBytes := 1000
  executors := [{ slots := 4, relativeSpeed := 1 }]

/-- A request for CPU slots under the `n`-th reservation id. -/
def Demo.reserve (n : UInt64) (slots : UInt32) (scratchBytes : UInt64) : RegistryOp ℚ :=
  .tryReserve
    { id := ⟨0, 7⟩, session := ⟨0, 70⟩, epoch := 1, sessionEpoch := 1, health := .online,
      capacity := Demo.capacity, lastHeartbeatMs := 0, registerMs := 0, connected := true }
    1 ⟨0, 1⟩ .cpu slots scratchBytes ⟨0, n⟩ 0

/-- Of three requests for two slots each the third is refused, until a reservation is given back. -/
theorem no_overcommit_four_slots :
    (ReservationRegistry.slotSum ([Demo.reserve 1 2 500, Demo.reserve 2 2 500, Demo.reserve 3 2 0,
      .release ⟨0, 1⟩, Demo.reserve 4 2 500].foldl ReservationRegistry.apply ∅) ⟨0, 7⟩ .cpu ≤
        Demo.capacity.slotsOf .cpu) := by
  refine (no_overcommit (fun _ => Demo.capacity) ?_ _ ?_ ?_ ⟨0, 7⟩).1 .cpu
  · intro n
    exact ⟨by decide, by decide⟩
  · intro op hop
    fin_cases hop <;> first | rfl | trivial
  · decide +kernel

/-- With one slot taken, a request for 4294967295 slots makes the sums wrap to 0. It is granted. -/
theorem wrapped_request_overcommits :
    let reg := [Demo.reserve 1 1 0, Demo.reserve 2 4294967295 0].foldl ReservationRegistry.apply ∅
    reg.slotSum ⟨0, 7⟩ .cpu = 4294967296 ∧ Demo.capacity.slotsOf .cpu = 4 ∧
      Demo.capacity.cpuWorkerSlots = 4 := by
  decide +kernel

end ComputeFabric
