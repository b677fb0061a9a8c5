import ComputeFabric.Task.Task

/-!
# `Resource.Reservation` — node capacity and the reservation registry

The records of `capacity.h`, and `ReservationRegistry` of `reservation.h`: reservations by id. Nothing is ever
removed; a reservation is given back by setting its `released` flag. Slot sums are `uint32_t` and scratch sums
`uint64_t` in the source and wrap, so they are `UInt32` and `UInt64` here.

`Id128::random` and `now_millis` are arguments of `tryReserve`: the caller reads them off its environment.
-/

namespace ComputeFabric

/-! ## Node capacity -/

inductive NodeHealth where
  | online | suspect | draining | offline | unlisted (v : Fin 252)
deriving DecidableEq, Inhabited

def NodeHealth.toUInt8 : NodeHealth → UInt8
  | online => 0
  | suspect => 1
  | draining => 2
  | offline => 3
  | unlisted v => UInt8.ofNat (4 + v)

/-- `static_cast<NodeHealth>(byte)`. -/
def NodeHealth.ofUInt8 (b : UInt8) : NodeHealth :=
  [online, suspect, draining, offline].getD b.toNat (unlisted (Fin.ofNat 252 (b.toNat - 4)))

/-- Capability of a single executor backend on a node. -/
structure ExecutorCapability (D : Type) where
  type : ExecutorType := .cpu
  name : Text := []
  slots : Int32 := 0
  major : Int32 := 0
  minor : Int32 := 0
  vendor : Text := []
  architecture : Text := []
  deviceName : Text := []
  deviceMemoryBytes : UInt64 := 0
  deviceIds : List Int32 := []
  relativeSpeed : D
  healthy : Bool := true
  supportsPreemption : Bool := false

/-- Schedulable capacity of a node. -/
structure NodeCapacity (D : Type) where
  cpuWorkerSlots : Int32 := 0
  hostMemorySchedulingBytes : UInt64 := 0
  executors : List (ExecutorCapability D) := []
  tags : TextMap Text := ∅
  address : Text := []
  label : Text := []

/-- A node's registered record. `connected` says that it has a live control connection. -/
structure NodeRecord (D : Type) where
  id : NodeId
  session : NodeSessionId
  epoch : CoordinatorEpoch
  sessionEpoch : SessionEpoch
  health : NodeHealth
  capacity : NodeCapacity D
  lastHeartbeatMs : Int64
  registerMs : Int64
  connected : Bool

/-! ## Reservations -/

/-- A bounded resource reservation on a specific node. -/
structure Reservation where
  id : ReservationId
  taskId : ComputeTaskId
  nodeId : NodeId
  sessionId : NodeSessionId
  coordinatorEpoch : CoordinatorEpoch
  sessionEpoch : SessionEpoch
  executor : ExecutorType
  slots : UInt32
  scratchBytes : UInt64
  createdAtMs : Int64
  released : Bool
deriving DecidableEq

/-- `std::map<ReservationId, Reservation>`, the registry's only member. -/
abbrev ReservationRegistry := IdMap Reservation

/-- Anonymous-namespace `find_executor` of `reservation.cpp`: the first executor of exactly this type. -/
def findExecutor {D : Type} (node : NodeRecord D) (type : ExecutorType) :
    Option (ExecutorCapability D) :=
  node.capacity.executors.find? fun e => e.type = type

namespace ReservationRegistry

variable {D : Type}

/-- `all_active`: unreleased reservations, by id. -/
def allActive (reg : ReservationRegistry) : List Reservation :=
  (reg.toList.map Prod.snd).filter fun r => !r.released

/-- `active_for_node`. -/
def activeForNode (reg : ReservationRegistry) (node : NodeId) : List Reservation :=
  (reg.toList.map Prod.snd).filter fun r => r.nodeId = node && !r.released

/-- `active_count`. -/
def activeCount (reg : ReservationRegistry) : Nat := (allActive reg).length

/-- `used_slots`: slots of unreleased reservations of one executor type on a node, modulo `2^32`. -/
def usedSlots (reg : ReservationRegistry) (node : NodeId) (executor : ExecutorType) : UInt32 :=
  (reg.toList.map Prod.snd).foldl (fun used r =>
    if r.nodeId = node ∧ r.executor = executor ∧ r.released = false then used + r.slots else used) 0

/-- The loop of the `Cpu` branch of `try_reserve`: slots of all unreleased reservations on a node. -/
def usedCpu (reg : ReservationRegistry) (node : NodeId) : UInt32 :=
  (reg.toList.map Prod.snd).foldl (fun used r =>
    if r.nodeId = node ∧ r.released = false then used + r.slots else used) 0

/-- `used_scratch`, modulo `2^64`. -/
def usedScratch (reg : ReservationRegistry) (node : NodeId) : UInt64 :=
  (reg.toList.map Prod.snd).foldl (fun used r =>
    if r.nodeId = node ∧ r.released = false then used + r.scratchBytes else used) 0

/-- The token `try_reserve` builds once every check has passed. -/
def grant (node : NodeRecord D) (epoch : CoordinatorEpoch) (taskId : ComputeTaskId)
    (executor : ExecutorType) (slots : UInt32) (scratchBytes : UInt64) (id : ReservationId)
    (now : Int64) : Reservation where
  id := id
  taskId := taskId
  nodeId := node.id
  sessionId := node.session
  coordinatorEpoch := epoch
  sessionEpoch := node.sessionEpoch
  executor := executor
  slots := slots
  scratchBytes := scratchBytes
  createdAtMs := now
  released := false

/-- The checks of `try_reserve`, in order: the reasons it would refuse for. -/
def refusal (reg : ReservationRegistry) (node : NodeRecord D) (executor : ExecutorType)
    (slots : UInt32) (scratchBytes : UInt64) : Option (List Text) :=
  if node.health = .offline then some [text "node offline"]
  else if node.health = .draining then some [text "node draining"]
  else match findExecutor node executor with
    | none => some [text "requested executor not present on node"]
    | some cap =>
        if !cap.healthy then some [text "executor unhealthy"]
        else if slots = 0 then some [text "zero slots requested"]
        else
          let used := usedSlots reg node.id executor
          if used + slots > cap.slots.toUInt32 then
            some [text "insufficient executor slots (" ++ decimal slots.toNat ++ text " needed, "
              ++ decimal (cap.slots.toUInt32 - used).toNat ++ text " free)"]
          else if executor = .cpu ∧
              usedCpu reg node.id + slots > node.capacity.cpuWorkerSlots.toUInt32 then
            some [text "insufficient CPU worker slots"]
          else if usedScratch reg node.id + scratchBytes > node.capacity.hostMemorySchedulingBytes ∧
              scratchBytes > 0 then
            some [text "scratch budget exceeded"]
          else none

/-- `ReservationRegistry::try_reserve`: the registry after the call, with the token or the reasons. -/
def tryReserve (reg : ReservationRegistry) (node : NodeRecord D) (epoch : CoordinatorEpoch)
    (taskId : ComputeTaskId) (executor : ExecutorType) (slots : UInt32) (scratchBytes : UInt64)
    (id : ReservationId) (now : Int64) : ReservationRegistry × Except (List Text) Reservation :=
  match refusal reg node executor slots scratchBytes with
  | some reasons => (reg, .error reasons)
  | none =>
      let r := grant node epoch taskId executor slots scratchBytes id now
      (reg.insert r.id r, .ok r)

/-- `it->second.released = true`. -/
def giveBack (r : Reservation) : Reservation := { r with released := true }

/-- `ReservationRegistry::release`: fails on an unknown or already released reservation. -/
def release (reg : ReservationRegistry) (id : ReservationId) : Except Error ReservationRegistry :=
  match reg[id]? with
  | none => .error ⟨.reservationNotFound, text "reservation not found"⟩
  | some r =>
      if r.released then .error ⟨.reservationNotFound, text "reservation already released"⟩
      else .ok (reg.modify id giveBack)

/-- A `release` call whose result is dropped. -/
def tryRelease (reg : ReservationRegistry) (id : ReservationId) : ReservationRegistry :=
  match release reg id with
  | .ok reg' => reg'
  | .error _ => reg

/-- `release_all_for_node`. -/
def releaseAllForNode (reg : ReservationRegistry) (node : NodeId) : ReservationRegistry :=
  reg.map fun _ r => if r.nodeId = node then giveBack r else r

/-- `invalidate_before`: release everything granted under another coordinator epoch. -/
def invalidateBefore (reg : ReservationRegistry) (current : CoordinatorEpoch) :
    ReservationRegistry :=
  reg.map fun _ r => if r.coordinatorEpoch ≠ current ∧ r.released = false then giveBack r else r

/-- `invalidate_session`: release everything granted to one session of a node. -/
def invalidateSession (reg : ReservationRegistry) (node : NodeId) (session : NodeSessionId) :
    ReservationRegistry :=
  reg.map fun _ r =>
    if r.nodeId = node ∧ r.sessionId = session ∧ r.released = false then giveBack r else r

/-! ## What the operations do to one reservation -/

/-- **A dropped release.** Setting the flag of a reservation that already carries it changes nothing, so
    the failing branches need no case of their own. -/
theorem getElem?_tryRelease (reg : ReservationRegistry) (id k : ReservationId) :
    (reg.tryRelease id)[k]? = if id = k then reg[k]?.map giveBack else reg[k]? := by
  unfold tryRelease release
  cases hr : reg[id]? with
  | none =>
      by_cases h : id = k
      · subst h
        simp [hr]
      · simp [h]
  | some r =>
      by_cases hrel : r.released = true
      · by_cases h : id = k
        · subst h
          have : giveBack r = r := by
            cases r
            simp_all [giveBack]
          simp [hrel, hr, this]
        · simp [hrel, h]
      · by_cases h : id = k
        · subst h
          simp [hrel, hr]
        · simp [hrel, h, Std.ExtTreeMap.getElem?_modify]

theorem getElem?_releaseAllForNode (reg : ReservationRegistry) (node : NodeId) (k : ReservationId) :
    (reg.releaseAllForNode node)[k]? =
      reg[k]?.map fun r => if r.nodeId = node then giveBack r else r := by
  simp [releaseAllForNode, Std.ExtTreeMap.getElem?_map]

end ReservationRegistry

end ComputeFabric
