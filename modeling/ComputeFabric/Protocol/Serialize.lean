import ComputeFabric.Protocol.Wire
import ComputeFabric.Scheduler.Scheduler

/-!
# `Protocol.Serialize` — the records shared by the wire and the store

`serialize.cpp`, and the node capacity codec of `messages.cpp`. Every record has a writer and a reader, each a
transcript of the source in the order of the source; a `Bounded` predicate that says which values are within the
limits the reader checks; and two facts:

- the reader reads back a bounded value from what the writer wrote, whatever follows (`reads_…`);
- whatever the reader returns is bounded (`yields_…`).

The first is symbolic execution: the reader runs over the bytes of one field after the other. A field that is
written in one place and read in another, or narrowed on the way, leaves a goal that does not close.
-/

namespace ComputeFabric

open Codec

/-! ## Parts of records -/

/-- A presence flag, then the value. -/
def putOptional {X : Type} (put : X → List UInt8) (o : Option X) : List UInt8 :=
  putBool o.isSome ++ (o.map put).getD []

def needOptional {X : Type} (whatFlag whatValue : String) (read : Reader X) : Deserializer (Option X) := do
  let present ← need whatFlag readBool
  if present then do
    let x ← need whatValue read
    pure (some x)
  else pure none

theorem reads_needOptional {X : Type} (whatFlag whatValue : String) {read : Reader X} {put : X → List UInt8}
    (h : ∀ x, Reads read (put x) x) (o : Option X) :
    Reads (needOptional whatFlag whatValue read) (putOptional put o) o := by
  refine (reads_need whatFlag (reads_readBool o.isSome)).bind ?_
  cases o with
  | none => exact Reads.pure none
  | some x => exact (reads_need whatValue (h x)).last (Reads.pure (some x))

@[simp] theorem run_needOptionalId (whatFlag whatValue : String) (o : Option Id128) (rest : List UInt8) :
    (needOptional whatFlag whatValue readId).run (putOptional putId o ++ rest) = .ok (o, rest) :=
  reads_needOptional whatFlag whatValue reads_readId o rest

@[simp] theorem run_needOptionalEnum {E : Type} [ByteEnum E] (whatFlag whatValue : String) (o : Option E)
    (rest : List UInt8) :
    (needOptional whatFlag whatValue readEnum).run (putOptional putEnum o ++ rest) = .ok (o, rest) :=
  reads_needOptional whatFlag whatValue reads_readEnum o rest

/-- A compute capability component: an `int32_t` sent as one byte. -/
def putCapability (v : Int32) : List UInt8 := putU8 v.toUInt32.toUInt8

def readCapability : Reader Int32 := do
  let b ← readU8
  pure b.toUInt32.toInt32

/-- The component fits its byte. -/
def BoundedCapability (v : Int32) : Prop := 0 ≤ v ∧ v ≤ 255

instance (v : Int32) : Decidable (BoundedCapability v) := inferInstanceAs (Decidable (_ ∧ _))

theorem reads_readCapability {v : Int32} (h : BoundedCapability v) : Reads readCapability (putCapability v) v := by
  have hn : v.toNatClampNeg < 256 := by
    have hmax : v.toInt ≤ 255 := by simpa using Int32.le_iff_toInt_le.mp h.2
    rw [← Int32.toNat_toInt]
    omega
  have hv : v.toUInt32.toUInt8.toUInt32.toInt32 = v := by
    rw [← Int32.ofNat_toNatClampNeg v h.1]
    generalize v.toNatClampNeg = n at hn
    have hbyte : (UInt32.ofNat n).toUInt8.toUInt32 = UInt32.ofNat n := by
      apply UInt32.toNat.inj
      simp
      omega
    rw [Int32.toUInt32_ofNat', hbyte, UInt32.toInt32_ofNat']
  refine (reads_readU8 _).last ?_
  rw [hv]
  exact Reads.pure v

theorem yields_readCapability : Yields readCapability BoundedCapability := by
  refine (Yields.any readU8).bind fun b _ => Yields.pure ?_
  have hlt := b.toNat_lt
  have hb : b.toUInt32.toInt32.toInt = b.toNat := by
    rw [← Int32.toInt_toBitVec, UInt32.toBitVec_toInt32]
    simp [BitVec.toInt]
    omega
  rw [BoundedCapability, Int32.le_iff_toInt_le, Int32.le_iff_toInt_le, hb]
  simp
  omega

@[simp] theorem run_needCapability (what : String) {v : Int32} (h : BoundedCapability v) (rest : List UInt8) :
    (need what readCapability).run (putCapability v ++ rest) = .ok (v, rest) :=
  reads_need what (reads_readCapability h) rest

@[simp] theorem run_needIds (what whatItem : String) {ids : List Id128} (h : ids.length ≤ maxList.toNat)
    (rest : List UInt8) :
    (needList what (need whatItem readId)).run (putList putId ids ++ rest) = .ok (ids, rest) :=
  reads_needList what h (fun id _ => reads_need whatItem (reads_readId id)) rest

@[simp] theorem run_needStrings (what whatItem : String) {xs : List Text} (h : BoundedList Text.Bounded xs)
    (rest : List UInt8) :
    (needList what (needString whatItem)).run (putList putString xs ++ rest) = .ok (xs, rest) :=
  reads_needList what h.1 (fun s hs => reads_needString whatItem (h.2 s hs)) rest

@[simp] theorem run_needTags (what whatEntry : String) {tags : TextMap Text} (h : BoundedTags tags)
    (rest : List UInt8) : (needTags what whatEntry).run (putTags tags ++ rest) = .ok (tags, rest) :=
  reads_needTags what whatEntry h rest

variable {D : Type} [DoubleBits D]

/-! ## Retry policies and state dependencies -/

def serializeRetryPolicy (p : RetryPolicy) : List UInt8 := List.flatten [
  putU32 p.maxAttempts,
  putBool p.retryOnNodeLoss,
  putBool p.retryOnExecutorFailure,
  putBool p.retryOnTimeout,
  putU64 p.retryBackoffMs]

def deserializeRetryPolicy : Deserializer RetryPolicy := do
  let maxAttempts ← need "retry max_attempts" readU32
  let retryOnNodeLoss ← need "retry on_node_loss" readBool
  let retryOnExecutorFailure ← need "retry on_executor_failure" readBool
  let retryOnTimeout ← need "retry on_timeout" readBool
  let retryBackoffMs ← need "retry backoff" readU64
  pure { maxAttempts, retryOnNodeLoss, retryOnExecutorFailure, retryOnTimeout, retryBackoffMs }

@[simp] theorem run_deserializeRetryPolicy (p : RetryPolicy) (rest : List UInt8) :
    deserializeRetryPolicy.run (serializeRetryPolicy p ++ rest) = .ok (p, rest) := by
  simp [deserializeRetryPolicy, serializeRetryPolicy, Decoder.run_bind]

def serializeStateDep (d : StateDependency D) : List UInt8 := List.flatten [
  putString d.stateId,
  putString d.generation,
  putU64 d.sizeBytes,
  putList putId d.residentNodes,
  putF64 d.localityQuality,
  putF64 d.transferEstimateSeconds,
  putF64 d.recomputeEstimateSeconds,
  putBool d.providerBacked,
  putString d.compatibility]

def deserializeStateDep : Deserializer (StateDependency D) := do
  let stateId ← needString "state id"
  let generation ← needString "state generation"
  let sizeBytes ← need "state size" readU64
  let residentNodes ← needList "state resident count" (need "state resident node" readId)
  let localityQuality ← need "state locality" readF64
  let transferEstimateSeconds ← need "state transfer" readF64
  let recomputeEstimateSeconds ← need "state recompute" readF64
  let providerBacked ← need "state provider" readBool
  let compatibility ← needString "state compat"
  pure { stateId, generation, sizeBytes, residentNodes, localityQuality, transferEstimateSeconds,
         recomputeEstimateSeconds, providerBacked, compatibility }

/-- The dependency is within the limits of `deserialize_state_dep`. -/
@[mk_iff]
structure StateDependency.Bounded {D : Type} (d : StateDependency D) : Prop where
  stateId : Text.Bounded d.stateId
  generation : Text.Bounded d.generation
  residentNodes : d.residentNodes.length ≤ maxList.toNat
  compatibility : Text.Bounded d.compatibility

instance {D : Type} (d : StateDependency D) : Decidable d.Bounded :=
  decidable_of_iff _ (StateDependency.bounded_iff d).symm

theorem reads_deserializeStateDep {d : StateDependency D} (h : d.Bounded) :
    Reads deserializeStateDep (serializeStateDep d) d := by
  intro rest
  simp [deserializeStateDep, serializeStateDep, Decoder.run_bind, h.stateId, h.generation, h.residentNodes,
    h.compatibility]

theorem yields_deserializeStateDep : Yields (deserializeStateDep (D := D)) StateDependency.Bounded := by
  unfold deserializeStateDep
  refine (yields_needString _).bind fun stateId hstateId => ?_
  refine (yields_needString _).bind fun generation hgeneration => ?_
  refine (Yields.any _).bind fun sizeBytes _ => ?_
  refine (yields_needList _ (Yields.any _)).bind fun residentNodes hresident => ?_
  repeat refine (Yields.any (need _ readF64)).bind fun _ _ => ?_
  refine (Yields.any _).bind fun providerBacked _ => ?_
  refine (yields_needString _).bind fun compatibility hcompatibility => ?_
  exact Yields.pure ⟨hstateId, hgeneration, hresident.1, hcompatibility⟩

/-! ## Tasks and workloads -/

def serializeTask (t : ComputeTask D) : List UInt8 := List.flatten [
  putId t.id,
  putId t.workload,
  putString t.name,
  putEnum t.taskClass,
  putEnum t.requiredExecutor,
  putCapability t.minComputeCapabilityMajor,
  putCapability t.minComputeCapabilityMinor,
  putU32 t.requiredCpuSlots,
  putU32 t.requiredGpuSlots,
  putU64 t.scratchMemoryBytes,
  putList putId t.dependencies,
  putList serializeStateDep t.stateDependencies,
  putU64 t.expectedInputBytes,
  putU64 t.expectedOutputBytes,
  putF64 t.estimatedDurationSeconds,
  putBool t.hasDeadline,
  putI64 t.deadlineEpochMs,
  putEnum t.priority,
  serializeRetryPolicy t.retry,
  putList putId t.preferredNodes,
  putList putId t.forbiddenNodes,
  putList putString t.requiredTags,
  putList putString t.preferredTags,
  putString t.antiAffinityGroup,
  putOptional putId t.sameNodeAsTask,
  putOptional putId t.differentNodeFromTask,
  putF64 t.expectedTransferGb,
  putF64 t.expectedRecomputeCostSeconds,
  putF64 t.costEstimate,
  putBool t.preemptible,
  putEnum t.kernel,
  putU64 t.kernelParamN,
  putU64 t.kernelParamA,
  putU64 t.kernelParamB,
  putU64 t.seed,
  putTags t.userTags,
  putU32 (UInt32.ofNat t.payload.length),
  t.payload]

/-- The room a task takes, up to its lists. -/
theorem length_serializeTask (t : ComputeTask D) : (serializeTask t).length =
    171 + t.name.length + (putList putId t.dependencies).length +
      (putList serializeStateDep t.stateDependencies).length + (putList putId t.preferredNodes).length +
      (putList putId t.forbiddenNodes).length + (putList putString t.requiredTags).length +
      (putList putString t.preferredTags).length + t.antiAffinityGroup.length +
      (putOptional putId t.sameNodeAsTask).length + (putOptional putId t.differentNodeFromTask).length +
      (putTags t.userTags).length + t.payload.length := by
  simp only [serializeTask, serializeRetryPolicy, putCapability, List.flatten_cons, List.flatten_nil,
    List.length_append, List.length_nil, length_putId, length_putString, length_putEnum, length_putU8, length_putU32,
    length_putU64, length_putI64, length_putF64, length_putBool]
  omega

def deserializeTask : Deserializer (ComputeTask D) := do
  let id ← need "task id" readId
  let workload ← need "task workload" readId
  let name ← needString "task name"
  let taskClass ← need "task class" readEnum
  let requiredExecutor ← need "task executor" readEnum
  let minComputeCapabilityMajor ← need "task cap" readCapability
  let minComputeCapabilityMinor ← need "task cap" readCapability
  let requiredCpuSlots ← need "task cpu slots" readU32
  let requiredGpuSlots ← need "task gpu slots" readU32
  let scratchMemoryBytes ← need "task scratch" readU64
  let dependencies ← needList "task dep count" (need "task dep" readId)
  let stateDependencies ← needList "task state count" deserializeStateDep
  let expectedInputBytes ← need "task input bytes" readU64
  let expectedOutputBytes ← need "task output bytes" readU64
  let estimatedDurationSeconds ← need "task duration" readF64
  let hasDeadline ← need "task deadline flag" readBool
  let deadlineEpochMs ← need "task deadline" readI64
  let priority ← need "task priority" readEnum
  let retry ← deserializeRetryPolicy
  let preferredNodes ← needList "task pref count" (need "task pref node" readId)
  let forbiddenNodes ← needList "task forbid count" (need "task forbid node" readId)
  let requiredTags ← needList "task req tags" (needString "task req tag")
  let preferredTags ← needList "task pref tags" (needString "task pref tag")
  let antiAffinityGroup ← needString "task anti-aff"
  let sameNodeAsTask ← needOptional "task same_node" "task same_node" readId
  let differentNodeFromTask ← needOptional "task diff_node" "task diff_node" readId
  let expectedTransferGb ← need "task xfer gb" readF64
  let expectedRecomputeCostSeconds ← need "task recompute" readF64
  let costEstimate ← need "task cost" readF64
  let preemptible ← need "task preemptible" readBool
  let kernel ← need "task kernel" readEnum
  let kernelParamN ← need "task kn" readU64
  let kernelParamA ← need "task ka" readU64
  let kernelParamB ← need "task kb" readU64
  let seed ← need "task seed" readU64
  let userTags ← needTags "task user tags" "task user tag"
  let npl ← need "task payload len" (readU32Max maxString)
  let payload ← need "task payload" (readRawBytes npl)
  pure {
    id, workload, name, taskClass, requiredExecutor, minComputeCapabilityMajor, minComputeCapabilityMinor,
    requiredCpuSlots, requiredGpuSlots, scratchMemoryBytes, dependencies, stateDependencies, expectedInputBytes,
    expectedOutputBytes, estimatedDurationSeconds, hasDeadline, deadlineEpochMs, priority, retry, preferredNodes,
    forbiddenNodes, requiredTags, preferredTags, antiAffinityGroup, sameNodeAsTask, differentNodeFromTask,
    expectedTransferGb, expectedRecomputeCostSeconds, costEstimate, preemptible, kernel, kernelParamN,
    kernelParamA, kernelParamB, seed, userTags, payload }

/-- The task is within the limits of `deserialize_task`. -/
@[mk_iff]
structure ComputeTask.Bounded {D : Type} (t : ComputeTask D) : Prop where
  name : Text.Bounded t.name
  minMajor : BoundedCapability t.minComputeCapabilityMajor
  minMinor : BoundedCapability t.minComputeCapabilityMinor
  dependencies : t.dependencies.length ≤ maxList.toNat
  stateDependencies : BoundedList StateDependency.Bounded t.stateDependencies
  preferredNodes : t.preferredNodes.length ≤ maxList.toNat
  forbiddenNodes : t.forbiddenNodes.length ≤ maxList.toNat
  requiredTags : BoundedList Text.Bounded t.requiredTags
  preferredTags : BoundedList Text.Bounded t.preferredTags
  antiAffinityGroup : Text.Bounded t.antiAffinityGroup
  userTags : BoundedTags t.userTags
  payload : t.payload.length ≤ maxString.toNat

instance {D : Type} (t : ComputeTask D) : Decidable t.Bounded :=
  decidable_of_iff _ (ComputeTask.bounded_iff t).symm

@[simp] theorem run_deserializeTask {t : ComputeTask D} (h : t.Bounded) (rest : List UInt8) :
    deserializeTask.run (serializeTask t ++ rest) = .ok (t, rest) := by
  have hstates (rest : List UInt8) : (needList "task state count" deserializeStateDep).run
      (putList serializeStateDep t.stateDependencies ++ rest) = .ok (t.stateDependencies, rest) :=
    reads_needList _ h.stateDependencies.1 (fun d hd => reads_deserializeStateDep (h.stateDependencies.2 d hd)) rest
  have hlen (rest : List UInt8) : (need "task payload len" (readU32Max maxString)).run
      (putU32 (UInt32.ofNat t.payload.length) ++ rest) = .ok (UInt32.ofNat t.payload.length, rest) :=
    reads_need _ (reads_readU32Max (ofNat_le h.payload)) rest
  have hpayload : (need "task payload" (readRawBytes (UInt32.ofNat t.payload.length))).run (t.payload ++ rest) =
      .ok (t.payload, rest) := reads_need _ (reads_readRawBytes h.payload) rest
  simp [deserializeTask, serializeTask, Decoder.run_bind, hstates, hlen, hpayload, h.name, h.minMajor, h.minMinor,
    h.dependencies, h.preferredNodes, h.forbiddenNodes, h.requiredTags, h.preferredTags, h.antiAffinityGroup,
    h.userTags]

theorem reads_deserializeTask {t : ComputeTask D} (h : t.Bounded) : Reads deserializeTask (serializeTask t) t :=
  run_deserializeTask h

theorem yields_deserializeTask : Yields (deserializeTask (D := D)) ComputeTask.Bounded := by
  have hids (what whatItem : String) : Yields (needList what (need whatItem readId)) (BoundedList fun _ => True) :=
    yields_needList what (Yields.any _)
  have htags (what whatItem : String) : Yields (needList what (needString whatItem)) (BoundedList Text.Bounded) :=
    yields_needList what (yields_needString whatItem)
  unfold deserializeTask
  repeat refine (Yields.any (need _ readId)).bind fun _ _ => ?_
  refine (yields_needString _).bind fun name hname => ?_
  refine (Yields.any _).bind fun taskClass _ => (Yields.any _).bind fun requiredExecutor _ => ?_
  refine (yields_need _ yields_readCapability).bind fun major hmajor => ?_
  refine (yields_need _ yields_readCapability).bind fun minor hminor => ?_
  repeat refine (Yields.any (need _ _)).bind fun _ _ => ?_
  refine (hids _ _).bind fun dependencies hdependencies => ?_
  refine (yields_needList _ yields_deserializeStateDep).bind fun states hstates => ?_
  repeat refine (Yields.any (need _ _)).bind fun _ _ => ?_
  refine (Yields.any deserializeRetryPolicy).bind fun retry _ => ?_
  refine (hids _ _).bind fun preferred hpreferred => (hids _ _).bind fun forbidden hforbidden => ?_
  refine (htags _ _).bind fun requiredTags hrequired => (htags _ _).bind fun preferredTags hprefer => ?_
  refine (yields_needString _).bind fun antiAffinityGroup hanti => ?_
  repeat refine (Yields.any (needOptional _ _ _)).bind fun _ _ => ?_
  repeat refine (Yields.any (need _ _)).bind fun _ _ => ?_
  refine (yields_needTags _ _).bind fun userTags htags => ?_
  refine (yields_need _ (yields_readU32Max _)).bind fun npl hnpl => ?_
  refine (yields_need _ (yields_readRawBytes _)).bind fun payload hpayload => ?_
  -- the payload has the length that was read, and that one was checked
  have hlen : payload.length ≤ maxString.toNat := hpayload ▸ UInt32.le_iff_toNat_le.mp hnpl
  exact Yields.pure ⟨hname, hmajor, hminor, hdependencies.1, hstates, hpreferred.1, hforbidden.1, hrequired,
    hprefer, hanti, htags, hlen⟩

def serializeWorkload (wl : Workload) : List UInt8 := List.flatten [
  putId wl.id,
  putString wl.name,
  putTags wl.userTags]

def deserializeWorkload : Deserializer Workload := do
  let id ← need "workload id" readId
  let name ← needString "workload name"
  let userTags ← needTags "workload tag count" "workload tag"
  pure { id, name, userTags }

/-- The workload is within the limits of `deserialize_workload`. -/
@[mk_iff]
structure Workload.Bounded (wl : Workload) : Prop where
  name : Text.Bounded wl.name
  userTags : BoundedTags wl.userTags

instance (wl : Workload) : Decidable wl.Bounded := decidable_of_iff _ (Workload.bounded_iff wl).symm

theorem reads_deserializeWorkload {wl : Workload} (h : wl.Bounded) :
    Reads deserializeWorkload (serializeWorkload wl) wl := by
  intro rest
  simp [deserializeWorkload, serializeWorkload, Decoder.run_bind, h.name, h.userTags]

/-! ## Attempts -/

def serializeAttempt (a : ExecutionAttempt D) : List UInt8 := List.flatten [
  putId a.id,
  putId a.taskId,
  putId a.nodeId,
  putId a.nodeSession,
  putU64 a.coordinatorEpoch,
  putId a.reservationId,
  putEnum a.executor,
  putU32 a.attemptNumber,
  putI64 a.dispatchedAtMs,
  putI64 a.startedAtMs,
  putI64 a.completedAtMs,
  putEnum a.state,
  putEnum a.failureKind,
  putString a.failureReason,
  putU64 a.outputSize,
  putString a.outputIntegrity,
  putF64 a.cpuMillis,
  putU64 a.bytesTransferred,
  putString a.device,
  putBool a.committed]

def deserializeAttempt : Deserializer (ExecutionAttempt D) := do
  let id ← need "attempt id" readId
  let taskId ← need "attempt task" readId
  let nodeId ← need "attempt node" readId
  let nodeSession ← need "attempt session" readId
  let coordinatorEpoch ← need "attempt epoch" readU64
  let reservationId ← need "attempt reservation" readId
  let executor ← need "attempt executor" readEnum
  let attemptNumber ← need "attempt number" readU32
  let dispatchedAtMs ← need "attempt dispatched" readI64
  let startedAtMs ← need "attempt started" readI64
  let completedAtMs ← need "attempt completed" readI64
  let state ← need "attempt state" readEnum
  let failureKind ← need "attempt failure kind" readEnum
  let failureReason ← needString "attempt fail reason"
  let outputSize ← need "attempt out size" readU64
  let outputIntegrity ← needString "attempt integrity"
  let cpuMillis ← need "attempt cpu ms" readF64
  let bytesTransferred ← need "attempt bytes" readU64
  let device ← needString "attempt device"
  let committed ← need "attempt committed" readBool
  pure {
    id, taskId, nodeId, nodeSession, coordinatorEpoch, reservationId, executor, attemptNumber, dispatchedAtMs,
    startedAtMs, completedAtMs, state, failureKind, failureReason, outputSize, outputIntegrity, cpuMillis,
    bytesTransferred, device, committed }

/-- The attempt is within the limits of `deserialize_attempt`. -/
@[mk_iff]
structure ExecutionAttempt.Bounded {D : Type} (a : ExecutionAttempt D) : Prop where
  failureReason : Text.Bounded a.failureReason
  outputIntegrity : Text.Bounded a.outputIntegrity
  device : Text.Bounded a.device

instance {D : Type} (a : ExecutionAttempt D) : Decidable a.Bounded :=
  decidable_of_iff _ (ExecutionAttempt.bounded_iff a).symm

theorem reads_deserializeAttempt {a : ExecutionAttempt D} (h : a.Bounded) :
    Reads deserializeAttempt (serializeAttempt a) a := by
  intro rest
  simp [deserializeAttempt, serializeAttempt, Decoder.run_bind, h.failureReason, h.outputIntegrity, h.device]

theorem yields_deserializeAttempt : Yields (deserializeAttempt (D := D)) ExecutionAttempt.Bounded := by
  unfold deserializeAttempt
  repeat first
    | refine (yields_needString _).bind fun _ _ => ?_
    | refine (Yields.any _).bind fun _ _ => ?_
  refine Yields.pure ?_
  constructor <;> assumption

/-! ## Placement decisions -/

def serializeCandidate (c : CandidateScore D) : List UInt8 := List.flatten [
  putId c.nodeId,
  putEnum c.executor,
  putString c.device,
  putF64 c.score,
  putF64 c.executionCost,
  putF64 c.queueCost,
  putF64 c.transferCost,
  putF64 c.recomputeCost,
  putF64 c.pressureCost,
  putF64 c.affinityCost,
  putF64 c.capabilityCost,
  putF64 c.stateLocalityScore,
  putF64 c.resourcePressureScore]

def deserializeCandidate : Deserializer (CandidateScore D) := do
  let nodeId ← need "placement cand node" readId
  let executor ← need "placement cand exec" readEnum
  let device ← needString "placement cand device"
  let score ← need "placement cand score" readF64
  let executionCost ← need "placement cand exec cost" readF64
  let queueCost ← need "placement cand queue cost" readF64
  let transferCost ← need "placement cand xfer cost" readF64
  let recomputeCost ← need "placement cand recompute" readF64
  let pressureCost ← need "placement cand pressure" readF64
  let affinityCost ← need "placement cand affinity" readF64
  let capabilityCost ← need "placement cand cap" readF64
  let stateLocalityScore ← need "placement cand locality" readF64
  let resourcePressureScore ← need "placement cand pressure" readF64
  pure {
    nodeId, executor, device, score, executionCost, queueCost, transferCost, recomputeCost, pressureCost,
    affinityCost, capabilityCost, stateLocalityScore, resourcePressureScore }

def serializeExclusion (e : Exclusion) : List UInt8 := List.flatten [
  putId e.nodeId,
  putList putString e.reasons]

def deserializeExclusion : Deserializer Exclusion := do
  let nodeId ← need "placement excl node" readId
  let reasons ← needList "placement excl reason count" (needString "placement excl reason")
  pure { nodeId, reasons }

def serializePlacement (d : PlacementDecision D) : List UInt8 := List.flatten [
  putBool d.feasible,
  putOptional putId d.chosenNode,
  putOptional putEnum d.chosenExecutor,
  putString d.chosenDevice,
  putList serializeCandidate d.candidates,
  putList serializeExclusion d.excluded,
  putF64 d.totalCost,
  putF64 d.executionCost,
  putF64 d.queueCost,
  putF64 d.transferCost,
  putF64 d.recomputeCost,
  putF64 d.pressureCost,
  putF64 d.affinityCost,
  putF64 d.capabilityCost,
  putF64 d.stateLocalityScore,
  putF64 d.resourcePressureScore,
  putString d.reason]

def deserializePlacement : Deserializer (PlacementDecision D) := do
  let feasible ← need "placement feasible" readBool
  let chosenNode ← needOptional "placement node flag" "placement node" readId
  let chosenExecutor ← needOptional "placement exec flag" "placement exec" readEnum
  let chosenDevice ← needString "placement device"
  let candidates ← needList "placement cand count" deserializeCandidate
  let excluded ← needList "placement excl count" deserializeExclusion
  let totalCost ← need "placement total" readF64
  let executionCost ← need "placement exec" readF64
  let queueCost ← need "placement queue" readF64
  let transferCost ← need "placement xfer" readF64
  let recomputeCost ← need "placement recompute" readF64
  let pressureCost ← need "placement pressure" readF64
  let affinityCost ← need "placement affinity" readF64
  let capabilityCost ← need "placement cap" readF64
  let stateLocalityScore ← need "placement locality" readF64
  let resourcePressureScore ← need "placement pressure" readF64
  let reason ← needString "placement reason"
  pure {
    feasible, chosenNode, chosenExecutor, chosenDevice, candidates, excluded, totalCost, executionCost, queueCost,
    transferCost, recomputeCost, pressureCost, affinityCost, capabilityCost, stateLocalityScore,
    resourcePressureScore, reason }

def Exclusion.Bounded (e : Exclusion) : Prop := BoundedList Text.Bounded e.reasons

instance (e : Exclusion) : Decidable e.Bounded := inferInstanceAs (Decidable (BoundedList _ _))

/-- The decision is within the limits of `deserialize_placement`. -/
@[mk_iff]
structure PlacementDecision.Bounded {D : Type} (d : PlacementDecision D) : Prop where
  chosenDevice : Text.Bounded d.chosenDevice
  candidates : BoundedList (fun c : CandidateScore D => Text.Bounded c.device) d.candidates
  excluded : BoundedList Exclusion.Bounded d.excluded
  reason : Text.Bounded d.reason

instance {D : Type} (d : PlacementDecision D) : Decidable d.Bounded :=
  decidable_of_iff _ (PlacementDecision.bounded_iff d).symm

theorem reads_deserializeCandidate {c : CandidateScore D} (h : Text.Bounded c.device) :
    Reads deserializeCandidate (serializeCandidate c) c := by
  intro rest
  simp [deserializeCandidate, serializeCandidate, Decoder.run_bind, h]

theorem reads_deserializeExclusion {e : Exclusion} (h : e.Bounded) :
    Reads deserializeExclusion (serializeExclusion e) e := by
  intro rest
  have hreasons : BoundedList Text.Bounded e.reasons := h
  simp [deserializeExclusion, serializeExclusion, Decoder.run_bind, hreasons]

@[simp] theorem run_deserializePlacement {d : PlacementDecision D} (h : d.Bounded) (rest : List UInt8) :
    deserializePlacement.run (serializePlacement d ++ rest) = .ok (d, rest) := by
  have hcandidates (rest : List UInt8) : (needList "placement cand count" deserializeCandidate).run
      (putList serializeCandidate d.candidates ++ rest) = .ok (d.candidates, rest) :=
    reads_needList _ h.candidates.1 (fun c hc => reads_deserializeCandidate (h.candidates.2 c hc)) rest
  have hexcluded (rest : List UInt8) : (needList "placement excl count" deserializeExclusion).run
      (putList serializeExclusion d.excluded ++ rest) = .ok (d.excluded, rest) :=
    reads_needList _ h.excluded.1 (fun e he => reads_deserializeExclusion (h.excluded.2 e he)) rest
  simp [deserializePlacement, serializePlacement, Decoder.run_bind, hcandidates, hexcluded, h.chosenDevice, h.reason]

theorem yields_deserializePlacement : Yields (deserializePlacement (D := D)) PlacementDecision.Bounded := by
  have hcandidate : Yields (deserializeCandidate (D := D)) fun c => Text.Bounded c.device := by
    unfold deserializeCandidate
    refine (Yields.any _).bind fun nodeId _ => (Yields.any _).bind fun executor _ => ?_
    refine (yields_needString _).bind fun device hdevice => ?_
    repeat refine (Yields.any (need _ _)).bind fun _ _ => ?_
    exact Yields.pure hdevice
  have hexclusion : Yields deserializeExclusion Exclusion.Bounded :=
    (Yields.any _).bind fun nodeId _ =>
      (yields_needList _ (yields_needString _)).bind fun reasons hreasons => Yields.pure hreasons
  unfold deserializePlacement
  refine (Yields.any _).bind fun feasible _ => (Yields.any _).bind fun chosenNode _ => ?_
  refine (Yields.any _).bind fun chosenExecutor _ => ?_
  refine (yields_needString _).bind fun chosenDevice hdevice => ?_
  refine (yields_needList _ hcandidate).bind fun candidates hcandidates => ?_
  refine (yields_needList _ hexclusion).bind fun excluded hexcluded => ?_
  repeat refine (Yields.any (need _ readF64)).bind fun _ _ => ?_
  refine (yields_needString _).bind fun reason hreason => ?_
  exact Yields.pure ⟨hdevice, hcandidates, hexcluded, hreason⟩

/-! A decision that was written is read back or refused, whatever it holds: its parts are no longer than its bytes,
so no length is lost in 32 bits. -/

theorem readsOnly_deserializeCandidate {c : CandidateScore D} (h : (serializeCandidate c).length < 4294967296) :
    ReadsOnly deserializeCandidate (serializeCandidate c) c := by
  have hdevice : c.device.length < 4294967296 := by
    have hput := length_le_putString c.device
    simp only [serializeCandidate, List.flatten_cons, List.length_append] at h
    omega
  unfold deserializeCandidate serializeCandidate
  refine ReadsOnly.cons (reads_need _ (reads_readId _)).readsOnly ?_
  refine ReadsOnly.cons (reads_need _ (reads_readEnum _)).readsOnly ?_
  refine ReadsOnly.cons (readsOnly_needString _ hdevice) ?_
  repeat refine ReadsOnly.cons (reads_need _ (reads_readF64 _)).readsOnly ?_
  exact (Reads.pure c).readsOnly

theorem readsOnly_deserializeExclusion {e : Exclusion} (h : (serializeExclusion e).length < 4294967296) :
    ReadsOnly deserializeExclusion (serializeExclusion e) e := by
  have hlist : (putList putString e.reasons).length < 4294967296 := by
    simp only [serializeExclusion, List.flatten_cons, List.length_append] at h
    omega
  have hcount := length_le_putList putString (fun s => by simp [putString, putU32]) e.reasons
  unfold deserializeExclusion serializeExclusion
  refine ReadsOnly.cons (reads_need _ (reads_readId _)).readsOnly ?_
  refine ReadsOnly.cons (readsOnly_needList _ (by omega) fun r hr => readsOnly_needString _ ?_)
    (Reads.pure e).readsOnly
  have hitem := length_item_le_putList putString hr
  have hlen := length_le_putString r
  omega

theorem readsOnly_deserializePlacement {d : PlacementDecision D} (h : (serializePlacement d).length < 4294967296) :
    ReadsOnly deserializePlacement (serializePlacement d) d := by
  have hparts : (putString d.chosenDevice).length < 4294967296 ∧
      (putList serializeCandidate d.candidates).length < 4294967296 ∧
      (putList serializeExclusion d.excluded).length < 4294967296 ∧ (putString d.reason).length < 4294967296 := by
    simp only [serializePlacement, List.flatten_cons, List.length_append] at h
    omega
  obtain ⟨hdevice, hcandidates, hexcluded, hreason⟩ := hparts
  have hcandidateCount := length_le_putList (serializeCandidate (D := D))
    (fun c => by simp [serializeCandidate, putId, putU64]) d.candidates
  have hexcludedCount := length_le_putList serializeExclusion
    (fun e => by simp [serializeExclusion, putId, putU64]) d.excluded
  unfold deserializePlacement serializePlacement
  refine ReadsOnly.cons (reads_need _ (reads_readBool _)).readsOnly ?_
  refine ReadsOnly.cons (reads_needOptional _ _ reads_readId _).readsOnly ?_
  refine ReadsOnly.cons (reads_needOptional _ _ reads_readEnum _).readsOnly ?_
  refine ReadsOnly.cons (readsOnly_needString _ ((length_le_putString _).trans_lt hdevice)) ?_
  refine ReadsOnly.cons (readsOnly_needList _ (hcandidateCount.trans_lt hcandidates) fun c hc =>
    readsOnly_deserializeCandidate ((length_item_le_putList _ hc).trans_lt hcandidates)) ?_
  refine ReadsOnly.cons (readsOnly_needList _ (hexcludedCount.trans_lt hexcluded) fun e he =>
    readsOnly_deserializeExclusion ((length_item_le_putList _ he).trans_lt hexcluded)) ?_
  repeat refine ReadsOnly.cons (reads_need _ (reads_readF64 _)).readsOnly ?_
  exact ReadsOnly.cons (readsOnly_needString _ ((length_le_putString _).trans_lt hreason)) (Reads.pure d).readsOnly

/-! ## Node capacity -/

def serializeExecutorCap (e : ExecutorCapability D) : List UInt8 := List.flatten [
  putEnum e.type,
  putString e.name,
  putI32 e.slots,
  putI32 e.major,
  putI32 e.minor,
  putString e.vendor,
  putString e.architecture,
  putString e.deviceName,
  putU64 e.deviceMemoryBytes,
  putList putI32 e.deviceIds,
  putF64 e.relativeSpeed,
  putBool e.healthy,
  putBool e.supportsPreemption]

def deserializeExecutorCap : Deserializer (ExecutorCapability D) := do
  let type ← need "executor type" readEnum
  let name ← needString "executor name"
  let slots ← need "executor slots" readI32
  let major ← need "executor major" readI32
  let minor ← need "executor minor" readI32
  let vendor ← needString "executor vendor"
  let architecture ← needString "executor arch"
  let deviceName ← needString "executor device"
  let deviceMemoryBytes ← need "executor mem" readU64
  let deviceIds ← needList "executor device count" (need "executor device id" readI32)
  let relativeSpeed ← need "executor speed" readF64
  let healthy ← need "executor healthy" readBool
  let supportsPreemption ← need "executor preempt" readBool
  pure {
    type, name, slots, major, minor, vendor, architecture, deviceName, deviceMemoryBytes, deviceIds, relativeSpeed,
    healthy, supportsPreemption }

/-- The capability is within the limits of `deserialize_executor_cap`. -/
@[mk_iff]
structure ExecutorCapability.Bounded {D : Type} (e : ExecutorCapability D) : Prop where
  name : Text.Bounded e.name
  vendor : Text.Bounded e.vendor
  architecture : Text.Bounded e.architecture
  deviceName : Text.Bounded e.deviceName
  deviceIds : e.deviceIds.length ≤ maxList.toNat

instance {D : Type} (e : ExecutorCapability D) : Decidable e.Bounded :=
  decidable_of_iff _ (ExecutorCapability.bounded_iff e).symm

theorem reads_deserializeExecutorCap {e : ExecutorCapability D} (h : e.Bounded) :
    Reads deserializeExecutorCap (serializeExecutorCap e) e := by
  intro rest
  have hids (rest : List UInt8) : (needList "executor device count" (need "executor device id" readI32)).run
      (putList putI32 e.deviceIds ++ rest) = .ok (e.deviceIds, rest) :=
    reads_needList _ h.deviceIds (fun id _ => reads_need _ (reads_readI32 id)) rest
  simp [deserializeExecutorCap, serializeExecutorCap, Decoder.run_bind, hids, h.name, h.vendor, h.architecture,
    h.deviceName]

theorem yields_deserializeExecutorCap : Yields (deserializeExecutorCap (D := D)) ExecutorCapability.Bounded := by
  unfold deserializeExecutorCap
  refine (Yields.any _).bind fun type _ => ?_
  refine (yields_needString _).bind fun name hname => ?_
  repeat refine (Yields.any (need _ readI32)).bind fun _ _ => ?_
  refine (yields_needString _).bind fun vendor hvendor => ?_
  refine (yields_needString _).bind fun architecture harchitecture => ?_
  refine (yields_needString _).bind fun deviceName hdevice => ?_
  refine (Yields.any _).bind fun deviceMemoryBytes _ => ?_
  refine (yields_needList _ (Yields.any _)).bind fun deviceIds hids => ?_
  repeat refine (Yields.any (need _ _)).bind fun _ _ => ?_
  exact Yields.pure ⟨hname, hvendor, harchitecture, hdevice, hids.1⟩

def serializeCapacity (c : NodeCapacity D) : List UInt8 := List.flatten [
  putI32 c.cpuWorkerSlots,
  putU64 c.hostMemorySchedulingBytes,
  putList serializeExecutorCap c.executors,
  putTags c.tags,
  putString c.address,
  putString c.label]

def deserializeCapacity : Deserializer (NodeCapacity D) := do
  let cpuWorkerSlots ← need "capacity cpu slots" readI32
  let hostMemorySchedulingBytes ← need "capacity mem" readU64
  let executors ← needList "capacity executors" deserializeExecutorCap
  let tags ← needTags "capacity tags" "capacity tag"
  let address ← needString "capacity address"
  let label ← needString "capacity label"
  pure { cpuWorkerSlots, hostMemorySchedulingBytes, executors, tags, address, label }

/-- The capacity is within the limits of `deserialize_capacity`. -/
@[mk_iff]
structure NodeCapacity.Bounded {D : Type} (c : NodeCapacity D) : Prop where
  executors : BoundedList ExecutorCapability.Bounded c.executors
  tags : BoundedTags c.tags
  address : Text.Bounded c.address
  label : Text.Bounded c.label

instance {D : Type} (c : NodeCapacity D) : Decidable c.Bounded :=
  decidable_of_iff _ (NodeCapacity.bounded_iff c).symm

@[simp] theorem run_deserializeCapacity {c : NodeCapacity D} (h : c.Bounded) (rest : List UInt8) :
    deserializeCapacity.run (serializeCapacity c ++ rest) = .ok (c, rest) := by
  have hexecutors (rest : List UInt8) : (needList "capacity executors" deserializeExecutorCap).run
      (putList serializeExecutorCap c.executors ++ rest) = .ok (c.executors, rest) :=
    reads_needList _ h.executors.1 (fun e he => reads_deserializeExecutorCap (h.executors.2 e he)) rest
  simp [deserializeCapacity, serializeCapacity, Decoder.run_bind, hexecutors, h.tags, h.address, h.label]

theorem yields_deserializeCapacity : Yields (deserializeCapacity (D := D)) NodeCapacity.Bounded := by
  unfold deserializeCapacity
  refine (Yields.any _).bind fun slots _ => (Yields.any _).bind fun memory _ => ?_
  refine (yields_needList _ yields_deserializeExecutorCap).bind fun executors hexecutors => ?_
  refine (yields_needTags _ _).bind fun tags htags => ?_
  refine (yields_needString _).bind fun address haddress => ?_
  refine (yields_needString _).bind fun label hlabel => ?_
  exact Yields.pure ⟨hexecutors, htags, haddress, hlabel⟩

end ComputeFabric
