import ComputeFabric.Protocol.Messages
import ComputeFabric.Protocol.Serialize

/-!
# `Protocol.MessageCodec` — the wire form of the control messages

The `serialize` and `deserialize_…` functions of `messages.cpp`. A `RecordCodec` holds the two functions of one
message, each a transcript of the source, with the limits its deserializer checks and the two laws they obey:
a value within the limits is read back from its bytes whatever follows them, and whatever is read is within the
limits. Every message type of the protocol has one, which is the whole of `message_codec`.
-/

namespace ComputeFabric

open Codec

/-- The serializer and the deserializer of one record. -/
structure RecordCodec (X : Type) where
  serialize : X → List UInt8
  deserialize : Deserializer X
  Bounded : X → Prop
  reads : ∀ x, Bounded x → Reads deserialize (serialize x) x
  yields : Yields deserialize Bounded

/-- A counted list of records. -/
@[simp] theorem run_needRecords {X : Type} {c : RecordCodec X} (what : String) {xs : List X}
    (h : BoundedList c.Bounded xs) (rest : List UInt8) :
    (needList what c.deserialize).run (putList c.serialize xs ++ rest) = .ok (xs, rest) :=
  reads_needList what h.1 (fun x hx => c.reads x (h.2 x hx)) rest

variable {D : Type} [DoubleBits D]

/-- `serialize_attempt` and `deserialize_attempt`. -/
def attemptCodec : RecordCodec (ExecutionAttempt D) where
  serialize := serializeAttempt
  deserialize := deserializeAttempt
  Bounded := ExecutionAttempt.Bounded
  reads _ h := reads_deserializeAttempt h
  yields := yields_deserializeAttempt

/-! ## Hello and registration -/

def Hello.codec : RecordCodec Hello where
  serialize m := List.flatten [
    putU16 m.protocolVersion,
    putString m.role]
  deserialize := do
    let protocolVersion ← need "hello version" readU16
    let role ← needString "hello role"
    pure { protocolVersion, role }
  Bounded m := Text.Bounded m.role
  reads m h := by
    intro rest
    have hrole : Text.Bounded m.role := h
    simp [Decoder.run_bind, hrole]
  yields := (Yields.any _).bind fun _ _ => (yields_needString _).bind fun _ hrole => Yields.pure hrole

def NodeRegister.codec : RecordCodec (NodeRegister D) where
  serialize m := List.flatten [
    putId m.nodeId,
    putString m.label,
    putString m.address,
    serializeCapacity m.capacity]
  deserialize := do
    let nodeId ← need "register node id" readId
    let label ← needString "register label"
    let address ← needString "register address"
    let capacity ← deserializeCapacity
    pure { nodeId, label, address, capacity }
  Bounded m := Text.Bounded m.label ∧ Text.Bounded m.address ∧ m.capacity.Bounded
  reads m h := by
    intro rest
    obtain ⟨hlabel, haddress, hcapacity⟩ := h
    simp [Decoder.run_bind, hlabel, haddress, hcapacity]
  yields := (Yields.any _).bind fun _ _ => (yields_needString _).bind fun _ hlabel =>
    (yields_needString _).bind fun _ haddress => (yields_deserializeCapacity).bind fun _ hcapacity =>
    Yields.pure ⟨hlabel, haddress, hcapacity⟩

def NodeRegisterAck.codec : RecordCodec NodeRegisterAck where
  serialize m := List.flatten [
    putId m.nodeId,
    putId m.sessionId,
    putU64 m.coordinatorEpoch,
    putU64 m.sessionEpoch,
    putString m.error]
  deserialize := do
    let nodeId ← need "ack node id" readId
    let sessionId ← need "ack session id" readId
    let coordinatorEpoch ← need "ack epoch" readU64
    let sessionEpoch ← need "ack session epoch" readU64
    let error ← needString "ack error"
    pure { nodeId, sessionId, coordinatorEpoch, sessionEpoch, error }
  Bounded m := Text.Bounded m.error
  reads m h := by
    intro rest
    have herror : Text.Bounded m.error := h
    simp [Decoder.run_bind, herror]
  yields := (Yields.any _).bind fun _ _ => (Yields.any _).bind fun _ _ => (Yields.any _).bind fun _ _ =>
    (Yields.any _).bind fun _ _ => (yields_needString _).bind fun _ herror => Yields.pure herror

/-! ## Heartbeat and node shutdown -/

def ExecutorRuntimeSnapshot.codec : RecordCodec ExecutorRuntimeSnapshot where
  serialize m := List.flatten [
    putString m.name,
    putU32 m.active]
  deserialize := do
    let name ← needString "hb exec name"
    let active ← need "hb exec active" readU32
    pure { name, active }
  Bounded m := Text.Bounded m.name
  reads m h := by
    intro rest
    have hname : Text.Bounded m.name := h
    simp [Decoder.run_bind, hname]
  yields := (yields_needString _).bind fun _ hname => (Yields.any _).bind fun _ _ => Yields.pure hname

def NodeHeartbeat.codec : RecordCodec NodeHeartbeat where
  serialize m := List.flatten [
    putId m.nodeId,
    putId m.sessionId,
    putU64 m.sessionEpoch,
    putU64 m.coordinatorEpoch,
    putU32 m.activeCpuSlots,
    putU32 m.activeGpuSlots,
    putList ExecutorRuntimeSnapshot.codec.serialize m.executors]
  deserialize := do
    let nodeId ← need "hb node id" readId
    let sessionId ← need "hb session id" readId
    let sessionEpoch ← need "hb session epoch" readU64
    let coordinatorEpoch ← need "hb epoch" readU64
    let activeCpuSlots ← need "hb cpu" readU32
    let activeGpuSlots ← need "hb gpu" readU32
    let executors ← needList "hb executors" ExecutorRuntimeSnapshot.codec.deserialize
    pure { nodeId, sessionId, sessionEpoch, coordinatorEpoch, activeCpuSlots, activeGpuSlots, executors }
  Bounded m := BoundedList ExecutorRuntimeSnapshot.codec.Bounded m.executors
  reads m h := by
    intro rest
    have hexecutors : BoundedList ExecutorRuntimeSnapshot.codec.Bounded m.executors := h
    simp [Decoder.run_bind, hexecutors]
  yields := (Yields.any _).bind fun _ _ => (Yields.any _).bind fun _ _ => (Yields.any _).bind fun _ _ =>
    (Yields.any _).bind fun _ _ => (Yields.any _).bind fun _ _ => (Yields.any _).bind fun _ _ =>
    (yields_needList _ ExecutorRuntimeSnapshot.codec.yields).bind fun _ hexecutors => Yields.pure hexecutors

def NodeHeartbeatAck.codec : RecordCodec NodeHeartbeatAck where
  serialize m := List.flatten [
    putBool m.accepted,
    putString m.error]
  deserialize := do
    let accepted ← need "hb ack accepted" readBool
    let error ← needString "hb ack error"
    pure { accepted, error }
  Bounded m := Text.Bounded m.error
  reads m h := by
    intro rest
    have herror : Text.Bounded m.error := h
    simp [Decoder.run_bind, herror]
  yields := (Yields.any _).bind fun _ _ => (yields_needString _).bind fun _ herror => Yields.pure herror

def NodeShutdown.codec : RecordCodec NodeShutdown where
  serialize m := List.flatten [
    putId m.nodeId,
    putId m.sessionId]
  deserialize := do
    let nodeId ← need "shutdown node id" readId
    let sessionId ← need "shutdown session id" readId
    pure { nodeId, sessionId }
  Bounded _ := True
  reads m h := by
    intro rest
    simp [Decoder.run_bind]
  yields := Yields.any _

def NodeShutdownAck.codec : RecordCodec NodeShutdownAck where
  serialize m := List.flatten [
    putBool m.accepted]
  deserialize := do
    let accepted ← need "shutdown ack" readBool
    pure { accepted }
  Bounded _ := True
  reads m h := by
    intro rest
    simp [Decoder.run_bind]
  yields := Yields.any _

/-! ## Tasks -/

def TaskSubmit.codec : RecordCodec (TaskSubmit D) where
  serialize m := List.flatten [
    putId m.workloadId,
    putString m.workloadName,
    serializeTask m.task]
  deserialize := do
    let workloadId ← need "submit workload" readId
    let workloadName ← needString "submit workload name"
    let task ← deserializeTask
    pure { workloadId, workloadName, task }
  Bounded m := Text.Bounded m.workloadName ∧ m.task.Bounded
  reads m h := by
    intro rest
    obtain ⟨hworkloadName, htask⟩ := h
    simp [Decoder.run_bind, hworkloadName, htask]
  yields := (Yields.any _).bind fun _ _ => (yields_needString _).bind fun _ hworkloadName =>
    (yields_deserializeTask).bind fun _ htask => Yields.pure ⟨hworkloadName, htask⟩

def TaskSubmitResponse.codec : RecordCodec TaskSubmitResponse where
  serialize m := List.flatten [
    putBool m.accepted,
    putId m.taskId,
    putString m.error]
  deserialize := do
    let accepted ← need "submit resp accepted" readBool
    let taskId ← need "submit resp task" readId
    let error ← needString "submit resp error"
    pure { accepted, taskId, error }
  Bounded m := Text.Bounded m.error
  reads m h := by
    intro rest
    have herror : Text.Bounded m.error := h
    simp [Decoder.run_bind, herror]
  yields := (Yields.any _).bind fun _ _ => (Yields.any _).bind fun _ _ =>
    (yields_needString _).bind fun _ herror => Yields.pure herror

def TaskInspect.codec : RecordCodec TaskInspect where
  serialize m := List.flatten [
    putId m.taskId]
  deserialize := do
    let taskId ← need "inspect task id" readId
    pure { taskId }
  Bounded _ := True
  reads m h := by
    intro rest
    simp [Decoder.run_bind]
  yields := Yields.any _

def TaskInspectResponse.codec : RecordCodec (TaskInspectResponse D) where
  serialize m := List.flatten [
    putBool m.found,
    putId m.taskId,
    putString m.name,
    putEnum m.taskClass,
    putEnum m.state,
    putString m.error,
    putList attemptCodec.serialize m.attempts,
    putU32 m.retryCount,
    putString m.workloadIdHex]
  deserialize := do
    let found ← need "inspect found" readBool
    let taskId ← need "inspect task id" readId
    let name ← needString "inspect name"
    let taskClass ← need "inspect class" readEnum
    let state ← need "inspect state" readEnum
    let error ← needString "inspect error"
    let attempts ← needList "inspect attempts" attemptCodec.deserialize
    let retryCount ← need "inspect retry" readU32
    let workloadIdHex ← needString "inspect workload"
    pure { found, taskId, name, taskClass, state, error, attempts, retryCount, workloadIdHex }
  Bounded m :=
    Text.Bounded m.name ∧ Text.Bounded m.error ∧ BoundedList attemptCodec.Bounded m.attempts ∧
    Text.Bounded m.workloadIdHex
  reads m h := by
    intro rest
    obtain ⟨hname, herror, hattempts, hworkloadIdHex⟩ := h
    simp [Decoder.run_bind, hname, herror, hattempts, hworkloadIdHex]
  yields := (Yields.any _).bind fun _ _ => (Yields.any _).bind fun _ _ =>
    (yields_needString _).bind fun _ hname => (Yields.any _).bind fun _ _ => (Yields.any _).bind fun _ _ =>
    (yields_needString _).bind fun _ herror => (yields_needList _ attemptCodec.yields).bind fun _ hattempts =>
    (Yields.any _).bind fun _ _ => (yields_needString _).bind fun _ hworkloadIdHex =>
    Yields.pure ⟨hname, herror, hattempts, hworkloadIdHex⟩

def TaskList.codec : RecordCodec TaskList where
  serialize m := List.flatten [
    putString m.filterState]
  deserialize := do
    let filterState ← needString "task list filter"
    pure { filterState }
  Bounded m := Text.Bounded m.filterState
  reads m h := by
    intro rest
    have hfilterState : Text.Bounded m.filterState := h
    simp [Decoder.run_bind, hfilterState]
  yields := (yields_needString _).bind fun _ hfilterState => Yields.pure hfilterState

def TaskListEntry.codec : RecordCodec TaskListEntry where
  serialize m := List.flatten [
    putId m.taskId,
    putString m.name,
    putEnum m.state,
    putEnum m.taskClass,
    putEnum m.priority]
  deserialize := do
    let taskId ← need "list entry id" readId
    let name ← needString "list entry name"
    let state ← need "list entry state" readEnum
    let taskClass ← need "list entry state" readEnum
    let priority ← need "list entry state" readEnum
    pure { taskId, name, state, taskClass, priority }
  Bounded m := Text.Bounded m.name
  reads m h := by
    intro rest
    have hname : Text.Bounded m.name := h
    simp [Decoder.run_bind, hname]
  yields := (Yields.any _).bind fun _ _ => (yields_needString _).bind fun _ hname =>
    (Yields.any _).bind fun _ _ => (Yields.any _).bind fun _ _ => (Yields.any _).bind fun _ _ =>
    Yields.pure hname

def TaskListResponse.codec : RecordCodec TaskListResponse where
  serialize m := List.flatten [
    putList TaskListEntry.codec.serialize m.tasks]
  deserialize := do
    let tasks ← needList "list resp count" TaskListEntry.codec.deserialize
    pure { tasks }
  Bounded m := BoundedList TaskListEntry.codec.Bounded m.tasks
  reads m h := by
    intro rest
    have htasks : BoundedList TaskListEntry.codec.Bounded m.tasks := h
    simp [Decoder.run_bind, htasks]
  yields := (yields_needList _ TaskListEntry.codec.yields).bind fun _ htasks => Yields.pure htasks

def TaskCancel.codec : RecordCodec TaskCancel where
  serialize m := List.flatten [
    putId m.taskId]
  deserialize := do
    let taskId ← need "cancel task id" readId
    pure { taskId }
  Bounded _ := True
  reads m h := by
    intro rest
    simp [Decoder.run_bind]
  yields := Yields.any _

def TaskCancelResponse.codec : RecordCodec TaskCancelResponse where
  serialize m := List.flatten [
    putBool m.found,
    putBool m.cancelled,
    putString m.error]
  deserialize := do
    let found ← need "cancel found" readBool
    let cancelled ← need "cancel flag" readBool
    let error ← needString "cancel error"
    pure { found, cancelled, error }
  Bounded m := Text.Bounded m.error
  reads m h := by
    intro rest
    have herror : Text.Bounded m.error := h
    simp [Decoder.run_bind, herror]
  yields := (Yields.any _).bind fun _ _ => (Yields.any _).bind fun _ _ =>
    (yields_needString _).bind fun _ herror => Yields.pure herror

/-! ## Workloads, status and nodes -/

def WorkloadInspect.codec : RecordCodec WorkloadInspect where
  serialize m := List.flatten [
    putId m.workloadId]
  deserialize := do
    let workloadId ← need "workload inspect id" readId
    pure { workloadId }
  Bounded _ := True
  reads m h := by
    intro rest
    simp [Decoder.run_bind]
  yields := Yields.any _

def WorkloadInspectResponse.codec : RecordCodec WorkloadInspectResponse where
  serialize m := List.flatten [
    putBool m.found,
    putId m.workloadId,
    putString m.name,
    putList TaskListEntry.codec.serialize m.tasks,
    putString m.error]
  deserialize := do
    let found ← need "workload found" readBool
    let workloadId ← need "workload id" readId
    let name ← needString "workload name"
    let tasks ← needList "workload tasks" TaskListEntry.codec.deserialize
    let error ← needString "workload error"
    pure { found, workloadId, name, tasks, error }
  Bounded m := Text.Bounded m.name ∧ BoundedList TaskListEntry.codec.Bounded m.tasks ∧ Text.Bounded m.error
  reads m h := by
    intro rest
    obtain ⟨hname, htasks, herror⟩ := h
    simp [Decoder.run_bind, hname, htasks, herror]
  yields := (Yields.any _).bind fun _ _ => (Yields.any _).bind fun _ _ =>
    (yields_needString _).bind fun _ hname =>
    (yields_needList _ TaskListEntry.codec.yields).bind fun _ htasks =>
    (yields_needString _).bind fun _ herror => Yields.pure ⟨hname, htasks, herror⟩

def FabricStatus.codec : RecordCodec FabricStatus where
  serialize m := List.flatten [
    putString m.detail]
  deserialize := do
    let detail ← needString "fabric detail"
    pure { detail }
  Bounded m := Text.Bounded m.detail
  reads m h := by
    intro rest
    have hdetail : Text.Bounded m.detail := h
    simp [Decoder.run_bind, hdetail]
  yields := (yields_needString _).bind fun _ hdetail => Yields.pure hdetail

def NodeStatusEntry.codec : RecordCodec NodeStatusEntry where
  serialize m := List.flatten [
    putId m.nodeId,
    putString m.label,
    putString m.address,
    putEnum m.health,
    putBool m.connected,
    putU32 m.cpuSlots,
    putU32 m.cpuUsed,
    putU64 m.sessionEpoch,
    putList putString m.executors]
  deserialize := do
    let nodeId ← need "node status id" readId
    let label ← needString "node status label"
    let address ← needString "node status address"
    let health ← need "node status health" readEnum
    let connected ← need "node status connected" readBool
    let cpuSlots ← need "node status cpu slots" readU32
    let cpuUsed ← need "node status cpu used" readU32
    let sessionEpoch ← need "node status session epoch" readU64
    let executors ← needList "node status executors" (needString "node status executor")
    pure { nodeId, label, address, health, connected, cpuSlots, cpuUsed, sessionEpoch, executors }
  Bounded m := Text.Bounded m.label ∧ Text.Bounded m.address ∧ BoundedList Text.Bounded m.executors
  reads m h := by
    intro rest
    obtain ⟨hlabel, haddress, hexecutors⟩ := h
    simp [Decoder.run_bind, hlabel, haddress, hexecutors]
  yields := (Yields.any _).bind fun _ _ => (yields_needString _).bind fun _ hlabel =>
    (yields_needString _).bind fun _ haddress => (Yields.any _).bind fun _ _ => (Yields.any _).bind fun _ _ =>
    (Yields.any _).bind fun _ _ => (Yields.any _).bind fun _ _ => (Yields.any _).bind fun _ _ =>
    (yields_needList _ (yields_needString _)).bind fun _ hexecutors =>
    Yields.pure ⟨hlabel, haddress, hexecutors⟩

def FabricStatusResponse.codec : RecordCodec FabricStatusResponse where
  serialize m := List.flatten [
    putU64 m.coordinatorEpoch,
    putString m.policy,
    putU32 m.nodeCount,
    putU32 m.taskCount,
    putU32 m.runningCount,
    putU32 m.reservedCount,
    putU32 m.completedCount,
    putList NodeStatusEntry.codec.serialize m.nodes,
    putString m.error]
  deserialize := do
    let coordinatorEpoch ← need "status epoch" readU64
    let policy ← needString "status policy"
    let nodeCount ← need "status nodes" readU32
    let taskCount ← need "status tasks" readU32
    let runningCount ← need "status running" readU32
    let reservedCount ← need "status reserved" readU32
    let completedCount ← need "status completed" readU32
    let nodes ← needList "status node list" NodeStatusEntry.codec.deserialize
    let error ← needString "status error"
    pure {
      coordinatorEpoch, policy, nodeCount, taskCount, runningCount, reservedCount, completedCount, nodes,
      error }
  Bounded m :=
    Text.Bounded m.policy ∧ BoundedList NodeStatusEntry.codec.Bounded m.nodes ∧ Text.Bounded m.error
  reads m h := by
    intro rest
    obtain ⟨hpolicy, hnodes, herror⟩ := h
    simp [Decoder.run_bind, hpolicy, hnodes, herror]
  yields := (Yields.any _).bind fun _ _ => (yields_needString _).bind fun _ hpolicy =>
    (Yields.any _).bind fun _ _ => (Yields.any _).bind fun _ _ => (Yields.any _).bind fun _ _ =>
    (Yields.any _).bind fun _ _ => (Yields.any _).bind fun _ _ =>
    (yields_needList _ NodeStatusEntry.codec.yields).bind fun _ hnodes =>
    (yields_needString _).bind fun _ herror => Yields.pure ⟨hpolicy, hnodes, herror⟩

def PlacementQuery.codec : RecordCodec (PlacementQuery D) where
  serialize m := List.flatten [
    serializeTask m.task]
  deserialize := do
    let task ← deserializeTask
    pure { task }
  Bounded m := m.task.Bounded
  reads m h := by
    intro rest
    have htask : m.task.Bounded := h
    simp [Decoder.run_bind, htask]
  yields := (yields_deserializeTask).bind fun _ htask => Yields.pure htask

def PlacementResponse.codec : RecordCodec (PlacementResponse D) where
  serialize m := List.flatten [
    putBool m.found,
    serializePlacement m.decision,
    putString m.error]
  deserialize := do
    let found ← need "placement found" readBool
    let decision ← deserializePlacement
    let error ← needString "placement error"
    pure { found, decision, error }
  Bounded m := m.decision.Bounded ∧ Text.Bounded m.error
  reads m h := by
    intro rest
    obtain ⟨hdecision, herror⟩ := h
    simp [Decoder.run_bind, hdecision, herror]
  yields := (Yields.any _).bind fun _ _ => (yields_deserializePlacement).bind fun _ hdecision =>
    (yields_needString _).bind fun _ herror => Yields.pure ⟨hdecision, herror⟩

def NodeList.codec : RecordCodec NodeList where
  serialize _ := []
  deserialize := pure {}
  Bounded _ := True
  reads _ _ := Reads.pure _
  yields := Yields.any _

def NodeListResponse.codec : RecordCodec NodeListResponse where
  serialize m := List.flatten [
    putList NodeStatusEntry.codec.serialize m.nodes]
  deserialize := do
    let nodes ← needList "node list count" NodeStatusEntry.codec.deserialize
    pure { nodes }
  Bounded m := BoundedList NodeStatusEntry.codec.Bounded m.nodes
  reads m h := by
    intro rest
    have hnodes : BoundedList NodeStatusEntry.codec.Bounded m.nodes := h
    simp [Decoder.run_bind, hnodes]
  yields := (yields_needList _ NodeStatusEntry.codec.yields).bind fun _ hnodes => Yields.pure hnodes

def NodeDrain.codec : RecordCodec NodeDrain where
  serialize m := List.flatten [
    putId m.nodeId,
    putBool m.drain]
  deserialize := do
    let nodeId ← need "drain node id" readId
    let drain ← need "drain flag" readBool
    pure { nodeId, drain }
  Bounded _ := True
  reads m h := by
    intro rest
    simp [Decoder.run_bind]
  yields := Yields.any _

def NodeDrainResponse.codec : RecordCodec NodeDrainResponse where
  serialize m := List.flatten [
    putBool m.found,
    putBool m.accepted,
    putString m.error]
  deserialize := do
    let found ← need "drain found" readBool
    let accepted ← need "drain accepted" readBool
    let error ← needString "drain error"
    pure { found, accepted, error }
  Bounded m := Text.Bounded m.error
  reads m h := by
    intro rest
    have herror : Text.Bounded m.error := h
    simp [Decoder.run_bind, herror]
  yields := (Yields.any _).bind fun _ _ => (Yields.any _).bind fun _ _ =>
    (yields_needString _).bind fun _ herror => Yields.pure herror

def CoordinatorShutdown.codec : RecordCodec CoordinatorShutdown where
  serialize _ := []
  deserialize := pure {}
  Bounded _ := True
  reads _ _ := Reads.pure _
  yields := Yields.any _

def CoordinatorShutdownResponse.codec : RecordCodec CoordinatorShutdownResponse where
  serialize m := List.flatten [
    putBool m.accepted,
    putString m.error]
  deserialize := do
    let accepted ← need "cood shutdown accepted" readBool
    let error ← needString "coor shutdown error"
    pure { accepted, error }
  Bounded m := Text.Bounded m.error
  reads m h := by
    intro rest
    have herror : Text.Bounded m.error := h
    simp [Decoder.run_bind, herror]
  yields := (Yields.any _).bind fun _ _ => (yields_needString _).bind fun _ herror => Yields.pure herror

/-! ## Dispatch and attempts -/

def DispatchAttempt.codec : RecordCodec (DispatchAttempt D) where
  serialize m := List.flatten [
    serializeTask m.task,
    putId m.attemptId,
    putId m.reservationId,
    putU64 m.coordinatorEpoch,
    putU32 m.attemptNumber]
  deserialize := do
    let task ← deserializeTask
    let attemptId ← need "dispatch attempt id" readId
    let reservationId ← need "dispatch reservation" readId
    let coordinatorEpoch ← need "dispatch epoch" readU64
    let attemptNumber ← need "dispatch attempt num" readU32
    pure { task, attemptId, reservationId, coordinatorEpoch, attemptNumber }
  Bounded m := m.task.Bounded
  reads m h := by
    intro rest
    have htask : m.task.Bounded := h
    simp [Decoder.run_bind, htask]
  yields := (yields_deserializeTask).bind fun _ htask => (Yields.any _).bind fun _ _ =>
    (Yields.any _).bind fun _ _ => (Yields.any _).bind fun _ _ => (Yields.any _).bind fun _ _ =>
    Yields.pure htask

def DispatchAck.codec : RecordCodec DispatchAck where
  serialize m := List.flatten [
    putId m.attemptId,
    putBool m.accepted,
    putString m.error]
  deserialize := do
    let attemptId ← need "dispatch ack id" readId
    let accepted ← need "dispatch ack flag" readBool
    let error ← needString "dispatch ack error"
    pure { attemptId, accepted, error }
  Bounded m := Text.Bounded m.error
  reads m h := by
    intro rest
    have herror : Text.Bounded m.error := h
    simp [Decoder.run_bind, herror]
  yields := (Yields.any _).bind fun _ _ => (Yields.any _).bind fun _ _ =>
    (yields_needString _).bind fun _ herror => Yields.pure herror

def AttemptStarted.codec : RecordCodec AttemptStarted where
  serialize m := List.flatten [
    putId m.attemptId,
    putI64 m.startedAtMs,
    putString m.device]
  deserialize := do
    let attemptId ← need "started id" readId
    let startedAtMs ← need "started at" readI64
    let device ← needString "started device"
    pure { attemptId, startedAtMs, device }
  Bounded m := Text.Bounded m.device
  reads m h := by
    intro rest
    have hdevice : Text.Bounded m.device := h
    simp [Decoder.run_bind, hdevice]
  yields := (Yields.any _).bind fun _ _ => (Yields.any _).bind fun _ _ =>
    (yields_needString _).bind fun _ hdevice => Yields.pure hdevice

def AttemptProgress.codec : RecordCodec AttemptProgress where
  serialize m := List.flatten [
    putId m.attemptId,
    putU32 m.percent]
  deserialize := do
    let attemptId ← need "progress id" readId
    let percent ← need "progress pct" readU32
    pure { attemptId, percent }
  Bounded _ := True
  reads m h := by
    intro rest
    simp [Decoder.run_bind]
  yields := Yields.any _

def AttemptComplete.codec : RecordCodec (AttemptComplete D) where
  serialize m := List.flatten [
    putId m.attemptId,
    putId m.taskId,
    putId m.reservationId,
    putU64 m.coordinatorEpoch,
    putU8 m.resultCode,
    putU64 m.outputSize,
    putString m.outputIntegrity,
    putF64 m.durationMs,
    putF64 m.cpuMillis,
    putU64 m.bytesTransferred,
    putString m.device,
    putList putString m.notes]
  deserialize := do
    let attemptId ← need "complete id" readId
    let taskId ← need "complete task" readId
    let reservationId ← need "complete resv" readId
    let coordinatorEpoch ← need "complete epoch" readU64
    let resultCode ← need "complete code" readU8
    let outputSize ← need "complete size" readU64
    let outputIntegrity ← needString "complete integrity"
    let durationMs ← need "complete duration" readF64
    let cpuMillis ← need "complete cpu" readF64
    let bytesTransferred ← need "complete bytes" readU64
    let device ← needString "complete device"
    let notes ← needList "complete notes" (needString "complete note")
    pure {
      attemptId, taskId, reservationId, coordinatorEpoch, resultCode, outputSize, outputIntegrity,
      durationMs, cpuMillis, bytesTransferred, device, notes }
  Bounded m := Text.Bounded m.outputIntegrity ∧ Text.Bounded m.device ∧ BoundedList Text.Bounded m.notes
  reads m h := by
    intro rest
    obtain ⟨houtputIntegrity, hdevice, hnotes⟩ := h
    simp [Decoder.run_bind, houtputIntegrity, hdevice, hnotes]
  yields := (Yields.any _).bind fun _ _ => (Yields.any _).bind fun _ _ => (Yields.any _).bind fun _ _ =>
    (Yields.any _).bind fun _ _ => (Yields.any _).bind fun _ _ => (Yields.any _).bind fun _ _ =>
    (yields_needString _).bind fun _ houtputIntegrity => (Yields.any _).bind fun _ _ =>
    (Yields.any _).bind fun _ _ => (Yields.any _).bind fun _ _ => (yields_needString _).bind fun _ hdevice =>
    (yields_needList _ (yields_needString _)).bind fun _ hnotes =>
    Yields.pure ⟨houtputIntegrity, hdevice, hnotes⟩

def AttemptFailed.codec : RecordCodec (AttemptFailed D) where
  serialize m := List.flatten [
    putId m.attemptId,
    putId m.taskId,
    putId m.reservationId,
    putU64 m.coordinatorEpoch,
    putU8 m.failureKind,
    putString m.failureReason,
    putF64 m.durationMs]
  deserialize := do
    let attemptId ← need "fail id" readId
    let taskId ← need "fail task" readId
    let reservationId ← need "fail resv" readId
    let coordinatorEpoch ← need "fail epoch" readU64
    let failureKind ← need "fail kind" readU8
    let failureReason ← needString "fail reason"
    let durationMs ← need "fail duration" readF64
    pure { attemptId, taskId, reservationId, coordinatorEpoch, failureKind, failureReason, durationMs }
  Bounded m := Text.Bounded m.failureReason
  reads m h := by
    intro rest
    have hfailureReason : Text.Bounded m.failureReason := h
    simp [Decoder.run_bind, hfailureReason]
  yields := (Yields.any _).bind fun _ _ => (Yields.any _).bind fun _ _ => (Yields.any _).bind fun _ _ =>
    (Yields.any _).bind fun _ _ => (Yields.any _).bind fun _ _ =>
    (yields_needString _).bind fun _ hfailureReason => (Yields.any _).bind fun _ _ => Yields.pure hfailureReason

def AttemptCancelled.codec : RecordCodec AttemptCancelled where
  serialize m := List.flatten [
    putId m.attemptId,
    putId m.taskId,
    putId m.reservationId,
    putU64 m.coordinatorEpoch,
    putString m.reason]
  deserialize := do
    let attemptId ← need "cancelled id" readId
    let taskId ← need "cancelled task" readId
    let reservationId ← need "cancelled resv" readId
    let coordinatorEpoch ← need "cancelled epoch" readU64
    let reason ← needString "cancelled reason"
    pure { attemptId, taskId, reservationId, coordinatorEpoch, reason }
  Bounded m := Text.Bounded m.reason
  reads m h := by
    intro rest
    have hreason : Text.Bounded m.reason := h
    simp [Decoder.run_bind, hreason]
  yields := (Yields.any _).bind fun _ _ => (Yields.any _).bind fun _ _ => (Yields.any _).bind fun _ _ =>
    (Yields.any _).bind fun _ _ => (yields_needString _).bind fun _ hreason => Yields.pure hreason

def AttemptCancel.codec : RecordCodec AttemptCancel where
  serialize m := List.flatten [
    putId m.attemptId,
    putString m.reason]
  deserialize := do
    let attemptId ← need "cancel attempt id" readId
    let reason ← needString "cancel attempt reason"
    pure { attemptId, reason }
  Bounded m := Text.Bounded m.reason
  reads m h := by
    intro rest
    have hreason : Text.Bounded m.reason := h
    simp [Decoder.run_bind, hreason]
  yields := (Yields.any _).bind fun _ _ => (yields_needString _).bind fun _ hreason => Yields.pure hreason

def AttemptCancelAck.codec : RecordCodec AttemptCancelAck where
  serialize m := List.flatten [
    putId m.attemptId,
    putBool m.accepted]
  deserialize := do
    let attemptId ← need "cancel ack id" readId
    let accepted ← need "cancel ack flag" readBool
    pure { attemptId, accepted }
  Bounded _ := True
  reads m h := by
    intro rest
    simp [Decoder.run_bind]
  yields := Yields.any _

def AttemptAck.codec : RecordCodec AttemptAck where
  serialize m := List.flatten [
    putId m.attemptId,
    putBool m.accepted,
    putString m.error]
  deserialize := do
    let attemptId ← need "ack id" readId
    let accepted ← need "ack flag" readBool
    let error ← needString "ack error"
    pure { attemptId, accepted, error }
  Bounded m := Text.Bounded m.error
  reads m h := by
    intro rest
    have herror : Text.Bounded m.error := h
    simp [Decoder.run_bind, herror]
  yields := (Yields.any _).bind fun _ _ => (Yields.any _).bind fun _ _ =>
    (yields_needString _).bind fun _ herror => Yields.pure herror

/-! ## Reservations and errors -/

def ReservationGrant.codec : RecordCodec ReservationGrant where
  serialize m := List.flatten [
    putId m.reservationId,
    putId m.taskId,
    putEnum m.executor,
    putU32 m.slots]
  deserialize := do
    let reservationId ← need "grant resv" readId
    let taskId ← need "grant task" readId
    let executor ← need "grant executor" readEnum
    let slots ← need "grant slots" readU32
    pure { reservationId, taskId, executor, slots }
  Bounded _ := True
  reads m h := by
    intro rest
    simp [Decoder.run_bind]
  yields := Yields.any _

def ReservationRelease.codec : RecordCodec ReservationRelease where
  serialize m := List.flatten [
    putId m.reservationId,
    putId m.taskId,
    putId m.nodeId,
    putId m.sessionId,
    putU64 m.coordinatorEpoch]
  deserialize := do
    let reservationId ← need "release resv" readId
    let taskId ← need "release task" readId
    let nodeId ← need "release node" readId
    let sessionId ← need "release session" readId
    let coordinatorEpoch ← need "release epoch" readU64
    pure { reservationId, taskId, nodeId, sessionId, coordinatorEpoch }
  Bounded _ := True
  reads m h := by
    intro rest
    simp [Decoder.run_bind]
  yields := Yields.any _

def ReservationReleaseAck.codec : RecordCodec ReservationReleaseAck where
  serialize m := List.flatten [
    putId m.reservationId,
    putBool m.accepted,
    putString m.error]
  deserialize := do
    let reservationId ← need "release ack resv" readId
    let accepted ← need "release ack flag" readBool
    let error ← needString "release ack error"
    pure { reservationId, accepted, error }
  Bounded m := Text.Bounded m.error
  reads m h := by
    intro rest
    have herror : Text.Bounded m.error := h
    simp [Decoder.run_bind, herror]
  yields := (Yields.any _).bind fun _ _ => (Yields.any _).bind fun _ _ =>
    (yields_needString _).bind fun _ herror => Yields.pure herror

def ErrorResponse.codec : RecordCodec ErrorResponse where
  serialize m := List.flatten [
    putU16 m.forMessageType,
    putString m.error]
  deserialize := do
    let forMessageType ← need "error for type" readU16
    let error ← needString "error msg"
    pure { forMessageType, error }
  Bounded m := Text.Bounded m.error
  reads m h := by
    intro rest
    have herror : Text.Bounded m.error := h
    simp [Decoder.run_bind, herror]
  yields := (Yields.any _).bind fun _ _ => (yields_needString _).bind fun _ herror => Yields.pure herror

/-! ## Message types -/

/-- `MessageType`. -/
inductive MessageType where
  | hello | nodeRegister | nodeRegisterAck | nodeHeartbeat | nodeHeartbeatAck | nodeShutdown
  | nodeShutdownAck | taskSubmit | taskSubmitResponse | taskInspect | taskInspectResponse
  | taskList | taskListResponse | taskCancel | taskCancelResponse | workloadInspect
  | workloadInspectResponse | fabricStatus | fabricStatusResponse | placementQuery
  | placementResponse | nodeList | nodeListResponse | nodeDrain | nodeDrainResponse
  | coordinatorShutdown | coordinatorShutdownResponse | dispatchAttempt | dispatchAck
  | attemptStarted | attemptProgress | attemptComplete | attemptCompleteAck | attemptFailed
  | attemptFailedAck | attemptCancelled | attemptCancel | attemptCancelAck | reservationGrant
  | reservationRelease | reservationReleaseAck | errorResponse
deriving DecidableEq

namespace MessageType

/-- The number of the type on the wire. -/
def code : MessageType → UInt16
  | hello => 1
  | nodeRegister => 2
  | nodeRegisterAck => 3
  | nodeHeartbeat => 4
  | nodeHeartbeatAck => 5
  | nodeShutdown => 6
  | nodeShutdownAck => 7
  | taskSubmit => 10
  | taskSubmitResponse => 11
  | taskInspect => 12
  | taskInspectResponse => 13
  | taskList => 14
  | taskListResponse => 15
  | taskCancel => 16
  | taskCancelResponse => 17
  | workloadInspect => 18
  | workloadInspectResponse => 19
  | fabricStatus => 20
  | fabricStatusResponse => 21
  | placementQuery => 22
  | placementResponse => 23
  | nodeList => 24
  | nodeListResponse => 25
  | nodeDrain => 26
  | nodeDrainResponse => 27
  | coordinatorShutdown => 28
  | coordinatorShutdownResponse => 29
  | dispatchAttempt => 30
  | dispatchAck => 31
  | attemptStarted => 32
  | attemptProgress => 33
  | attemptComplete => 34
  | attemptCompleteAck => 35
  | attemptFailed => 36
  | attemptFailedAck => 37
  | attemptCancelled => 38
  | attemptCancel => 39
  | attemptCancelAck => 40
  | reservationGrant => 41
  | reservationRelease => 42
  | reservationReleaseAck => 43
  | errorResponse => 999

/-- The payload record of a message type. -/
def Record (D : Type) : MessageType → Type
  | hello => Hello
  | nodeRegister => NodeRegister D
  | nodeRegisterAck => NodeRegisterAck
  | nodeHeartbeat => NodeHeartbeat
  | nodeHeartbeatAck => NodeHeartbeatAck
  | nodeShutdown => NodeShutdown
  | nodeShutdownAck => NodeShutdownAck
  | taskSubmit => TaskSubmit D
  | taskSubmitResponse => TaskSubmitResponse
  | taskInspect => TaskInspect
  | taskInspectResponse => TaskInspectResponse D
  | taskList => TaskList
  | taskListResponse => TaskListResponse
  | taskCancel => TaskCancel
  | taskCancelResponse => TaskCancelResponse
  | workloadInspect => WorkloadInspect
  | workloadInspectResponse => WorkloadInspectResponse
  | fabricStatus => FabricStatus
  | fabricStatusResponse => FabricStatusResponse
  | placementQuery => PlacementQuery D
  | placementResponse => PlacementResponse D
  | nodeList => NodeList
  | nodeListResponse => NodeListResponse
  | nodeDrain => NodeDrain
  | nodeDrainResponse => NodeDrainResponse
  | coordinatorShutdown => CoordinatorShutdown
  | coordinatorShutdownResponse => CoordinatorShutdownResponse
  | dispatchAttempt => DispatchAttempt D
  | dispatchAck => DispatchAck
  | attemptStarted => AttemptStarted
  | attemptProgress => AttemptProgress
  | attemptComplete => AttemptComplete D
  | attemptCompleteAck => AttemptAck
  | attemptFailed => AttemptFailed D
  | attemptFailedAck => AttemptAck
  | attemptCancelled => AttemptCancelled
  | attemptCancel => AttemptCancel
  | attemptCancelAck => AttemptCancelAck
  | reservationGrant => ReservationGrant
  | reservationRelease => ReservationRelease
  | reservationReleaseAck => ReservationReleaseAck
  | errorResponse => ErrorResponse

/-- The functions `messages.h` declares for it. -/
def codec : (t : MessageType) → RecordCodec (t.Record D)
  | hello => Hello.codec
  | nodeRegister => NodeRegister.codec
  | nodeRegisterAck => NodeRegisterAck.codec
  | nodeHeartbeat => NodeHeartbeat.codec
  | nodeHeartbeatAck => NodeHeartbeatAck.codec
  | nodeShutdown => NodeShutdown.codec
  | nodeShutdownAck => NodeShutdownAck.codec
  | taskSubmit => TaskSubmit.codec
  | taskSubmitResponse => TaskSubmitResponse.codec
  | taskInspect => TaskInspect.codec
  | taskInspectResponse => TaskInspectResponse.codec
  | taskList => TaskList.codec
  | taskListResponse => TaskListResponse.codec
  | taskCancel => TaskCancel.codec
  | taskCancelResponse => TaskCancelResponse.codec
  | workloadInspect => WorkloadInspect.codec
  | workloadInspectResponse => WorkloadInspectResponse.codec
  | fabricStatus => FabricStatus.codec
  | fabricStatusResponse => FabricStatusResponse.codec
  | placementQuery => PlacementQuery.codec
  | placementResponse => PlacementResponse.codec
  | nodeList => NodeList.codec
  | nodeListResponse => NodeListResponse.codec
  | nodeDrain => NodeDrain.codec
  | nodeDrainResponse => NodeDrainResponse.codec
  | coordinatorShutdown => CoordinatorShutdown.codec
  | coordinatorShutdownResponse => CoordinatorShutdownResponse.codec
  | dispatchAttempt => DispatchAttempt.codec
  | dispatchAck => DispatchAck.codec
  | attemptStarted => AttemptStarted.codec
  | attemptProgress => AttemptProgress.codec
  | attemptComplete => AttemptComplete.codec
  | attemptCompleteAck => AttemptAck.codec
  | attemptFailed => AttemptFailed.codec
  | attemptFailedAck => AttemptAck.codec
  | attemptCancelled => AttemptCancelled.codec
  | attemptCancel => AttemptCancel.codec
  | attemptCancelAck => AttemptCancelAck.codec
  | reservationGrant => ReservationGrant.codec
  | reservationRelease => ReservationRelease.codec
  | reservationReleaseAck => ReservationReleaseAck.codec
  | errorResponse => ErrorResponse.codec

end MessageType

/-- **Control-message codec.** For every message type: a value within the limits is read back from its bytes with
    the reader left exactly at what follows them; no proper prefix of its bytes is accepted; and every value the
    deserializer returns, from any bytes, is within the limits. -/
theorem message_codec (t : MessageType) :
    (∀ m : t.Record D, t.codec.Bounded m →
      (∀ rest, t.codec.deserialize.run (t.codec.serialize m ++ rest) = .ok (m, rest)) ∧
      (∀ p, p <+: t.codec.serialize m → p ≠ t.codec.serialize m →
        ∃ e, (t.codec (D := D)).deserialize.run p = .error e)) ∧
    (∀ (bytes : List UInt8) (m : t.Record D) (rest : List UInt8),
      t.codec.deserialize.run bytes = .ok (m, rest) → t.codec.Bounded m) := by
  refine ⟨fun m hm => ?_, t.codec.yields⟩
  have hreads := t.codec.reads m hm
  exact ⟨hreads, fun p hp hne => hreads.error_of_truncated hp hne⟩

/-- A submission with a tag, a dependency and a payload. -/
def sampleSubmit : TaskSubmit UInt64 where
  workloadId := ⟨0, 5⟩
  workloadName := [119]
  task :=
    { id := ⟨0, 1⟩, dependencies := [⟨0, 2⟩], requiredTags := [[103]], minComputeCapabilityMajor := 7,
      estimatedDurationSeconds := 0, expectedTransferGb := 0, expectedRecomputeCostSeconds := 0, costEstimate := 0,
      payload := [1, 2, 3] }

theorem message_codec_submit :
    let c := MessageType.taskSubmit.codec (D := UInt64)
    ∀ rest, c.deserialize.run (c.serialize sampleSubmit ++ rest) = .ok (sampleSubmit, rest) :=
  have hbounded : Text.Bounded sampleSubmit.workloadName ∧ sampleSubmit.task.Bounded := by decide +kernel
  ((message_codec .taskSubmit).1 sampleSubmit hbounded).1

end ComputeFabric
