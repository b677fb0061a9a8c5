import ComputeFabric.Net.Client
import ComputeFabric.Safety.Acknowledged
import ComputeFabric.Safety.Storage

/-!
# `Safety.Replies` — replies to queries, as the client reads them

`respond_client` puts the record of a reply into a frame and queues it. The handlers of the six queries build one
entry for each task, attempt or node they find, and texts that are longer than the ones they were made from; the
client accepts 8 MiB in a frame, `2^16` entries in a list and `2^20` bytes in a text. What came over the wire is
within these limits already (`crashRun_bounded`), so a reply is read as it was built exactly when the numbers of
entries, the texts put together for it and its size are (`reply_readable_iff`).
-/

namespace ComputeFabric

open Codec Coordinator
open SchedulerPolicyEngine (exclusionReasons candidateDevice)

variable {D : Type}

/-! ## The frame of a reply -/

/-- The message type and the record a message is sent as. -/
def Message.record : Message D → (t : MessageType) × t.Record D
  | .nodeRegisterAck ack => ⟨.nodeRegisterAck, ack⟩
  | .nodeHeartbeatAck accepted error => ⟨.nodeHeartbeatAck, ⟨accepted, error⟩⟩
  | .nodeShutdown nodeId sessionId => ⟨.nodeShutdown, ⟨nodeId, sessionId⟩⟩
  | .nodeShutdownAck accepted => ⟨.nodeShutdownAck, ⟨accepted⟩⟩
  | .dispatchAttempt da => ⟨.dispatchAttempt, da⟩
  | .attemptCancel attemptId reason => ⟨.attemptCancel, ⟨attemptId, reason⟩⟩
  | .attemptCompleteAck ack => ⟨.attemptCompleteAck, ack⟩
  | .attemptFailedAck ack => ⟨.attemptFailedAck, ack⟩
  | .reservationReleaseAck reservationId accepted => ⟨.reservationReleaseAck, ⟨reservationId, accepted, []⟩⟩
  | .taskSubmitResponse resp => ⟨.taskSubmitResponse, resp⟩
  | .taskInspectResponse resp => ⟨.taskInspectResponse, resp⟩
  | .taskListResponse tasks => ⟨.taskListResponse, ⟨tasks⟩⟩
  | .taskCancelResponse resp => ⟨.taskCancelResponse, resp⟩
  | .workloadInspectResponse resp => ⟨.workloadInspectResponse, resp⟩
  | .fabricStatusResponse resp => ⟨.fabricStatusResponse, resp⟩
  | .placementResponse found decision => ⟨.placementResponse, ⟨found, decision, []⟩⟩
  | .nodeListResponse nodes => ⟨.nodeListResponse, ⟨nodes⟩⟩
  | .nodeDrainResponse resp => ⟨.nodeDrainResponse, resp⟩
  | .coordinatorShutdownResponse accepted => ⟨.coordinatorShutdownResponse, ⟨accepted, []⟩⟩

/-- The coordinator never sends an error response. -/
theorem Message.record_ne_errorResponse (m : Message D) : m.record.1 ≠ .errorResponse := by
  cases m <;> exact fun h => nomatch h

variable [DoubleBits D]

/-- `make_frame(type, SenderKind::Coordinator, Id128::zero(), request_id, payload)`. -/
def Message.frame (m : Message D) (req : UInt64) : Frame :=
  makeFrame m.record.1.code .coordinator .zero req (m.record.1.codec.serialize m.record.2)

/-- The client that sent request `req` reads the reply as it was built. -/
def Message.Readable (m : Message D) (req : UInt64) : Prop :=
  FabricClient.Reads m.record.1.codec req (m.frame req) m.record.2

theorem Message.readable_iff (m : Message D) (req : UInt64) :
    m.Readable req ↔ m.record.1.codec.Bounded m.record.2 ∧
      (m.record.1.codec.serialize m.record.2).length ≤ maxFramePayload.toNat :=
  FabricClient.reads_iff m.record.1 m.record_ne_errorResponse .coordinator .zero

/-! ## Sizes -/

/-- The bytes of an attempt in a reply. -/
def ExecutionAttempt.wireSize (a : ExecutionAttempt D) : Nat :=
  156 + a.failureReason.length + a.outputIntegrity.length + a.device.length

/-- The bytes of a task in a listing. -/
def ComputeTask.listSize (task : ComputeTask D) : Nat := 23 + task.name.length

/-- What the listings write for an executor: its name and its slots. -/
def ExecutorCapability.summary (cap : ExecutorCapability D) : Text := cap.name ++ text ":" ++ text (toString cap.slots)

/-- The bytes of a node in a listing. -/
def NodeRecord.statusSize (node : NodeRecord D) : Nat :=
  46 + node.capacity.label.length + node.capacity.address.length +
    (node.capacity.executors.map fun cap => 4 + cap.summary.length).sum

/-- The bytes of what a placement decision says about a node: its score, or why it is excluded. -/
def NodeRecord.verdictSize (task : ComputeTask D) (node : NodeRecord D) : Nat :=
  if (exclusionReasons task node).isEmpty then 101 + (candidateDevice task node).length
  else 20 + ((exclusionReasons task node).map fun reason => 4 + reason.length).sum

theorem length_serializeAttempt (a : ExecutionAttempt D) : (serializeAttempt a).length = a.wireSize := by
  simp only [serializeAttempt, ExecutionAttempt.wireSize, List.flatten_cons, List.flatten_nil, List.length_append,
    List.length_nil, length_putId, length_putString, length_putEnum, length_putU32, length_putU64, length_putI64,
    length_putF64, length_putBool]
  omega

omit [DoubleBits D] in
theorem length_serializeListEntry (g : TaskGraph D) (id : ComputeTaskId) (task : ComputeTask D) :
    (TaskListEntry.codec.serialize (listEntry g id task)).length = task.listSize := by
  simp only [TaskListEntry.codec, ComputeTask.listSize, listEntry, List.flatten_cons, List.flatten_nil,
    List.length_append, List.length_nil, length_putId, length_putString, length_putEnum]
  omega

omit [DoubleBits D] in
theorem length_serializeStatus (s : Coordinator D) (id : NodeId) (node : NodeRecord D) :
    (NodeStatusEntry.codec.serialize (s.nodeStatus id node)).length = node.statusSize := by
  simp only [NodeStatusEntry.codec, NodeRecord.statusSize, nodeStatus, List.flatten_cons, List.flatten_nil,
    List.length_append, List.length_nil, length_putId, length_putString, length_putEnum, length_putBool,
    length_putU32, length_putU64, length_putList, List.map_map, Function.comp_def, ExecutorCapability.summary]
  omega

theorem length_serializeCandidate (c : CandidateScore D) : (serializeCandidate c).length = 101 + c.device.length := by
  simp only [serializeCandidate, List.flatten_cons, List.flatten_nil, List.length_append, List.length_nil,
    length_putId, length_putString, length_putEnum, length_putF64]
  omega

theorem length_serializeExclusion (x : Exclusion) :
    (serializeExclusion x).length = 20 + (x.reasons.map fun reason => 4 + reason.length).sum := by
  simp only [serializeExclusion, List.flatten_cons, List.flatten_nil, List.length_append, List.length_nil,
    length_putId, length_putList, length_putString]
  omega

theorem length_putOptional {X : Type} {put : X → List UInt8} {n : Nat} (hput : ∀ x, (put x).length = n)
    (o : Option X) : (putOptional put o).length = 1 + if o.isSome then n else 0 := by
  cases o <;> simp [putOptional, hput]

theorem length_serializePlacement (d : PlacementDecision D) : (serializePlacement d).length =
    99 + (if d.chosenNode.isSome then 16 else 0) + (if d.chosenExecutor.isSome then 1 else 0) +
      d.chosenDevice.length + d.reason.length + (d.candidates.map fun c => 101 + c.device.length).sum +
      (d.excluded.map fun x => 20 + (x.reasons.map fun reason => 4 + reason.length).sum).sum := by
  simp only [serializePlacement, List.flatten_cons, List.flatten_nil, List.length_append,
    List.length_nil, length_putString, length_putBool, length_putF64, length_putList, length_serializeCandidate,
    length_serializeExclusion, length_putOptional length_putId,
    length_putOptional (length_putEnum (E := ExecutorType))]
  omega

/-! ## Which queries have an answer that comes through -/

/-- A list of so many entries, in so many bytes. -/
def Replies.Fits (entries bytes : Nat) : Prop := entries ≤ maxList.toNat ∧ bytes ≤ maxFramePayload.toNat

instance (entries bytes : Nat) : Decidable (Replies.Fits entries bytes) := inferInstanceAs (Decidable (_ ∧ _))

open Replies (Fits)

namespace Coordinator

/-- The tasks that `handle_task_list` shows. -/
def listedTasks (s : Coordinator D) (filter : Text) : List (ComputeTask D) :=
  (s.graph.tasks.toList.filter fun entry =>
    (if filter.isEmpty then none else parseTaskState filter).all fun st => s.graph.state entry.1 = st).map Prod.snd

/-- The tasks that `handle_workload_inspect` shows. -/
def workloadTasks (s : Coordinator D) (w : WorkloadId) : List (ComputeTask D) :=
  (s.graph.tasks.toList.filter fun entry => entry.2.workload = w).map Prod.snd

/-- The texts the listings put together for executors. -/
def SummariesBounded (s : Coordinator D) : Prop :=
  ∀ node ∈ s.nodes.values, ∀ cap ∈ node.capacity.executors, Text.Bounded cap.summary

/-- What a placement decision says about its choice: the chosen node with its executor and device, or only that there
    is none. -/
def choiceSize [DoubleArith D] (s : Coordinator D) (task : ComputeTask D) : Nat :=
  if (s.nodes.values.filter fun node => (exclusionReasons task node).isEmpty) = [] then 19
  else 31 + (s.scheduler.place task s.nodes s.reservations s.stateLocality).chosenDevice.length

/-- The answer to the query fits: the number of its entries, the texts that are put together for it, and its size.
    A query for something that is not there always has a short answer. -/
def Answerable [DoubleArith D] (env : Env) (s : Coordinator D) : Command D → Prop
  | .taskInspect _ _ _ t => ∀ task, s.graph.find t = some task →
      Fits (s.attemptsOf t).length (71 + task.name.length + ((s.attemptsOf t).map fun a => a.wireSize).sum)
  | .taskList _ _ _ filter =>
      Fits (s.listedTasks filter).length (4 + ((s.listedTasks filter).map ComputeTask.listSize).sum)
  | .workloadInspect _ _ _ w => ∀ wl, s.durable.workloads[w]? = some wl →
      Fits (s.workloadTasks w).length (29 + wl.name.length + ((s.workloadTasks w).map ComputeTask.listSize).sum)
  | .fabricStatus _ _ _ => s.SummariesBounded ∧
      Fits s.nodes.values.length
        (40 + (text env.policy.name).length + (s.nodes.values.map NodeRecord.statusSize).sum)
  | .nodeList _ _ _ => s.SummariesBounded ∧
      Fits s.nodes.values.length (4 + (s.nodes.values.map NodeRecord.statusSize).sum)
  | .placementQuery _ _ _ task =>
      (∀ node ∈ s.nodes.values, BoundedList Text.Bounded (exclusionReasons task node)) ∧
      (s.nodes.values.filter fun node => !(exclusionReasons task node).isEmpty).length ≤ maxList.toNat ∧
      Fits (s.nodes.values.filter fun node => (exclusionReasons task node).isEmpty).length
        (104 + s.choiceSize task + (s.nodes.values.map fun node => node.verdictSize task).sum)
  | _ => True

end Coordinator

/-- The command is one of the six queries. -/
def Command.isQuery : Command D → Bool
  | .taskInspect .. | .taskList .. | .workloadInspect .. | .fabricStatus .. | .placementQuery .. | .nodeList .. => true
  | _ => false

/-! ## Queries about tasks -/

section Tasks

variable {s : Coordinator D} (hs : s.Bounded)

include hs

theorem inspect_readable (t : ComputeTaskId) {task : ComputeTask D} (htask : s.graph.find t = some task)
    (req : UInt64) :
    (Message.taskInspectResponse (D := D)
      { found := true, taskId := t, name := task.name, taskClass := task.taskClass, state := s.graph.state t,
        attempts := s.attemptsOf t, retryCount := UInt32.ofNat (s.attemptsOf t).length,
        workloadIdHex := task.workload.toHex }).Readable req ↔
    Fits (s.attemptsOf t).length (71 + task.name.length + ((s.attemptsOf t).map fun a => a.wireSize).sum) := by
  have hname : Text.Bounded task.name := (hs.tasks t task htask).name
  have hhex : task.workload.toHex.length = 32 := by simp [Id128.toHex, hexWord]
  have hworkload : Text.Bounded task.workload.toHex := by
    rw [Text.Bounded, hhex]
    decide
  rw [Message.readable_iff]
  refine and_congr ⟨fun h => h.2.2.1.1, fun h => ?_⟩ (iff_of_eq (congrArg (· ≤ _) ?_))
  · exact ⟨hname, Nat.zero_le _, ⟨h, fun a ha => hs.attempts t a ha⟩, hworkload⟩
  · simp only [Message.record, MessageType.codec, TaskInspectResponse.codec, attemptCodec, List.flatten_cons,
      List.flatten_nil, List.length_append, List.length_nil, length_putBool, length_putId, length_putString,
      length_putEnum, length_putU32, length_putList, length_serializeAttempt, hhex]
    omega

omit [DoubleBits D] in
/-- The entries of a list of tasks are within the limits when the list is. -/
theorem boundedList_listEntry (entries : List (ComputeTaskId × ComputeTask D)) (hentries : ∀ entry ∈ entries,
    s.graph.tasks[entry.1]? = some entry.2) :
    BoundedList TaskListEntry.codec.Bounded (entries.map fun entry => listEntry s.graph entry.1 entry.2) ↔
      (entries.map Prod.snd).length ≤ maxList.toNat := by
  rw [List.length_map]
  constructor
  · intro h
    simpa using h.1
  · intro h
    refine ⟨by simpa using h, fun x hx => ?_⟩
    obtain ⟨entry, hentry, rfl⟩ := List.mem_map.mp hx
    exact (hs.tasks entry.1 entry.2 (hentries entry hentry)).name

omit hs [DoubleBits D] in
theorem length_putListEntries (entries : List (ComputeTaskId × ComputeTask D)) :
    (putList TaskListEntry.codec.serialize (entries.map fun entry => listEntry s.graph entry.1 entry.2)).length =
      4 + ((entries.map Prod.snd).map ComputeTask.listSize).sum := by
  simp only [length_putList, List.map_map, Function.comp_def, length_serializeListEntry]

theorem list_readable (filter : Text) (req : UInt64) :
    (Message.taskListResponse (D := D)
      ((s.graph.tasks.toList.map fun entry => listEntry s.graph entry.1 entry.2).filter fun e =>
        (if filter.isEmpty then none else parseTaskState filter).all fun st => e.state = st)).Readable req ↔
    Fits (s.listedTasks filter).length (4 + ((s.listedTasks filter).map ComputeTask.listSize).sum) := by
  rw [List.filter_map, Message.readable_iff]
  refine and_congr (boundedList_listEntry hs _ fun entry hentry => ?_) ?_
  · exact Std.ExtTreeMap.mem_toList_iff_getElem?_eq_some.mp (List.mem_of_mem_filter hentry)
  · refine iff_of_eq (congrArg (· ≤ _) ?_)
    simp only [Message.record, MessageType.codec, TaskListResponse.codec, List.flatten_cons, List.flatten_nil,
      List.append_nil, length_putListEntries]
    rfl

theorem workload_readable {w : WorkloadId} {wl : Workload} (hwl : s.durable.workloads[w]? = some wl) (req : UInt64) :
    (Message.workloadInspectResponse (D := D)
      { found := true, workloadId := w, name := wl.name,
        tasks := (s.graph.tasks.toList.filter fun entry => entry.2.workload = w).map fun entry =>
          listEntry s.graph entry.1 entry.2 }).Readable req ↔
    Fits (s.workloadTasks w).length
      (29 + wl.name.length + ((s.workloadTasks w).map ComputeTask.listSize).sum) := by
  have hname : Text.Bounded wl.name := (hs.workloads w wl hwl).2.name
  have hentries := boundedList_listEntry hs
    (s.graph.tasks.toList.filter fun entry => entry.2.workload = w) fun entry hentry =>
      Std.ExtTreeMap.mem_toList_iff_getElem?_eq_some.mp (List.mem_of_mem_filter hentry)
  rw [Message.readable_iff]
  refine and_congr ⟨fun h => hentries.mp h.2.1, fun h => ⟨hname, hentries.mpr h, Nat.zero_le _⟩⟩ ?_
  refine iff_of_eq (congrArg (· ≤ _) ?_)
  simp only [Message.record, MessageType.codec, WorkloadInspectResponse.codec, List.flatten_cons,
    List.flatten_nil, List.length_append, List.length_nil,
    length_putBool, length_putId, length_putString, length_putListEntries, workloadTasks]
  omega

end Tasks

/-! ## Queries about nodes -/

section Nodes

variable {s : Coordinator D} (hs : s.Bounded)

include hs

omit [DoubleBits D] in
/-- The entries of the node listings are within the limits when their number and the texts put together are. -/
theorem boundedList_nodeStatus :
    BoundedList NodeStatusEntry.codec.Bounded
      (s.nodes.toList.map fun entry => s.nodeStatus entry.1 entry.2) ↔
    s.SummariesBounded ∧ s.nodes.values.length ≤ maxList.toNat := by
  rw [SummariesBounded, OrdMap.values_eq_map_toList, List.length_map, BoundedList, List.length_map, and_comm]
  refine and_congr ⟨fun h node hnode cap hcap => ?_, fun h x hx => ?_⟩ Iff.rfl
  · obtain ⟨entry, hentry, rfl⟩ := List.mem_map.mp hnode
    exact (h _ (List.mem_map_of_mem hentry)).2.2.2 _ (List.mem_map_of_mem hcap)
  · obtain ⟨entry, hentry, rfl⟩ := List.mem_map.mp hx
    have hcapacity := hs.capacities entry.1 entry.2 (Std.ExtTreeMap.mem_toList_iff_getElem?_eq_some.mp hentry)
    refine ⟨hcapacity.label, hcapacity.address, by simpa [nodeStatus] using hcapacity.executors.1, fun y hy => ?_⟩
    obtain ⟨cap, hcap, rfl⟩ := List.mem_map.mp hy
    exact h entry.2 (List.mem_map_of_mem hentry) cap hcap

omit hs [DoubleBits D] in
theorem length_putNodeStatuses :
    (putList NodeStatusEntry.codec.serialize (s.nodes.toList.map fun entry => s.nodeStatus entry.1 entry.2)).length =
      4 + (s.nodes.values.map NodeRecord.statusSize).sum := by
  simp only [length_putList, List.map_map, Function.comp_def, length_serializeStatus, OrdMap.values_eq_map_toList]

theorem nodes_readable (req : UInt64) :
    (Message.nodeListResponse (D := D)
      (s.nodes.toList.map fun entry => s.nodeStatus entry.1 entry.2)).Readable req ↔
    s.SummariesBounded ∧ Fits s.nodes.values.length (4 + (s.nodes.values.map NodeRecord.statusSize).sum) := by
  rw [Message.readable_iff, Fits, ← and_assoc]
  refine and_congr (boundedList_nodeStatus hs) (iff_of_eq (congrArg (· ≤ _) ?_))
  simp only [Message.record, MessageType.codec, NodeListResponse.codec, List.flatten_cons, List.flatten_nil,
    List.append_nil, length_putNodeStatuses]

theorem status_readable (policy : SchedulerPolicy) (epoch : CoordinatorEpoch)
    (nodeCount taskCount runningCount reservedCount completedCount : UInt32) (req : UInt64) :
    (Message.fabricStatusResponse (D := D)
      { coordinatorEpoch := epoch, policy := text policy.name, nodeCount, taskCount, runningCount, reservedCount,
        completedCount, nodes := s.nodes.toList.map fun entry => s.nodeStatus entry.1 entry.2 }).Readable req ↔
    s.SummariesBounded ∧ Fits s.nodes.values.length
      (40 + (text policy.name).length + (s.nodes.values.map NodeRecord.statusSize).sum) := by
  have hpolicy : Text.Bounded (text policy.name) := by cases policy <;> decide +kernel
  rw [Message.readable_iff, Fits, ← and_assoc]
  refine and_congr (Iff.trans ⟨fun h => h.2.1, fun h => ⟨hpolicy, h, Nat.zero_le _⟩⟩ (boundedList_nodeStatus hs))
    (iff_of_eq (congrArg (· ≤ _) ?_))
  simp only [Message.record, MessageType.codec, FabricStatusResponse.codec, List.flatten_cons, List.flatten_nil,
    List.length_append, List.length_nil,
    length_putU64, length_putU32, length_putString, length_putNodeStatuses]
  omega

variable [DoubleArith D]

omit [DoubleBits D] in
/-- What the scheduler takes from the capacity of a node is within the limits; the reasons it puts together need not
    be, nor the number of nodes. -/
theorem place_bounded_iff (task : ComputeTask D) :
    (s.scheduler.place task s.nodes s.reservations s.stateLocality).Bounded ↔
      ((∀ node ∈ s.nodes.values, BoundedList Text.Bounded (exclusionReasons task node)) ∧
        (s.scheduler.place task s.nodes s.reservations s.stateLocality).excluded.length ≤ maxList.toNat) ∧
      (s.scheduler.place task s.nodes s.reservations s.stateLocality).candidates.length ≤ maxList.toNat := by
  have hdevice : ∀ c ∈ (s.scheduler.place task s.nodes s.reservations s.stateLocality).candidates,
      Text.Bounded c.device := by
    intro c hc
    rw [SchedulerPolicyEngine.place_candidates] at hc
    obtain ⟨node, hnode, rfl⟩ := List.mem_map.mp hc
    obtain ⟨hmem, hempty⟩ := List.mem_filter.mp hnode
    obtain ⟨n, hn⟩ := OrdMap.mem_values.mp hmem
    obtain ⟨cap, hoffers⟩ :=
      (SchedulerPolicyEngine.eligible_of_exclusionReasons (List.isEmpty_iff.mp hempty)).offers
    rw [(s.scheduler.scoreCandidate_cap s.reservations s.stateLocality hoffers.find).2]
    exact ((hs.capacities n node hn).executors.2 cap (mem_of_findExecutorCap hoffers.find)).name
  constructor
  · intro h
    refine ⟨⟨fun node hnode => ?_, h.excluded.1⟩, h.candidates.1⟩
    by_cases hempty : (exclusionReasons task node).isEmpty = true
    · rw [List.isEmpty_iff.mp hempty]
      exact ⟨Nat.zero_le _, fun x hx => absurd hx List.not_mem_nil⟩
    · refine h.excluded.2 ⟨node.id, exclusionReasons task node⟩ ?_
      rw [SchedulerPolicyEngine.place_excluded]
      exact List.mem_map_of_mem (List.mem_filter.mpr ⟨hnode, by simpa using hempty⟩)
  · rintro ⟨⟨hreasons, hexcluded⟩, hcandidates⟩
    have hlist : BoundedList Exclusion.Bounded
        (s.scheduler.place task s.nodes s.reservations s.stateLocality).excluded := by
      refine ⟨hexcluded, fun x hx => ?_⟩
      rw [SchedulerPolicyEngine.place_excluded] at hx
      obtain ⟨node, hnode, rfl⟩ := List.mem_map.mp hx
      exact hreasons node (List.mem_of_mem_filter hnode)
    rcases s.scheduler.place_cases task s.nodes s.reservations s.stateLocality with
      ⟨-, hdeclines⟩ | ⟨best, rest, hsorted, hchooses⟩
    · refine ⟨?_, ⟨hcandidates, hdevice⟩, hlist, ?_⟩
      · rw [hdeclines.device]
        exact Nat.zero_le _
      · rw [hdeclines.reason]
        decide +kernel
    · refine ⟨?_, ⟨hcandidates, hdevice⟩, hlist, ?_⟩
      · rw [hchooses.device]
        refine hdevice best ?_
        rw [← List.mem_insertionSort (fun a b => !SchedulerPolicyEngine.better b a), hsorted]
        exact List.mem_cons_self
      · rw [hchooses.reason]
        decide +kernel

omit hs [DoubleBits D] in
/-- Every node is a candidate or excluded. -/
theorem sum_verdictSize (task : ComputeTask D) :
    ((s.scheduler.place task s.nodes s.reservations s.stateLocality).candidates.map fun c =>
      101 + c.device.length).sum +
    ((s.scheduler.place task s.nodes s.reservations s.stateLocality).excluded.map fun x =>
      20 + (x.reasons.map fun reason => 4 + reason.length).sum).sum =
    (s.nodes.values.map fun node => node.verdictSize task).sum := by
  rw [SchedulerPolicyEngine.place_candidates, SchedulerPolicyEngine.place_excluded, List.map_map, List.map_map]
  induction s.nodes.values with
  | nil => rfl
  | cons node nodes ih =>
      simp only [Function.comp_def, SchedulerPolicyEngine.scoreCandidate_device] at ih ⊢
      by_cases hempty : (exclusionReasons task node).isEmpty = true
      · have hverdict : node.verdictSize task = 101 + (candidateDevice task node).length := if_pos hempty
        simp only [hempty, Bool.not_true, List.filter_cons, Bool.false_eq_true, if_false, if_true, List.map_cons,
          List.sum_cons, hverdict]
        omega
      · have hverdict : node.verdictSize task =
            20 + ((exclusionReasons task node).map fun reason => 4 + reason.length).sum := if_neg hempty
        rw [Bool.not_eq_true] at hempty
        simp only [hempty, Bool.not_false, List.filter_cons, Bool.false_eq_true, if_false, if_true, List.map_cons,
          List.sum_cons, hverdict]
        omega

omit hs in
theorem length_serializePlace (task : ComputeTask D) :
    (serializePlacement (s.scheduler.place task s.nodes s.reservations s.stateLocality)).length =
      99 + s.choiceSize task + (s.nodes.values.map fun node => node.verdictSize task).sum := by
  rw [length_serializePlacement, ← sum_verdictSize, choiceSize]
  rcases s.scheduler.place_cases task s.nodes s.reservations s.stateLocality with
    ⟨hnone, hdeclines⟩ | ⟨best, rest, hsorted, hchooses⟩
  · have hreason : (text "no schedulable node").length = 19 := by decide +kernel
    rw [SchedulerPolicyEngine.place_candidates, List.map_eq_nil_iff] at hnone
    rw [if_pos hnone, hdeclines.node, hdeclines.executor, hdeclines.device, hdeclines.reason, hreason]
    simp only [Option.isSome_none, Bool.false_eq_true, if_false, List.length_nil]
    omega
  · have hreason : (text "best candidate").length = 14 := by decide +kernel
    have hsome : (s.nodes.values.filter fun node => (exclusionReasons task node).isEmpty) ≠ [] := by
      intro hnone
      rw [SchedulerPolicyEngine.place_candidates, hnone] at hsorted
      cases hsorted
    rw [if_neg hsome, hchooses.node, hchooses.executor, hchooses.reason, hreason]
    simp only [Option.isSome_some, if_true]
    omega

theorem placement_readable (task : ComputeTask D) (req : UInt64) :
    (Message.placementResponse true
      (s.scheduler.place task s.nodes s.reservations s.stateLocality)).Readable req ↔
    (∀ node ∈ s.nodes.values, BoundedList Text.Bounded (exclusionReasons task node)) ∧
      (s.nodes.values.filter fun node => !(exclusionReasons task node).isEmpty).length ≤ maxList.toNat ∧
      Fits (s.nodes.values.filter fun node => (exclusionReasons task node).isEmpty).length
        (104 + s.choiceSize task + (s.nodes.values.map fun node => node.verdictSize task).sum) := by
  have hbounded := place_bounded_iff hs task
  rw [SchedulerPolicyEngine.place_candidates, SchedulerPolicyEngine.place_excluded, List.length_map,
    List.length_map] at hbounded
  rw [Message.readable_iff, Fits, ← and_assoc, ← and_assoc]
  refine and_congr (Iff.trans ⟨fun h => h.1, fun h => ⟨h, Nat.zero_le _⟩⟩ hbounded) (iff_of_eq (congrArg (· ≤ _) ?_))
  simp only [Message.record, MessageType.codec, PlacementResponse.codec, List.flatten_cons, List.flatten_nil,
    List.length_append, List.length_nil, length_putBool, length_putString, length_serializePlace]
  omega

end Nodes

/-! ## Every reachable state -/

section Runs

variable [DoubleArith D] {env : Env} {s : Coordinator D}

omit [DoubleBits D] [DoubleArith D] in
/-- The reply in the queue is the one the handler built. -/
theorem queued_of_respondClient {x : Coordinator D} (hx : x.effects = s.effects) {client : Id128} {conn conn' : ConnId}
    {req req' : UInt64} {m m' : Message D}
    (h : (x.respondClient env client conn' req' m').effects = .queued conn req m :: s.effects) :
    m' = m ∧ req' = req := by
  rw [respondClient_effects, hx] at h
  split_ifs at h
  · cases h
    exact ⟨rfl, rfl⟩
  · exact absurd h.symm (List.cons_ne_self _ _)

/-- **A reply that was queued is read as it was built** exactly when it fits: in every state reached on received
    messages, with crashes and failing saves, for every query. -/
theorem reply_readable_iff {events : List (CrashEvent D)} (hevents : ∀ ce ∈ events, ce.inner.Received)
    (hrun : crashRun env events = some s) {c : Command D} (hquery : c.isQuery = true) {conn : ConnId} {req : UInt64}
    {m : Message D} (hreply : (s.process env c).effects = .queued conn req m :: s.effects) :
    m.Readable req ↔ s.Answerable env c := by
  have hs : s.Bounded := (crashRun_bounded hevents hrun).1
  cases c with
  | taskInspect client conn' req' t =>
      unfold process handleTaskInspect at hreply
      cases htask : s.graph.find t with
      | none =>
          simp only [htask] at hreply
          obtain ⟨rfl, rfl⟩ := queued_of_respondClient rfl hreply
          have hshort : (Message.taskInspectResponse (D := D)
              { found := false, taskId := t, error := text "task not found" }).Readable req' := by
            refine (Message.readable_iff _ _).mpr ⟨?_, ?_⟩
            · exact ⟨Nat.zero_le _, (by decide +kernel : Text.Bounded (text "task not found")),
                ⟨Nat.zero_le _, fun a ha => absurd ha List.not_mem_nil⟩,
                Nat.zero_le _⟩
            · simp [Message.record, MessageType.codec, TaskInspectResponse.codec, length_putList]
              decide +kernel
          simp [hshort, Answerable, htask]
      | some task =>
          simp only [htask] at hreply
          obtain ⟨rfl, rfl⟩ := queued_of_respondClient (x := s.onLedger _) rfl hreply
          rw [inspect_readable hs t htask]
          simp [Answerable, htask]
  | taskList client conn' req' filter =>
      obtain ⟨rfl, rfl⟩ := queued_of_respondClient rfl hreply
      exact list_readable hs filter _
  | workloadInspect client conn' req' w =>
      unfold process handleWorkloadInspect at hreply
      cases hwl : s.durable.workloads[w]? with
      | none =>
          simp only [hwl] at hreply
          obtain ⟨rfl, rfl⟩ := queued_of_respondClient rfl hreply
          have hshort : (Message.workloadInspectResponse (D := D)
              { found := false, workloadId := w, error := text "workload not found" }).Readable req' := by
            refine (Message.readable_iff _ _).mpr ⟨?_, ?_⟩
            · exact ⟨Nat.zero_le _, ⟨Nat.zero_le _, fun x hx => absurd hx List.not_mem_nil⟩,
                (by decide +kernel : Text.Bounded (text "workload not found"))⟩
            · simp [Message.record, MessageType.codec, WorkloadInspectResponse.codec, length_putList]
              decide +kernel
          simp [hshort, Answerable, hwl]
      | some wl =>
          simp only [hwl] at hreply
          obtain ⟨rfl, rfl⟩ := queued_of_respondClient rfl hreply
          rw [workload_readable hs hwl]
          simp [Answerable, hwl]
  | fabricStatus client conn' req' =>
      obtain ⟨rfl, rfl⟩ := queued_of_respondClient rfl hreply
      exact status_readable hs _ _ _ _ _ _ _ _
  | placementQuery client conn' req' task =>
      obtain ⟨rfl, rfl⟩ := queued_of_respondClient rfl hreply
      exact placement_readable hs task _
  | nodeList client conn' req' =>
      obtain ⟨rfl, rfl⟩ := queued_of_respondClient rfl hreply
      exact nodes_readable hs _
  | _ => cases hquery

end Runs

namespace Demo

/-- A node registers and a client arrives. -/
def queried : List (Event UInt64) :=
  [.command (.nodeRegister 1 0 untaggedNode), .command (.clientConnected ⟨0, 9⟩ 2)]

theorem received_queried {ce : CrashEvent UInt64} (hce : ce ∈ queried.map .event) : ce.inner.Received := by
  obtain ⟨e, he, rfl⟩ := List.mem_map.mp hce
  rcases List.mem_cons.mp he with rfl | he
  · exact received_untaggedNode
  · obtain rfl := List.mem_singleton.mp he
    exact .clientConnected ⟨0, 9⟩ 2

/-- The client is connected and its queue has room. -/
theorem queried_facts : ((run (env 3000 100) queried).map fun s =>
    s.answers (env 3000 100) ⟨0, 9⟩ 2 &&
      decide (s.nodes.values.map (fun node => (node.statusSize, node.capacity.tags.isEmpty)) = [(52, true)]) &&
      s.nodes.values.all fun node => node.capacity.executors.all fun cap => decide (Text.Bounded cap.summary)) =
    some true := by
  decide +kernel

end Demo

/-- The list of one node is read as it was built. -/
theorem reply_readable_nodes :
    ∃ s m, crashRun (Demo.env 3000 100) (Demo.queried.map .event) = some s ∧
      (s.process (Demo.env 3000 100) (.nodeList ⟨0, 9⟩ 2 5)).effects = .queued 2 5 m :: s.effects ∧
      m.Readable 5 := by
  obtain ⟨s, hs, hfacts⟩ := Option.map_eq_some_iff.mp Demo.queried_facts
  simp only [Bool.and_eq_true, decide_eq_true_eq, List.all_eq_true] at hfacts
  obtain ⟨⟨hanswers, hnodes⟩, hsummaries⟩ := hfacts
  rw [← crashRun_event] at hs
  have hreply : (s.process (Demo.env 3000 100) (.nodeList ⟨0, 9⟩ 2 5)).effects = .queued 2 5 (.nodeListResponse
      (s.nodes.toList.map fun entry => s.nodeStatus entry.1 entry.2)) :: s.effects := by
    rw [process, handleNodeList, respondClient_effects, if_pos hanswers]
  refine ⟨s, _, hs, hreply, (reply_readable_iff (fun ce hce => Demo.received_queried hce) hs rfl hreply).mpr ?_⟩
  have hlength := congrArg List.length hnodes
  have hsizes := congrArg (List.map Prod.fst) hnodes
  rw [List.map_map] at hsizes
  have hsum : (s.nodes.values.map NodeRecord.statusSize).sum = 52 := by
    rw [show s.nodes.values.map NodeRecord.statusSize = [52] from hsizes]
    rfl
  refine ⟨hsummaries, ?_, ?_⟩
  · rw [List.length_map] at hlength
    rw [hlength]
    decide
  · rw [hsum]
    decide

/-- A placement query for a task that asks for the longest tag a client can send, while a node without tags is
    registered: the client cannot read the answer. -/
theorem reply_unreadable :
    ∃ (events : List (CrashEvent UInt64)) (s : Coordinator UInt64) (c : Command UInt64) (m : Message UInt64),
      (∀ ce ∈ events, ce.inner.Received) ∧ crashRun (Demo.env 3000 100) events = some s ∧ c.Received ∧
      c.isQuery = true ∧ (s.process (Demo.env 3000 100) c).effects = .queued 2 5 m :: s.effects ∧ ¬m.Readable 5 := by
  obtain ⟨s, hs, hfacts⟩ := Option.map_eq_some_iff.mp Demo.queried_facts
  simp only [Bool.and_eq_true, decide_eq_true_eq] at hfacts
  obtain ⟨⟨hanswers, hnodes⟩, -⟩ := hfacts
  obtain ⟨node, hnode, htags⟩ := List.map_eq_singleton_iff.mp hnodes
  have hmissing : node.capacity.tags.contains Demo.longTag = false := by
    rw [Std.ExtTreeMap.isEmpty_iff.mp (Prod.mk.inj htags).2, Std.ExtTreeMap.contains_empty]
  have htag : Text.Bounded Demo.longTag := (List.length_replicate : Demo.longTag.length = 1048576).le
  have hreceived : (Command.placementQuery ⟨0, 9⟩ 2 5 (Demo.taggedTask ⟨0, 1⟩ [Demo.longTag])).Received := by
    refine received_placementQuery _ _ _ (Demo.bounded_taggedTask htag) ?_
    have hlength : Demo.longTag.length ≤ 1048576 := htag
    have hmax : maxFramePayload.toNat = 8388608 := rfl
    simp only [PlacementQuery.codec, List.flatten_cons, List.flatten_nil, List.append_nil,
      Demo.length_serializeTask_tagged]
    omega
  refine ⟨Demo.queried.map .event, s, _, .placementResponse true (s.scheduler.place
    (Demo.taggedTask ⟨0, 1⟩ [Demo.longTag]) s.nodes s.reservations s.stateLocality),
    fun ce hce => Demo.received_queried hce, ?_, hreceived, rfl, ?_, ?_⟩
  · rwa [crashRun_event]
  · rw [process, handlePlacementQuery, respondClient_effects, if_pos hanswers]
  · rw [Message.readable_iff]
    intro h
    exact place_not_bounded _ _ _ (hnode ▸ List.mem_singleton_self node) (List.mem_singleton_self _) hmissing
      Demo.longTag_reason h.1.1

end ComputeFabric
