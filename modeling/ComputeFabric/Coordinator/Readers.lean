import ComputeFabric.Coordinator.Run
import ComputeFabric.Protocol.Frame
import ComputeFabric.Protocol.MessageCodec

/-!
# `Coordinator.Readers` — from frames to commands

`node_reader` and `client_reader`: one thread for each connection, which turns the frames it receives into
commands of the core. A frame of an unknown type, or one whose payload its deserializer refuses, becomes no
command. A node has to say hello first, and its reader reports the disconnect at the end.

`Command.Received` are the commands that come about this way. All they carry is within the limits of the wire
decoder (`Command.Received.bounded`).
-/

namespace ComputeFabric

open Codec

/-- The message type of a number. -/
def MessageType.ofCode? : UInt16 → Option MessageType
  | 1 => some .hello
  | 2 => some .nodeRegister
  | 3 => some .nodeRegisterAck
  | 4 => some .nodeHeartbeat
  | 5 => some .nodeHeartbeatAck
  | 6 => some .nodeShutdown
  | 7 => some .nodeShutdownAck
  | 10 => some .taskSubmit
  | 11 => some .taskSubmitResponse
  | 12 => some .taskInspect
  | 13 => some .taskInspectResponse
  | 14 => some .taskList
  | 15 => some .taskListResponse
  | 16 => some .taskCancel
  | 17 => some .taskCancelResponse
  | 18 => some .workloadInspect
  | 19 => some .workloadInspectResponse
  | 20 => some .fabricStatus
  | 21 => some .fabricStatusResponse
  | 22 => some .placementQuery
  | 23 => some .placementResponse
  | 24 => some .nodeList
  | 25 => some .nodeListResponse
  | 26 => some .nodeDrain
  | 27 => some .nodeDrainResponse
  | 28 => some .coordinatorShutdown
  | 29 => some .coordinatorShutdownResponse
  | 30 => some .dispatchAttempt
  | 31 => some .dispatchAck
  | 32 => some .attemptStarted
  | 33 => some .attemptProgress
  | 34 => some .attemptComplete
  | 35 => some .attemptCompleteAck
  | 36 => some .attemptFailed
  | 37 => some .attemptFailedAck
  | 38 => some .attemptCancelled
  | 39 => some .attemptCancel
  | 40 => some .attemptCancelAck
  | 41 => some .reservationGrant
  | 42 => some .reservationRelease
  | 43 => some .reservationReleaseAck
  | 999 => some .errorResponse
  | _ => none

theorem MessageType.ofCode?_code (t : MessageType) : MessageType.ofCode? t.code = some t := by
  cases t <;> rfl

variable {D : Type} [DoubleBits D]

/-- The payload, read by a deserializer; bytes that are left over are ignored. -/
def Frame.decode {X : Type} (f : Frame) (c : RecordCodec X) : Option X :=
  match c.deserialize.run f.payload with
  | .error _ => none
  | .ok (m, _) => some m

theorem Frame.bounded_of_decode {X : Type} {f : Frame} {c : RecordCodec X} {m : X} (h : f.decode c = some m) :
    c.Bounded m := by
  unfold decode at h
  cases hrun : c.deserialize.run f.payload with
  | error e =>
      rw [hrun] at h
      cases h
  | ok r =>
      rw [hrun] at h
      obtain rfl := Option.some.inj h
      exact c.yields _ _ _ hrun

theorem Frame.decode_of_payload {X : Type} {f : Frame} {c : RecordCodec X} {m : X} (hm : c.Bounded m)
    (hpayload : f.payload = c.serialize m) : f.decode c = some m := by
  have hread := c.reads m hm []
  rw [List.append_nil] at hread
  rw [decode, hpayload, hread]

/-! ## `node_reader` -/

/-- The switch of `node_reader`. -/
def nodeCommand (conn : ConnId) (f : Frame) : Option (Command D) :=
  let req := f.header.requestId
  match MessageType.ofCode? f.header.messageType with
  | some .nodeRegister => (f.decode NodeRegister.codec).map (.nodeRegister conn req)
  | some .nodeHeartbeat => (f.decode NodeHeartbeat.codec).map (.nodeHeartbeat conn req)
  | some .nodeShutdown => (f.decode NodeShutdown.codec).map fun m => .nodeShutdown conn req m.nodeId
  | some .attemptStarted => (f.decode AttemptStarted.codec).map .attemptStarted
  | some .attemptProgress => (f.decode AttemptProgress.codec).map .attemptProgress
  | some .attemptComplete => (f.decode AttemptComplete.codec).map (.attemptComplete conn req)
  | some .attemptFailed => (f.decode AttemptFailed.codec).map (.attemptFailed conn req)
  | some .attemptCancelled => (f.decode AttemptCancelled.codec).map .attemptCancelled
  | some .reservationRelease => (f.decode ReservationRelease.codec).map (.reservationRelease conn req)
  | _ => none

/-- The hello a node has to begin with. -/
def Frame.isNodeHello (f : Frame) : Bool :=
  f.header.messageType = MessageType.hello.code &&
    (f.decode Hello.codec).any fun hello => hello.role = text "node" && hello.protocolVersion = protocolVersion

/-- The local variables of `node_reader`. -/
structure NodeReader where
  handshakeDone : Bool := false
  registeredNodeId : NodeId := {}

/-- A registration is remembered for the disconnect. -/
def NodeReader.after (r : NodeReader) : Command D → NodeReader
  | .nodeRegister _ _ reg => { r with registeredNodeId := reg.nodeId }
  | _ => r

/-- The report at the end. -/
def NodeReader.disconnect (conn : ConnId) (r : NodeReader) : List (Command D) :=
  if r.registeredNodeId.isZero then [] else [.nodeDisconnected conn r.registeredNodeId]

/-- `node_reader`, over the frames it receives before the connection ends: the commands it pushes. -/
def nodeReader (conn : ConnId) (r : NodeReader) : List Frame → List (Command D)
  | [] => r.disconnect conn
  | f :: rest =>
      if !r.handshakeDone then
        if f.isNodeHello then nodeReader conn { r with handshakeDone := true } rest else r.disconnect conn
      else match nodeCommand conn f with
        | none => nodeReader conn r rest
        | some c => c :: nodeReader conn (r.after c) rest

/-! ## `client_reader` -/

/-- The switch of `client_reader`. -/
def clientCommand (client : Id128) (conn : ConnId) (f : Frame) : Option (Command D) :=
  let req := f.header.requestId
  match MessageType.ofCode? f.header.messageType with
  | some .taskSubmit => (f.decode TaskSubmit.codec).map (.taskSubmit client conn req)
  | some .taskInspect => (f.decode TaskInspect.codec).map fun m => .taskInspect client conn req m.taskId
  | some .taskList => (f.decode TaskList.codec).map fun m => .taskList client conn req m.filterState
  | some .taskCancel => (f.decode TaskCancel.codec).map fun m => .taskCancel client conn req m.taskId
  | some .workloadInspect => (f.decode WorkloadInspect.codec).map fun m => .workloadInspect client conn req m.workloadId
  | some .fabricStatus => (f.decode FabricStatus.codec).map fun _ => .fabricStatus client conn req
  | some .placementQuery => (f.decode PlacementQuery.codec).map fun m => .placementQuery client conn req m.task
  | some .nodeList => (f.decode NodeList.codec).map fun _ => .nodeList client conn req
  | some .nodeDrain => (f.decode NodeDrain.codec).map (.nodeDrain client conn req)
  | some .coordinatorShutdown =>
      (f.decode CoordinatorShutdown.codec).map fun _ => .coordinatorShutdown client conn req
  | _ => none

/-- `client_reader`, over the frames it receives before the connection ends: the commands it pushes. -/
def clientReader (client : Id128) (conn : ConnId) (frames : List Frame) : List (Command D) :=
  frames.filterMap (clientCommand client conn) ++ [.clientDisconnected client conn]

/-! ## What the readers push -/

/-- The commands of the core: what a reader pushes for frames that were received whole, and the arrival of a
    client. -/
inductive Command.Received : Command D → Prop
  | node {conn : ConnId} {frames : List Frame} (hframes : ∀ f ∈ frames, validateFrame f = .ok ()) {c : Command D}
      (hc : c ∈ nodeReader conn {} frames) : Received c
  | client {client : Id128} {conn : ConnId} {frames : List Frame}
      (hframes : ∀ f ∈ frames, validateFrame f = .ok ()) {c : Command D}
      (hc : c ∈ clientReader client conn frames) : Received c
  | clientConnected (client : Id128) (conn : ConnId) : Received (.clientConnected client conn)

/-- What is kept of a command, or answered to it, is within the limits of its deserializer. -/
def Command.Bounded : Command D → Prop
  | .nodeRegister _ _ reg => NodeRegister.codec.Bounded reg
  | .attemptStarted st => AttemptStarted.codec.Bounded st
  | .attemptComplete _ _ co => AttemptComplete.codec.Bounded co
  | .attemptFailed _ _ fa => AttemptFailed.codec.Bounded fa
  | .attemptCancelled ca => AttemptCancelled.codec.Bounded ca
  | .taskSubmit _ _ _ sub => TaskSubmit.codec.Bounded sub
  | .placementQuery _ _ _ task => task.Bounded
  | _ => True

theorem nodeCommand_bounded {conn : ConnId} {f : Frame} {c : Command D} (h : nodeCommand conn f = some c) :
    c.Bounded := by
  unfold nodeCommand at h
  dsimp only at h
  split at h
  all_goals first
    | obtain ⟨m, hm, rfl⟩ := Option.map_eq_some_iff.mp h
      first
        | exact Frame.bounded_of_decode hm
        | exact trivial
    | cases h

theorem clientCommand_bounded {client : Id128} {conn : ConnId} {f : Frame} {c : Command D}
    (h : clientCommand client conn f = some c) : c.Bounded := by
  unfold clientCommand at h
  dsimp only at h
  split at h
  all_goals first
    | obtain ⟨m, hm, rfl⟩ := Option.map_eq_some_iff.mp h
      first
        | exact Frame.bounded_of_decode hm
        | exact trivial
    | cases h

theorem NodeReader.disconnect_bounded {conn : ConnId} {r : NodeReader} {c : Command D}
    (hc : c ∈ r.disconnect conn) : c.Bounded := by
  unfold disconnect at hc
  split_ifs at hc
  · cases hc
  · obtain rfl := List.mem_singleton.mp hc
    exact trivial

theorem nodeReader_bounded {conn : ConnId} {r : NodeReader} {frames : List Frame} {c : Command D}
    (hc : c ∈ nodeReader conn r frames) : c.Bounded := by
  induction frames generalizing r with
  | nil => exact NodeReader.disconnect_bounded hc
  | cons f rest ih =>
      unfold nodeReader at hc
      split_ifs at hc with hnew hhello
      · exact ih hc
      · exact NodeReader.disconnect_bounded hc
      · cases hcommand : nodeCommand (D := D) conn f with
        | none =>
            rw [hcommand] at hc
            exact ih hc
        | some c' =>
            rw [hcommand] at hc
            rcases List.mem_cons.mp hc with rfl | hrest
            · exact nodeCommand_bounded hcommand
            · exact ih hrest

/-- **What is received is within the limits.** -/
theorem Command.Received.bounded {c : Command D} (h : c.Received) : c.Bounded := by
  cases h with
  | node hframes hc => exact nodeReader_bounded hc
  | client hframes hc =>
      rcases List.mem_append.mp hc with hc | hc
      · obtain ⟨f, -, hf⟩ := List.mem_filterMap.mp hc
        exact clientCommand_bounded hf
      · obtain rfl := List.mem_singleton.mp hc
        exact trivial
  | clientConnected client conn => exact trivial

/-! Conversely, a message within the limits that fits into a frame is received. -/

theorem received_of_clientCommand (client : Id128) (conn : ConnId) {f : Frame} {c : Command D}
    (hvalid : validateFrame f = .ok ()) (hc : clientCommand client conn f = some c) : c.Received := by
  refine @Command.Received.client _ _ client conn [f] ?_ _ ?_
  · intro g hg
    rwa [List.mem_singleton.mp hg]
  · exact List.mem_append_left _ (List.mem_filterMap.mpr ⟨f, List.mem_singleton_self f, hc⟩)

theorem received_taskSubmit (client : Id128) (conn : ConnId) (req : UInt64) {sub : TaskSubmit D}
    (hsub : TaskSubmit.codec.Bounded sub)
    (hlen : (TaskSubmit.codec.serialize sub).length ≤ maxFramePayload.toNat) :
    (Command.taskSubmit client conn req sub).Received := by
  refine received_of_clientCommand client conn
    (validateFrame_makeFrame MessageType.taskSubmit.code .client client req hlen) ?_
  simp [clientCommand, makeFrame, MessageType.ofCode?_code, Frame.decode_of_payload hsub]

theorem received_placementQuery (client : Id128) (conn : ConnId) (req : UInt64) {task : ComputeTask D}
    (htask : task.Bounded)
    (hlen : (PlacementQuery.codec.serialize { task := task }).length ≤ maxFramePayload.toNat) :
    (Command.placementQuery client conn req task).Received := by
  refine received_of_clientCommand client conn
    (validateFrame_makeFrame MessageType.placementQuery.code .client client req hlen) ?_
  have hquery : PlacementQuery.codec.Bounded { task := task } := htask
  simp [clientCommand, makeFrame, MessageType.ofCode?_code, Frame.decode_of_payload hquery]

/-- The hello of a node. -/
def nodeHello : Frame :=
  makeFrame MessageType.hello.code .node {} 0 (Hello.codec.serialize { role := text "node" })

theorem received_nodeRegister (conn : ConnId) (req : UInt64) {reg : NodeRegister D}
    (hreg : NodeRegister.codec.Bounded reg)
    (hlen : (NodeRegister.codec.serialize reg).length ≤ maxFramePayload.toNat) :
    (Command.nodeRegister conn req reg).Received := by
  let f := makeFrame MessageType.nodeRegister.code .node reg.nodeId req (NodeRegister.codec.serialize reg)
  have hcommand : nodeCommand conn f = some (.nodeRegister conn req reg) := by
    simp [f, nodeCommand, makeFrame, MessageType.ofCode?_code, Frame.decode_of_payload hreg]
  have hhello : nodeHello.isNodeHello = true := by decide +kernel
  refine @Command.Received.node _ _ conn [nodeHello, f] ?_ _ ?_
  · intro g hg
    rcases List.mem_cons.mp hg with rfl | hg
    · exact validateFrame_makeFrame _ _ _ _ (by decide +kernel)
    · rw [List.mem_singleton.mp hg]
      exact validateFrame_makeFrame _ _ _ _ hlen
  · simp [nodeReader, hhello, hcommand]

/-- The commands among the events come from the readers. -/
def Event.Received : Event D → Prop
  | .command c => c.Received
  | _ => True

def Event.Bounded : Event D → Prop
  | .command c => c.Bounded
  | _ => True

theorem Event.Received.bounded {e : Event D} (h : e.Received) : e.Bounded := by
  cases e with
  | command c => exact Command.Received.bounded h
  | _ => exact trivial

end ComputeFabric
