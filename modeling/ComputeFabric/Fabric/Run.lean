import ComputeFabric.Coordinator.Run
import ComputeFabric.Node.Runtime

/-!
# `Fabric.Run` — a coordinator and its nodes

The composed system: one coordinator, any number of node processes, and the connections between them.

- **Links.** Each direction of a connection delivers in order and may stop at any point. What the coordinator
  queues on a connection is read off its log; what the node sends waits in `toCoordinator`.
- **Readers.** `node_reader` runs once per connection. It turns frames into commands, and a frame is read and
  its command processed in one step: the core takes the commands of one connection in the order they were
  read, and those of different connections in any order.
- **Runs.** `Fabric.step` moves the network and, when the event makes one, takes the coordinator through the
  event `coreEvent` names. So every run of the fabric contains a run of its coordinator
  (`run_coordinator`), and what is proved about all coordinator runs holds in the fabric.
-/

namespace ComputeFabric

variable {D : Type}

/-! ## Connections -/

/-- The connection of a node: what it has sent and nobody has read, how many of the coordinator's frames it
    has read, and the variables of the `node_reader` at the other end. -/
structure Link (D : Type) where
  toCoordinator : List (NodeFrame D) := []
  received : Nat := 0
  handshakeDone : Bool := false
  registeredNodeId : NodeId := .zero
  /-- The reader is in its loop. -/
  reading : Bool := true
  /-- A `NodeDisconnected` command is queued. -/
  disconnecting : Bool := false

/-- A node process and its connection. -/
structure NodeProcess (D : Type) where
  node : NodeRuntime D
  conn : Option ConnId := none

/-- Everything but the coordinator. -/
structure Network (D : Type) where
  processes : List (NodeProcess D) := []
  links : Std.ExtTreeMap ConnId (Link D) compare := ∅
  /-- The connections that are clients'. -/
  clients : Std.ExtTreeSet ConnId compare := ∅

structure Fabric (D : Type) extends Network D where
  coordinator : Coordinator D

/-- The frames a coordinator has queued on a connection, oldest first. -/
def Coordinator.sentTo (s : Coordinator D) (conn : ConnId) : List (Message D) :=
  s.effects.reverse.filterMap fun
    | .queued c _ m => if c = conn then some m else none
    | _ => none

/-- The command `node_reader` makes of a frame; it ignores the frames it does not know. -/
def NodeFrame.command (conn : ConnId) : NodeFrame D → Option (Command D)
  | .hello => none
  | .nodeRegister reg => some (.nodeRegister conn 2 reg)
  | .nodeHeartbeat hb => some (.nodeHeartbeat conn 0 hb)
  | .nodeShutdownAck _ => none
  | .attemptStarted st => some (.attemptStarted st)
  | .attemptComplete co => some (.attemptComplete conn 0 co)
  | .attemptFailed fa => some (.attemptFailed conn 0 fa)
  | .attemptCancelled ca => some (.attemptCancelled ca)
  | .reservationRelease rel => some (.reservationRelease conn 0 rel)

/-- The connection of a command that `client_reader` enqueues. -/
def Command.clientConn : Command D → Option ConnId
  | .clientConnected _ conn | .clientDisconnected _ conn | .taskSubmit _ conn _ _ | .taskInspect _ conn _ _
  | .taskList _ conn _ _ | .taskCancel _ conn _ _ | .workloadInspect _ conn _ _ | .fabricStatus _ conn _
  | .placementQuery _ conn _ _ | .nodeList _ conn _ | .nodeDrain _ conn _ _
  | .coordinatorShutdown _ conn _ => some conn
  | _ => none

/-! ## Events -/

inductive FabricEvent (D : Type) where
  | sweep
  | stopRequested
  | restart
  | client (c : Command D)
  /-- A reader or a writer gives a connection up. -/
  | connectionStopped (conn : ConnId)
  /-- The `node_reader` of `conn` reads a frame, and the core processes the command. -/
  | read (conn : ConnId)
  /-- The `node_reader` of `conn` leaves its loop. -/
  | readerEnds (conn : ConnId)
  /-- The core processes the `NodeDisconnected` command of `conn`. -/
  | disconnected (conn : ConnId)
  /-- A node process is created. -/
  | spawn (config : NodeConfig) (nodeId : NodeId)
  /-- Process `k` opens the connection `conn`. -/
  | connect (k : Nat) (conn : ConnId)
  | node (k : Nat) (e : NodeEvent D)

namespace Link

/-- What reading a frame does to the reader. -/
def readNext (link : Link D) : Option (Link D) :=
  match link.toCoordinator with
  | [] => none
  | frame :: rest =>
      if !link.reading then none
      else if link.handshakeDone then
        some { link with
          toCoordinator := rest
          registeredNodeId := match frame with
            | .nodeRegister reg => reg.nodeId
            | _ => link.registeredNodeId }
      else match frame with
        | .hello => some { link with toCoordinator := rest, handshakeDone := true }
        | _ => none

/-- The frame a reader past its handshake reads next. -/
def nextFrame (link : Link D) : Option (NodeFrame D) :=
  if link.handshakeDone then link.toCoordinator.head? else none

end Link

/-- The event of the coordinator that an event of the fabric makes. -/
def Network.coreEvent (net : Network D) : FabricEvent D → Option (Event D)
  | .sweep => some .sweep
  | .stopRequested => some .stopRequested
  | .restart => some .restart
  | .client c => some (.command c)
  | .connectionStopped conn => some (.connectionStopped conn)
  | .read conn => do
      let link ← net.links[conn]?
      let frame ← link.nextFrame
      let c ← frame.command conn
      return .command c
  | .readerEnds conn => some (.connectionStopped conn)
  | .disconnected conn => net.links[conn]?.map fun link =>
      .command (.nodeDisconnected conn link.registeredNodeId)
  | .spawn _ _ | .connect _ _ | .node _ _ => none

namespace Network

variable [DoubleArith D]

/-- Process `k` is replaced and its frames go onto its connection. -/
def afterNode (net : Network D) (k : Nat) (p : NodeProcess D) (conn : ConnId) (sent : List (NodeFrame D))
    (reads : Nat) : Network D :=
  { net with
    processes := net.processes.set k p
    links := net.links.modify conn fun link =>
      { link with toCoordinator := link.toCoordinator ++ sent, received := link.received + reads } }

/-- The step of a process that has a connection. -/
def nodeStep (net : Network D) (c : Coordinator D) (k : Nat) (p : NodeProcess D) (conn : ConnId)
    (e : NodeEvent D) : Option (Network D) :=
  match net.links[conn]? with
  | none => none
  | some link =>
      (p.node.step (c.sentTo conn)[link.received]? e).map fun r =>
        net.afterNode k { p with node := r.1 } conn r.2 (match e with | .receive => 1 | _ => 0)

/-- What an event does outside the coordinator; `none` when it cannot happen. -/
def move (net : Network D) (c : Coordinator D) : FabricEvent D → Option (Network D)
  | .sweep | .stopRequested | .connectionStopped _ => some net
  | .restart => some { net with
      links := net.links.map fun _ link => { link with reading := false, disconnecting := false } }
  | .client cmd =>
      match cmd.clientConn with
      | none => none
      | some conn =>
          if net.links.contains conn then none
          else some { net with clients := net.clients.insert conn }
  | .read conn =>
      match net.links[conn]? with
      | none => none
      | some link => link.readNext.map fun link => { net with links := net.links.insert conn link }
  | .readerEnds conn =>
      match net.links[conn]? with
      | none => none
      | some link =>
          if link.reading then
            some { net with links := net.links.insert conn { link with
              reading := false
              disconnecting := !c.stopping && !link.registeredNodeId.isZero } }
          else none
  | .disconnected conn =>
      match net.links[conn]? with
      | none => none
      | some link =>
          if link.disconnecting then
            some { net with links := net.links.insert conn { link with disconnecting := false } }
          else none
  | .spawn config nodeId => some { net with
      processes := net.processes ++ [{ node := .create config nodeId }] }
  | .connect k conn =>
      match net.processes[k]? with
      | none => none
      | some p =>
          if net.links.contains conn ∨ net.clients.contains conn then none
          else p.node.connect.map fun r =>
            { net with
              processes := net.processes.set k { node := r.1, conn := some conn }
              links := net.links.insert conn { toCoordinator := r.2 } }
  | .node k e =>
      match net.processes[k]? with
      | none => none
      | some p =>
          match p.conn with
          | none => none
          | some conn => net.nodeStep c k p conn e

end Network

namespace Fabric

variable [DoubleArith D]

def step (env : Env) (f : Fabric D) (e : FabricEvent D) : Option (Fabric D) :=
  match f.move f.coordinator e with
  | none => none
  | some net =>
      match f.coreEvent e with
      | none => some { net with coordinator := f.coordinator }
      | some ev => (f.coordinator.step env ev).map fun c => { net with coordinator := c }

def runFrom (env : Env) (f : Fabric D) (events : List (FabricEvent D)) : Option (Fabric D) :=
  Lts.run (step env) f events

/-- The state after the first start of the coordinator and a list of events. -/
def run (env : Env) (events : List (FabricEvent D)) : Option (Fabric D) :=
  (Coordinator.boot env).bind fun c => runFrom env { coordinator := c } events

variable {env : Env}

/-- **The coordinator's part of a step**: nothing, or the event the step makes. -/
theorem step_coordinator {f f' : Fabric D} {e : FabricEvent D} (h : f.step env e = some f') :
    (f.coreEvent e = none ∧ f'.coordinator = f.coordinator) ∨
      ∃ ev, f.coreEvent e = some ev ∧ f.coordinator.step env ev = some f'.coordinator := by
  unfold step at h
  cases hmove : f.move f.coordinator e with
  | none =>
      rw [hmove] at h
      cases h
  | some net =>
      rw [hmove] at h
      cases hev : f.coreEvent e with
      | none =>
          rw [hev] at h
          rw [← Option.some.inj h]
          exact .inl ⟨rfl, rfl⟩
      | some ev =>
          rw [hev] at h
          obtain ⟨c, hc, rfl⟩ := Option.map_eq_some_iff.mp h
          exact .inr ⟨ev, rfl, hc⟩

/-- The events the coordinator goes through while the fabric runs. -/
def coreEvents (env : Env) : Fabric D → List (FabricEvent D) → List (Event D)
  | _, [] => []
  | f, e :: es =>
      (f.coreEvent e).toList ++ match f.step env e with
        | none => []
        | some f' => coreEvents env f' es

/-- **Every run of the fabric contains a run of its coordinator.** -/
theorem runFrom_coordinator {f f' : Fabric D} {events : List (FabricEvent D)}
    (h : runFrom env f events = some f') :
    f.coordinator.runFrom env (coreEvents env f events) = some f'.coordinator := by
  induction events generalizing f with
  | nil =>
      obtain rfl : f = f' := Option.some.inj h
      rfl
  | cons e es ih =>
      obtain ⟨f₁, h₁, h₂⟩ := Lts.run_cons.mp h
      have hrest := ih h₂
      rw [coreEvents, h₁]
      rcases step_coordinator h₁ with ⟨hnone, hsame⟩ | ⟨ev, hsome, hstep⟩
      · rw [hnone, ← hsame]
        exact hrest
      · rw [hsome]
        exact Lts.run_cons.mpr ⟨f₁.coordinator, hstep, hrest⟩

theorem run_coordinator {f : Fabric D} {events : List (FabricEvent D)} (h : run env events = some f) :
    ∃ core, Coordinator.run env core = some f.coordinator := by
  obtain ⟨c, hc, hrun⟩ := Option.bind_eq_some_iff.mp h
  refine ⟨coreEvents env { coordinator := c } events, ?_⟩
  rw [Coordinator.run, hc]
  exact runFrom_coordinator hrun

end Fabric

end ComputeFabric
