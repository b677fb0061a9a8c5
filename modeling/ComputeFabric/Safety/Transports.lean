import ComputeFabric.Safety.Connectivity

/-!
# `Safety.Transports` — stale transports and new sessions

A node may come back on a new transport while the old one still delivers. What the old one delivers is stale: a
heartbeat with another session than the node's, or the disconnection of a transport that is no longer the node's.
`Lts.purge` takes the stale commands out of a sequence, and `stale_transports_inert` compares the two runs: their
node registries are the same. The relation between them is `SameCore`, equality but for what has been sent, and
each function of the core that such a sequence reaches is `Blind` to that. The session epoch tells old sessions
from new ones as long as it does not wrap (`session_epoch_wraps`).
-/

namespace ComputeFabric

open Coordinator

variable {D : Type}

/-! ## Commands of nodes, and stale ones -/

/-- Registrations, heartbeats, disconnections, drains and sweeps. -/
def Event.isNodeTraffic : Event D → Bool
  | .command (.nodeRegister ..) | .command (.nodeHeartbeat ..) | .command (.nodeDisconnected ..)
  | .command (.nodeDrain ..) | .sweep => true
  | _ => false

def Event.isRegister : Event D → Bool
  | .command (.nodeRegister ..) => true
  | _ => false

/-- A heartbeat of another session than the current one of its node, or the disconnection of a transport that is
    not the one mapped. -/
def Coordinator.isStale (s : Coordinator D) : Event D → Bool
  | .command (.nodeHeartbeat _ _ hb) =>
      s.nodes[hb.nodeId]?.all fun node => node.session ≠ hb.sessionId || node.sessionEpoch ≠ hb.sessionEpoch
  | .command (.nodeDisconnected conn n) => s.nodeConns[n]? ≠ some conn
  | _ => false

/-! ## What has been sent -/

namespace Coordinator

/-- The process with another record of what it has sent. -/
def sentAs (effects : List (Effect D)) (sends : Nat) (s : Coordinator D) : Coordinator D :=
  { s with effects := effects, sends := sends }

theorem sentAs_toLedger (effects : List (Effect D)) (sends : Nat) (s : Coordinator D) :
    (s.sentAs effects sends).toLedger = s.toLedger := rfl

theorem sentAs_nodeConns (effects : List (Effect D)) (sends : Nat) (s : Coordinator D) :
    (s.sentAs effects sends).nodeConns = s.nodeConns := rfl

/-- The two processes differ at most in what they have sent. -/
def SameCore (x y : Coordinator D) : Prop := ∃ effects sends, y = x.sentAs effects sends

namespace SameCore

variable {x y z : Coordinator D}

theorem refl (x : Coordinator D) : x.SameCore x := ⟨x.effects, x.sends, rfl⟩

theorem symm (h : x.SameCore y) : y.SameCore x := by
  obtain ⟨effects, sends, rfl⟩ := h
  exact ⟨x.effects, x.sends, rfl⟩

theorem trans (h : x.SameCore y) (h' : y.SameCore z) : x.SameCore z := by
  obtain ⟨effects, sends, rfl⟩ := h
  obtain ⟨effects', sends', rfl⟩ := h'
  exact ⟨effects', sends', rfl⟩

theorem toLedger (h : x.SameCore y) : y.toLedger = x.toLedger := by
  obtain ⟨effects, sends, rfl⟩ := h
  rfl

theorem now (h : x.SameCore y) (env : Env) : y.now env = x.now env := by
  obtain ⟨effects, sends, rfl⟩ := h
  rfl

theorem nodeConns (h : x.SameCore y) : y.nodeConns = x.nodeConns := by
  obtain ⟨effects, sends, rfl⟩ := h
  rfl

end SameCore

/-- What the function does besides sending does not depend on what has been sent. -/
def Blind (f : Coordinator D → Coordinator D) : Prop := ∀ x y, x.SameCore y → (f x).SameCore (f y)

namespace Blind

/-- It is enough to look at one process. -/
theorem of_sentAs {f : Coordinator D → Coordinator D}
    (h : ∀ (x : Coordinator D) effects sends, (f x).SameCore (f (x.sentAs effects sends))) : Blind f := by
  rintro x y ⟨effects, sends, rfl⟩
  exact h x effects sends

theorem comp {f g : Coordinator D → Coordinator D} (hf : Blind f) (hg : Blind g) : Blind fun x => f (g x) :=
  fun x y h => hf _ _ (hg x y h)

theorem foldl {X : Type} {f : Coordinator D → X → Coordinator D} (hf : ∀ a, Blind fun x => f x a) (xs : List X) :
    Blind fun x => xs.foldl f x := by
  induction xs with
  | nil => exact fun x y h => h
  | cons a xs ih => exact fun x y h => ih _ _ (hf a x y h)

/-- A loop over a list that the state gives. -/
theorem loop {X : Type} {f : Coordinator D → X → Coordinator D} {list : Coordinator D → List X}
    (hf : ∀ a, Blind fun x => f x a) (hlist : ∀ x effects sends, list (sentAs effects sends x) = list x) :
    Blind fun x => (list x).foldl f x := by
  refine .of_sentAs fun x effects sends => ?_
  rw [hlist]
  exact foldl hf (list x) _ _ ⟨effects, sends, rfl⟩

theorem tick : Blind (D := D) Coordinator.tick := .of_sentAs fun _ effects sends => ⟨effects, sends, rfl⟩

theorem onLedger (f : Ledger D → Ledger D) : Blind fun x => x.onLedger f :=
  .of_sentAs fun _ effects sends => ⟨effects, sends, rfl⟩

theorem recordPlacement (t : ComputeTaskId) (decision : PlacementDecision D) :
    Blind fun x => x.recordPlacement t decision :=
  .of_sentAs fun _ effects sends => ⟨effects, sends, rfl⟩

theorem persist (env : Env) : Blind (D := D) (Coordinator.persist env) := by
  refine .of_sentAs fun x effects sends => ?_
  unfold Coordinator.persist
  show SameCore (if env.saveOk x.saves then _ else _) (if env.saveOk x.saves then _ else _)
  split_ifs
  · exact ⟨_, sends, rfl⟩
  · exact ⟨_, sends, rfl⟩

end Blind

end Coordinator

section Sending

variable {env : Env} (hroom : ∀ i, env.outboundFull i = false)
include hroom

/-- Sending changes nothing else. -/
theorem queueOutbound_sameCore (conn : ConnId) (req : UInt64) (m : Message D) (x : Coordinator D) :
    x.SameCore (x.queueOutbound env conn req m) := by
  unfold queueOutbound
  split
  · exact .refl x
  · rw [if_neg (by rw [hroom]; decide)]
    exact ⟨_, _, rfl⟩

theorem respondClient_sameCore (client : Id128) (conn : ConnId) (req : UInt64) (m : Message D) (x : Coordinator D) :
    x.SameCore (x.respondClient env client conn req m) := by
  unfold respondClient
  split_ifs
  · exact queueOutbound_sameCore hroom conn req m x
  · exact .refl x

theorem sendToNode_sameCore (n : NodeId) (m : Message D) (x : Coordinator D) :
    x.SameCore (x.sendToNode env n m) := by
  unfold sendToNode
  split
  · exact .refl x
  · exact queueOutbound_sameCore hroom _ _ m x

omit hroom in
/-- What only sends is blind. -/
theorem Coordinator.Blind.of_sameCore {f : Coordinator D → Coordinator D} (h : ∀ x, SameCore x (f x)) : Blind f :=
  fun x y hxy => ((h x).symm.trans hxy).trans (h y)

end Sending

/-! ## Sweeps -/

section Sweep

variable (env : Env)

theorem blind_loseTask (t : ComputeTaskId) : Blind fun x : Coordinator D => loseTask env x t := by
  refine .of_sentAs fun x effects sends => ?_
  unfold loseTask
  rw [sentAs_toLedger]
  split
  · exact ⟨effects, sends, rfl⟩
  · split_ifs
    · exact ⟨effects, sends, rfl⟩
    · exact ⟨effects, sends, rfl⟩

theorem blind_stopTransport (n : NodeId) (node : NodeRecord D) :
    Blind fun x : Coordinator D => x.stopTransport n node := by
  refine .of_sentAs fun x effects sends => ?_
  unfold stopTransport
  split_ifs
  · exact ⟨effects, sends, rfl⟩
  · rw [sentAs_nodeConns]
    split <;> exact ⟨effects, sends, rfl⟩

theorem blind_handleNodeLoss (n : NodeId) : Blind fun x : Coordinator D => handleNodeLoss env x n := by
  intro x y h
  show SameCore (handleNodeLoss env x n) (handleNodeLoss env y n)
  unfold handleNodeLoss
  rw [h.toLedger]
  split
  · exact h
  · next node _ =>
      split_ifs
      · exact h
      · dsimp only
        have hdropped : SameCore ((x.stopTransport n node).onLedger fun l => l.dropNode n)
            ((y.stopTransport n node).onLedger fun l => l.dropNode n) :=
          Blind.onLedger _ _ _ (blind_stopTransport n node x y h)
        rw [hdropped.toLedger]
        exact Blind.persist env _ _ (Blind.foldl (blind_loseTask env) _ _ _ hdropped)

theorem blind_timeoutDispatch (time : Int64) (t : ComputeTaskId) :
    Blind fun x : Coordinator D => timeoutDispatch env time x t :=
  (Blind.persist env).comp (.onLedger fun l => l.timeoutDispatch t time)

theorem blind_requeueTask (time : Int64) (entry : ComputeTaskId × Int64) :
    Blind fun x : Coordinator D => requeueTask env time x entry := by
  intro x y h
  show SameCore (requeueTask env time x entry) (requeueTask env time y entry)
  unfold requeueTask
  rw [h.toLedger]
  split_ifs
  · exact Blind.persist env _ _ (Blind.onLedger _ _ _ h)
  · exact h

theorem blind_expireTask (time : Int64) (t : ComputeTaskId) :
    Blind fun x : Coordinator D => expireTask env time x t := by
  intro x y h
  show SameCore (expireTask env time x t) (expireTask env time y t)
  unfold expireTask
  rw [h.toLedger]
  split
  · exact h
  · dsimp only
    split_ifs
    · exact Blind.persist env _ _ (Blind.onLedger _ _ _ h)
    · exact h
    · exact h

variable {env} (hroom : ∀ i, env.outboundFull i = false)
include hroom

variable [DoubleArith D]

theorem blind_dispatchAttempt (t : ComputeTaskId) (task : ComputeTask D) (n : NodeId) (session : NodeSessionId)
    (executor : ExecutorType) (device : Text) (resv : Reservation) :
    Blind fun x : Coordinator D => x.dispatchAttempt env t task n session executor device resv := by
  refine .of_sentAs fun x effects sends => ?_
  unfold dispatchAttempt
  refine Blind.persist env _ _ (Blind.onLedger _ _ _ ?_)
  refine Blind.of_sameCore (sendToNode_sameCore hroom n _) _ _ ?_
  exact ⟨effects, sends, rfl⟩

theorem blind_reserveAndDispatch (t : ComputeTaskId) (task : ComputeTask D) (n : NodeId) (node : NodeRecord D)
    (decision : PlacementDecision D) :
    Blind fun x : Coordinator D => x.reserveAndDispatch env t task n node decision := by
  intro x y h
  show SameCore (x.reserveAndDispatch env t task n node decision) (y.reserveAndDispatch env t task n node decision)
  unfold reserveAndDispatch
  have hreserve : ∀ (executor : ExecutorType) (slots : UInt32),
      y.reservations.tryReserve node y.durable.epoch t executor slots task.scratchMemoryBytes (y.nextId env)
          (y.now env) =
        x.reservations.tryReserve node x.durable.epoch t executor slots task.scratchMemoryBytes (x.nextId env)
          (x.now env) := by
    intro executor slots
    obtain ⟨effects, sends, rfl⟩ := h
    rfl
  dsimp only
  rw [hreserve]
  split
  · exact h
  · next resv _ =>
      have hreserved : SameCore (x.tick.onLedger fun l => l.addReservation resv)
          (y.tick.onLedger fun l => l.addReservation resv) := Blind.onLedger _ _ _ (Blind.tick x y h)
      generalize x.tick.onLedger (fun l => l.addReservation resv) = x₁ at hreserved ⊢
      generalize y.tick.onLedger (fun l => l.addReservation resv) = y₁ at hreserved ⊢
      rw [hreserved.toLedger]
      split
      · exact Blind.onLedger _ _ _ hreserved
      · next g _ =>
          obtain ⟨effects, sends, rfl⟩ := hreserved
          split
          · exact Blind.onLedger _ _ _ ⟨effects, sends, rfl⟩
          · next g' _ => exact blind_dispatchAttempt hroom _ _ _ _ _ _ _ _ _ ⟨effects, sends, rfl⟩

theorem blind_placeTask (t : ComputeTaskId) (task : ComputeTask D) :
    Blind fun x : Coordinator D => x.placeTask env t task := by
  intro x y h
  show SameCore (x.placeTask env t task) (y.placeTask env t task)
  have hplace : y.scheduler.place task y.nodes y.reservations y.stateLocality =
      x.scheduler.place task x.nodes x.reservations x.stateLocality := by
    obtain ⟨effects, sends, rfl⟩ := h
    rfl
  unfold placeTask
  rw [hplace]
  generalize x.scheduler.place task x.nodes x.reservations x.stateLocality = decision
  have hrecord : SameCore (x.recordPlacement t decision) (y.recordPlacement t decision) :=
    Blind.recordPlacement t decision x y h
  dsimp only
  rw [hrecord.toLedger]
  split_ifs
  · exact hrecord
  · split
    · exact hrecord
    · split
      · exact hrecord
      · split_ifs
        · exact hrecord
        · exact blind_reserveAndDispatch hroom t task _ _ decision _ _ hrecord

theorem blind_scheduleTask (t : ComputeTaskId) : Blind fun x : Coordinator D => scheduleTask env x t := by
  intro x y h
  show SameCore (scheduleTask env x t) (scheduleTask env y t)
  have hstopping : y.stopping = x.stopping := by
    obtain ⟨effects, sends, rfl⟩ := h
    rfl
  unfold scheduleTask
  rw [h.toLedger, hstopping, h.now]
  split
  · exact h
  · split
    · exact h
    · next task _ =>
        split_ifs
        · exact h
        · exact Blind.persist env _ _ (Blind.onLedger _ _ _ (Blind.tick x y h))
        · exact blind_placeTask hroom t task _ _ (Blind.tick x y h)
        · exact blind_placeTask hroom t task _ _ h

/-- **A sweep is blind to what has been sent.** -/
theorem blind_sweep : Blind (D := D) (Coordinator.sweep env) := by
  intro x y h
  unfold Coordinator.sweep
  dsimp only
  rw [h.now env]
  generalize x.now env = time
  have hloss : Blind fun x : Coordinator D => (x.lostNodes env time).foldl (handleNodeLoss env) x :=
    .loop (blind_handleNodeLoss env) fun _ _ _ => rfl
  have htimeout : Blind fun x : Coordinator D => (x.staleDispatches time).foldl (timeoutDispatch env time) x :=
    .loop (blind_timeoutDispatch env time) fun _ _ _ => rfl
  have hrequeue : Blind fun x : Coordinator D => x.retryReadyAtMs.toList.foldl (requeueTask env time) x :=
    .loop (blind_requeueTask env time) fun _ _ _ => rfl
  have hexpire : Blind fun x : Coordinator D => x.graph.taskIds.foldl (expireTask env time) x :=
    .loop (blind_expireTask env time) fun _ _ _ => rfl
  have hschedule : Blind fun x : Coordinator D => x.readyTasks.foldl (scheduleTask env) x :=
    .loop (blind_scheduleTask hroom) fun _ _ _ => rfl
  exact hschedule _ _ (hexpire _ _ (hrequeue _ _ (htimeout _ _ (hloss _ _ (Blind.tick x y h)))))

end Sweep

/-! ## Registrations -/

namespace Coordinator

variable (env : Env) (conn : ConnId)

/-- A transport of the node that another one replaces is stopped. -/
def supersede (n : NodeId) (s : Coordinator D) : Coordinator D :=
  match s.nodeConns[n]? with
  | some c => if c ≠ conn then s.stopConnection c else s
  | none => s

/-- The record of the session that a registration opens. -/
def newSession (reg : NodeRegister D) (s : Coordinator D) : NodeRecord D where
  id := reg.nodeId
  session := s.nextId env
  epoch := s.durable.epoch
  sessionEpoch := (s.nodes[reg.nodeId]?.map fun node => node.sessionEpoch + 1).getD 1
  health := .online
  capacity := reg.capacity
  lastHeartbeatMs := s.now env
  registerMs := s.tick.now env
  connected := true

/-- The writes of a registration that opens a session. -/
def openSession (reg : NodeRegister D) (s : Coordinator D) : Coordinator D :=
  let x := s.tick.tick.onLedger fun l => l.registerNode (s.newSession env reg)
  { x with
    nodeConns := x.nodeConns.insert reg.nodeId conn
    connSession := x.connSession.insert conn (s.newSession env reg).session }

end Coordinator

section Registration

variable {env : Env} {conn : ConnId} {req : UInt64} {reg : NodeRegister D} {s : Coordinator D}

theorem opensSession_of_fresh {n : NodeId} (hstop : s.isStopped conn = false) (hconn : s.nodeConns[n]? ≠ some conn) :
    s.opensSession conn n = true := by
  simp [opensSession, currentSession, hstop, hconn]

/-- A registration that opens a session. -/
theorem handleNodeRegister_opens (h : s.opensSession conn reg.nodeId = true) :
    s.handleNodeRegister env conn req reg =
      ((s.supersede conn reg.nodeId).openSession env conn reg).queueOutbound env conn req (.nodeRegisterAck
        { nodeId := reg.nodeId
          sessionId := ((s.supersede conn reg.nodeId).newSession env reg).session
          coordinatorEpoch := (s.supersede conn reg.nodeId).durable.epoch
          sessionEpoch := ((s.supersede conn reg.nodeId).newSession env reg).sessionEpoch }) := by
  obtain ⟨hstop, hnone⟩ : s.isStopped conn = false ∧ s.currentSession conn reg.nodeId = none := by
    simpa [opensSession] using h
  unfold handleNodeRegister supersede
  rw [if_neg (by rw [hstop]; decide), hnone]
  cases s.nodeConns[reg.nodeId]? with
  | none => rfl
  | some c =>
      dsimp only
      split_ifs <;> rfl

theorem handleNodeRegister_replays (hroom : ∀ i, env.outboundFull i = false) (req : UInt64)
    (h : s.opensSession conn reg.nodeId = false) : s.SameCore (s.handleNodeRegister env conn req reg) := by
  unfold handleNodeRegister
  dsimp only
  split
  · exact .refl s
  · next hstop =>
      split
      · exact queueOutbound_sameCore hroom conn req _ s
      · next hnone => simp [opensSession, hnone, hstop] at h

theorem blind_supersede (conn : ConnId) (n : NodeId) : Blind fun x : Coordinator D => x.supersede conn n := by
  refine .of_sentAs fun x effects sends => ?_
  unfold supersede
  rw [sentAs_nodeConns]
  split
  · split_ifs <;> exact ⟨effects, sends, rfl⟩
  · exact ⟨effects, sends, rfl⟩

theorem supersede_toLedger (conn : ConnId) (n : NodeId) (s : Coordinator D) :
    (s.supersede conn n).toLedger = s.toLedger := by
  unfold supersede
  split
  · split_ifs <;> rfl
  · rfl

theorem getElem?_nodes_register (hopen : s.opensSession conn reg.nodeId = true) (n : NodeId) :
    (s.handleNodeRegister env conn req reg).nodes[n]? =
      if reg.nodeId = n then some ((s.supersede conn reg.nodeId).newSession env reg) else s.nodes[n]? := by
  rw [handleNodeRegister_opens hopen, queueOutbound_toLedger]
  show ((s.supersede conn reg.nodeId).nodes.insert reg.nodeId _)[n]? = _
  rw [Std.ExtTreeMap.getElem?_insert, supersede_toLedger]
  simp

/-- The new transport is mapped, and at most the transport mapped before is stopped. -/
theorem transports_of_register (hroom : ∀ i, env.outboundFull i = false) (req : UInt64)
    (hopen : s.opensSession conn reg.nodeId = true) :
    (s.handleNodeRegister env conn req reg).nodeConns[reg.nodeId]? = some conn ∧
      ∀ m, (s.handleNodeRegister env conn req reg).isStopped m = true →
        s.isStopped m = true ∨ s.nodeConns[reg.nodeId]? = some m := by
  rw [handleNodeRegister_opens hopen]
  obtain ⟨effects, sends, hsame⟩ := queueOutbound_sameCore hroom conn req (.nodeRegisterAck
    { nodeId := reg.nodeId
      sessionId := ((s.supersede conn reg.nodeId).newSession env reg).session
      coordinatorEpoch := (s.supersede conn reg.nodeId).durable.epoch
      sessionEpoch := ((s.supersede conn reg.nodeId).newSession env reg).sessionEpoch })
    ((s.supersede conn reg.nodeId).openSession env conn reg)
  rw [hsame]
  constructor
  · exact Std.ExtTreeMap.getElem?_insert_self
  · intro m hm
    have hstopped : (s.supersede conn reg.nodeId).isStopped m = true := hm
    unfold supersede at hstopped
    split at hstopped
    · next c hc =>
        split_ifs at hstopped
        · have hinsert : (s.stopped.insert c).contains m = true := hstopped
          rw [Std.ExtTreeSet.contains_insert] at hinsert
          rcases Bool.or_eq_true_iff.mp hinsert with hcm | hold
          · obtain rfl : c = m := by simpa using hcm
            exact .inr hc
          · exact .inl hold
        · exact .inl hstopped
    · exact .inl hstopped

end Registration

/-! ## Commands -/

section Commands

variable {env : Env} (hroom : ∀ i, env.outboundFull i = false)
include hroom

theorem blind_handleNodeRegister (conn : ConnId) (req : UInt64) (reg : NodeRegister D) :
    Blind fun x : Coordinator D => x.handleNodeRegister env conn req reg := by
  intro x y h
  show SameCore (x.handleNodeRegister env conn req reg) (y.handleNodeRegister env conn req reg)
  have hopens : y.opensSession conn reg.nodeId = x.opensSession conn reg.nodeId := by
    obtain ⟨effects, sends, rfl⟩ := h
    rfl
  cases hopen : x.opensSession conn reg.nodeId with
  | false =>
      have hx := handleNodeRegister_replays hroom req hopen
      have hy := handleNodeRegister_replays hroom req (hopens.trans hopen)
      exact (hx.symm.trans h).trans hy
  | true =>
      rw [handleNodeRegister_opens hopen, handleNodeRegister_opens (hopens.trans hopen)]
      have hsuper := blind_supersede conn reg.nodeId x y h
      dsimp only at hsuper
      generalize x.supersede conn reg.nodeId = x₁ at hsuper ⊢
      generalize y.supersede conn reg.nodeId = y₁ at hsuper ⊢
      obtain ⟨effects, sends, rfl⟩ := hsuper
      exact Blind.of_sameCore (queueOutbound_sameCore hroom conn req _) _ _ ⟨effects, sends, rfl⟩

theorem blind_handleNodeHeartbeat (conn : ConnId) (req : UInt64) (hb : NodeHeartbeat) :
    Blind fun x : Coordinator D => x.handleNodeHeartbeat env conn req hb := by
  intro x y h
  show SameCore (x.handleNodeHeartbeat env conn req hb) (y.handleNodeHeartbeat env conn req hb)
  have herror : y.heartbeatError hb = x.heartbeatError hb := by
    obtain ⟨effects, sends, rfl⟩ := h
    rfl
  unfold handleNodeHeartbeat
  rw [herror, h.now env]
  split
  · exact Blind.of_sameCore (queueOutbound_sameCore hroom conn req _) _ _ h
  · exact Blind.of_sameCore (queueOutbound_sameCore hroom conn req _) _ _ (Blind.onLedger _ _ _ (Blind.tick x y h))

omit hroom in
theorem blind_handleNodeDisconnect (conn : ConnId) (n : NodeId) :
    Blind fun x : Coordinator D => x.handleNodeDisconnect env conn n := by
  refine .of_sentAs fun x effects sends => ?_
  unfold handleNodeDisconnect
  rw [sentAs_toLedger, sentAs_nodeConns]
  dsimp only
  split
  · split
    · exact ⟨effects, sends, rfl⟩
    · split
      · exact ⟨effects, sends, rfl⟩
      · exact ⟨effects, sends, rfl⟩
  · exact ⟨effects, sends, rfl⟩

theorem blind_handleNodeDrain (client : Id128) (conn : ConnId) (req : UInt64) (drain : NodeDrain) :
    Blind fun x : Coordinator D => x.handleNodeDrain env client conn req drain := by
  intro x y h
  show SameCore (x.handleNodeDrain env client conn req drain) (y.handleNodeDrain env client conn req drain)
  unfold handleNodeDrain
  dsimp only
  rw [h.toLedger]
  split
  · exact Blind.of_sameCore (respondClient_sameCore hroom client conn req _) _ _ h
  · split
    · exact Blind.of_sameCore (respondClient_sameCore hroom client conn req _) _ _ h
    · exact Blind.of_sameCore (respondClient_sameCore hroom client conn req _) _ _ (Blind.onLedger _ _ _ h)

variable [DoubleArith D]

/-- **A stale command only sends.** -/
theorem step_stale {x x' : Coordinator D} {e : Event D} (hstale : x.isStale e = true) (hstep : step env x e = some x') :
    x.SameCore x' := by
  cases e with
  | command c =>
      cases c with
      | nodeHeartbeat conn req hb =>
          obtain rfl : x.handleNodeHeartbeat env conn req hb = x' := Option.some.inj hstep
          have herror : ∃ err, x.heartbeatError hb = some err := by
            unfold heartbeatError
            cases hnode : x.nodes[hb.nodeId]? with
            | none => exact ⟨_, rfl⟩
            | some node =>
                have hother : node.session ≠ hb.sessionId ∨ node.sessionEpoch ≠ hb.sessionEpoch := by
                  simpa [isStale, hnode] using hstale
                exact ⟨_, if_pos hother⟩
          obtain ⟨err, herr⟩ := herror
          unfold handleNodeHeartbeat
          rw [herr]
          exact queueOutbound_sameCore hroom conn req _ x
      | nodeDisconnected conn n =>
          obtain rfl : x.handleNodeDisconnect env conn n = x' := Option.some.inj hstep
          have hother : x.nodeConns[n]? ≠ some conn := by simpa [isStale] using hstale
          unfold handleNodeDisconnect
          rw [if_neg hother]
          exact .refl x
      | _ => cases hstale
  | _ => cases hstale

/-- An event of the five kinds is blind to what has been sent. -/
theorem step_blind {x y x' : Coordinator D} {e : Event D} (h : x.SameCore y) (he : e.isNodeTraffic = true)
    (hstep : step env x e = some x') : ∃ y', step env y e = some y' ∧ x'.SameCore y' := by
  cases e with
  | command c =>
      obtain rfl := Option.some.inj hstep
      refine ⟨_, rfl, ?_⟩
      cases c with
      | nodeRegister conn req reg => exact blind_handleNodeRegister hroom conn req reg x y h
      | nodeHeartbeat conn req hb => exact blind_handleNodeHeartbeat hroom conn req hb x y h
      | nodeDisconnected conn n => exact blind_handleNodeDisconnect conn n x y h
      | nodeDrain client conn req drain => exact blind_handleNodeDrain hroom client conn req drain x y h
      | _ => cases he
  | sweep =>
      obtain rfl := Option.some.inj hstep
      exact ⟨_, rfl, blind_sweep hroom x y h⟩
  | _ => cases he

end Commands

/-! ## Session epochs -/

section Epochs

variable {env : Env} {k : Nat}

/-- No session epoch exceeds `k`. -/
def Ledger.EpochsUpTo (k : Nat) (l : Ledger D) : Prop :=
  ∀ (n : NodeId) (node : NodeRecord D), l.nodes[n]? = some node → node.sessionEpoch.toNat ≤ k

theorem Ledger.EpochsUpTo.updateNode {l : Ledger D} (h : l.EpochsUpTo k) (n : NodeId) {f : NodeRecord D → NodeRecord D}
    (hf : ∀ node, (f node).sessionEpoch = node.sessionEpoch) : (l.updateNode n f).EpochsUpTo k := by
  intro m node hnode
  have hget : (l.updateNode n f).nodes[m]? = if n = m then l.nodes[n]?.map f else l.nodes[m]? := by
    simp [Ledger.updateNode, Std.ExtTreeMap.getElem?_modify]
  rw [hget] at hnode
  split_ifs at hnode
  · obtain ⟨old, hold, rfl⟩ := Option.map_eq_some_iff.mp hnode
    rw [hf]
    exact h n old hold
  · exact h m node hnode

/-- The next epoch, where a node has had one. -/
theorem newSession_epoch {s : Coordinator D} {reg : NodeRegister D} {node : NodeRecord D}
    (hnode : s.nodes[reg.nodeId]? = some node) : (s.newSession env reg).sessionEpoch = node.sessionEpoch + 1 := by
  unfold newSession
  simp [hnode]

theorem Ledger.EpochsUpTo.register {s : Coordinator D} (h : s.EpochsUpTo k) {conn : ConnId} {req : UInt64}
    {reg : NodeRegister D} (hopen : s.opensSession conn reg.nodeId = true) :
    (s.handleNodeRegister env conn req reg).EpochsUpTo (k + 1) := by
  intro n node hnode
  rw [getElem?_nodes_register hopen] at hnode
  split_ifs at hnode with hn
  · rw [← Option.some.inj hnode]
    have hnodes : (s.supersede conn reg.nodeId).nodes = s.nodes := by rw [supersede_toLedger]
    cases hold : s.nodes[reg.nodeId]? with
    | none =>
        have hfirst : ((s.supersede conn reg.nodeId).newSession env reg).sessionEpoch = 1 := by
          unfold newSession
          simp [hnodes, hold]
        rw [hfirst]
        exact Nat.le_add_left 1 k
    | some old =>
        rw [newSession_epoch (hnodes ▸ hold), UInt64.toNat_add]
        have hbound := h reg.nodeId old hold
        exact (Nat.mod_le _ _).trans (Nat.add_le_add_right hbound 1)
  · exact (h n node hnode).trans (Nat.le_succ k)

variable [DoubleArith D]

/-- **Session epochs are counted by registrations.** -/
theorem step_sessionEpochs (hroom : ∀ i, env.outboundFull i = false) {x x' : Coordinator D} {e : Event D}
    (h : x.EpochsUpTo k) (he : e.isNodeTraffic = true) (hstep : step env x e = some x') :
    x'.EpochsUpTo (if e.isRegister then k + 1 else k) := by
  cases e with
  | command c =>
      obtain rfl := Option.some.inj hstep
      cases c with
      | nodeRegister conn req reg =>
          show (x.handleNodeRegister env conn req reg).EpochsUpTo (k + 1)
          cases hopen : x.opensSession conn reg.nodeId with
          | true => exact h.register hopen
          | false =>
              rw [(handleNodeRegister_replays hroom req hopen).toLedger]
              exact fun n node hnode => (h n node hnode).trans (Nat.le_succ k)
      | nodeHeartbeat conn req hb =>
          show (x.handleNodeHeartbeat env conn req hb).EpochsUpTo k
          unfold handleNodeHeartbeat
          split
          · rw [queueOutbound_toLedger]
            exact h
          · dsimp only
            rw [queueOutbound_toLedger]
            exact h.updateNode _ fun _ => rfl
      | nodeDisconnected conn n =>
          show (x.handleNodeDisconnect env conn n).EpochsUpTo k
          unfold handleNodeDisconnect
          split
          · dsimp only
            split
            · exact h
            · split_ifs
              · exact h
              · exact h.updateNode _ fun _ => rfl
          · exact h
      | nodeDrain client conn req drain =>
          show (x.handleNodeDrain env client conn req drain).EpochsUpTo k
          unfold handleNodeDrain
          dsimp only
          split
          · rw [respondClient_toLedger]
            exact h
          · split
            · rw [respondClient_toLedger]
              exact h
            · rw [respondClient_toLedger]
              exact h.updateNode _ fun _ => rfl
      | _ => cases he
  | sweep =>
      obtain rfl := Option.some.inj hstep
      have hloses : x.toLedger.OnlyLoses (x.sweep env).toLedger := by
        rw [sweep_eq]
        exact scheduling_onlyLoses env x _
      show (x.sweep env).EpochsUpTo k
      generalize x.sweep env = x' at hloses
      intro n node hnode
      obtain ⟨old, hold, rfl | rfl⟩ := hloses n node hnode
      · exact h n _ hold
      · exact h n old hold
  | _ => cases he

end Epochs

/-! ## The statement -/

section Statement

variable [DoubleArith D]

/-- **Stale transports cannot disturb a new session.** From every state and for every sequence of registrations,
    heartbeats, disconnections, drains and sweeps over any transports, with room for all replies: the nodes and
    their transports at the end are those of the sequence without its stale commands. While no session epoch can
    have reached the largest one, each registration that opens a session gives its node a larger epoch than it
    had. -/
theorem stale_transports_inert {env : Env} (hroom : ∀ i, env.outboundFull i = false) {events : List (Event D)}
    (htraffic : ∀ e ∈ events, e.isNodeTraffic = true) {s s' : Coordinator D} (hrun : runFrom env s events = some s') :
    (∃ s'', runFrom env s (Lts.purge (step env) isStale s events) = some s'' ∧ s''.nodes = s'.nodes ∧
      s''.nodeConns = s'.nodeConns) ∧
    ∀ k, s.EpochsUpTo k → k + events.countP Event.isRegister < 2 ^ 64 →
      ∀ before conn req reg after x node, events = before ++ .command (.nodeRegister conn req reg) :: after →
        runFrom env s before = some x → x.opensSession conn reg.nodeId = true → x.nodes[reg.nodeId]? = some node →
        ∃ node', (x.process env (.nodeRegister conn req reg)).nodes[reg.nodeId]? = some node' ∧
          node.sessionEpoch < node'.sessionEpoch := by
  constructor
  · obtain ⟨s'', hs'', hsame⟩ := Lts.run_purge isStale (R := SameCore) (P := fun e => e.isNodeTraffic = true)
      (fun x y e x' hxy _ hstale hstep => (step_stale hroom hstale hstep).symm.trans hxy)
      (fun x y e x' hxy he hstep => step_blind hroom hxy he hstep) (.refl s) htraffic hrun
    exact ⟨s'', hs'', congrArg Ledger.nodes hsame.toLedger, hsame.nodeConns⟩
  · intro k hk hbound before conn req reg after x node hsplit hx hopen hnode
    have hbefore : ∀ e ∈ before, e.isNodeTraffic = true :=
      fun e he => htraffic e (hsplit ▸ List.mem_append_left _ he)
    -- the epochs so far are bounded by the registrations so far, and there is one to come
    have hepochs : x.EpochsUpTo (k + before.countP Event.isRegister) :=
      Lts.run_count_invariant (I := fun k (x : Coordinator D) => x.EpochsUpTo k)
        (C := fun _ e => True ∧ e.isNodeTraffic = true)
        (fun k x e x' h he hstep => step_sessionEpochs hroom h he.2 hstep) hk
        ((Lts.Along.of_forall fun _ _ => trivial).and_mem hbefore) hx
    have hroomy : node.sessionEpoch.toNat + 1 < 2 ^ 64 := by
      have hle := hepochs reg.nodeId node hnode
      rw [hsplit, List.countP_append, List.countP_cons_of_pos rfl] at hbound
      omega
    refine ⟨_, by rw [process, getElem?_nodes_register hopen, if_pos rfl], ?_⟩
    have hnodes : (x.supersede conn reg.nodeId).nodes = x.nodes := by rw [supersede_toLedger]
    rw [newSession_epoch (hnodes ▸ hnode), UInt64.lt_iff_toNat_lt, UInt64.toNat_add]
    have hmod := Nat.mod_eq_of_lt hroomy
    have hone : (1 : UInt64).toNat = 1 := rfl
    omega

end Statement

/-- A node comes back on transport 3; a heartbeat of its first session and the end of transport 1 arrive late. -/
def Demo.comesBack : List (Event ℚ) :=
  [Demo.register 1, Demo.register 3,
    .command (.nodeHeartbeat 1 0
      { nodeId := Demo.nodeId, sessionId := Demo.id 0, sessionEpoch := 1, coordinatorEpoch := 1 }),
    .command (.nodeDisconnected 1 Demo.nodeId)]

/-- Both late commands are stale. -/
theorem stale_transports_inert_late :
    ∃ s s', boot (Demo.env 3000 100) = some s ∧ runFrom (Demo.env 3000 100) s Demo.comesBack = some s' ∧
      (Lts.purge (step (Demo.env 3000 100)) isStale s Demo.comesBack).length = 2 ∧
      ∃ s'', runFrom (Demo.env 3000 100) s (Lts.purge (step (Demo.env 3000 100)) isStale s Demo.comesBack) = some s'' ∧
        s''.nodes = s'.nodes ∧ s''.nodeConns = s'.nodeConns := by
  have hfacts : ((boot (Demo.env 3000 100)).bind fun s => (runFrom (Demo.env 3000 100) s Demo.comesBack).map fun _ =>
      (Lts.purge (step (Demo.env 3000 100)) isStale s Demo.comesBack).length) = some 2 := by
    decide +kernel
  obtain ⟨s, hs, hrest⟩ := Option.bind_eq_some_iff.mp hfacts
  obtain ⟨s', hs', hlength⟩ := Option.map_eq_some_iff.mp hrest
  have htraffic : ∀ e ∈ Demo.comesBack, e.isNodeTraffic = true := by
    simp [Demo.comesBack, Demo.register, Event.isNodeTraffic]
  exact ⟨s, s', hs, hs', hlength, (stale_transports_inert (fun _ => rfl) htraffic hs').1⟩

/-- A node that registers over and over, each time on a new transport. -/
theorem Demo.run_registers (n : Nat) :
    ∃ s, run (Demo.env 3000 100) ((List.range n).map Demo.register) = some s ∧
      ((s.nodes[Demo.nodeId]?.map fun node => node.sessionEpoch).getD 0) = UInt64.ofNat n ∧
      ∀ m, n ≤ m → s.isStopped m = false ∧ s.nodeConns[Demo.nodeId]? ≠ some m := by
  induction n with
  | zero =>
      have hboot : ((boot (D := ℚ) (Demo.env 3000 100)).map fun s => (s.nodes.isEmpty, s.nodeConns.isEmpty,
          s.stopped.isEmpty)) = some (true, true, true) := by
        decide +kernel
      obtain ⟨s, hs, hempty⟩ := Option.map_eq_some_iff.mp hboot
      simp only [Prod.mk.injEq, Std.ExtTreeMap.isEmpty_iff, Std.ExtTreeSet.isEmpty_iff] at hempty
      refine ⟨s, by rw [run, hs]; rfl, by simp [hempty.1], fun m _ => ?_⟩
      simp [isStopped, hempty.2.1, hempty.2.2]
  | succ n ih =>
      obtain ⟨s, hrun, hepoch, hfresh⟩ := ih
      obtain ⟨reg, hid, hevent⟩ : ∃ reg : NodeRegister ℚ, reg.nodeId = Demo.nodeId ∧
          Demo.register n = .command (.nodeRegister n 0 reg) := ⟨_, rfl, rfl⟩
      have hopen : s.opensSession n reg.nodeId = true := by
        obtain ⟨hstop, hconn⟩ := hfresh n le_rfl
        exact opensSession_of_fresh hstop (hid ▸ hconn)
      have hroom : ∀ i, (Demo.env 3000 100).outboundFull i = false := fun _ => rfl
      obtain ⟨hmapped, hstopped⟩ := transports_of_register hroom 0 hopen
      refine ⟨s.handleNodeRegister (Demo.env 3000 100) n 0 reg, ?_, ?_, ?_⟩
      · rw [List.range_succ, List.map_append, run_append]
        refine ⟨s, hrun, Lts.run_cons.mpr ⟨_, ?_, rfl⟩⟩
        rw [hevent]
        rfl
      · rw [← hid] at hepoch ⊢
        rw [getElem?_nodes_register hopen, if_pos rfl, Option.map_some, Option.getD_some]
        have hnodes : (s.supersede n reg.nodeId).nodes = s.nodes := by rw [supersede_toLedger]
        unfold newSession
        rw [hnodes]
        have hsucc : UInt64.ofNat (n + 1) = UInt64.ofNat n + 1 := UInt64.ofNat_add n 1
        rw [hsucc, ← hepoch]
        cases s.nodes[reg.nodeId]? with
        | none => rfl
        | some node => rfl
      · intro m hm
        constructor
        · by_contra hstop
          rcases hstopped m (by simpa using hstop) with hold | hold
          · rw [(hfresh m (by omega)).1] at hold
            cases hold
          · exact (hfresh m (by omega)).2 (hid ▸ hold)
        · rw [← hid, hmapped]
          intro hsame
          exact absurd (Option.some.inj hsame) (Nat.ne_of_lt hm)

/-- **The session epoch wraps.** After `2 ^ 64 - 1` registrations it is the largest one, and the next
    registration, which opens a session too, makes it 0. -/
theorem session_epoch_wraps :
    ∃ (s : Coordinator ℚ) (node node' : NodeRecord ℚ) (reg : NodeRegister ℚ), reg.nodeId = Demo.nodeId ∧
      run (Demo.env 3000 100) ((List.range (2 ^ 64 - 1)).map Demo.register) = some s ∧
      s.opensSession (2 ^ 64 - 1) Demo.nodeId = true ∧ s.nodes[Demo.nodeId]? = some node ∧
      (s.process (Demo.env 3000 100) (.nodeRegister (2 ^ 64 - 1) 0 reg)).nodes[Demo.nodeId]? = some node' ∧
      node'.sessionEpoch < node.sessionEpoch := by
  obtain ⟨s, hrun, hepoch, hfresh⟩ := Demo.run_registers (2 ^ 64 - 1)
  obtain ⟨hstop, hconn⟩ := hfresh _ le_rfl
  have hlast : UInt64.ofNat (2 ^ 64 - 1) = 18446744073709551615 := by decide
  rw [hlast] at hepoch
  obtain ⟨node, hnode⟩ : ∃ node, s.nodes[Demo.nodeId]? = some node := by
    cases hnode : s.nodes[Demo.nodeId]? with
    | none =>
        rw [hnode] at hepoch
        exact absurd hepoch (by decide)
    | some node => exact ⟨node, rfl⟩
  rw [hnode, Option.map_some, Option.getD_some] at hepoch
  obtain ⟨reg, hid⟩ : ∃ reg : NodeRegister ℚ, reg.nodeId = Demo.nodeId :=
    ⟨{ nodeId := Demo.nodeId, capacity := {} }, rfl⟩
  have hopen : s.opensSession (2 ^ 64 - 1) reg.nodeId = true := opensSession_of_fresh hstop (hid ▸ hconn)
  have hnodes : (s.supersede (2 ^ 64 - 1) reg.nodeId).nodes = s.nodes := by rw [supersede_toLedger]
  refine ⟨s, node, (s.supersede (2 ^ 64 - 1) reg.nodeId).newSession (Demo.env 3000 100) reg, reg, hid, hrun,
    hid ▸ hopen, hnode, ?_, ?_⟩
  · rw [process, getElem?_nodes_register hopen, if_pos hid]
  · rw [newSession_epoch (hnodes ▸ hid.symm ▸ hnode), hepoch]
    decide

end ComputeFabric
