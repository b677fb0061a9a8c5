import ComputeFabric.Coordinator.Crash
import ComputeFabric.Coordinator.Records

/-!
# `Safety.Placement` — where attempts go

A dispatch passes three checks that look at the node independently: the scheduler's exclusion reasons, the
connected flag, and `try_reserve`. They look at one record, since a node sits in the map under its own id, and
each resolves the executor to the same first capability.

- **Hard constraints.** Every round of `schedule_ready_tasks` leaves the attempts alone or appends one attempt,
  for a ready task, on a node that meets all constraints of the task, covered by a reservation granted in the
  same round (`dispatch_respects_constraints`).
- **Drain.** A node that is being drained gets no work. The health field that keeps it so is written by
  heartbeats as well, and an accepted heartbeat puts the node back online (`heartbeat_ends_drain`); until one
  arrives, the drain holds through everything else (`drain_sticky`).
-/

namespace ComputeFabric

open Coordinator

variable {D : Type}

/-! ## The health of a node -/

/-- The health is one of the enumerators. -/
def NodeHealth.isListed : NodeHealth → Bool
  | .unlisted _ => false
  | _ => true

/-- Every registered node has a health the coordinator has given it. -/
def Ledger.Listed (l : Ledger D) : Prop :=
  ∀ (n : NodeId) (node : NodeRecord D), l.nodes[n]? = some node → node.health.isListed = true

section Health

variable [DoubleArith D] {env : Env} {s₀ : Coordinator D} {e : Event D} {l l' : Ledger D}

theorem LedgerStep.listed (h : LedgerStep env s₀ e l l') (hl : l.Listed) : l'.Listed := by
  intro n node hnode
  rcases h.node n with hsame | ⟨conn, req, reg, node', -, -, -, -, hnew, hhealth, -⟩ | ⟨f, hf, hupdate⟩ | hlost
  · exact hl n node (hsame ▸ hnode)
  · obtain rfl := Option.some.inj (hnew.symm.trans hnode)
    rw [hhealth]
    rfl
  · rw [hf] at hnode
    obtain ⟨old, hold, rfl⟩ := Option.map_eq_some_iff.mp hnode
    rcases (hupdate old).health with hsame | hdraining | ⟨honline, -⟩
    · rw [hsame]
      exact hl n old hold
    · rw [hdraining]
      rfl
    · rw [honline]
      rfl
  · rw [hlost] at hnode
    obtain ⟨old, hold, rfl⟩ := Option.map_eq_some_iff.mp hnode
    rfl

theorem crashRun_listed {events : List (CrashEvent D)} {s : Coordinator D} (hrun : crashRun env events = some s) :
    s.Listed := by
  refine (crashRun_saved (P := fun _ => True) (Q := fun x => x.toLedger.Listed) (C := fun _ => True) trivial
    ?_ ?_ (fun _ _ _ => trivial) (fun _ _ => trivial) hrun).1
  · intro w x hfile _ hx n node hnode
    rw [(start_spec hx hfile).nodes] at hnode
    simp at hnode
  · intro s₀ e x x' _ _ hx hstep
    rcases hstep.ledger with hsame | hact
    · rwa [hsame]
    · exact hact.listed hx

end Health

/-! ## Hard constraints -/

/-- The first executor of the type the task asks for, `Any_` being resolved to the CPU executor. -/
def firstExecutor (task : ComputeTask D) (node : NodeRecord D) : Option (ExecutorCapability D) :=
  node.capacity.executors.find? fun cap =>
    cap.type = if task.requiredExecutor = .any then .cpu else task.requiredExecutor

/-- The node meets every hard constraint of the task. -/
structure MeetsConstraints (task : ComputeTask D) (node : NodeRecord D) : Prop where
  connected : node.connected = true
  online : node.health = .online
  allowed : node.id ∉ task.forbiddenNodes
  tagged : ∀ tag ∈ task.requiredTags, node.capacity.tags.contains tag = true
  scratch : node.capacity.hostMemorySchedulingBytes ≥ task.scratchMemoryBytes
  executor : ∃ cap, firstExecutor task node = some cap ∧ cap.healthy = true ∧
    (task.requiredExecutor = .cuda → task.minComputeCapabilityMajor > 0 →
      task.minComputeCapabilityMajor < cap.major ∨
        task.minComputeCapabilityMajor = cap.major ∧ task.minComputeCapabilityMinor ≤ cap.minor)

/-- The reservation is held and agrees with the attempt. -/
structure Reservation.Covers (r : Reservation) (a : ExecutionAttempt D) : Prop where
  id : r.id = a.reservationId
  taskId : r.taskId = a.taskId
  nodeId : r.nodeId = a.nodeId
  session : r.sessionId = a.nodeSession
  epoch : r.coordinatorEpoch = a.coordinatorEpoch
  executor : r.executor = a.executor
  unreleased : r.released = false

/-- The step from `x` to `x'` appends one attempt, for the ready task `t`, to a node that meets the constraints,
    and enters the reservation that covers it. -/
structure Coordinator.Appends (t : ComputeTaskId) (x x' : Coordinator D) (task : ComputeTask D)
    (node : NodeRecord D) (a : ExecutionAttempt D) (r : Reservation) : Prop where
  attempts : x'.attempts = x.attempts.insert t (x.attemptsOf t ++ [a])
  task_eq : x.graph.find t = some task
  ready : x.graph.state t = .ready
  taskId : a.taskId = t
  registered : x.nodes[a.nodeId]? = some node
  constraints : MeetsConstraints task node
  session : a.nodeSession = node.session
  epoch : a.coordinatorEpoch = x.durable.epoch
  covers : r.Covers a
  registry : x'.reservations = x.reservations.insert a.reservationId r

section Constraints

variable [DoubleArith D] {env : Env}

theorem NodeHealth.eq_online {h : NodeHealth} (hlisted : h.isListed = true) (hoffline : h ≠ .offline)
    (hdraining : h ≠ .draining) (hsuspect : h ≠ .suspect) : h = .online := by
  cases h with
  | online => rfl
  | suspect => exact absurd rfl hsuspect
  | draining => exact absurd rfl hdraining
  | offline => exact absurd rfl hoffline
  | unlisted v => cases hlisted

omit [DoubleArith D] in
/-- The record the scheduler has filtered is the one under the id it chose. -/
theorem Ledger.Chosen.record {l : Ledger D} {task : ComputeTask D} {n : NodeId} {executor : ExecutorType}
    {device : Text} (h : l.Chosen task n executor device) (hwf : l.WellFormed) {node : NodeRecord D}
    (hnode : l.nodes[n]? = some node) :
    SchedulerPolicyEngine.Eligible task node ∧
      ∃ cap, SchedulerPolicyEngine.Offers task node cap ∧ executor = cap.type ∧ device = cap.name := by
  obtain ⟨node', hmem, hid, hreasons, cap, hoffers, hexecutor, hdevice⟩ := h
  obtain ⟨m, hget⟩ := OrdMap.mem_values.mp hmem
  obtain rfl : m = n := (hwf.nodes m _ hget).symm.trans hid
  obtain rfl := Option.some.inj (hget.symm.trans hnode)
  exact ⟨SchedulerPolicyEngine.eligible_of_exclusionReasons hreasons, cap, hoffers, hexecutor, hdevice⟩

omit [DoubleArith D] in
/-- A node the scheduler has chosen meets the constraints. -/
theorem meetsConstraints_of_chosen {l : Ledger D} {task : ComputeTask D} {n : NodeId} {executor : ExecutorType}
    {device : Text} (h : l.Chosen task n executor device) (hwf : l.WellFormed) (hlisted : l.Listed)
    {node : NodeRecord D} (hnode : l.nodes[n]? = some node) (hconnected : node.connected = true) :
    MeetsConstraints task node := by
  obtain ⟨heligible, cap, hoffers, -⟩ := h.record hwf hnode
  exact {
    connected := hconnected
    online := NodeHealth.eq_online (hlisted n node hnode) heligible.notOffline heligible.notDraining
      heligible.notSuspect
    allowed := heligible.allowed
    tagged := heligible.tagged
    scratch := heligible.scratch
    executor := ⟨cap, hoffers.find, hoffers.healthy, hoffers.compute⟩ }

/-- One placement. -/
theorem placeTask_appends {x : Coordinator D} {t : ComputeTaskId} {task : ComputeTask D} (hwf : x.WellFormed)
    (hlisted : x.Listed) (htask : x.graph.find t = some task) (hready : x.graph.state t = .ready) :
    (x.placeTask env t task).toLedger = x.toLedger ∨
      ∃ node a r, x.Appends t (x.placeTask env t task) task node a r := by
  rcases placeTask_spec env task ((Ledger.state_eq_iff (by decide)).mp hready) with hsame |
    ⟨n, node, executor, device, r, a, hnode, hconnected, hchosen, rfl, rfl, hledger⟩
  · exact .inl hsame
  · have hid : node.id = n := hwf.nodes n node hnode
    exact .inr ⟨node, _, _, {
      attempts := by rw [hledger]; rfl
      task_eq := htask
      ready := hready
      taskId := rfl
      registered := hnode
      constraints := meetsConstraints_of_chosen hchosen hwf hlisted hnode hconnected
      session := rfl
      epoch := rfl
      covers := ⟨rfl, rfl, hid, rfl, rfl, rfl, rfl⟩
      registry := by rw [hledger]; rfl }⟩

/-- **One round of the scheduling loop** appends nothing, or one attempt that respects the constraints. -/
theorem scheduleTask_appends {x : Coordinator D} (hwf : x.WellFormed) (hlisted : x.Listed) (t : ComputeTaskId) :
    (scheduleTask env x t).attempts = x.attempts ∨
      ∃ task node a r, x.Appends t (scheduleTask env x t) task node a r := by
  have hplace : ∀ (y : Coordinator D) (task : ComputeTask D), y.toLedger = x.toLedger → y.durable = x.durable →
      x.graph.find t = some task → x.graph.state t = .ready →
      (y.placeTask env t task).attempts = x.attempts ∨
        ∃ tk node a r, x.Appends t (y.placeTask env t task) tk node a r := by
    intro y task hledger hdurable htask hready
    have hplaced : (y.placeTask env t task).toLedger = y.toLedger ∨
        ∃ node a r, y.Appends t (y.placeTask env t task) task node a r :=
      placeTask_appends (by rwa [hledger]) (by rwa [hledger]) (by rwa [hledger]) (by rwa [hledger])
    rcases hplaced with hsame | ⟨node, a, r, h⟩
    · exact .inl (by rw [hsame, hledger])
    · refine .inr ⟨task, node, a, r, ?_⟩
      exact {
        attempts := by rw [h.attempts, hledger]
        task_eq := htask
        ready := hready
        taskId := h.taskId
        registered := by rw [← h.registered, hledger]
        constraints := h.constraints
        session := h.session
        epoch := by rw [h.epoch, hdurable]
        covers := h.covers
        registry := by rw [h.registry, hledger] }
  rcases scheduleTask_cases env x t with
    heq | ⟨task, -, htask, hready, ⟨-, -, heq⟩ | ⟨-, -, heq⟩ | ⟨-, heq⟩⟩ <;> rw [heq]
  · exact .inl rfl
  · left
    rw [persist_toLedger]
    rfl
  · exact hplace x.tick task rfl rfl htask ((Ledger.state_eq_iff (by decide)).mpr hready)
  · exact hplace x task rfl rfl htask ((Ledger.state_eq_iff (by decide)).mpr hready)

/-- The books in the course of a sweep of a reachable state, after any rounds `before` of its scheduling loop. -/
theorem scheduling_wellFormed {events : List (CrashEvent D)} {s : Coordinator D}
    (hrun : crashRun env events = some s) (before : List ComputeTaskId) :
    (before.foldl (scheduleTask env) (s.timersDone env)).WellFormed ∧
      (before.foldl (scheduleTask env) (s.timersDone env)).Listed := by
  have htimers : CoreSteps env s .sweep s (s.timersDone env) := timersDone_steps
  have hbefore : CoreSteps env s .sweep (s.timersDone env) (before.foldl (scheduleTask env) (s.timersDone env)) :=
    (Lts.foldl_steps (P := fun x => x.durable.epoch = s.durable.epoch) before
      (fun x u _ hx => by
        have hsteps : CoreSteps env s .sweep x (scheduleTask env x u) := scheduleTask_steps hx u
        exact ⟨hsteps, hsteps.epoch_eq.trans hx⟩) htimers.epoch_eq).1
  exact CoreSteps.ledger_invariant (I := fun l => l.WellFormed ∧ l.Listed)
    (fun l l' hl hstep => ⟨hstep.wellFormed hl.1, hstep.listed hl.2⟩) (htimers.trans hbefore)
    ⟨(crashRun_logged hrun).1.wellFormed, crashRun_listed hrun⟩

/-- **Dispatch respects every hard constraint.** In every reachable state, each round of the scheduling loop of a
    sweep, after any rounds `before`, leaves the attempts as they are or appends one: for a ready task, on a node
    that is registered, connected and online and meets the constraints of the task at that moment, under a
    reservation of its own. -/
theorem dispatch_respects_constraints {events : List (CrashEvent D)} {s : Coordinator D}
    (hrun : crashRun env events = some s) (before : List ComputeTaskId) (t : ComputeTaskId) :
    let x := before.foldl (scheduleTask env) (s.timersDone env)
    (scheduleTask env x t).attempts = x.attempts ∨
      ∃ task node a r, x.Appends t (scheduleTask env x t) task node a r := by
  intro x
  obtain ⟨hwf, hlisted⟩ := scheduling_wellFormed hrun before
  exact scheduleTask_appends hwf hlisted t

end Constraints

/-- The first sweep after a submission dispatches the task. -/
theorem dispatch_respects_constraints_first :
    ∃ s, crashRun (Demo.env 3000 100) [.event (Demo.register 1), .event (Demo.submit 1)] = some s ∧
      (scheduleTask (Demo.env 3000 100) (s.timersDone (Demo.env 3000 100)) Demo.taskId).attempts.size = 1 ∧
      ∃ task node a r, (s.timersDone (Demo.env 3000 100)).Appends Demo.taskId
        (scheduleTask (Demo.env 3000 100) (s.timersDone (Demo.env 3000 100)) Demo.taskId) task node a r := by
  have hfacts : ((crashRun (Demo.env 3000 100) [.event (Demo.register 1), .event (Demo.submit 1)]).map fun s =>
      ((s.timersDone (Demo.env 3000 100)).attempts.size,
        (scheduleTask (Demo.env 3000 100) (s.timersDone (Demo.env 3000 100)) Demo.taskId).attempts.size)) =
      some (0, 1) := by
    decide +kernel
  obtain ⟨s, hs, hfacts⟩ := Option.map_eq_some_iff.mp hfacts
  obtain ⟨hbefore, hafter⟩ := Prod.mk.inj hfacts
  refine ⟨s, hs, hafter, ?_⟩
  rcases dispatch_respects_constraints hs [] Demo.taskId with hsame | happends
  · rw [List.foldl_nil] at hsame
    rw [hsame, hbefore] at hafter
    cases hafter
  · exact happends

/-! ## Drain -/

/-- A heartbeat of the node is accepted. -/
def Coordinator.revives (s : Coordinator D) (n : NodeId) : Event D → Bool
  | .command (.nodeHeartbeat _ _ hb) => hb.nodeId = n && (s.heartbeatError hb).isNone
  | _ => false

/-- The event ends the drain of the node: a `NodeDrain` with `drain = false` is accepted, or the node registers a
    new session. -/
def Coordinator.endsDrain (s : Coordinator D) (n : NodeId) : Event D → Bool
  | .command (.nodeDrain _ _ _ drain) => drain.nodeId = n && !drain.drain && s.acceptsDrain n
  | .command (.nodeRegister conn _ reg) => reg.nodeId = n && s.opensSession conn n
  | _ => false

/-- The node is registered, if at all, as draining or offline. -/
def Ledger.Drained (l : Ledger D) (n : NodeId) : Prop :=
  ∀ node : NodeRecord D, l.nodes[n]? = some node → node.takesWork = false

/-- Nothing was granted on the node and nothing dispatched to it: every reservation and every attempt on it was
    there before. -/
structure Ledger.Untouched (n : NodeId) (l l' : Ledger D) : Prop where
  reservations : ∀ (id : ReservationId) (r : Reservation), l'.reservations[id]? = some r → r.nodeId = n →
    ∃ r₀, l.reservations[id]? = some r₀ ∧ (r = r₀ ∨ r = ReservationRegistry.giveBack r₀)
  attempts : ∀ (t : ComputeTaskId) (i : Nat) (a : ExecutionAttempt D), (l'.attemptsOf t)[i]? = some a →
    a.nodeId = n → ∃ a₀, (l.attemptsOf t)[i]? = some a₀ ∧ a₀.nodeId = n

theorem Ledger.Untouched.refl (n : NodeId) (l : Ledger D) : Untouched n l l where
  reservations _ r hr _ := ⟨r, hr, .inl rfl⟩
  attempts _ _ a ha hn := ⟨a, ha, hn⟩

theorem Ledger.Untouched.trans {n : NodeId} {l l' l'' : Ledger D} (h : Untouched n l l') (h' : Untouched n l' l'') :
    Untouched n l l'' where
  reservations id r hr hn := by
    obtain ⟨r₁, hr₁, hsame₁⟩ := h'.reservations id r hr hn
    have hn₁ : r₁.nodeId = n := by
      rcases hsame₁ with rfl | rfl
      · exact hn
      · exact hn
    obtain ⟨r₀, hr₀, hsame₀⟩ := h.reservations id r₁ hr₁ hn₁
    refine ⟨r₀, hr₀, ?_⟩
    rcases hsame₁ with rfl | rfl
    · exact hsame₀
    · rcases hsame₀ with rfl | rfl
      · exact .inr rfl
      · exact .inr rfl
  attempts t i a ha hn := by
    obtain ⟨a₁, ha₁, hn₁⟩ := h'.attempts t i a ha hn
    exact h.attempts t i a₁ ha₁ hn₁

section Drain

variable [DoubleArith D] {env : Env} {s₀ : Coordinator D} {e : Event D} {l l' : Ledger D} {n : NodeId}

/-- Only an accepted heartbeat or the end of the drain makes a drained node take work. -/
theorem LedgerStep.drained (h : LedgerStep env s₀ e l l') (hl : l.Drained n) (hends : s₀.endsDrain n e = false)
    (hrevives : s₀.revives n e = false) : l'.Drained n := by
  intro node hnode
  rcases h.node n with hsame | ⟨conn, req, reg, node', rfl, hn, hopen, -⟩ | ⟨f, hf, hupdate⟩ | hlost
  · exact hl node (hsame ▸ hnode)
  · simp [endsDrain, hn, hopen] at hends
  · rw [hf] at hnode
    obtain ⟨old, hold, rfl⟩ := Option.map_eq_some_iff.mp hnode
    rcases (hupdate old).health with hsame | hdraining | ⟨-, honline⟩
    · have := hl old hold
      unfold NodeRecord.takesWork at this ⊢
      rwa [hsame]
    · simp [NodeRecord.takesWork, hdraining]
    · -- the two events that put a node online are the two excluded ones
      unfold bringsOnline at honline
      split at honline
      · exact absurd (hrevives.symm.trans honline) (by decide)
      · exact absurd (hends.symm.trans honline) (by decide)
      · cases honline
  · rw [hlost] at hnode
    obtain ⟨old, hold, rfl⟩ := Option.map_eq_some_iff.mp hnode
    rfl

/-- A drained node is not touched. -/
theorem LedgerStep.untouched (h : LedgerStep env s₀ e l l') (hwf : l.WellFormed) (hl : l.Drained n) :
    l.Untouched n l' where
  reservations id r hr hn := by
    rcases h.reservations hwf with hback | ⟨r', node, -, hinsert, -, -, -, hnode, -, htakes⟩
    · rcases hback id with hsame | hgiven
      · exact ⟨r, hsame ▸ hr, .inl rfl⟩
      · rw [hgiven] at hr
        obtain ⟨r₀, hr₀, rfl⟩ := Option.map_eq_some_iff.mp hr
        exact ⟨r₀, hr₀, .inr rfl⟩
    · rw [hinsert, Std.ExtTreeMap.getElem?_insert] at hr
      split_ifs at hr
      · -- the new reservation is on a node that takes work
        obtain rfl := Option.some.inj hr
        rw [hn] at hnode
        rw [hl node hnode] at htakes
        cases htakes
      · exact ⟨r, hr, .inl rfl⟩
  attempts t i a ha hn := by
    have hrec := h.attemptStep hwf ha
    generalize hb : (l.attemptsOf t)[i]? = old at hrec
    cases hrec with
    | kept => exact ⟨a, rfl, hn⟩
    | started hfind hepoch hl' => exact ⟨_, rfl, hn⟩
    | ended hkey hlive hcommitted => exact ⟨_, rfl, (congrArg AttemptKey.nodeId hkey).symm.trans hn⟩
    | @created a node hid hresv hepoch hnode hsession hcommitted hdrawn happend htakes =>
        rw [hn] at hnode
        rw [hl node hnode] at htakes
        cases htakes

/-- One event of the core. -/
theorem step_untouched {s s' : Coordinator D} (hlocal : e.isLocal = true) (hsound : s.Sound)
    (hs : s.Drained n) (hends : s.endsDrain n e = false) (hrevives : s.revives n e = false)
    (h : step env s e = some s') : s'.Drained n ∧ s.Untouched n s'.toLedger := by
  refine (CoreSteps.ledger_invariant (I := fun l => l.WellFormed ∧ l.Drained n ∧ s.toLedger.Untouched n l)
    ?_ (step_steps hlocal h) ⟨hsound.wellFormed, hs, .refl n _⟩).2
  rintro l l' ⟨hwf, hdrained, huntouched⟩ hstep
  exact ⟨hstep.wellFormed hwf, hstep.drained hdrained hends hrevives,
    huntouched.trans (hstep.untouched hwf hdrained)⟩

/-- A drained node stays drained through any event that does not end the drain; a restart forgets the node. -/
theorem step_drained {s s' : Coordinator D} (hsound : s.Sound) (hs : s.Drained n)
    (hends : s.endsDrain n e = false) (hrevives : s.revives n e = false) (h : step env s e = some s') :
    s'.Drained n := by
  cases hlocal : e.isLocal with
  | true => exact (step_untouched hlocal hsound hs hends hrevives h).1
  | false =>
      cases e with
      | restart =>
          intro node hnode
          rw [(step_restart hsound h).nodes] at hnode
          simp at hnode
      | _ => cases hlocal

/-- An accepted drain. -/
theorem drained_of_nodeDrain {s s' : Coordinator D} {client : Id128} {conn : ConnId} {req : UInt64}
    (haccepts : s.acceptsDrain n = true)
    (h : step env s (.command (.nodeDrain client conn req ⟨n, true⟩)) = some s') : s'.Drained n := by
  obtain rfl := Option.some.inj h
  obtain ⟨node, hnode, hhealth⟩ := (Option.any_eq_true _ _).mp haccepts
  intro node' hnode'
  simp only [decide_eq_true_eq] at hhealth
  simp only [Coordinator.process, handleNodeDrain, hnode, if_neg hhealth, respondClient_toLedger] at hnode'
  have : node' = { node with health := .draining } := by
    simpa [onLedger, Ledger.updateNode, hnode] using hnode'.symm
  rw [this]
  rfl

/-- **Drain is sticky**, as long as no heartbeat of the node is accepted: from the moment at which a drain of `n`
    is accepted, and until it is ended or the node opens a new session, no event grants a reservation on `n` or
    dispatches an attempt to it, and a restart holds no reservation and dispatches nothing. -/
theorem drain_sticky {events later : List (Event D)} {s s₁ s₂ s₃ : Coordinator D} {client : Id128} {conn : ConnId}
    {req : UInt64} (hrun : run env events = some s) (haccepts : s.acceptsDrain n = true)
    (hdrain : step env s (.command (.nodeDrain client conn req ⟨n, true⟩)) = some s₁)
    (hlater : runFrom env s₁ later = some s₂) (hstep : step env s₂ e = some s₃)
    (hends : Lts.Along (step env) (fun x e => x.endsDrain n e = false) s₁ (later ++ [e]))
    (hrevives : Lts.Along (step env) (fun x e => x.revives n e = false) s₁ (later ++ [e])) :
    (e.isLocal = true → s₂.Untouched n s₃.toLedger) ∧
      (e = .restart → s₃.reservations = ∅ ∧ s₃.dispatchLog = s₂.dispatchLog) := by
  obtain ⟨hends, hends₂⟩ := (Lts.along_append hlater).mp hends
  obtain ⟨hrevives, hrevives₂⟩ := (Lts.along_append hlater).mp hrevives
  have hsound₁ : s₁.Sound := step_sound (run_sound hrun) hdrain
  obtain ⟨hsound, hdrained⟩ := Lts.run_invariant (I := fun x => x.Sound ∧ x.Drained n)
    (fun x e x' hx hc he => ⟨step_sound hx.1 he, step_drained hx.1 hx.2 hc.1 hc.2 he⟩)
    ⟨hsound₁, drained_of_nodeDrain haccepts hdrain⟩ (hends.and hrevives) hlater
  refine ⟨fun hlocal => (step_untouched hlocal hsound hdrained hends₂.1 hrevives₂.1 hstep).2, ?_⟩
  rintro rfl
  have hstarted := step_restart hsound hstep
  exact ⟨hstarted.reservations, hstarted.dispatchLog⟩

end Drain

/-- A drain of the node of the small fabric, and a heartbeat of its first session. -/
def Demo.drain : Event ℚ := .command (.nodeDrain ⟨0, 9⟩ 2 0 ⟨nodeId, true⟩)

def Demo.heartbeat : Event ℚ :=
  .command (.nodeHeartbeat 1 0 { nodeId := nodeId, sessionId := id 0, sessionEpoch := 1, coordinatorEpoch := 2 })

/-- A ready task waits while its only node is drained. -/
theorem drain_sticky_sweep :
    ∃ s s₁ s₂, run (Demo.env 3000 100) [Demo.register 1, Demo.submit 1] = some s ∧
      s.acceptsDrain Demo.nodeId = true ∧ step (Demo.env 3000 100) s Demo.drain = some s₁ ∧
      step (Demo.env 3000 100) s₁ .sweep = some s₂ ∧ s₁.Untouched Demo.nodeId s₂.toLedger := by
  have hfacts : ((run (Demo.env 3000 100) [Demo.register 1, Demo.submit 1]).bind fun s =>
      (step (Demo.env 3000 100) s Demo.drain).bind fun s₁ => (step (Demo.env 3000 100) s₁ .sweep).map fun _ =>
        s.acceptsDrain Demo.nodeId) = some true := by
    decide +kernel
  obtain ⟨s, hs, hfacts⟩ := Option.bind_eq_some_iff.mp hfacts
  obtain ⟨s₁, hs₁, hfacts⟩ := Option.bind_eq_some_iff.mp hfacts
  obtain ⟨s₂, hs₂, haccepts⟩ := Option.map_eq_some_iff.mp hfacts
  refine ⟨s, s₁, s₂, hs, haccepts, hs₁, hs₂, ?_⟩
  have hnow : runFrom (Demo.env 3000 100) s₁ [] = some s₁ := rfl
  exact (drain_sticky hs haccepts hs₁ hnow hs₂ ⟨rfl, by rw [hs₂]; trivial⟩ ⟨rfl, by rw [hs₂]; trivial⟩).1 rfl

/-- The node is drained, and the heartbeat it sends next puts it back online: the sweep dispatches to it. -/
theorem heartbeat_ends_drain :
    ∃ s s₁ s₂ s₃, run (Demo.env 3000 100) [Demo.register 1, Demo.submit 1] = some s ∧
      s.acceptsDrain Demo.nodeId = true ∧ step (Demo.env 3000 100) s Demo.drain = some s₁ ∧
      runFrom (Demo.env 3000 100) s₁ [Demo.heartbeat] = some s₂ ∧
      Lts.Along (step (Demo.env 3000 100)) (fun x e => x.endsDrain Demo.nodeId e = false) s₁
        [Demo.heartbeat, .sweep] ∧
      step (Demo.env 3000 100) s₂ .sweep = some s₃ ∧ s₂.attemptsOf Demo.taskId = [] ∧
      (s₃.attemptsOf Demo.taskId).map ExecutionAttempt.nodeId = [Demo.nodeId] := by
  have hfacts : ((run (Demo.env 3000 100) [Demo.register 1, Demo.submit 1]).bind fun s =>
      (step (Demo.env 3000 100) s Demo.drain).bind fun s₁ =>
        (runFrom (Demo.env 3000 100) s₁ [Demo.heartbeat]).bind fun s₂ =>
          (step (Demo.env 3000 100) s₂ .sweep).map fun s₃ =>
            (s.acceptsDrain Demo.nodeId,
              decide (Lts.Along (step (Demo.env 3000 100)) (fun x e => x.endsDrain Demo.nodeId e = false) s₁
                [Demo.heartbeat, .sweep]), (s₂.attemptsOf Demo.taskId).length,
              (s₃.attemptsOf Demo.taskId).map ExecutionAttempt.nodeId)) =
      some (true, true, 0, [Demo.nodeId]) := by
    decide +kernel
  obtain ⟨s, hs, hfacts⟩ := Option.bind_eq_some_iff.mp hfacts
  obtain ⟨s₁, hs₁, hfacts⟩ := Option.bind_eq_some_iff.mp hfacts
  obtain ⟨s₂, hs₂, hfacts⟩ := Option.bind_eq_some_iff.mp hfacts
  obtain ⟨s₃, hs₃, hfacts⟩ := Option.map_eq_some_iff.mp hfacts
  simp only [Prod.mk.injEq, decide_eq_true_eq] at hfacts
  obtain ⟨haccepts, hends, hnone, hnode⟩ := hfacts
  exact ⟨s, s₁, s₂, s₃, hs, haccepts, hs₁, hs₂, hends, hs₃, List.length_eq_zero_iff.mp hnone, hnode⟩

end ComputeFabric
