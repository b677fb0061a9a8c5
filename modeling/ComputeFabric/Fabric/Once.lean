import ComputeFabric.Coordinator.Dispatches
import ComputeFabric.Fabric.Steps
import ComputeFabric.Node.Verdicts
import ComputeFabric.Safety.Epoch
import ComputeFabric.Safety.Rerun

/-!
# `Fabric.Once` — no attempt is begun twice

An attempt is one try at a task, on one node. Its number, its reservation and its report all assume that it is
run at most once. What could run it again: a second dispatch with its id, a frame that is read twice, a
dispatch read by two processes, a work item taken by two workers.

The count is over whole runs of the fabric, across nodes and restarts: `timesBegun` counts the steps in which
some worker of some node announces the start of the attempt. The invariant adds to it the work items that still
wait: together they are at most one, and none before the one dispatch of the attempt has been read.
-/

namespace ComputeFabric

open Coordinator NodeRuntime

variable {D : Type}

/-! ## One node -/

namespace NodeRuntime

/-- The worker has taken a work item of the attempt and not announced it. -/
def isTaken (id : ExecutionAttemptId) (w : Worker D) : Bool := w.phase = .taken && w.work.attemptId = id

/-- The work items of the attempt that nobody has begun. -/
def waiting (node : NodeRuntime D) (id : ExecutionAttemptId) : Nat :=
  (node.cpu.queue.countP fun work => work.attemptId = id) + node.cpu.workers.countP (isTaken id)

/-- The step announces the start of the attempt. -/
def begins (id : ExecutionAttemptId) (node : NodeRuntime D) : NodeEvent D → Bool
  | .begin i _ => node.cpu.workers[i]?.any (isTaken id)
  | _ => false

theorem countP_setPhase {cpu : CpuExecutorBackend D} {i : Nat} {w : Worker D} (hw : cpu.workers[i]? = some w)
    {phase : WorkerPhase} (hphase : phase ≠ .taken) (id : ExecutionAttemptId) :
    (cpu.setPhase i phase).workers.countP (isTaken id) + (if isTaken id w then 1 else 0) =
      cpu.workers.countP (isTaken id) := by
  obtain ⟨hlt, rfl⟩ := List.getElem?_eq_some_iff.mp hw
  have hset : (cpu.setPhase i phase).workers = cpu.workers.set i { cpu.workers[i] with phase := phase } := by
    rw [CpuExecutorBackend.setPhase, List.modify_eq_set_getElem?, hw]
    rfl
  have hnew : isTaken id { cpu.workers[i] with phase := phase } = false := by
    simp [isTaken, hphase]
  rw [hset, List.countP_set hlt, hnew, if_neg Bool.false_ne_true, Nat.add_zero]
  by_cases hyes : isTaken id cpu.workers[i] = true
  · -- A worker that counts is one of those counted.
    have hpos : 0 < cpu.workers.countP (isTaken id) := List.countP_pos_iff.mpr ⟨_, List.getElem_mem hlt, hyes⟩
    rw [if_pos hyes]
    omega
  · rw [if_neg hyes]
    rfl

variable [DoubleArith D] {node node' : NodeRuntime D} {frames : List (NodeFrame D)}

/-- A work item appears for a dispatch that is heard, and for nothing else. -/
theorem Moves.waiting {heard : Option (Message D)} (h : node.Moves heard node' frames)
    (id : ExecutionAttemptId) :
    node'.waiting id ≤ node.waiting id +
      if (heard.bind Message.dispatched).map Assignment.attemptId = some id then 1 else 0 := by
  cases h with
  | accept msg hphase hstop hidle hepoch hcan hroom =>
      have hheard : ((some (.dispatchAttempt msg) : Option (Message D)).bind Message.dispatched).map
          Assignment.attemptId = some msg.attemptId := rfl
      rw [hheard]
      simp only [NodeRuntime.waiting, List.countP_append, List.countP_singleton, Option.some.injEq,
        decide_eq_true_eq]
      omega
  | take work rest hqueue hroom =>
      have htaken : isTaken id ⟨work, .taken⟩ = decide (work.attemptId = id) := rfl
      simp only [NodeRuntime.waiting, hqueue, List.countP_append, List.countP_cons, List.countP_nil, htaken]
      omega
  | «begin» i work startedAtMs hworker =>
      have hne : WorkerPhase.started ≠ .taken := by decide
      have hcount := countP_setPhase hworker hne id
      simp only [NodeRuntime.waiting] at hcount ⊢
      have hqueue : (node.cpu.setPhase i .started).queue = node.cpu.queue := rfl
      rw [hqueue]
      omega
  | check i work phase hworker hphase =>
      have hne : phase ≠ .taken := by
        rw [hphase]
        split_ifs <;> decide
      have hcount := countP_setPhase hworker hne id
      simp only [NodeRuntime.waiting] at hcount ⊢
      have hqueue : (node.cpu.setPhase i phase).queue = node.cpu.queue := rfl
      rw [hqueue]
      omega
  | finish i w seenAt durationMs out hworker hout =>
      have hcpu := onComplete_cpu { node with cpu := node.cpu.release i } w.work out
      have hworkers : (node.cpu.release i).workers.countP (isTaken id) ≤ node.cpu.workers.countP (isTaken id) :=
        (List.eraseIdx_sublist _ _).countP_le
      have hqueue : (node.cpu.release i).queue = node.cpu.queue := rfl
      simp only [NodeRuntime.waiting, hcpu, hqueue]
      omega
  | _ => exact Nat.le_add_right _ _

/-- **What a step begins is taken from what waits.** -/
theorem step_waiting {incoming : Option (Message D)} {e : NodeEvent D}
    (h : node.step incoming e = some (node', frames)) (id : ExecutionAttemptId) :
    node'.waiting id + (if node.begins id e then 1 else 0) ≤ node.waiting id +
      if ((node.hears incoming e).bind Message.dispatched).map Assignment.attemptId = some id then 1 else 0 := by
  have hmoves := (step_moves h).waiting id
  cases e with
  | «begin» i startedAtMs =>
      unfold step at h
      dsimp only at h
      split at h
      · rename_i work hworker
        cases h
        have hne : WorkerPhase.started ≠ .taken := by decide
        have hcount := countP_setPhase hworker hne id
        simp only [begins, hworker, Option.any_some, NodeRuntime.waiting] at hcount ⊢
        have hqueue : (node.cpu.setPhase i .started).queue = node.cpu.queue := rfl
        rw [hqueue]
        omega
      · cases h
  | _ => exact hmoves

end NodeRuntime

/-! ## Positions in the log -/

/-- A dispatch is at one place in the log of one connection. -/
theorem sentTo_dispatch_unique {s : Coordinator D}
    (hnodup : ((dispatchesIn s.outbox).map fun x => x.2.attemptId).Nodup) {conn conn' : ConnId} {i j : Nat}
    {m m' : DispatchAttempt D} (hi : (s.sentTo conn)[i]? = some (.dispatchAttempt m))
    (hj : (s.sentTo conn')[j]? = some (.dispatchAttempt m')) (hid : m.attemptId = m'.attemptId) :
    conn = conn' ∧ i = j := by
  obtain ⟨req, hmem⟩ := mem_sentTo.mp (List.mem_of_getElem? hi)
  obtain ⟨req', hmem'⟩ := mem_sentTo.mp (List.mem_of_getElem? hj)
  have hpair : (conn, m) = (conn', m') :=
    List.inj_on_of_nodup_map hnodup (mem_dispatchesIn.mpr ⟨req, hmem⟩) (mem_dispatchesIn.mpr ⟨req', hmem'⟩) hid
  obtain ⟨rfl, rfl⟩ := Prod.mk.inj hpair
  refine ⟨rfl, ?_⟩
  -- Two places in one log would be two places in the list of all frames.
  have hall : s.outbox.Pairwise fun x y => ∀ msg, x.2.2.dispatch? = some msg →
      ∀ msg', y.2.2.dispatch? = some msg' → msg.attemptId ≠ msg'.attemptId := by
    rw [List.Nodup, List.pairwise_map, dispatchesIn, List.pairwise_filterMap] at hnodup
    refine hnodup.imp fun {x y} h msg hx msg' hy => ?_
    exact h (x.1, msg) (by rw [hx]; rfl) (y.1, msg') (by rw [hy]; rfl)
  have hlog : (s.sentTo conn).Pairwise fun x y => ∀ msg, x.dispatch? = some msg →
      ∀ msg', y.dispatch? = some msg' → msg.attemptId ≠ msg'.attemptId := by
    rw [sentTo_eq, List.pairwise_filterMap]
    refine hall.imp fun {x y} h b hb b' hb' => ?_
    split_ifs at hb hb'
    cases hb
    cases hb'
    exact h
  obtain ⟨hi', hi⟩ := List.getElem?_eq_some_iff.mp hi
  obtain ⟨hj', hj⟩ := List.getElem?_eq_some_iff.mp hj
  have hpairs := List.pairwise_iff_getElem.mp hlog
  rcases Nat.lt_trichotomy i j with hlt | heq | hlt
  · exact absurd rfl (hpairs i j hi' hj' hlt m (by rw [hi]; rfl) m (by rw [hj]; rfl))
  · exact heq
  · exact absurd rfl (hpairs j i hj' hi' hlt m (by rw [hj]; rfl) m (by rw [hi]; rfl))

/-! ## The network -/

/-- The work items of the attempt that wait, on all nodes. -/
def Network.waiting (net : Network D) (id : ExecutionAttemptId) : Nat :=
  (net.processes.map fun p => p.node.waiting id).sum

/-- A dispatch of the attempt has been read by the node of its connection. -/
def Network.HasRead (c : Coordinator D) (id : ExecutionAttemptId) (net : Network D) : Prop :=
  ∃ conn link i msg, net.links[conn]? = some link ∧ i < link.received ∧
    (c.sentTo conn)[i]? = some (.dispatchAttempt msg) ∧ msg.attemptId = id

theorem sum_map_set {α : Type} (g : α → Nat) {l : List α} {k : Nat} {x : α} (h : l[k]? = some x) (y : α) :
    ((l.set k y).map g).sum + g x = (l.map g).sum + g y := by
  induction l generalizing k with
  | nil => cases h
  | cons z l ih =>
      cases k with
      | zero =>
          obtain rfl : z = x := Option.some.inj h
          simp only [List.set_cons_zero, List.map_cons, List.sum_cons]
          omega
      | succ k =>
          have hrest := ih (k := k) h
          simp only [List.set_cons_succ, List.map_cons, List.sum_cons]
          omega

/-- One process is replaced. -/
theorem Network.waiting_set {net : Network D} {k : Nat} {p : NodeProcess D} (hp : net.processes[k]? = some p)
    (p' : NodeProcess D) (id : ExecutionAttemptId) :
    ((net.processes.set k p').map fun q => q.node.waiting id).sum + p.node.waiting id =
      net.waiting id + p'.node.waiting id :=
  sum_map_set (fun q : NodeProcess D => q.node.waiting id) hp p'

theorem Network.HasRead.mono {c c' : Coordinator D} {id : ExecutionAttemptId} {net : Network D}
    (h : net.HasRead c id) (hlog : ∀ conn, c.sentTo conn <+: c'.sentTo conn) : net.HasRead c' id := by
  obtain ⟨conn, link, i, msg, hlink, hi, hmsg, hid⟩ := h
  obtain ⟨later, hlater⟩ := hlog conn
  refine ⟨conn, link, i, msg, hlink, hi, ?_, hid⟩
  rw [← hlater, List.getElem?_append_left (List.getElem?_eq_some_iff.mp hmsg).1]
  exact hmsg

section Runs

variable [DoubleArith D] {env : Env}

/-- The step begins the attempt, on whichever node. -/
def Fabric.begins (id : ExecutionAttemptId) (f : Fabric D) : FabricEvent D → Bool
  | .node k ev => f.processes[k]?.any fun p => p.node.begins id ev
  | _ => false

/-- How often the attempt is begun in the run. -/
def Fabric.timesBegun (env : Env) (id : ExecutionAttemptId) (events : List (FabricEvent D)) : Nat :=
  match Coordinator.boot env with
  | none => 0
  | some c => Lts.countAlong (Fabric.step env) (Fabric.begins id) { coordinator := c } events

/-- What was begun and what waits is at most one, and comes from a dispatch that was read. -/
structure Network.BegunOnce (c : Coordinator D) (id : ExecutionAttemptId) (n : Nat) (net : Network D) : Prop where
  once : n + net.waiting id ≤ 1
  read : 0 < n + net.waiting id → net.HasRead c id

/-- Reading goes on: what was read stays read. -/
theorem Network.HasRead.moved {c : Coordinator D} {id : ExecutionAttemptId} {net net' : Network D}
    {e : FabricEvent D} (h : net.HasRead c id) (hmoved : net.Moved c e net') : net'.HasRead c id := by
  obtain ⟨conn, link, i, msg, hlink, hi, hmsg, hid⟩ := h
  cases hmoved with
  | relink e net' hrelinked hnode =>
      obtain ⟨link', hlink', hreceived⟩ := hrelinked.forth hlink
      exact ⟨conn, link', i, msg, hlink', by rw [hreceived]; exact hi, hmsg, hid⟩
  | spawn config nodeId => exact ⟨conn, link, i, msg, hlink, hi, hmsg, hid⟩
  | connect k conn' p node' frames hp hnew hconnect =>
      refine ⟨conn, link, i, msg, ?_, hi, hmsg, hid⟩
      dsimp only
      rw [Std.ExtTreeMap.getElem?_insert, if_neg, hlink]
      intro heq
      rw [Std.LawfulEqCmp.eq_of_compare heq, hlink] at hnew
      cases hnew
  | node k ev p conn' link' node' frames reads hp hconn hlink' hstep hreads =>
      obtain ⟨link'', hlink'', hreceived⟩ :=
        received_afterNode k { p with node := node' } conn' frames reads hlink
      exact ⟨conn, link'', i, msg, hlink'', by rw [hreceived]; exact Nat.lt_add_right _ hi, hmsg, hid⟩

/-- **One move of the network.** The dispatches in the log are distinct. -/
theorem Network.BegunOnce.moved {f : Fabric D} {id : ExecutionAttemptId} {n : Nat} {net' : Network D}
    {e : FabricEvent D} (h : f.toNetwork.BegunOnce f.coordinator id n)
    (hnodup : ((dispatchesIn f.coordinator.outbox).map fun x => x.2.attemptId).Nodup)
    (hmoved : f.toNetwork.Moved f.coordinator e net') :
    net'.BegunOnce f.coordinator id (n + if f.begins id e then 1 else 0) := by
  -- Moves that begin nothing and bring no work item.
  have hquiet : f.begins id e = false → net'.waiting id = f.toNetwork.waiting id →
      net'.BegunOnce f.coordinator id (n + if f.begins id e then 1 else 0) := by
    intro hno hsame
    rw [hno]
    refine ⟨?_, fun hpos => ?_⟩
    · rw [hsame]
      exact h.once
    · rw [hsame] at hpos
      exact (h.read hpos).moved hmoved
  cases hmoved with
  | relink e net' hrelinked hnode =>
      refine hquiet ?_ (by rw [Network.waiting, hrelinked.processes, Network.waiting])
      cases e with
      | node k ev => exact absurd rfl (hnode k ev)
      | _ => rfl
  | spawn config nodeId =>
      refine hquiet rfl ?_
      simp [Network.waiting, NodeRuntime.waiting, create, CpuExecutorBackend.create]
  | connect k conn p node' frames hp hnew hconnect =>
      refine hquiet rfl ?_
      have hsum := Network.waiting_set hp { node := node', conn := some conn } id
      have hsame : node'.waiting id = p.node.waiting id := by
        unfold NodeRuntime.connect at hconnect
        split_ifs at hconnect
        cases hconnect
        rfl
      simp only [hsame] at hsum
      exact Nat.add_right_cancel hsum
  | node k ev p conn link node' frames reads hp hconn hlink hstep hreads =>
      have hbegins : f.begins id (.node k ev) = p.node.begins id ev := by
        simp only [Fabric.begins, hp, Option.any_some]
      have hsum : (f.toNetwork.afterNode k { p with node := node' } conn frames reads).waiting id +
          p.node.waiting id = f.toNetwork.waiting id + node'.waiting id :=
        Network.waiting_set hp { p with node := node' } id
      have hstep' := step_waiting hstep id
      rw [hbegins]
      by_cases hheard : ((p.node.hears (f.coordinator.sentTo conn)[link.received]? ev).bind
          Message.dispatched).map Assignment.attemptId = some id
      · -- A dispatch of the attempt is read. It is the first: the one that was read before stands elsewhere.
        rw [if_pos hheard] at hstep'
        obtain ⟨names, hnames, hattempt⟩ := Option.map_eq_some_iff.mp hheard
        obtain ⟨m, hm, hdispatched⟩ := Option.bind_eq_some_iff.mp hnames
        obtain ⟨msg, rfl, hmsg⟩ : ∃ msg, m = .dispatchAttempt msg ∧ msg.attemptId = id := by
          cases m with
          | dispatchAttempt msg =>
              cases hdispatched
              exact ⟨msg, rfl, hattempt⟩
          | _ => cases hdispatched
        obtain ⟨rfl, hincoming⟩ : ev = .receive ∧
            (f.coordinator.sentTo conn)[link.received]? = some (.dispatchAttempt msg) := by
          unfold hears at hm
          split at hm
          · split_ifs at hm
            exact ⟨rfl, hm⟩
          · cases hm
        have hzero : n + f.toNetwork.waiting id = 0 := by
          by_contra hpos
          obtain ⟨conn', link', i, msg', hlink', hi, hmsg', hid'⟩ := h.read (by omega)
          obtain ⟨rfl, rfl⟩ := sentTo_dispatch_unique hnodup hmsg' hincoming (hid'.trans hmsg.symm)
          rw [hlink] at hlink'
          cases hlink'
          exact absurd hi (Nat.lt_irrefl _)
        refine ⟨by omega, fun _ => ?_⟩
        obtain ⟨link', hlink', hreceived⟩ :=
          received_afterNode k { p with node := node' } conn frames reads hlink
        refine ⟨conn, link', link.received, msg, hlink', ?_, hincoming, hmsg⟩
        rw [hreceived, if_pos rfl, hreads rfl]
        exact Nat.lt_succ_self _
      · rw [if_neg hheard] at hstep'
        have honce := h.once
        refine ⟨by omega, fun hpos => ?_⟩
        exact (h.read (by omega)).moved (.node k ev p conn link node' frames reads hp hconn hlink hstep hreads)

/-- The invariant of runs. -/
structure Fabric.BegunOnce (env : Env) (id : ExecutionAttemptId) (n : Nat) (f : Fabric D) : Prop where
  traced : f.coordinator.Traced env (dispatchesIn f.coordinator.outbox)
  begun : Set.InjOn env.random (Set.Iio f.coordinator.drawn) → f.toNetwork.BegunOnce f.coordinator id n

theorem Fabric.BegunOnce.step {f f' : Fabric D} {id : ExecutionAttemptId} {n : Nat} {e : FabricEvent D}
    (h : f.BegunOnce env id n) (hstep : f.step env e = some f') :
    f'.BegunOnce env id (n + if f.begins id e then 1 else 0) := by
  have hcore : f.coordinator.drawn ≤ f'.coordinator.drawn ∧
      f'.coordinator.Traced env (dispatchesIn f'.coordinator.outbox) := by
    rcases Fabric.step_coordinator hstep with ⟨-, hsame⟩ | ⟨ev, -, hcore⟩
    · rw [hsame]
      exact ⟨le_rfl, h.traced⟩
    · refine ⟨?_, step_traced h.traced hcore⟩
      have hone : f.coordinator.runFrom env [ev] = some f'.coordinator := Lts.run_cons.mpr ⟨_, hcore, rfl⟩
      exact runFrom_drawn_le hone h.traced.sound
  refine ⟨hcore.2, fun hfresh => ?_⟩
  have hbefore := hfresh.mono (Set.Iio_subset_Iio hcore.1)
  have hmoved := (h.begun hbefore).moved (h.traced.sent hbefore).nodup (Fabric.step_moved hstep)
  exact ⟨hmoved.once, fun hpos => (hmoved.read hpos).mono (Fabric.step_sentTo hstep)⟩

/-- **No attempt is begun twice.** In every run of the fabric in which no id is drawn twice, the workers of all
    nodes together announce the start of an attempt at most once, through lost connections, retries and
    restarts; and they announce only attempts that the coordinator has sent out. -/
theorem Fabric.attempt_begun_once {events : List (FabricEvent D)} {f : Fabric D}
    (hrun : Fabric.run env events = some f) (hfresh : Set.InjOn env.random (Set.Iio f.coordinator.drawn))
    (id : ExecutionAttemptId) :
    Fabric.timesBegun env id events ≤ 1 ∧
      (0 < Fabric.timesBegun env id events →
        ∃ conn msg, .dispatchAttempt msg ∈ f.coordinator.sentTo conn ∧ msg.attemptId = id) := by
  obtain ⟨c, hc, hrun'⟩ := Option.bind_eq_some_iff.mp hrun
  have hstart : Fabric.BegunOnce env id 0 { coordinator := c } := by
    refine ⟨boot_traced hc, fun _ => ⟨by simp [Network.waiting], fun hpos => ?_⟩⟩
    simp [Network.waiting] at hpos
  have hinv : Fabric.BegunOnce env id
      (0 + Lts.countAlong (Fabric.step env) (Fabric.begins id) { coordinator := c } events) f :=
    Lts.run_countAlong_invariant (fun _ _ _ _ hx he => hx.step he) hstart hrun'
  rw [Nat.zero_add] at hinv
  have hcount : Fabric.timesBegun env id events =
      Lts.countAlong (Fabric.step env) (Fabric.begins id) { coordinator := c } events := by
    rw [Fabric.timesBegun, hc]
  obtain ⟨honce, hread⟩ := hinv.begun hfresh
  rw [hcount]
  refine ⟨by omega, fun hpos => ?_⟩
  obtain ⟨conn, link, i, msg, -, -, hmsg, hid⟩ := hread (by omega)
  exact ⟨conn, msg, List.mem_of_getElem? hmsg, hid⟩

end Runs

/-- The run in which a node enters the kernel begins the attempt, and restarting the coordinator does not begin
    it again. -/
theorem Fabric.attempt_begun_once_enterKernel :
    ∃ f : Fabric ℚ, Fabric.run (Demo.env 100000 8) (Demo.enterKernel ++ [.restart, .sweep]) = some f ∧
      Fabric.timesBegun (Demo.env 100000 8) (Demo.id 2) (Demo.enterKernel ++ [.restart, .sweep]) = 1 ∧
      ∃ conn msg, .dispatchAttempt msg ∈ f.coordinator.sentTo conn ∧ msg.attemptId = Demo.id 2 := by
  have hfacts : ((Fabric.run (Demo.env 100000 8) (Demo.enterKernel ++ [.restart, .sweep])).map fun f =>
      decide (f.coordinator.drawn ≤ 1000)) = some true := by
    decide +kernel
  have hcount : Fabric.timesBegun (Demo.env 100000 8) (Demo.id 2) (Demo.enterKernel ++ [.restart, .sweep]) = 1 := by
    decide +kernel
  obtain ⟨f, hf, hdrawn⟩ := Option.map_eq_some_iff.mp hfacts
  have hfresh := Demo.injOn_random 100000 8 (of_decide_eq_true hdrawn)
  exact ⟨f, hf, hcount, (Fabric.attempt_begun_once hf hfresh (Demo.id 2)).2 (by rw [hcount]; decide)⟩

end ComputeFabric
