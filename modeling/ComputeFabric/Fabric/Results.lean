import ComputeFabric.Coordinator.Dispatches
import ComputeFabric.Fabric.Steps
import ComputeFabric.Node.Verdicts
import ComputeFabric.Safety.Rerun

/-!
# `Fabric.Results` — a committed result is the result of the task

From the client's view the fabric computes tasks: what the coordinator has committed for a task should be what
the task's kernel computes. Between the two lie a dispatch, a node with its own threads, two queues of frames, a
report that names the attempt only by its id, and restarts of the coordinator in between.

The argument follows the data. `Network.Honest` says that every node, and every frame on its way to the
coordinator, is backed by what the coordinator queued on that very connection. `Coordinator.Traced` says that
what was queued and what is recorded agree. A commit joins the two: the report is backed by a dispatch, and the
record it commits is the record of that dispatch.
-/

namespace ComputeFabric

open Coordinator NodeRuntime
open ExecutionAttempt (markCommitted)

variable {D : Type}

/-! ## Nodes and connections -/

/-- A node without a registration has nothing that would need backing. -/
theorem NodeRuntime.Justified.rewire {H H' : Message D → Prop} {node : NodeRuntime D} (hj : Justified H node)
    (hw : node.Wired) (hphase : node.phase ≠ .running) : Justified H' node := by
  obtain ⟨hqueue, hworkers, hitems, hreader, hreporter⟩ := hw.unregistered hphase
  have hzero := hj.unregistered hphase
  obtain ⟨owner, hactive, hworks, hrequested⟩ := hj.tokens
  have hnone : ∀ work, ¬ node.Works work := by
    intro work hwork
    simp [Works, hqueue, hworkers] at hwork
  refine ⟨hj.unregistered, ⟨owner, hactive, hworks, fun token htoken => ?_⟩, fun work hwork => ?_, ?_, ?_, ?_⟩
  · exact absurd (hrequested token htoken).1 (by omega)
  · exact absurd hwork (hnone work)
  · simp [hworkers]
  · simp [hitems]
  · simp [pending, hreader, hreporter]

/-- What a process may have heard, when `heard` is what was queued on each connection. -/
def NodeProcess.mayHear (heard : ConnId → Message D → Prop) (p : NodeProcess D) (m : Message D) : Prop :=
  ∃ conn, p.conn = some conn ∧ heard conn m

/-- **Every node and every frame is backed** by what was queued on its connection. -/
structure Network.Honest (heard : ConnId → Message D → Prop) (net : Network D) : Prop where
  wired : ∀ p ∈ net.processes, p.node.Wired
  justified : ∀ p ∈ net.processes, p.node.Justified (p.mayHear heard)
  links : ∀ {conn : ConnId} {link : Link D}, net.links[conn]? = some link →
    ∀ frame ∈ link.toCoordinator, frame.Backed (heard conn) (CancelHeard (heard conn))

theorem CancelHeard.mono {H H' : Message D → Prop} (hH : ∀ m, H m → H' m) {id : ExecutionAttemptId}
    (h : CancelHeard H id) : CancelHeard H' id := by
  obtain ⟨reason, hreason⟩ := h
  exact ⟨reason, hH _ hreason⟩

namespace Network.Honest

variable {heard heard' : ConnId → Message D → Prop} {net net' : Network D}

theorem mono (h : net.Honest heard) (hmore : ∀ conn m, heard conn m → heard' conn m) : net.Honest heard' where
  wired := h.wired
  justified := fun p hp => (h.justified p hp).mono fun m hm => by
    obtain ⟨conn, hconn, hheard⟩ := hm
    exact ⟨conn, hconn, hmore conn m hheard⟩
  links := fun hlink frame hframe =>
    (h.links hlink frame hframe).mono (hmore _) fun _ hid => hid.mono (hmore _)

variable [DoubleArith D]

/-- **Every move keeps the network honest**: a node hears from its own connection only. -/
theorem moved {c : Coordinator D} {e : FabricEvent D} (h : net.Honest fun conn m => m ∈ c.sentTo conn)
    (hmoved : net.Moved c e net') : net'.Honest fun conn m => m ∈ c.sentTo conn := by
  cases hmoved with
  | relink e net' hrelinked hnode =>
      refine ⟨?_, ?_, ?_⟩
      · rw [hrelinked.processes]
        exact h.wired
      · rw [hrelinked.processes]
        exact h.justified
      · intro conn link' hlink' frame hframe
        obtain ⟨link, hlink, hsuffix⟩ := hrelinked.back hlink'
        exact h.links hlink frame (hsuffix.subset hframe)
  | spawn config nodeId =>
      refine ⟨fun p hp => ?_, fun p hp => ?_, h.links⟩
      · rcases List.mem_append.mp hp with hp | hp
        · exact h.wired p hp
        · rw [List.mem_singleton.mp hp]
          exact wired_create config nodeId
      · rcases List.mem_append.mp hp with hp | hp
        · exact h.justified p hp
        · rw [List.mem_singleton.mp hp]
          exact justified_create _ config nodeId
  | connect k conn p node' frames hp hnew hconnect =>
      have hmem := List.mem_of_getElem? hp
      have hidle : p.node.phase = .idle := by
        unfold NodeRuntime.connect at hconnect
        split_ifs at hconnect with hphase
        exact hphase
      refine ⟨fun q hq => ?_, fun q hq => ?_, ?_⟩
      · rcases List.mem_or_eq_of_mem_set hq with hq | rfl
        · exact h.wired q hq
        · exact (h.wired p hmem).connect hconnect
      · rcases List.mem_or_eq_of_mem_set hq with hq | rfl
        · exact h.justified q hq
        · -- The connection is another one now, and nothing in the node rests on the old one.
          refine Justified.connect ?_ hconnect
          exact (h.justified p hmem).rewire (h.wired p hmem) (by rw [hidle]; decide)
      · intro conn' link' hlink' frame hframe
        dsimp only at hlink'
        rw [Std.ExtTreeMap.getElem?_insert] at hlink'
        split_ifs at hlink' with heq
        · cases hlink'
          have hframes : frames = [.hello, p.node.registerFrame] := by
            unfold NodeRuntime.connect at hconnect
            rw [if_pos hidle] at hconnect
            exact (Prod.mk.inj (Option.some.inj hconnect)).2.symm
          rw [hframes] at hframe
          rcases List.mem_pair.mp hframe with rfl | rfl <;> trivial
        · exact h.links hlink' frame hframe
  | node k ev p conn link node' frames reads hp hconn hlink hstep hreads =>
      have hmem := List.mem_of_getElem? hp
      have hmoves := step_moves hstep
      have hjust := h.justified p hmem
      have hheard : ∀ m ∈ p.node.hears (c.sentTo conn)[link.received]? ev,
          p.mayHear (fun conn m => m ∈ c.sentTo conn) m := by
        intro m hm
        refine ⟨conn, hconn, ?_⟩
        unfold hears at hm
        split at hm
        · split_ifs at hm
          · exact List.mem_of_getElem? hm
          · cases hm
        · cases hm
      refine ⟨fun q hq => ?_, fun q hq => ?_, ?_⟩
      · rcases List.mem_or_eq_of_mem_set hq with hq | rfl
        · exact h.wired q hq
        · exact (h.wired p hmem).moves hmoves
      · rcases List.mem_or_eq_of_mem_set hq with hq | rfl
        · exact h.justified q hq
        · exact hjust.moves hmoves hheard
      · intro conn' link' hlink' frame hframe
        obtain ⟨link₀, hlink₀, ⟨rfl, hframes, -⟩ | ⟨-, rfl⟩⟩ := links_afterNode hlink'
        · rw [hframes] at hframe
          rcases List.mem_append.mp hframe with hframe | hframe
          · exact h.links hlink₀ frame hframe
          · -- The process hears this connection and no other.
            have hown : ∀ m, p.mayHear (fun conn m => m ∈ c.sentTo conn) m → m ∈ c.sentTo conn' := by
              rintro m ⟨conn'', hconn'', hm⟩
              rw [hconn] at hconn''
              rwa [Option.some.inj hconn'']
            exact (hjust.sent hmoves frame hframe).mono hown fun _ hid => hid.mono hown
        · exact h.links hlink₀ frame hframe

end Network.Honest

section Honest

variable [DoubleArith D] {env : Env} {f f' : Fabric D}

/-- The fabric's network is backed by the coordinator's log. -/
def Fabric.IsHonest (f : Fabric D) : Prop := f.toNetwork.Honest fun conn m => m ∈ f.coordinator.sentTo conn

theorem Fabric.IsHonest.step (hf : f.IsHonest) {e : FabricEvent D} (h : f.step env e = some f') : f'.IsHonest :=
  (Network.Honest.moved hf (step_moved h)).mono fun conn _ hm => (Fabric.step_sentTo h conn).subset hm

omit [DoubleArith D] in
theorem Fabric.IsHonest.start (c : Coordinator D) : Fabric.IsHonest ({ coordinator := c } : Fabric D) where
  wired := by simp
  justified := by simp
  links := by simp

theorem Fabric.run_isHonest {events : List (FabricEvent D)} (h : Fabric.run env events = some f) : f.IsHonest := by
  obtain ⟨c, -, hrun⟩ := Option.bind_eq_some_iff.mp h
  exact Lts.run_preserves (fun _ _ _ hx he => hx.step he) (.start c) hrun

/-- **Reports travel on the connection their dispatch came on.** In every run of the fabric, every report that
    waits to be read names the attempt, the task and the reservation of a dispatch the coordinator queued on
    the same connection; a completion carries what the kernel computes for the task of that dispatch, and a
    report that the attempt was cancelled follows an `AttemptCancel` for it on that connection. -/
theorem Fabric.reports_answer_dispatches {events : List (FabricEvent D)} (hrun : Fabric.run env events = some f)
    {conn : ConnId} {link : Link D} (hlink : f.links[conn]? = some link) :
    ∀ frame ∈ link.toCoordinator, frame.Backed (fun m => m ∈ f.coordinator.sentTo conn)
      (CancelHeard fun m => m ∈ f.coordinator.sentTo conn) :=
  (run_isHonest hrun).links hlink

end Honest

namespace Demo

/-- The kernel of the attempt that was entered ends undisturbed, and its report is on the connection. -/
def kernelReports : List (FabricEvent ℚ) :=
  enterKernel ++ [.node 0 (.finish 0 none 0), .node 0 .report, .node 0 (.send .reporter)]

end Demo

/-- A report waits on connection 1. -/
theorem Fabric.reports_answer_dispatches_kernelReports :
    ∃ f link frame, Fabric.run (Demo.env 100000 8) Demo.kernelReports = some f ∧ f.links[1]? = some link ∧
      frame ∈ link.toCoordinator ∧ frame.reported.isSome = true ∧
      frame.Backed (fun m => m ∈ f.coordinator.sentTo 1) (CancelHeard fun m => m ∈ f.coordinator.sentTo 1) := by
  have hfacts : ((Fabric.run (Demo.env 100000 8) Demo.kernelReports).bind fun f => f.links[1]?.bind fun link =>
      link.toCoordinator.head?.map fun frame => frame.reported.isSome) = some true := by
    decide +kernel
  obtain ⟨f, hf, hrest⟩ := Option.bind_eq_some_iff.mp hfacts
  obtain ⟨link, hlink, hrest⟩ := Option.bind_eq_some_iff.mp hrest
  obtain ⟨frame, hhead, hreported⟩ := Option.map_eq_some_iff.mp hrest
  have hmem := List.mem_of_mem_head? hhead
  exact ⟨f, link, frame, hf, hlink, hmem, hreported, Fabric.reports_answer_dispatches hf hlink frame hmem⟩

/-! ## Records -/

/-- The record holds what the CPU computes for the task. It keeps no notes, and its device is rewritten by a start
    message that comes late. -/
def ExecutionAttempt.Carries (a : ExecutionAttempt D) (task : ComputeTask D) : Prop :=
  (runCpuKernel task none).success = true ∧ a.outputIntegrity = (runCpuKernel task none).checksumHex ∧
    a.outputSize = UInt64.ofNat (runCpuKernel task none).output.length ∧
    a.bytesTransferred = (runCpuKernel task none).bytesProcessed

/-- Every committed record among `list` holds the result of its task. -/
def ResultsComputed (tasks : IdMap (ComputeTask D)) (list : ComputeTaskId → List (ExecutionAttempt D)) : Prop :=
  ∀ t, ∀ a ∈ list t, a.committed = true → ∃ task, tasks[t]? = some task ∧ a.Carries task

theorem ExecutionAttempt.Carries.congr {a b : ExecutionAttempt D} {task : ComputeTask D} (h : a.SameResult b)
    (hb : b.Carries task) : a.Carries task := by
  obtain ⟨hsuccess, hintegrity, hsize, hbytes⟩ := hb
  exact ⟨hsuccess, h.outputIntegrity.trans hintegrity, h.outputSize.trans hsize, h.bytesTransferred.trans hbytes⟩

/-- The same in memory and in the file. -/
structure Coordinator.Computed (s : Coordinator D) : Prop where
  memory : ResultsComputed s.graph.tasks s.attemptsOf
  file : ResultsComputed (s.file.getD {}).tasks fun t => (s.file.getD {}).attempts[t]?.getD []

section Records

variable [DoubleArith D] {env : Env}

omit [DoubleArith D] in
theorem Coordinator.Computed.of_started {w : World D} {d : DurableState D} {s : Coordinator D} (h : Started w d s)
    (hd : ResultsComputed d.tasks fun t => d.attempts[t]?.getD []) : s.Computed := by
  have hmemory : ResultsComputed s.graph.tasks s.attemptsOf := by
    intro t a ha hcommitted
    rw [Ledger.attemptsOf, h.attempts] at ha
    obtain ⟨task, htask, hcarries⟩ := hd t a ha hcommitted
    exact ⟨task, (h.tasks t).trans htask, hcarries⟩
  refine ⟨hmemory, ?_⟩
  rcases h.file with hfile | hfile
  · rw [hfile]
    exact hd
  · rw [hfile]
    intro t a ha
    dsimp only [Option.getD_some] at ha
    rw [getD_attempts_snapshot] at ha
    exact hmemory t a (List.mem_of_mem_filter ha)

/-- The completions among the events are backed by the dispatches. -/
def CompletionsBacked (msgs : List (ConnId × DispatchAttempt D)) (e : Event D) : Prop :=
  ∀ conn req co, e = .command (.attemptComplete conn req co) →
    ∃ msg, (conn, msg) ∈ msgs ∧ msg.attemptId = co.attemptId ∧ co.Carries msg.task

/-- A commit writes the result of the task the record is filed under. -/
theorem Coordinator.Computed.coreStep {msgs : List (ConnId × DispatchAttempt D)} {s₀ s s' : Coordinator D}
    {e : Event D} (hstep : CoreStep env s₀ e s s') (hs : s.Traced env msgs) (he : CompletionsBacked msgs e)
    (h : Set.InjOn env.random (Set.Iio s.drawn) → s.Computed)
    (hfresh : Set.InjOn env.random (Set.Iio s'.drawn)) : s'.Computed := by
  obtain ⟨hmemory, hfile⟩ := hstep.books_invariant
    (R := fun l d => Set.InjOn env.random (Set.Iio l.drawn) → ResultsComputed l.graph.tasks l.attemptsOf ∧
      ResultsComputed d.tasks fun t => d.attempts[t]?.getD [])
    (fun d hd hact hfresh' => by
      have hbefore := hfresh'.mono (Set.Iio_subset_Iio hact.drawn_le)
      obtain ⟨hmemory, hfile⟩ := hd hbefore
      refine ⟨fun t a ha hcommitted => ?_, hfile⟩
      have hkeep : ∀ {task}, s.graph.tasks[t]? = some task → s'.graph.tasks[t]? = some task :=
        fun htask => hact.tasks_mono hs.sound.wellFormed.coherent htask
      rcases hact.output_origin hs.sound.wellFormed ha with
        ⟨b, hb, hsame⟩ | hnot | ⟨conn, req, co, time, b, rfl, hb, hid, rfl⟩
      · obtain ⟨task, htask, hcarries⟩ := hmemory t b hb (hsame.committed.symm.trans hcommitted)
        exact ⟨task, hkeep htask, hcarries.congr hsame⟩
      · rw [hnot] at hcommitted
        cases hcommitted
      · -- The report is backed by a dispatch, and the record is the one of that dispatch.
        obtain ⟨msg, hmsg, hattempt, hsuccess, hintegrity, hsize, hbytes, -⟩ := he conn req co rfl
        obtain ⟨htask, -⟩ := (hs.sent hbefore).records t b hb (conn, msg) hmsg (hattempt.trans hid.symm)
        exact ⟨msg.task, hkeep htask, hsuccess, hintegrity, hsize, hbytes⟩)
    (fun hd hfresh' => by
      obtain ⟨hmemory, -⟩ := hd hfresh'
      refine ⟨hmemory, fun t a ha => ?_⟩
      dsimp only at ha
      rw [getD_attempts_snapshot] at ha
      exact hmemory t a (List.mem_of_mem_filter ha))
    (fun hf => ⟨(h hf).memory, (h hf).file⟩) hfresh
  exact ⟨hmemory, hfile⟩

theorem step_computed {s s' : Coordinator D} {e : Event D} (hs : s.Traced env (dispatchesIn s.outbox))
    (he : CompletionsBacked (dispatchesIn s.outbox) e)
    (hcomputed : Set.InjOn env.random (Set.Iio s.drawn) → s.Computed) (h : step env s e = some s') :
    Set.InjOn env.random (Set.Iio s'.drawn) → s'.Computed := by
  refine (step_invariant (I := fun x => x.Traced env (dispatchesIn s.outbox) ∧
    (Set.InjOn env.random (Set.Iio x.drawn) → x.Computed)) ?_ ?_ hs.sound ⟨hs, hcomputed⟩ h).2
  · rintro x x' - ⟨hx, hxc⟩ hstep
    exact ⟨hx.coreStep hstep, fun hfresh => .coreStep hstep hx he hxc hfresh⟩
  · rintro rfl hstarted
    have hnow := step_traced hs h
    have houtbox : s'.outbox = s.outbox := start_outbox (start_of_restart h)
    rw [houtbox] at hnow
    refine ⟨hnow, fun hfresh => .of_started hstarted ?_⟩
    rw [hstarted.drawn] at hfresh
    exact (hcomputed hfresh).file

end Records

/-! ## The fabric -/

namespace Fabric

variable [DoubleArith D] {env : Env} {f f' : Fabric D}

/-- A completion the coordinator processes was read from the connection it names. -/
theorem completion_read {e : FabricEvent D} (h : f.step env e = some f') {conn : ConnId} {req : UInt64}
    {co : AttemptComplete D} (hev : f.coreEvent e = some (.command (.attemptComplete conn req co))) :
    ∃ link, f.links[conn]? = some link ∧ .attemptComplete co ∈ link.toCoordinator := by
  cases e with
  | client cmd =>
      cases hev
      cases h
  | read conn' =>
      obtain ⟨link, hlink, hrest⟩ := Option.bind_eq_some_iff.mp hev
      obtain ⟨frame, hframe, hrest⟩ := Option.bind_eq_some_iff.mp hrest
      obtain ⟨c, hc, hcmd⟩ := Option.bind_eq_some_iff.mp hrest
      cases hcmd
      have hmem : frame ∈ link.toCoordinator := by
        unfold Link.nextFrame at hframe
        split_ifs at hframe
        exact List.mem_of_mem_head? hframe
      cases frame with
      | attemptComplete co' =>
          cases hc
          exact ⟨link, hlink, hmem⟩
      | _ => cases hc
  | disconnected conn' =>
      obtain ⟨link, -, hcmd⟩ := Option.map_eq_some_iff.mp hev
      cases hcmd
  | _ => cases hev

/-- Everything a committed result rests on. -/
structure Faithful (env : Env) (f : Fabric D) : Prop where
  traced : f.coordinator.Traced env (dispatchesIn f.coordinator.outbox)
  honest : f.IsHonest
  computed : Set.InjOn env.random (Set.Iio f.coordinator.drawn) → f.coordinator.Computed

theorem Faithful.step (hf : f.Faithful env) {e : FabricEvent D} (h : f.step env e = some f') : f'.Faithful env := by
  rcases step_coordinator h with ⟨-, hsame⟩ | ⟨ev, hev, hstep⟩
  · refine ⟨?_, hf.honest.step h, ?_⟩
    · rw [hsame]
      exact hf.traced
    · rw [hsame]
      exact hf.computed
  · refine ⟨step_traced hf.traced hstep, hf.honest.step h, step_computed hf.traced ?_ hf.computed hstep⟩
    rintro conn req co rfl
    obtain ⟨link, hlink, hmem⟩ := completion_read h hev
    obtain ⟨msg, hmsg, hnames, hcarries⟩ := hf.honest.links hlink _ hmem
    obtain ⟨req', hqueued⟩ := mem_sentTo.mp hmsg
    exact ⟨msg, mem_dispatchesIn.mpr ⟨req', hqueued⟩, (congrArg Assignment.attemptId hnames).symm, hcarries⟩

theorem run_faithful {events : List (FabricEvent D)} (h : run env events = some f) : f.Faithful env := by
  obtain ⟨c, hc, hrun⟩ := Option.bind_eq_some_iff.mp h
  have hstart : Faithful env { coordinator := c } := by
    refine ⟨boot_traced hc, .start c, fun _ => .of_started (boot_spec hc) ?_⟩
    intro t a ha
    simp at ha
  exact Lts.run_preserves (fun _ _ _ hx he => hx.step he) hstart hrun

/-- **A committed result is the result of the task.** In every run of the fabric in which no id is drawn twice —
    with any number of nodes, lost connections, retries, cancellations and restarts — each committed record is
    filed under a known task, and its checksum, size and byte count are those the task's kernel computes when
    nobody disturbs it. The same holds of every committed record in the coordinator's file. -/
theorem committed_results_computed {events : List (FabricEvent D)} (hrun : run env events = some f)
    (hfresh : Set.InjOn env.random (Set.Iio f.coordinator.drawn)) :
    (∀ t, ∀ a ∈ f.coordinator.attemptsOf t, a.committed = true →
      ∃ task, f.coordinator.graph.find t = some task ∧ a.Carries task) ∧
    ∀ d, f.coordinator.file = some d → ∀ t : ComputeTaskId, ∀ a ∈ d.attempts[t]?.getD [], a.committed = true →
      ∃ task, d.tasks[t]? = some task ∧ a.Carries task := by
  obtain ⟨hmemory, hfile⟩ := (run_faithful hrun).computed hfresh
  refine ⟨hmemory, fun d hd => ?_⟩
  rw [hd] at hfile
  exact hfile

end Fabric

/-- The completion is read and committed, and the coordinator restarts from its file. -/
theorem Fabric.committed_results_computed_restart :
    ∃ f a, Fabric.run (Demo.env 100000 8) (Demo.kernelReports ++ [.read 1, .restart]) = some f ∧
      a ∈ f.coordinator.attemptsOf Demo.taskId ∧ a.committed = true ∧
      ∃ task, f.coordinator.graph.find Demo.taskId = some task ∧ a.Carries task := by
  have hfacts : ((Fabric.run (Demo.env 100000 8) (Demo.kernelReports ++ [.read 1, .restart])).map fun f =>
      (decide (f.coordinator.drawn ≤ 1000), (f.coordinator.attemptsOf Demo.taskId).map fun a => a.committed)) =
        some (true, [true]) := by
    decide +kernel
  obtain ⟨f, hf, hfacts⟩ := Option.map_eq_some_iff.mp hfacts
  obtain ⟨hdrawn, hcommitted⟩ := Prod.mk.inj hfacts
  obtain ⟨a, hattempts, hyes⟩ := List.map_eq_singleton_iff.mp hcommitted
  have hmem : a ∈ f.coordinator.attemptsOf Demo.taskId := by
    rw [hattempts]
    exact List.mem_cons_self
  have hfresh := Demo.injOn_random 100000 8 (of_decide_eq_true hdrawn)
  exact ⟨f, a, hf, hmem, hyes, (Fabric.committed_results_computed hf hfresh).1 _ a hmem hyes⟩

end ComputeFabric
