import ComputeFabric.Coordinator.Readers
import ComputeFabric.Coordinator.Records
import ComputeFabric.Persist.Format
import ComputeFabric.Coordinator.SweepStates
import ComputeFabric.Safety.Durability
import ComputeFabric.Safety.Recovery

/-!
# `Safety.Storage` — what the coordinator saves, and what it can load again

Whatever a reader pushes is within the limits of the wire decoder, and the coordinator keeps tasks, workloads,
attempts and capacities as they came (`crashRun_bounded`). The loader checks the same limits again, so none of
these is ever refused. What the coordinator derives is not limited by anything: a placement decision holds texts
made from the tags of a client and one entry for each node, the file has one record for each attempt and each
decision. `Store.Fits` are the limits on these, and a saved file can be started on exactly when it keeps them
(`saved_file_restarts_iff`).
-/

namespace ComputeFabric

open Coordinator
open ExecutionAttempt (markStarted markCommitted markFailed markCancelled)

variable {D : Type}

/-! ## What is kept is within the limits -/

/-- The tasks, workloads and attempts of a file are within the limits. -/
structure DurableState.Bounded (d : DurableState D) : Prop where
  tasks : ∀ (t : ComputeTaskId) (task : ComputeTask D), d.tasks[t]? = some task → task.Bounded
  workloads : ∀ (w : WorkloadId) (wl : Workload), d.workloads[w]? = some wl → wl.id = w ∧ wl.Bounded
  attempts : ∀ (t : ComputeTaskId) (list : List (ExecutionAttempt D)), d.attempts[t]? = some list →
    list ≠ [] ∧ ∀ a ∈ list, a.Bounded

/-- So are those in memory, with the capacities of the nodes. -/
structure Coordinator.Bounded (s : Coordinator D) : Prop where
  tasks : ∀ (t : ComputeTaskId) (task : ComputeTask D), s.graph.tasks[t]? = some task → task.Bounded
  workloads : ∀ (w : WorkloadId) (wl : Workload), s.durable.workloads[w]? = some wl → wl.id = w ∧ wl.Bounded
  attempts : ∀ t : ComputeTaskId, ∀ a ∈ s.attemptsOf t, a.Bounded
  capacities : ∀ (n : NodeId) (node : NodeRecord D), s.nodes[n]? = some node → node.capacity.Bounded

theorem DurableState.Bounded.empty : ({} : DurableState D).Bounded where
  tasks t task h := by simp at h
  workloads w wl h := by simp at h
  attempts t list h := by simp at h

theorem Coordinator.Bounded.snapshot {s : Coordinator D} (h : s.Bounded) : s.snapshot.Bounded where
  tasks := h.tasks
  workloads := h.workloads
  attempts t list hlist := by
    have hget : (OrdMap.mapMaybe (fun _ list => committedOnly list) s.attempts)[t]? = some list := hlist
    rw [OrdMap.getElem?_mapMaybe] at hget
    obtain ⟨all, hall, hkept⟩ := Option.bind_eq_some_iff.mp hget
    unfold committedOnly at hkept
    dsimp only at hkept
    split_ifs at hkept with hempty
    obtain rfl := Option.some.inj hkept
    refine ⟨fun hnil => hempty (List.isEmpty_iff.mpr hnil), fun a ha => ?_⟩
    refine h.attempts t a ?_
    rw [Ledger.attemptsOf, hall]
    exact List.mem_of_mem_filter ha

section Attempts

variable {l l' : Ledger D} {t : ComputeTaskId}

/-- A transition that rewrites the record a pointer leads to. -/
theorem bounded_of_rewrite {p : AttemptPtr} {f : ExecutionAttempt D → ExecutionAttempt D} {v : TaskView D}
    (hview : l'.view t = if p.task = t then v else l.view t)
    (hv : v.attempts = (l.attemptsOf t).modify p.index f) (hf : ∀ a, a.Bounded → (f a).Bounded)
    (h : ∀ a ∈ l.attemptsOf t, a.Bounded) : ∀ a ∈ l'.attemptsOf t, a.Bounded := by
  intro a ha
  rcases mem_of_rewrite hview hv ha with hold | ⟨b, hb, rfl, rfl⟩
  · exact h a hold
  · exact hf b (h b (List.mem_of_getElem? hb))

variable [DoubleArith D] [DoubleBits D] {env : Env} {s₀ : Coordinator D} {e : Event D}

/-- What an attempt message writes into the record is within the limits, and a new attempt runs on a device that
    a node has registered. -/
theorem LedgerStep.attempts_bounded (h : LedgerStep env s₀ e l l') (hwf : l.WellFormed) (he : e.Bounded)
    (hcapacities : ∀ (n : NodeId) (node : NodeRecord D), l.nodes[n]? = some node → node.capacity.Bounded)
    (hattempts : ∀ a ∈ l.attemptsOf t, a.Bounded) : ∀ a ∈ l'.attemptsOf t, a.Bounded := by
  cases h with
  | @start st p a hfind hepoch =>
      have hdevice : Text.Bounded st.device := he
      exact bounded_of_rewrite (Ledger.view_startAttempt _ t (hwf.taskId_eq hfind) _) rfl
        (fun a ha => ⟨ha.failureReason, ha.outputIntegrity, hdevice⟩) hattempts
  | @commit conn req co p a time hfind hcommitted hcancel hvalid =>
      obtain ⟨hintegrity, hdevice, -⟩ := he
      exact bounded_of_rewrite (f := markCommitted co time)
        (Ledger.view_commitAttempt _ t (hwf.taskId_eq hfind) _ _) rfl
        (fun a ha => ⟨ha.failureReason, hintegrity, hdevice⟩) hattempts
  | @abandon conn req co p a time hfind hcommitted hcancel =>
      have hcancelled : Text.Bounded (text "cancelled") := by decide +kernel
      exact bounded_of_rewrite (f := markCancelled (text "cancelled") time)
        (Ledger.view_abandonAttempt _ t (hwf.taskId_eq hfind) _) rfl
        (fun a ha => ⟨hcancelled, ha.outputIntegrity, ha.device⟩) hattempts
  | @fail conn req fa p a time retryAt hfind hepoch hstate hcommitted hretry =>
      have hreason : Text.Bounded fa.failureReason := he
      refine bounded_of_rewrite (f := markFailed (.ofUInt8 fa.failureKind) fa.failureReason time)
        (Ledger.view_failAttempt _ t (hwf.taskId_eq hfind) _ _ _ _) ?_
        (fun a ha => ⟨hreason, ha.outputIntegrity, ha.device⟩) hattempts
      dsimp only
      split_ifs <;> rfl
  | @cancelAttempt ca p a time hfind hepoch =>
      have hreason : Text.Bounded ca.reason := he
      exact bounded_of_rewrite (f := markCancelled ca.reason time)
        (Ledger.view_cancelAttempt _ t (hwf.taskId_eq hfind) _ _) rfl
        (fun a ha => ⟨hreason, ha.outputIntegrity, ha.device⟩) hattempts
  | @dispatch l u task nodeId node executor slots device time time' resv a hstate htask hnode hconnected
      hgrant hresv ha hslots hchosen =>
      have hpushed : (l.dispatch u resv a).attemptsOf t =
          if u = t then l.attemptsOf t ++ [a] else l.attemptsOf t := by
        have hview := congrArg TaskView.attempts (l.view_dispatch u t hstate resv (a := a))
        split_ifs at hview ⊢ <;> exact hview
      have hnew : a.Bounded := by
        obtain ⟨chosen, hmem, -, -, cap, hoffers, -, rfl⟩ := hchosen
        obtain ⟨m, hm⟩ := OrdMap.mem_values.mp hmem
        have hcap := mem_of_findExecutorCap hoffers.find
        subst ha
        exact ⟨Nat.zero_le _, Nat.zero_le _, ((hcapacities m chosen hm).executors.2 cap hcap).name⟩
      rw [hpushed]
      intro b hb
      split_ifs at hb
      · rcases List.mem_append.mp hb with hb | hb
        · exact hattempts b hb
        · obtain rfl := List.mem_singleton.mp hb
          exact hnew
      · exact hattempts b hb
  | touchAttempts =>
      rw [Ledger.attemptsOf_touchAttempts]
      exact hattempts
  | @loseNode l n tasks hlost hsame hgraph htasks hall =>
      refine Ledger.foldl_loseTask_induction (P := fun x => ∀ a ∈ x.attemptsOf t, a.Bounded)
        (l.dropNode n) tasks hattempts ?_
      intro l₁ u r hl₁
      rwa [Ledger.attemptsOf, Ledger.loseTask_attempts]
  | _ =>
      simpa [Ledger.attemptsOf, Ledger.registerNode, Ledger.updateNode, Ledger.unblockTask,
        Ledger.releaseReservation, Ledger.submitTask, Ledger.requestCancel, Ledger.cancelTask,
        Ledger.timeoutDispatch, Ledger.requeueTask, Ledger.expireTask, Ledger.setState] using hattempts

end Attempts

section Runs

variable [DoubleArith D] [DoubleBits D] {env : Env}

omit [DoubleArith D] in
/-- A workload is recorded with the name of a submission. -/
theorem DurableState.Records.workloads_bounded {s₀ : Coordinator D} {e : Event D} {d d' : DurableState D}
    (h : d.Records s₀ e d') (he : e.Bounded)
    (hd : ∀ (w : WorkloadId) (wl : Workload), d.workloads[w]? = some wl → wl.id = w ∧ wl.Bounded)
    (w : WorkloadId) (wl : Workload) (hw : d'.workloads[w]? = some wl) : wl.id = w ∧ wl.Bounded := by
  rcases h with rfl | ⟨client, conn, req, sub, rfl, -, rfl⟩
  · exact hd w wl hw
  · unfold recordWorkload at hw
    split_ifs at hw
    · exact hd w wl hw
    · by_cases hid : sub.workloadId = w
      · have hnoTags : BoundedTags ∅ := by decide
        obtain rfl : { id := sub.workloadId, name := sub.workloadName } = wl := by
          simpa [hid] using hw
        exact ⟨hid, he.1, hnoTags⟩
      · exact hd w wl (by simpa [Std.ExtTreeMap.getElem?_insert, hid] using hw)

theorem LedgerStep.bounded {s₀ : Coordinator D} {e : Event D} {x x' : Coordinator D}
    (h : LedgerStep env s₀ e x.toLedger x'.toLedger) (hrecords : x.durable.Records s₀ e x'.durable)
    (he : e.Bounded) (hwf : x.WellFormed) (hx : x.Bounded) : x'.Bounded where
  tasks t task htask := by
    rcases h.tasks hwf.coherent with hsame | ⟨client, conn, req, sub, rfl, -, -, -, hins⟩
    · exact hx.tasks t task (hsame ▸ htask)
    · rw [hins t] at htask
      split_ifs at htask
      · obtain rfl := Option.some.inj htask
        exact he.2
      · exact hx.tasks t task htask
  workloads := hrecords.workloads_bounded he hx.workloads
  attempts t := h.attempts_bounded hwf he hx.capacities (hx.attempts t)
  capacities n node hnode := by
    rcases h.node n with hsame | ⟨conn, req, reg, node', rfl, -, -, -, hnew, -, hcapacity⟩ | ⟨f, hf, hupdate⟩ | hoff
    · exact hx.capacities n node (hsame ▸ hnode)
    · obtain rfl := Option.some.inj (hnew.symm.trans hnode)
      rw [hcapacity]
      exact he.2.2
    · rw [hf] at hnode
      obtain ⟨old, hold, rfl⟩ := Option.map_eq_some_iff.mp hnode
      rw [(hupdate old).capacity]
      exact hx.capacities n old hold
    · rw [hoff] at hnode
      obtain ⟨old, hold, rfl⟩ := Option.map_eq_some_iff.mp hnode
      exact hx.capacities n old hold

theorem CoreStep.bounded {s₀ x x' : Coordinator D} {e : Event D} (h : CoreStep env s₀ e x x') (he : e.Bounded)
    (hsound : x.Sound) (hx : x.Bounded) : x'.Bounded := by
  have hcongr : x'.toLedger = x.toLedger → x'.durable.workloads = x.durable.workloads → x'.Bounded := by
    intro hledger hworkloads
    refine ⟨?_, ?_, ?_, ?_⟩
    · rw [show x'.graph = x.graph from congrArg Ledger.graph hledger]
      exact hx.tasks
    · rw [hworkloads]
      exact hx.workloads
    · rw [hledger]
      exact hx.attempts
    · rw [show x'.nodes = x.nodes from congrArg Ledger.nodes hledger]
      exact hx.capacities
  cases h with
  | quiet hledger hdurable => exact hcongr hledger (by rw [hdurable])
  | save => exact hcongr (persist_toLedger env x) (by rw [persist_durable]; rfl)
  | act hstep hrecords => exact hstep.bounded hrecords he hsound.wellFormed hx

omit [DoubleBits D] in
/-- A start brings back what the file holds, and no node. -/
theorem bounded_of_start {w : World D} {s : Coordinator D} (hfile : FileOk (w.file.getD {}))
    (hd : (w.file.getD {}).Bounded) (h : start env w = .ok s) : s.Bounded where
  tasks t task htask := hd.tasks t task (((start_spec h hfile).tasks t).symm.trans htask)
  workloads := by
    rw [start_workloads h]
    exact hd.workloads
  attempts t := by
    rw [Ledger.attemptsOf, (start_spec h hfile).attempts]
    intro a ha
    cases hlist : (w.file.getD {}).attempts[t]? with
    | none =>
        rw [hlist] at ha
        cases ha
    | some list =>
        rw [hlist] at ha
        exact (hd.attempts t list hlist).2 a ha
  capacities n node hnode := by
    rw [(start_spec h hfile).nodes] at hnode
    simp at hnode

/-- **What the coordinator keeps of received messages is within the limits**, in memory and in every file. -/
theorem crashRun_bounded {events : List (CrashEvent D)} {s : Coordinator D}
    (hevents : ∀ ce ∈ events, ce.inner.Received) (hrun : crashRun env events = some s) :
    s.Bounded ∧ ∀ d, .saved d ∈ s.effects → d.Bounded :=
  crashRun_saved (P := DurableState.Bounded) (Q := Coordinator.Bounded) (C := Event.Bounded) .empty
    (fun _ _ hfile hd h => bounded_of_start hfile hd h)
    (fun _ _ _ _ he hsound hx h => h.bounded he hsound hx) (fun _ _ hx => hx.snapshot)
    (fun ce hce => (hevents ce hce).bounded) hrun

/-! ## What can be loaded again -/

omit [DoubleArith D] in
/-- A file that keeps the limits nobody else keeps is within all limits of the loader. -/
theorem storable_of_fits {d : DurableState D} (hfile : FileOk d) (hd : d.Bounded) (h : Store.Fits d) :
    Store.Storable d where
  workloads e he := hd.workloads e.1 e.2 (Std.ExtTreeMap.mem_toList_iff_getElem?_eq_some.mp he)
  tasks e he := by
    have hget := Std.ExtTreeMap.mem_toList_iff_getElem?_eq_some.mp he
    exact ⟨hfile.id_eq hget, hd.tasks e.1 e.2 hget⟩
  attempts e he := by
    have hget := Std.ExtTreeMap.mem_toList_iff_getElem?_eq_some.mp he
    obtain ⟨hne, hbounded⟩ := hd.attempts e.1 e.2 hget
    refine ⟨hne, fun a ha => ?_⟩
    have hmem : a ∈ d.attempts[e.1]?.getD [] := by rwa [hget]
    exact ⟨hfile.committed e.1 a hmem, hfile.keyed e.1 a hmem, hbounded a ha⟩
  placements := h.placements
  recordTotal := h.recordTotal
  fileSize := h.fileSize

/-- **A saved file can be started on** exactly when its placement decisions, its number of records and its size are
    within the limits of the loader: for every file saved in a run on received messages, with crashes and failing
    saves. -/
theorem saved_file_restarts_iff {events : List (CrashEvent D)} {s : Coordinator D}
    (hevents : ∀ ce ∈ events, ce.inner.Received) (hrun : crashRun env events = some s) {d : DurableState D}
    (hsaved : .saved d ∈ s.effects) :
    (∃ d', Store.load (Store.save d) = .ok d' ∧ ∀ w : World D, w.file = some d' → ∃ s', start env w = .ok s') ↔
      Store.Fits d := by
  obtain ⟨hfile, hrestart⟩ := (crashRun_restartable hrun).2 d hsaved
  constructor
  · rintro ⟨d', hload, -⟩
    exact Store.fits_of_load hload
  · intro hfits
    have hstorable := storable_of_fits hfile ((crashRun_bounded hevents hrun).2 d hsaved) hfits
    exact ⟨d, Store.load_save hstorable, fun w hw => start_of_restartable env hw hfile hrestart⟩

end Runs

/-! ## Concrete runs

They go through the codec, which wants 64-bit patterns for doubles, so they compute with whole numbers. -/

namespace Demo

instance instOfScientificUInt64 : OfScientific UInt64 where
  ofScientific m negative e := UInt64.ofNat (if negative then m / 10 ^ e else m * 10 ^ e)

/-- Whole numbers in place of doubles. -/
instance : DoubleArith UInt64 where
  lt x y := x < y
  le x y := x ≤ y
  eq x y := x = y
  natCast := UInt64.ofNat
  intCast := UInt64.ofInt

/-- A task that asks for a tag. -/
def taggedTask (t : ComputeTaskId) (tags : List Text) : ComputeTask UInt64 where
  id := t
  requiredTags := tags
  estimatedDurationSeconds := 0
  expectedTransferGb := 0
  expectedRecomputeCostSeconds := 0
  costEstimate := 0

def tagged (t : ComputeTaskId) (tags : List Text) : Command UInt64 :=
  .taskSubmit ⟨0, 9⟩ 2 0 { task := taggedTask t tags }

def untaggedNode : NodeRegister UInt64 where
  nodeId := nodeId
  capacity := { cpuWorkerSlots := 4, executors := [{ slots := 4, relativeSpeed := 1 }] }

theorem received_untaggedNode : (Command.nodeRegister 1 0 untaggedNode).Received :=
  received_nodeRegister 1 0 ⟨by decide +kernel, by decide +kernel, by decide +kernel⟩ (by decide +kernel)

theorem length_serializeTask_tagged (t : ComputeTaskId) (tag : Text) :
    (serializeTask (taggedTask t [tag])).length = 205 + tag.length := by
  have hnoTags : (putTags ∅).length = 4 := by decide +kernel
  have hnone : (putOptional putId none).length = 1 := by decide +kernel
  have hrequired : (putList putString [tag]).length = 8 + tag.length := by
    simp [length_putList]
    omega
  rw [length_serializeTask]
  simp only [taggedTask, hnoTags, hnone, hrequired, length_putList, List.map_nil, List.sum_nil, List.length_nil]
  omega

theorem bounded_taggedTask {t : ComputeTaskId} {tag : Text} (h : Text.Bounded tag) :
    (taggedTask t [tag]).Bounded where
  name := Nat.zero_le _
  minMajor := (by decide : BoundedCapability 0)
  minMinor := (by decide : BoundedCapability 0)
  dependencies := Nat.zero_le _
  stateDependencies := ⟨Nat.zero_le _, fun x hx => absurd hx List.not_mem_nil⟩
  preferredNodes := Nat.zero_le _
  forbiddenNodes := Nat.zero_le _
  requiredTags := ⟨(by decide : 1 ≤ 65536), fun x hx => by rwa [List.mem_singleton.mp hx]⟩
  preferredTags := ⟨Nat.zero_le _, fun x hx => absurd hx List.not_mem_nil⟩
  antiAffinityGroup := Nat.zero_le _
  userTags := (by decide : BoundedTags ∅)
  payload := Nat.zero_le _

theorem received_tagged {t : ComputeTaskId} {tag : Text} (h : Text.Bounded tag) : (tagged t [tag]).Received := by
  refine received_taskSubmit _ _ _ ⟨Nat.zero_le _, bounded_taggedTask h⟩ ?_
  have htag : tag.length ≤ 1048576 := h
  have hmax : maxFramePayload.toNat = 8388608 := rfl
  simp [TaskSubmit.codec, length_serializeTask_tagged]
  omega

/-- A node registers, a task that asks for a tag is submitted, a sweep looks for a node, and another task is
    submitted. -/
def taggedRun (tag : Text) : List (Event UInt64) :=
  [.command (.nodeRegister 1 0 untaggedNode), .command (tagged ⟨0, 1⟩ [tag]), .sweep, .command (tagged ⟨0, 2⟩ [[]])]

theorem received_taggedRun {tag : Text} (htag : Text.Bounded tag) {ce : CrashEvent UInt64}
    (hce : ce ∈ (taggedRun tag).map .event) : ce.inner.Received := by
  obtain ⟨e, he, rfl⟩ := List.mem_map.mp hce
  rcases List.mem_cons.mp he with rfl | he
  · exact received_untaggedNode
  rcases List.mem_cons.mp he with rfl | he
  · exact received_tagged htag
  rcases List.mem_cons.mp he with rfl | he
  · exact trivial
  · obtain rfl := List.mem_singleton.mp he
    exact received_tagged (Nat.zero_le _)

theorem run_taggedRun {env : Env} {s : Coordinator UInt64} {tag : Text}
    (hs : run env [.command (.nodeRegister 1 0 untaggedNode)] = some s) :
    run env (taggedRun tag) = some
      (((s.handleTaskSubmit env ⟨0, 9⟩ 2 0 { task := taggedTask ⟨0, 1⟩ [tag] }).sweep env).handleTaskSubmit env
        ⟨0, 9⟩ 2 0 { task := taggedTask ⟨0, 2⟩ [[]] }) := by
  rw [taggedRun, ← List.singleton_append, run_append]
  refine ⟨s, hs, ?_⟩
  simp only [runFrom, Lts.run, step, process, tagged, Option.bind_some]

end Demo

/-- The decision about a short tag is loaded again. -/
theorem saved_file_restarts_short :
    ∃ s d, crashRun (Demo.env 3000 100) ((Demo.taggedRun [103]).map .event) = some s ∧ s.file = some d ∧
      d.placements.length = 1 ∧ ∃ d', Store.load (Store.save d) = .ok d' ∧
        ∀ w : World UInt64, w.file = some d' → ∃ s', start (Demo.env 3000 100) w = .ok s' := by
  have hfacts : ((run (Demo.env 3000 100) (Demo.taggedRun [103])).bind fun s => s.file.map fun d =>
      (d.placements.length, decide (∀ p ∈ d.placements, p.decision.Bounded), (Store.records d).length,
        (Store.save d).length)) = some (1, true, 7, 753) := by
    decide +kernel
  obtain ⟨s, hs, hfacts⟩ := Option.bind_eq_some_iff.mp hfacts
  obtain ⟨d, hd, hfacts⟩ := Option.map_eq_some_iff.mp hfacts
  simp only [Prod.mk.injEq, decide_eq_true_eq] at hfacts
  obtain ⟨hone, hbounded, hrecords, hsize⟩ := hfacts
  rw [← crashRun_event] at hs
  have hsaved : .saved d ∈ s.effects := mem_of_lastSaved ((crashRun_logged hs).2.file ▸ hd)
  refine ⟨s, d, hs, hd, hone, (saved_file_restarts_iff ?_ hs hsaved).mpr ⟨hbounded, ?_, ?_⟩⟩
  · exact fun ce hce => Demo.received_taggedRun (by decide +kernel) hce
  · rw [hrecords]
    decide +kernel
  · rw [hsize]
    decide +kernel

/-! ## A decision that is not within the limits -/

section Missing

variable [DoubleArith D] (e : SchedulerPolicyEngine D) (resv : ReservationRegistry) (state : StateLocalityRegistry D)
  {task : ComputeTask D} {nodes : IdMap (NodeRecord D)} {node : NodeRecord D} {tag : Text}

/-- A node that lacks a required tag is excluded, and the whole tag is in the reason. -/
theorem place_excludes (hnode : node ∈ nodes.values) (htag : tag ∈ task.requiredTags)
    (hmissing : node.capacity.tags.contains tag = false) :
    ∃ x ∈ (e.place task nodes resv state).excluded, text "missing required tag: " ++ tag ∈ x.reasons := by
  have hreason : text "missing required tag: " ++ tag ∈ SchedulerPolicyEngine.exclusionReasons task node := by
    refine List.mem_append_right _ (List.mem_flatMap.mpr ⟨tag, htag, ?_⟩)
    rw [hmissing]
    exact List.mem_singleton_self _
  refine ⟨⟨node.id, SchedulerPolicyEngine.exclusionReasons task node⟩, ?_, hreason⟩
  rw [SchedulerPolicyEngine.place_excluded, List.mem_map]
  refine ⟨node, List.mem_filter.mpr ⟨hnode, ?_⟩, rfl⟩
  rw [Bool.not_eq_true', List.isEmpty_eq_false_iff]
  exact List.ne_nil_of_mem hreason

/-- A tag within the limits can make a reason that is not. -/
theorem place_not_bounded (hnode : node ∈ nodes.values) (htag : tag ∈ task.requiredTags)
    (hmissing : node.capacity.tags.contains tag = false)
    (hlong : ¬Text.Bounded (text "missing required tag: " ++ tag)) : ¬(e.place task nodes resv state).Bounded := by
  intro hbounded
  obtain ⟨x, hx, hreason⟩ := place_excludes e resv state hnode htag hmissing
  exact hlong ((hbounded.excluded.2 x hx).2 _ hreason)

end Missing

section Recorded

variable [DoubleArith D] {env : Env} {s : Coordinator D}

/-- A sweep that finds one ready task and no node for it records the decision and does nothing else. -/
theorem sweep_records {t : ComputeTaskId} {task : ComputeTask D} (hready : (s.timersDone env).readyTasks = [t])
    (hstopping : (s.timersDone env).stopping = false) (htask : s.graph.find t = some task)
    (hstate : (s.timersDone env).graph.state t = .ready) (hdeadline : task.hasDeadline = false)
    (hinfeasible : ((s.timersDone env).scheduler.place task (s.timersDone env).nodes
      (s.timersDone env).reservations (s.timersDone env).stateLocality).feasible = false) :
    s.sweep env = (s.timersDone env).recordPlacement t ((s.timersDone env).scheduler.place task
      (s.timersDone env).nodes (s.timersDone env).reservations (s.timersDone env).stateLocality) := by
  have hfind : (s.timersDone env).graph.find t = some task := by
    rw [TaskGraph.find, timersDone_tasks]
    exact htask
  rw [sweep_eq, scheduleReadyTasks, hready]
  simp [scheduleTask, placeTask, hstopping, hfind, hstate, hdeadline, hinfeasible]

omit [DoubleArith D] in
theorem find_of_submit (client : Id128) (conn : ConnId) (req : UInt64) {sub : TaskSubmit D}
    (h : s.accepts sub = true) :
    (s.handleTaskSubmit env client conn req sub).graph.find sub.task.id = some sub.task := by
  obtain ⟨g, hadd, hhandler⟩ := handleTaskSubmit_of_accepts env client conn req h
  obtain ⟨-, rfl⟩ := TaskGraph.addTask_ok hadd
  have hledger : (s.handleTaskSubmit env client conn req sub).toLedger =
      s.toLedger.submitTask (s.graph.insertTask sub.task) sub.task (s.now env) := by
    rw [hhandler, respondClient_toLedger, acceptTask, persist_toLedger]
    rfl
  rw [show (s.handleTaskSubmit env client conn req sub).graph = _ from congrArg Ledger.graph hledger]
  simp [TaskGraph.find, Ledger.submitTask, Ledger.setState, TaskGraph.insertTask]

omit [DoubleArith D] in
/-- An accepted submission saves the placements recorded so far. -/
theorem saved_of_submit (client : Id128) (conn : ConnId) (req : UInt64) {sub : TaskSubmit D}
    (h : s.accepts sub = true) (hsave : ∀ i, env.saveOk i = true) :
    ∃ d, (s.handleTaskSubmit env client conn req sub).file = some d ∧ d.placements = s.placementRecords.values := by
  obtain ⟨g, -, hhandler⟩ := handleTaskSubmit_of_accepts env client conn req h
  have hfile : (s.handleTaskSubmit env client conn req sub).file = (s.acceptTask env sub g).file := by
    rw [hhandler]
    exact (respondClient_store env client conn req _).1
  rw [hfile, acceptTask, persist, if_pos (hsave _)]
  exact ⟨_, rfl, rfl⟩

omit [DoubleArith D] in
theorem mem_recordPlacement (s : Coordinator D) (t : ComputeTaskId) (decision : PlacementDecision D) :
    ∃ p ∈ (s.recordPlacement t decision).placementRecords.values, p.decision = decision := by
  refine ⟨⟨t, s.placementSequence + 1, decision⟩, OrdMap.mem_values.mpr ⟨t, ?_⟩, rfl⟩
  rw [recordPlacement, Std.ExtTreeMap.getElem?_insert_self]

/-- A node lacks a tag of the only ready task: the next submission that is accepted saves a file past the limits. -/
theorem saved_past_limits [DoubleBits D] (client : Id128) (conn : ConnId) (req : UInt64) (task : ComputeTask D)
    {sub : TaskSubmit D} {node : NodeRecord D} {tag : Text} (hsave : ∀ i, env.saveOk i = true)
    (htask : s.graph.find task.id = some task) (hdeadline : task.hasDeadline = false)
    (hready : (s.timersDone env).readyTasks = [task.id]) (hstopping : (s.timersDone env).stopping = false)
    (hstate : (s.timersDone env).graph.state task.id = .ready)
    (hinfeasible : ((s.timersDone env).scheduler.place task (s.timersDone env).nodes
      (s.timersDone env).reservations (s.timersDone env).stateLocality).feasible = false)
    (hnode : node ∈ (s.timersDone env).nodes.values) (hmissing : node.capacity.tags.contains tag = false)
    (htag : tag ∈ task.requiredTags) (hlong : ¬Text.Bounded (text "missing required tag: " ++ tag))
    (hsub : (s.sweep env).accepts sub = true) :
    ∃ d, ((s.sweep env).handleTaskSubmit env client conn req sub).file = some d ∧ ¬Store.Fits d := by
  obtain ⟨d, hd, hplacements⟩ := saved_of_submit client conn req hsub hsave
  refine ⟨d, hd, fun hfits => ?_⟩
  rw [sweep_records hready hstopping htask hstate hdeadline hinfeasible] at hplacements
  have hunbounded := place_not_bounded (s.timersDone env).scheduler (s.timersDone env).reservations
    (s.timersDone env).stateLocality hnode htag hmissing hlong
  obtain ⟨p, hp, hdecision⟩ := mem_recordPlacement (s.timersDone env) task.id
    ((s.timersDone env).scheduler.place task (s.timersDone env).nodes (s.timersDone env).reservations
      (s.timersDone env).stateLocality)
  rw [← hplacements] at hp
  rw [← hdecision] at hunbounded
  exact hunbounded (hfits.placements p hp)

end Recorded

namespace Demo

/-- The largest tag a client can send. -/
def longTag : Text := List.replicate 1048576 97

theorem longTag_reason : ¬Text.Bounded (text "missing required tag: " ++ longTag) := by
  intro h
  have hlen : (text "missing required tag: " ++ longTag).length ≤ 1048576 := h
  have htext : (text "missing required tag: ").length = 22 := by decide +kernel
  have htag : longTag.length = 1048576 := List.length_replicate
  rw [List.length_append, htext, htag] at hlen
  omega

/-- A submission that a sweep finds no node for. -/
def unplaceable : TaskSubmit UInt64 := { task := taggedTask ⟨0, 1⟩ [longTag] }

/-- After the sweep's timers, the first task is the only ready one. -/
def waits (s : Coordinator UInt64) : Bool :=
  !s.stopping && decide (s.readyTasks = [⟨0, 1⟩]) && decide (s.graph.state ⟨0, 1⟩ = .ready)

/-- No node takes the task, and no node has a tag. -/
def refused (task : ComputeTask UInt64) (s : Coordinator UInt64) : Bool :=
  !(s.scheduler.place task s.nodes s.reservations s.stateLocality).feasible &&
    decide (s.nodes.values.map (fun node => node.capacity.tags.isEmpty) = [true])

-- nothing here looks into the tag
theorem unplaceable_facts :
    ((run (env 3000 100) [.command (.nodeRegister 1 0 untaggedNode)]).map fun s =>
      s.accepts unplaceable &&
      waits ((s.handleTaskSubmit (env 3000 100) ⟨0, 9⟩ 2 0 unplaceable).timersDone (env 3000 100)) &&
      refused unplaceable.task ((s.handleTaskSubmit (env 3000 100) ⟨0, 9⟩ 2 0 unplaceable).timersDone (env 3000 100)) &&
      ((s.handleTaskSubmit (env 3000 100) ⟨0, 9⟩ 2 0 unplaceable).sweep (env 3000 100)).accepts
        { task := taggedTask ⟨0, 2⟩ [[]] }) = some true := by
  decide +kernel

end Demo

/-- The node lacks the tag of the first task, so the decision about it is recorded with a reason that holds the tag;
    the second submission saves it. -/
theorem saved_file_refused :
    ∃ (events : List (CrashEvent UInt64)) (s : Coordinator UInt64) (d : DurableState UInt64),
      (∀ ce ∈ events, ce.inner.Received) ∧ crashRun (Demo.env 3000 100) events = some s ∧ s.file = some d ∧
      ∀ d' : DurableState UInt64, Store.load (Store.save d) ≠ .ok d' := by
  obtain ⟨s, hs, hfacts⟩ := Option.map_eq_some_iff.mp Demo.unplaceable_facts
  simp only [Bool.and_eq_true, Demo.waits, Demo.refused, Bool.not_eq_true', decide_eq_true_eq] at hfacts
  obtain ⟨⟨⟨hfirst, ⟨hstopping, hready⟩, hstate⟩, hinfeasible, htags⟩, hsecond⟩ := hfacts
  obtain ⟨node, hnode, htag⟩ := List.map_eq_singleton_iff.mp htags
  have hmissing : node.capacity.tags.contains Demo.longTag = false := by
    rw [Std.ExtTreeMap.isEmpty_iff.mp htag, Std.ExtTreeMap.contains_empty]
  obtain ⟨d, hd, hlimits⟩ := saved_past_limits ⟨0, 9⟩ 2 0 Demo.unplaceable.task (fun _ => rfl)
    (find_of_submit ⟨0, 9⟩ 2 0 hfirst) rfl hready hstopping hstate hinfeasible (hnode ▸ List.mem_singleton_self node)
    hmissing (List.mem_singleton_self _) Demo.longTag_reason hsecond
  have htag : Text.Bounded Demo.longTag := (List.length_replicate : Demo.longTag.length = 1048576).le
  refine ⟨(Demo.taggedRun Demo.longTag).map .event, _, d, fun ce hce => Demo.received_taggedRun htag hce, ?_, hd, ?_⟩
  · rw [crashRun_event]
    exact Demo.run_taggedRun hs
  · intro d' hload
    exact hlimits (Store.fits_of_load hload)

end ComputeFabric
