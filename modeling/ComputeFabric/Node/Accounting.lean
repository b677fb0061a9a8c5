import ComputeFabric.Lib.Lts
import ComputeFabric.Node.Steps

/-!
# `Node.Accounting` — no outcome disappears

`on_complete` carries the rule of the node: a terminal outcome must never disappear while its reservation
remains live. Here the rule is an equation. Every dispatch a node has heard is, as long as the node is not
stopping, in exactly one place: the executor's queue, a worker, the completion queue, the frames a thread is
about to send, the connection, or among the frames whose send failed. The threads may take their steps in any
order.

`send_failed` and its siblings ignore what `send_frame` returns, so a send may fail without consequences;
`NodeMove.sendFails` is that case. It is the only way an outcome of a node that is not stopping gets lost.

- `outcomes_accounted` — the equation.
- `release_follows_report` — a release is never sent before the report it belongs to.
-/

namespace ComputeFabric

variable {D : Type}

/-! ## Histories -/

/-- A node and everything that went through it, oldest first. -/
structure NodeHistory (D : Type) where
  node : NodeRuntime D
  /-- What `read_loop` has read. -/
  heard : List (Message D) := []
  /-- The frames that are on the connection. -/
  sent : List (NodeFrame D) := []
  /-- The frames whose send failed without the node noticing. -/
  failed : List (NodeFrame D) := []

inductive NodeMove (D : Type) where
  /-- `try_register` opens a connection. -/
  | connect
  | step (incoming : Option (Message D)) (e : NodeEvent D)
  /-- As `step`, but the frame does not get onto the connection. -/
  | sendFails (e : NodeEvent D)

/-- The steps in which nobody looks at what `send_frame` returns. -/
def NodeEvent.ignoresSend : NodeEvent D → Bool
  | .begin _ _ | .send _ => true
  | _ => false

namespace NodeHistory

variable [DoubleArith D]

def create (config : NodeConfig) (nodeId : NodeId) : NodeHistory D where
  node := .create config nodeId

def step (h : NodeHistory D) : NodeMove D → Option (NodeHistory D)
  | .connect => h.node.connect.map fun r => { h with node := r.1, sent := h.sent ++ r.2 }
  | .step incoming e => (h.node.step incoming e).map fun r =>
      { h with
        node := r.1
        heard := h.heard ++ (h.node.hears incoming e).toList
        sent := h.sent ++ r.2 }
  | .sendFails e =>
      if e.ignoresSend then
        (h.node.step none e).map fun r => { h with node := r.1, failed := h.failed ++ r.2 }
      else none

def run (config : NodeConfig) (nodeId : NodeId) (moves : List (NodeMove D)) : Option (NodeHistory D) :=
  Lts.run step (create config nodeId) moves

end NodeHistory

/-! ## Counting -/

/-- How many of the frames report the end of `a`. -/
def reportsOf (a : Assignment) (frames : List (NodeFrame D)) : Nat :=
  frames.countP fun frame => frame.reported = some a

/-- How many of the frames release `r`. -/
def releasesOf (r : ComputeTaskId × ReservationId) (frames : List (NodeFrame D)) : Nat :=
  frames.countP fun frame => frame.released = some r

/-- How many of the messages dispatch `a`. -/
def dispatchesOf (a : Assignment) (messages : List (Message D)) : Nat :=
  messages.countP fun m => m.dispatched = some a

/-- How many of the frames report the end of an attempt on `r`. -/
def endsOf (r : ComputeTaskId × ReservationId) (frames : List (NodeFrame D)) : Nat :=
  frames.countP fun frame => frame.reported.map (fun a => (a.taskId, a.reservationId)) = some r

@[simp] theorem reportsOf_append (a : Assignment) (xs ys : List (NodeFrame D)) :
    reportsOf a (xs ++ ys) = reportsOf a xs + reportsOf a ys := List.countP_append

@[simp] theorem reportsOf_nil (a : Assignment) : reportsOf a ([] : List (NodeFrame D)) = 0 := rfl

@[simp] theorem releasesOf_append (r : ComputeTaskId × ReservationId) (xs ys : List (NodeFrame D)) :
    releasesOf r (xs ++ ys) = releasesOf r xs + releasesOf r ys := List.countP_append

@[simp] theorem endsOf_append (r : ComputeTaskId × ReservationId) (xs ys : List (NodeFrame D)) :
    endsOf r (xs ++ ys) = endsOf r xs + endsOf r ys := List.countP_append

@[simp] theorem dispatchesOf_append (a : Assignment) (xs ys : List (Message D)) :
    dispatchesOf a (xs ++ ys) = dispatchesOf a xs + dispatchesOf a ys := List.countP_append

@[simp] theorem dispatchesOf_nil (a : Assignment) : dispatchesOf a ([] : List (Message D)) = 0 := rfl

namespace NodeRuntime

/-- **The places of an attempt** inside the node. -/
def held (node : NodeRuntime D) (a : Assignment) : Nat :=
  node.cpu.queue.countP (fun work => work.assignment = a) +
    node.cpu.workers.countP (fun w => w.work.assignment = a) +
    node.compQueue.countP (fun item => item.assignment = a) +
    reportsOf a (node.readerSends ++ node.reporterSends)

/-- A worker keeps its work item when it moves on. -/
private theorem countP_modify_worker (workers : List (Worker D)) (i : Nat) (phase : WorkerPhase)
    (a : Assignment) :
    (workers.modify i fun w => { w with phase := phase }).countP (fun w => w.work.assignment = a) =
      workers.countP fun w => w.work.assignment = a := by
  induction workers generalizing i with
  | nil => cases i <;> rfl
  | cons w ws ih =>
      cases i with
      | zero => simp [List.countP_cons]
      | succ i => simp [List.countP_cons, ih]

private theorem countP_eraseIdx_worker {workers : List (Worker D)} {i : Nat} {w : Worker D}
    (hw : workers[i]? = some w) (a : Assignment) :
    (workers.eraseIdx i).countP (fun w => w.work.assignment = a) +
      (if w.work.assignment = a then 1 else 0) = workers.countP fun w => w.work.assignment = a := by
  obtain ⟨hi, rfl⟩ := List.getElem?_eq_some_iff.mp hw
  have hperm := (List.getElem_cons_eraseIdx_perm hi).countP_eq fun w => decide (w.work.assignment = a)
  rw [List.countP_cons] at hperm
  simpa using hperm

/-- The two frames about the end of an attempt: the report, then the release. -/
def Closes (a : Assignment) (frames : List (NodeFrame D)) : Prop :=
  ∃ report release, frames = [report, release] ∧ report.reported = some a ∧ report.released = none ∧
    release.reported = none ∧ release.released = some (a.taskId, a.reservationId)

theorem failedFrames_closes (node : NodeRuntime D) (a : Assignment) (kind : FailureKind) (reason : Text)
    (durationMs : D) :
    Closes a (node.failedFrames a.attemptId a.taskId a.reservationId kind reason durationMs) :=
  ⟨_, _, rfl, rfl, rfl, rfl, rfl⟩

theorem reportFrames_closes (node : NodeRuntime D) (item : CompletionItem D) :
    Closes item.assignment (node.reportFrames item) := by
  unfold reportFrames
  split_ifs
  · exact ⟨_, _, rfl, rfl, rfl, rfl, rfl⟩
  · exact ⟨_, _, rfl, rfl, rfl, rfl, rfl⟩
  · exact node.failedFrames_closes item.assignment _ _ _

theorem Closes.reportsOf {a : Assignment} {frames : List (NodeFrame D)} (h : Closes a frames)
    (b : Assignment) : reportsOf b frames = if a = b then 1 else 0 := by
  obtain ⟨report, release, rfl, hreport, -, hrelease, -⟩ := h
  simp [ComputeFabric.reportsOf, List.countP_cons, hreport, hrelease]

/-- The report and the release name the same reservation. -/
theorem Closes.endsOf_eq {a : Assignment} {frames : List (NodeFrame D)} (h : Closes a frames)
    (r : ComputeTaskId × ReservationId) : endsOf r frames = releasesOf r frames := by
  obtain ⟨report, release, rfl, hreport, hreport', hrelease, hrelease'⟩ := h
  simp [endsOf, releasesOf, List.countP_cons, hreport, hreport', hrelease, hrelease']

/-! ## What one move keeps -/

theorem reportsOf_eq_zero {a : Assignment} {frames : List (NodeFrame D)}
    (h : ∀ frame ∈ frames, frame.reported = none) : reportsOf a frames = 0 := by
  rw [reportsOf, List.countP_eq_zero]
  intro frame hmem
  simp [h frame hmem]

theorem mem_sendFrame {node : NodeRuntime D} {frame sent : NodeFrame D} (h : sent ∈ node.sendFrame frame) :
    sent = frame := by
  unfold sendFrame at h
  split_ifs at h
  · exact List.mem_singleton.mp h
  · exact absurd h List.not_mem_nil

variable {node node' : NodeRuntime D}

/-- A worker's outcome is queued, or the node is stopping. -/
theorem held_onComplete (node : NodeRuntime D) (work : AttemptWork D) (out : AttemptOutcome D)
    (a : Assignment) :
    ((node.onComplete work out).stopping = false ∧
      (node.onComplete work out).held a = node.held a + if work.assignment = a then 1 else 0) ∨
    ((node.onComplete work out).stopping = true ∧ (node.onComplete work out).held a = node.held a) := by
  unfold onComplete
  dsimp only
  by_cases hroom : (!node.stopping) = true ∧ node.compQueue.length < 4096
  · rw [if_pos hroom]
    left
    refine ⟨by simpa using hroom.1, ?_⟩
    have hsame : (⟨work.attemptId, work.task.id, work.reservationId, out⟩ : CompletionItem D).assignment =
      work.assignment := rfl
    simp only [held, List.countP_append, List.countP_singleton, hsame, decide_eq_true_eq]
    omega
  · rw [if_neg hroom]
    right
    split
    · rename_i hstop
      exact ⟨hstop, rfl⟩
    · exact ⟨rfl, rfl⟩

theorem held_release {i : Nat} {w : Worker D} (hw : node.cpu.workers[i]? = some w) (a : Assignment) :
    { node with cpu := node.cpu.release i }.held a + (if w.work.assignment = a then 1 else 0) =
      node.held a := by
  have hcount := countP_eraseIdx_worker hw a
  simp only [held, CpuExecutorBackend.release]
  omega

theorem held_setPhase (i : Nat) (phase : WorkerPhase) (a : Assignment) :
    { node with cpu := node.cpu.setPhase i phase }.held a = node.held a := by
  simp only [held, CpuExecutorBackend.setPhase, countP_modify_worker]

/-- The first of a thread's frames is on the connection, or the channel is closed and it is lost. -/
theorem reportsOf_sendFrame (node : NodeRuntime D) (frame : NodeFrame D) (rest : List (NodeFrame D))
    (a : Assignment) : ∃ lost, reportsOf a rest + reportsOf a (node.sendFrame frame) + lost =
      reportsOf a (frame :: rest) ∧ (node.channelOpen = true → lost = 0) := by
  have hsplit : reportsOf a (frame :: rest) = reportsOf a [frame] + reportsOf a rest := reportsOf_append a [frame] rest
  unfold sendFrame
  split_ifs with hopen
  · exact ⟨0, by omega, fun _ => rfl⟩
  · exact ⟨reportsOf a [frame], by rw [reportsOf_nil]; omega, fun h => absurd h hopen⟩

theorem dispatchesOf_eq_zero {heard : Option (Message D)} {a : Assignment} (h : ∀ m ∈ heard, m.dispatched = none) :
    dispatchesOf a heard.toList = 0 := by
  rw [dispatchesOf, List.countP_eq_zero]
  intro m hm
  simp [h m (Option.mem_toList.mp hm)]

variable [DoubleArith D] {heard : Option (Message D)} {frames : List (NodeFrame D)}

/-- The balance of a move. `lost` is what disappears in it, and nothing does when the node is not stopping
    afterwards and its channel is open. -/
theorem Moves.balance (h : node.Moves heard node' frames) (a : Assignment) :
    ∃ lost, node'.held a + reportsOf a frames + lost = node.held a + dispatchesOf a heard.toList ∧
      (node'.stopping = false → (node.channelOpen = true ∨ node.readerSends ++ node.reporterSends = []) →
        lost = 0) := by
  cases h with
  | abandon hphase => exact ⟨0, rfl, fun _ _ => rfl⟩
  | register ack hphase => exact ⟨0, rfl, fun _ _ => rfl⟩
  | quiet heard frames hheard hframes =>
      have hnone : reportsOf a frames = 0 := reportsOf_eq_zero fun frame hmem => (hframes frame hmem).reported
      have hquiet : dispatchesOf a heard.toList = 0 := dispatchesOf_eq_zero hheard
      exact ⟨0, by omega, fun _ _ => rfl⟩
  | requestStop heard frames hheard hframes =>
      have hnone : reportsOf a frames = 0 := reportsOf_eq_zero fun frame hmem => (hframes frame hmem).reported
      have hquiet : dispatchesOf a heard.toList = 0 := dispatchesOf_eq_zero hheard
      have hheld : node.requestRuntimeStop.held a = node.held a := rfl
      exact ⟨0, by omega, fun _ _ => rfl⟩
  | refuse msg made tokens kind reason hphase hstop hidle htokens hkind =>
      refine ⟨0, ?_, fun _ _ => rfl⟩
      have hcloses : reportsOf a (node.failedFrames msg.attemptId msg.task.id msg.reservationId kind reason 0.0) =
          if msg.assignment = a then 1 else 0 :=
        (node.failedFrames_closes msg.assignment kind reason 0.0).reportsOf a
      by_cases hname : msg.assignment = a
      · simp [held, hidle, hcloses, dispatchesOf, Message.dispatched, hname]
        omega
      · simp [held, hidle, hcloses, dispatchesOf, Message.dispatched, hname]
  | accept msg hphase hstop hidle hepoch hcan hroom =>
      refine ⟨0, ?_, fun _ _ => rfl⟩
      have hsame : (⟨msg.task, msg.attemptId, msg.reservationId, node.tokensMade⟩ : AttemptWork D).assignment =
        msg.assignment := rfl
      by_cases hname : msg.assignment = a
      · simp [held, dispatchesOf, Message.dispatched, hsame, hname]
        omega
      · simp [held, dispatchesOf, Message.dispatched, hsame, hname]
  | cancel id reason token htoken => exact ⟨0, rfl, fun _ _ => rfl⟩
  | take work rest hqueue hroom =>
      refine ⟨0, ?_, fun _ _ => rfl⟩
      simp [held, hqueue, List.countP_cons]
      omega
  | «begin» i work startedAtMs hworker =>
      have hnone : reportsOf a (node.sendFrame (.attemptStarted
          { attemptId := work.attemptId, startedAtMs := startedAtMs, device := text "cpu" })) = 0 := by
        apply reportsOf_eq_zero
        intro frame hmem
        rw [mem_sendFrame hmem]
        rfl
      exact ⟨0, by rw [held_setPhase, hnone]; rfl, fun _ _ => rfl⟩
  | check i work phase hworker hphase => exact ⟨0, by rw [held_setPhase]; rfl, fun _ _ => rfl⟩
  | finish i w seenAt durationMs out hworker hout =>
      have hrelease := held_release hworker a
      rcases held_onComplete { node with cpu := node.cpu.release i } w.work out a with
        ⟨hstop, hheld⟩ | ⟨hstop, hheld⟩
      · exact ⟨0, by simp; omega, fun _ _ => rfl⟩
      · refine ⟨if w.work.assignment = a then 1 else 0, by simp; omega, fun hrunning => ?_⟩
        rw [hstop] at hrunning
        cases hrunning
  | report item rest hstop hidle hqueue =>
      refine ⟨0, ?_, fun _ _ => rfl⟩
      have hcloses := (node.reportFrames_closes item).reportsOf a
      simp [held, hidle, hqueue, hcloses, List.countP_cons]
      omega
  | sendReader frame rest hsends =>
      obtain ⟨lost, hsum, hnone⟩ := node.reportsOf_sendFrame frame rest a
      refine ⟨lost, ?_, fun _ hopen => hnone (hopen.resolve_right (by simp [hsends]))⟩
      simp only [held, reportsOf_append, hsends, Option.toList_none, dispatchesOf_nil]
      omega
  | sendReporter frame rest hsends =>
      obtain ⟨lost, hsum, hnone⟩ := node.reportsOf_sendFrame frame rest a
      refine ⟨lost, ?_, fun _ hopen => hnone (hopen.resolve_right (by simp [hsends]))⟩
      simp only [held, reportsOf_append, hsends, Option.toList_none, dispatchesOf_nil]
      omega
  | stop => exact ⟨0, rfl, fun _ _ => rfl⟩

/-! ## The connection and the work -/

/-- A node has work only once it is registered, and until it stops it has its connection. -/
structure Wired (node : NodeRuntime D) : Prop where
  unregistered : node.phase ≠ .running → node.cpu.queue = [] ∧ node.cpu.workers = [] ∧
    node.compQueue = [] ∧ node.readerSends = [] ∧ node.reporterSends = []
  opened : node.phase ≠ .idle → node.stopping = false → node.channelOpen = true

omit [DoubleArith D] in
theorem wired_create (config : NodeConfig) (nodeId : NodeId) : Wired (create config nodeId : NodeRuntime D) where
  unregistered := fun _ => ⟨rfl, rfl, rfl, rfl, rfl⟩
  opened := fun h => absurd rfl h

theorem Wired.connect (hw : node.Wired) (h : node.connect = some (node', frames)) : node'.Wired := by
  unfold NodeRuntime.connect at h
  split_ifs at h with hphase
  cases h
  exact ⟨fun _ => hw.unregistered (by rw [hphase]; decide), fun _ _ => rfl⟩

omit [DoubleArith D] in
/-- A node with work is registered. -/
theorem Wired.running (hw : node.Wired)
    (h : node.cpu.queue ≠ [] ∨ node.cpu.workers ≠ [] ∨ node.compQueue ≠ [] ∨ node.readerSends ≠ [] ∨
      node.reporterSends ≠ []) : node.phase = .running := by
  by_contra hphase
  obtain ⟨h₁, h₂, h₃, h₄, h₅⟩ := hw.unregistered hphase
  rcases h with h | h | h | h | h
  · exact h h₁
  · exact h h₂
  · exact h h₃
  · exact h h₄
  · exact h h₅

omit [DoubleArith D] in
theorem onComplete_phase (node : NodeRuntime D) (work : AttemptWork D) (out : AttemptOutcome D) :
    (node.onComplete work out).phase = node.phase := by
  unfold onComplete
  dsimp only
  split
  · rfl
  · split <;> rfl

omit [DoubleArith D] in
theorem onComplete_channelOpen (node : NodeRuntime D) (work : AttemptWork D) (out : AttemptOutcome D) :
    ((node.onComplete work out).channelOpen = true → node.channelOpen = true) ∧
      ((node.onComplete work out).stopping = false → (node.onComplete work out).channelOpen = node.channelOpen ∧
        node.stopping = false) := by
  unfold onComplete
  dsimp only
  split
  · exact ⟨id, fun hstop => ⟨rfl, hstop⟩⟩
  · split
    · rename_i hstop
      exact ⟨id, fun hrunning => absurd (hstop.symm.trans hrunning) (by decide)⟩
    · exact ⟨fun hopen => (Bool.false_ne_true hopen).elim, fun hstop => (Bool.noConfusion hstop)⟩

theorem Wired.moves (hw : node.Wired) (h : node.Moves heard node' frames) : node'.Wired := by
  cases h with
  | abandon hphase => exact ⟨fun _ => hw.unregistered (by rw [hphase]; decide), fun h => absurd rfl h⟩
  | register ack hphase =>
      exact ⟨fun h => absurd rfl h, fun _ hstop => hw.opened (by rw [hphase]; decide) hstop⟩
  | quiet heard frames hheard hframes => exact hw
  | requestStop heard frames hheard hframes => exact ⟨hw.unregistered, fun _ hstop => Bool.noConfusion hstop⟩
  | refuse msg made tokens kind reason hphase hstop hidle htokens hkind =>
      exact ⟨fun h => absurd hphase h, hw.opened⟩
  | accept msg hphase hstop hidle hepoch hcan hroom => exact ⟨fun h => absurd hphase h, hw.opened⟩
  | cancel id reason token htoken => exact ⟨hw.unregistered, hw.opened⟩
  | take work rest hqueue hroom =>
      have hphase := hw.running (.inl (by rw [hqueue]; exact List.cons_ne_nil _ _))
      exact ⟨fun h => absurd hphase h, hw.opened⟩
  | «begin» i work startedAtMs hworker =>
      have hphase := hw.running (.inr (.inl (List.ne_nil_of_mem (List.mem_of_getElem? hworker))))
      exact ⟨fun h => absurd hphase h, hw.opened⟩
  | check i work phase hworker _ =>
      have hphase := hw.running (.inr (.inl (List.ne_nil_of_mem (List.mem_of_getElem? hworker))))
      exact ⟨fun h => absurd hphase h, hw.opened⟩
  | finish i w seenAt durationMs out hworker hout =>
      have hphase := hw.running (.inr (.inl (List.ne_nil_of_mem (List.mem_of_getElem? hworker))))
      refine ⟨fun h => absurd ?_ h, fun hidle hstop => ?_⟩
      · rw [onComplete_phase]
        exact hphase
      · obtain ⟨hopen, hstop'⟩ := (onComplete_channelOpen _ w.work out).2 hstop
        rw [hopen]
        exact hw.opened (by rw [hphase]; decide) hstop'
  | report item rest hstop hidle hqueue =>
      have hphase := hw.running (.inr (.inr (.inl (by rw [hqueue]; exact List.cons_ne_nil _ _))))
      exact ⟨fun h => absurd hphase h, hw.opened⟩
  | sendReader frame rest hsends =>
      have hphase := hw.running (.inr (.inr (.inr (.inl (by rw [hsends]; exact List.cons_ne_nil _ _)))))
      exact ⟨fun h => absurd hphase h, hw.opened⟩
  | sendReporter frame rest hsends =>
      have hphase := hw.running (.inr (.inr (.inr (.inr (by rw [hsends]; exact List.cons_ne_nil _ _)))))
      exact ⟨fun h => absurd hphase h, hw.opened⟩
  | stop => exact ⟨hw.unregistered, fun _ hstop => Bool.noConfusion hstop⟩

/-- A stopping node stays so. -/
theorem Moves.stopping (h : node.Moves heard node' frames) (hstop : node'.stopping = false) :
    node.stopping = false := by
  cases h with
  | finish i w seenAt durationMs out hworker hout => exact ((onComplete_channelOpen _ w.work out).2 hstop).2
  | requestStop => cases hstop
  | stop => cases hstop
  | _ => assumption

omit [DoubleArith D] in
/-- What a wired node that is not stopping sends gets onto its connection. -/
theorem Wired.sends (hw : node.Wired) (hstop : node.stopping = false) :
    node.channelOpen = true ∨ node.readerSends ++ node.reporterSends = [] := by
  by_cases hphase : node.phase = .running
  · exact .inl (hw.opened (by rw [hphase]; decide) hstop)
  · obtain ⟨-, -, -, h₄, h₅⟩ := hw.unregistered hphase
    exact .inr (by rw [h₄, h₅]; rfl)

end NodeRuntime

/-! ## Every dispatch is somewhere -/

namespace NodeHistory

open NodeRuntime

variable [DoubleArith D] {h h' : NodeHistory D}

/-- The two ways a node's step gets into the history. -/
theorem step_cases {move : NodeMove D} (hstep : h.step move = some h') :
    (∃ frames, h.node.connect = some (h'.node, frames) ∧
      h' = { h with node := h'.node, sent := h.sent ++ frames }) ∨
    ∃ heard frames, h.node.Moves heard h'.node frames ∧
      (h' = { h with node := h'.node, heard := h.heard ++ heard.toList, sent := h.sent ++ frames } ∨
        (heard = none ∧ h' = { h with node := h'.node, failed := h.failed ++ frames })) := by
  cases move with
  | connect =>
      obtain ⟨⟨node', frames⟩, hconnect, rfl⟩ := Option.map_eq_some_iff.mp hstep
      exact .inl ⟨frames, hconnect, rfl⟩
  | step incoming e =>
      obtain ⟨⟨node', frames⟩, hnode, rfl⟩ := Option.map_eq_some_iff.mp hstep
      exact .inr ⟨_, frames, step_moves hnode, .inl rfl⟩
  | sendFails e =>
      unfold step at hstep
      dsimp only at hstep
      split_ifs at hstep with hignores
      obtain ⟨⟨node', frames⟩, hnode, rfl⟩ := Option.map_eq_some_iff.mp hstep
      have hmoves := step_moves hnode
      have hheard : h.node.hears none e = none := by cases e <;> simp [hears]
      rw [hheard] at hmoves
      exact .inr ⟨none, frames, hmoves, .inr ⟨rfl, rfl⟩⟩

/-- `a` is accounted for: nothing is reported that was not dispatched, and nothing is missing before the node
    stops. -/
def Accounted (a : Assignment) (h : NodeHistory D) : Prop :=
  h.node.Wired ∧
    ∃ lost, h.node.held a + reportsOf a h.sent + reportsOf a h.failed + lost = dispatchesOf a h.heard ∧
      (h.node.stopping = false → lost = 0)

theorem Accounted.step {a : Assignment} (hacc : Accounted a h) {move : NodeMove D}
    (hstep : h.step move = some h') : Accounted a h' := by
  obtain ⟨hwired, lost, hsum, hnone⟩ := hacc
  rcases step_cases hstep with ⟨frames, hconnect, hh'⟩ | ⟨heard, frames, hmoves, hh'⟩
  · refine ⟨hwired.connect hconnect, lost, ?_⟩
    unfold NodeRuntime.connect at hconnect
    split_ifs at hconnect
    obtain ⟨hnode, hframes⟩ := Prod.mk.injEq .. |>.mp (Option.some.inj hconnect)
    rw [hh', ← hnode, ← hframes]
    refine ⟨?_, hnone⟩
    rw [reportsOf_append]
    exact hsum
  · -- What the move loses is added to what was lost before it.
    obtain ⟨gone, hbalance, hkept⟩ := hmoves.balance a
    refine ⟨hwired.moves hmoves, lost + gone, ?_, fun hstop => ?_⟩
    · rcases hh' with hh' | ⟨rfl, hh'⟩ <;> rw [hh'] <;> simp at hbalance ⊢ <;> omega
    · have hbefore := hmoves.stopping hstop
      rw [hnone hbefore, hkept hstop (hwired.sends hbefore)]

variable {config : NodeConfig} {nodeId : NodeId} {moves : List (NodeMove D)}

/-- **No outcome disappears.** However the threads of a node interleave, each assignment it has heard is held,
    reported, or among the reports whose send failed: at most as often as it was dispatched, and exactly so
    as long as the node is not stopping. -/
theorem outcomes_accounted (hrun : run config nodeId moves = some h) (a : Assignment) :
    h.node.held a + reportsOf a h.sent + reportsOf a h.failed ≤ dispatchesOf a h.heard ∧
      (h.node.stopping = false →
        h.node.held a + reportsOf a h.sent + reportsOf a h.failed = dispatchesOf a h.heard) := by
  have hacc : Accounted a h :=
    Lts.run_preserves (fun _ _ _ hs hstep => Accounted.step hs hstep)
      ⟨wired_create config nodeId, 0, rfl, fun _ => rfl⟩ hrun
  obtain ⟨-, lost, hsum, hnone⟩ := hacc
  refine ⟨by omega, fun hstop => ?_⟩
  rw [hnone hstop] at hsum
  exact hsum

end NodeHistory

namespace Demo

/-- A dispatch to a node that has just registered. -/
def dispatch (n : UInt64) : DispatchAttempt ℚ where
  task :=
    { id := ⟨0, 1⟩
      kernel := .hashInteger
      kernelParamN := 3
      estimatedDurationSeconds := 0
      expectedTransferGb := 0
      expectedRecomputeCostSeconds := 0
      costEstimate := 0 }
  attemptId := ⟨1, n⟩
  reservationId := ⟨2, n⟩
  coordinatorEpoch := 1
  attemptNumber := 1

def registration : List (NodeMove ℚ) :=
  [.connect, .step (some (.nodeRegisterAck
    { nodeId := ⟨0, 7⟩, sessionId := ⟨0, 8⟩, coordinatorEpoch := 1, sessionEpoch := 1 })) .receive]

/-- Two attempts arrive. The first is run, and its report is lost; the second waits. -/
def lostReport : List (NodeMove ℚ) :=
  registration ++
    [.step (some (.dispatchAttempt (dispatch 1))) .receive, .step (some (.dispatchAttempt (dispatch 2))) .receive,
     .step none .take, .step none (.begin 0 0), .step none (.check 0), .step none (.finish 0 none 5),
     .step none .report, .sendFails (.send .reporter), .step none (.send .reporter), .step none .heartbeat]

end Demo

/-- A lost report still counts, and so does the attempt that waits. -/
theorem outcomes_accounted_lostReport :
    ∃ h, NodeHistory.run { cpuSlots := 1 } ⟨0, 7⟩ Demo.lostReport = some h ∧
      h.node.stopping = false ∧
      (h.node.held (Demo.dispatch 1).assignment + reportsOf (Demo.dispatch 1).assignment h.sent +
        reportsOf (Demo.dispatch 1).assignment h.failed =
          dispatchesOf (Demo.dispatch 1).assignment h.heard) ∧
      (h.node.held (Demo.dispatch 2).assignment + reportsOf (Demo.dispatch 2).assignment h.sent +
        reportsOf (Demo.dispatch 2).assignment h.failed =
          dispatchesOf (Demo.dispatch 2).assignment h.heard) := by
  have hfacts : ((NodeHistory.run { cpuSlots := 1 } ⟨0, 7⟩ Demo.lostReport).map fun h =>
      h.node.stopping) = some false := by
    decide +kernel
  obtain ⟨h, hrun, hstop⟩ := Option.map_eq_some_iff.mp hfacts
  exact ⟨h, hrun, hstop, (NodeHistory.outcomes_accounted hrun _).2 hstop,
    (NodeHistory.outcomes_accounted hrun _).2 hstop⟩

/-! ## Reports before releases -/

/-- How many more of the frames release `r` than report the end of an attempt on it. -/
def surplus (r : ComputeTaskId × ReservationId) (frames : List (NodeFrame D)) : Int :=
  releasesOf r frames - endsOf r frames

@[simp] theorem surplus_append (r : ComputeTaskId × ReservationId) (xs ys : List (NodeFrame D)) :
    surplus r (xs ++ ys) = surplus r xs + surplus r ys := by
  simp only [surplus, releasesOf_append, endsOf_append]
  omega

@[simp] theorem surplus_nil (r : ComputeTaskId × ReservationId) : surplus r ([] : List (NodeFrame D)) = 0 :=
  rfl

namespace NodeRuntime

/-- What a thread still has to send about an ended attempt: nothing, the release, or both frames. -/
inductive Ending : List (NodeFrame D) → Prop
  | nothing : Ending []
  | release (frame : NodeFrame D) (hreported : frame.reported = none) (hreleased : frame.released ≠ none) :
      Ending [frame]
  | both (a : Assignment) (frames : List (NodeFrame D)) (hcloses : Closes a frames) : Ending frames

theorem Ending.tail {frame : NodeFrame D} {rest : List (NodeFrame D)} (h : Ending (frame :: rest)) :
    Ending rest := by
  cases h with
  | release => exact .nothing
  | both a _ hcloses =>
      obtain ⟨report, release, hframes, -, -, hreported, hreleased⟩ := hcloses
      cases hframes
      exact .release release hreported (by simp [hreleased])

/-- A thread never owes a report without its release. -/
theorem Ending.surplus_nonneg {frames : List (NodeFrame D)} (h : Ending frames)
    (r : ComputeTaskId × ReservationId) : 0 ≤ surplus r frames := by
  cases h with
  | nothing => simp
  | release frame hreported hreleased => simp [surplus, endsOf, hreported]
  | both a _ hcloses => simp [surplus, hcloses.endsOf_eq r]

theorem surplus_eq_zero {r : ComputeTaskId × ReservationId} {frames : List (NodeFrame D)}
    (h : ∀ frame ∈ frames, frame.reported = none ∧ frame.released = none) : surplus r frames = 0 := by
  have hreleases : releasesOf r frames = 0 := by
    rw [releasesOf, List.countP_eq_zero]
    intro frame hmem
    simp [(h frame hmem).2]
  have hends : endsOf r frames = 0 := by
    rw [endsOf, List.countP_eq_zero]
    intro frame hmem
    simp [(h frame hmem).1]
  simp [surplus, hreleases, hends]

theorem Closes.surplus {a : Assignment} {frames : List (NodeFrame D)} (h : Closes a frames)
    (r : ComputeTaskId × ReservationId) : surplus r frames = 0 := by
  simp [ComputeFabric.surplus, h.endsOf_eq r]

/-- The frames the threads are about to send. -/
def pending (node : NodeRuntime D) : List (NodeFrame D) := node.readerSends ++ node.reporterSends

theorem onComplete_pending (node : NodeRuntime D) (work : AttemptWork D) (out : AttemptOutcome D) :
    (node.onComplete work out).readerSends = node.readerSends ∧
      (node.onComplete work out).reporterSends = node.reporterSends := by
  unfold onComplete
  dsimp only
  split
  · exact ⟨rfl, rfl⟩
  · split <;> exact ⟨rfl, rfl⟩

variable [DoubleArith D] {node node' : NodeRuntime D} {heard : Option (Message D)}
  {frames : List (NodeFrame D)}

theorem Moves.endings (h : node.Moves heard node' frames) (hreader : Ending node.readerSends)
    (hreporter : Ending node.reporterSends) : Ending node'.readerSends ∧ Ending node'.reporterSends := by
  cases h with
  | refuse msg made tokens kind reason hphase hstop hidle htokens hkind =>
      exact ⟨.both _ _ (node.failedFrames_closes msg.assignment kind reason 0.0), hreporter⟩
  | report item rest hstop hidle hqueue => exact ⟨hreader, .both _ _ (node.reportFrames_closes item)⟩
  | sendReader frame rest hsends =>
      rw [hsends] at hreader
      exact ⟨hreader.tail, hreporter⟩
  | sendReporter frame rest hsends =>
      rw [hsends] at hreporter
      exact ⟨hreader, hreporter.tail⟩
  | finish i w seenAt durationMs out hworker hout =>
      obtain ⟨h₁, h₂⟩ := onComplete_pending { node with cpu := node.cpu.release i } w.work out
      rw [h₁, h₂]
      exact ⟨hreader, hreporter⟩
  | _ => exact ⟨hreader, hreporter⟩

/-- Through an open channel nothing gets lost, so the surplus of what is sent and pending stays; through a
    closed one nothing goes that counts. -/
theorem Moves.surplus (h : node.Moves heard node' frames) (r : ComputeTaskId × ReservationId) :
    (node.channelOpen = true → surplus r node'.pending + surplus r frames = surplus r node.pending) ∧
      (node.channelOpen = false → surplus r frames = 0) := by
  cases h with
  | abandon hphase => exact ⟨fun _ => by simp [pending, NodeRuntime.abandon], fun _ => rfl⟩
  | register ack hphase => exact ⟨fun _ => by simp [pending], fun _ => rfl⟩
  | quiet heard frames hheard hframes =>
      have hnone : ComputeFabric.surplus r frames = 0 := surplus_eq_zero fun frame hmem =>
        ⟨(hframes frame hmem).reported, (hframes frame hmem).released⟩
      exact ⟨fun _ => by rw [hnone, add_zero], fun _ => hnone⟩
  | requestStop heard frames hheard hframes =>
      have hnone : ComputeFabric.surplus r frames = 0 := surplus_eq_zero fun frame hmem =>
        ⟨(hframes frame hmem).reported, (hframes frame hmem).released⟩
      exact ⟨fun _ => by simp [hnone, pending, requestRuntimeStop], fun _ => hnone⟩
  | refuse msg made tokens kind reason hphase hstop hidle htokens hkind =>
      have hcloses : ComputeFabric.surplus r
          (node.failedFrames msg.attemptId msg.task.id msg.reservationId kind reason 0.0) = 0 :=
        (node.failedFrames_closes msg.assignment kind reason 0.0).surplus r
      exact ⟨fun _ => by simp [pending, hidle, hcloses], fun _ => rfl⟩
  | accept msg hphase hstop hidle hepoch hcan hroom => exact ⟨fun _ => by simp [pending], fun _ => rfl⟩
  | cancel id reason token htoken => exact ⟨fun _ => by simp [pending], fun _ => rfl⟩
  | take work rest hqueue hroom => exact ⟨fun _ => by simp [pending], fun _ => rfl⟩
  | «begin» i work startedAtMs hworker =>
      have hnone : ComputeFabric.surplus r (node.sendFrame (.attemptStarted
          { attemptId := work.attemptId, startedAtMs := startedAtMs, device := text "cpu" })) = 0 := by
        apply surplus_eq_zero
        intro frame hmem
        rw [mem_sendFrame hmem]
        exact ⟨rfl, rfl⟩
      exact ⟨fun _ => by rw [hnone, add_zero]; rfl, fun _ => hnone⟩
  | check i work phase hworker hphase => exact ⟨fun _ => by simp [pending], fun _ => rfl⟩
  | finish i w seenAt durationMs out hworker hout =>
      obtain ⟨h₁, h₂⟩ := onComplete_pending { node with cpu := node.cpu.release i } w.work out
      exact ⟨fun _ => by simp [pending, h₁, h₂], fun _ => rfl⟩
  | report item rest hstop hidle hqueue =>
      exact ⟨fun _ => by simp [pending, hidle, (node.reportFrames_closes item).surplus r], fun _ => rfl⟩
  | sendReader frame rest hsends =>
      have hsplit := surplus_append r [frame] (rest ++ node.reporterSends)
      refine ⟨fun hopen => ?_, fun hclosed => by simp [sendFrame, hclosed]⟩
      simp only [List.singleton_append] at hsplit
      simp only [pending, hsends, List.cons_append, hsplit, sendFrame, hopen, if_true]
      omega
  | sendReporter frame rest hsends =>
      have hsplit := surplus_append r [frame] rest
      refine ⟨fun hopen => ?_, fun hclosed => by simp [sendFrame, hclosed]⟩
      simp only [List.singleton_append] at hsplit
      simp only [pending, hsends, surplus_append, hsplit, sendFrame, hopen, if_true]
      omega
  | stop => exact ⟨fun _ => by simp [pending, NodeRuntime.stop, requestRuntimeStop], fun _ => rfl⟩

/-- A channel that was closed stays closed, and a registered node stays registered. -/
theorem Moves.keeps (h : node.Moves heard node' frames) :
    (node'.channelOpen = true → node.channelOpen = true) ∧
      (node.phase = .running → node'.phase = .running) := by
  cases h with
  | abandon hphase => exact ⟨fun h => Bool.noConfusion h, fun h => absurd (hphase.symm.trans h) (by decide)⟩
  | register ack hphase => exact ⟨id, fun _ => rfl⟩
  | finish i w seenAt durationMs out hworker hout =>
      exact ⟨(onComplete_channelOpen _ w.work out).1, fun h => by rw [onComplete_phase]; exact h⟩
  | stop => exact ⟨fun h => Bool.noConfusion h, id⟩
  | _ => exact ⟨id, id⟩

end NodeRuntime

namespace NodeHistory

open NodeRuntime

variable [DoubleArith D] {h h' : NodeHistory D}

/-- The releases sent never run ahead of the reports. -/
structure Ordered (r : ComputeTaskId × ReservationId) (h : NodeHistory D) : Prop where
  wired : h.node.Wired
  reader : Ending h.node.readerSends
  reporter : Ending h.node.reporterSends
  /-- While the channel is open every report gets its release. -/
  balance : h.node.channelOpen = true ∨ h.node.phase ≠ .running →
    surplus r (h.sent ++ h.failed) + surplus r h.node.pending = 0
  behind : surplus r (h.sent ++ h.failed) ≤ 0

omit [DoubleArith D] in
theorem ordered_create (r : ComputeTaskId × ReservationId) (config : NodeConfig) (nodeId : NodeId) :
    Ordered r (create config nodeId : NodeHistory D) where
  wired := wired_create config nodeId
  reader := .nothing
  reporter := .nothing
  balance := fun _ => rfl
  behind := le_refl _

theorem Ordered.step {r : ComputeTaskId × ReservationId} (ho : Ordered r h) {move : NodeMove D}
    (hstep : h.step move = some h') : Ordered r h' := by
  rcases step_cases hstep with ⟨frames, hconnect, hh'⟩ | ⟨heard, frames, hmoves, hh'⟩
  · have hwired := ho.wired.connect hconnect
    unfold NodeRuntime.connect at hconnect
    split_ifs at hconnect with hphase
    obtain ⟨hnode, hframes⟩ := Prod.mk.injEq .. |>.mp (Option.some.inj hconnect)
    have hnone : surplus r frames = 0 := by
      rw [← hframes]
      exact surplus_eq_zero (by simp [NodeFrame.reported, NodeFrame.released, registerFrame])
    have hbalance := ho.balance (.inr (by rw [hphase]; decide))
    have hpending : h'.node.pending = h.node.pending := by rw [← hnode]; rfl
    have hout : surplus r (h'.sent ++ h'.failed) = surplus r (h.sent ++ h.failed) := by
      rw [hh']
      simp [hnone]
    refine ⟨hwired, ?_, ?_, fun _ => by rw [hout, hpending]; exact hbalance, hout ▸ ho.behind⟩
    · rw [← hnode]
      exact ho.reader
    · rw [← hnode]
      exact ho.reporter
  · obtain ⟨hreader, hreporter⟩ := hmoves.endings ho.reader ho.reporter
    obtain ⟨hopened, hclosed⟩ := hmoves.surplus r
    obtain ⟨hopen', hphase'⟩ := hmoves.keeps
    have hout : surplus r (h'.sent ++ h'.failed) = surplus r (h.sent ++ h.failed) + surplus r frames := by
      rcases hh' with hh' | ⟨-, hh'⟩ <;> rw [hh'] <;> simp <;> omega
    have hwired := ho.wired.moves hmoves
    -- Whether the frames of the move count depends on the channel before it.
    cases hchannel : h.node.channelOpen with
    | true =>
        have hbalance : surplus r (h'.sent ++ h'.failed) + surplus r h'.node.pending = 0 := by
          have hbefore := ho.balance (.inl hchannel)
          have hsame := hopened hchannel
          omega
        have howed : 0 ≤ surplus r h'.node.pending := by
          have h₁ := hreader.surplus_nonneg r
          have h₂ := hreporter.surplus_nonneg r
          rw [pending, surplus_append]
          omega
        exact ⟨hwired, hreader, hreporter, fun _ => hbalance, by omega⟩
    | false =>
        rw [hclosed hchannel, add_zero] at hout
        refine ⟨hwired, hreader, hreporter, ?_, hout ▸ ho.behind⟩
        rintro (hopen | hphase)
        · rw [hopen' hopen] at hchannel
          cases hchannel
        · have hbefore : h.node.phase ≠ .running := fun hrunning => hphase (hphase' hrunning)
          obtain ⟨-, -, -, h₄, h₅⟩ := ho.wired.unregistered hbefore
          obtain ⟨-, -, -, h₄', h₅'⟩ := hwired.unregistered hphase
          have hbalance := ho.balance (.inr hbefore)
          rw [pending, h₄, h₅] at hbalance
          rw [hout, pending, h₄', h₅']
          exact hbalance

variable {config : NodeConfig} {nodeId : NodeId} {moves : List (NodeMove D)}

/-- **A release follows its report.** At every point of a node's run, and for every reservation, no more
    releases are on the connection than reports were sent or tried; and a node with an open channel and
    nothing left to send has released every reservation it has reported on. -/
theorem release_follows_report (hrun : run config nodeId moves = some h)
    (r : ComputeTaskId × ReservationId) :
    releasesOf r h.sent ≤ endsOf r h.sent + endsOf r h.failed ∧
      (h.node.channelOpen = true → h.node.pending = [] →
        releasesOf r h.sent + releasesOf r h.failed = endsOf r h.sent + endsOf r h.failed) := by
  have ho : Ordered r h :=
    Lts.run_preserves (fun _ _ _ hs hstep => Ordered.step hs hstep) (ordered_create r config nodeId) hrun
  constructor
  · have hbehind := ho.behind
    simp only [surplus, releasesOf_append, endsOf_append] at hbehind
    omega
  · intro hopen hidle
    have hbalance := ho.balance (.inl hopen)
    rw [hidle, surplus_nil] at hbalance
    simp only [surplus, releasesOf_append, endsOf_append] at hbalance
    omega

end NodeHistory

theorem release_follows_report_lostReport :
    ∃ h, NodeHistory.run { cpuSlots := 1 } ⟨0, 7⟩ Demo.lostReport = some h ∧
      h.node.channelOpen = true ∧ h.node.pending.isEmpty = true ∧
      releasesOf (⟨0, 1⟩, ⟨2, 1⟩) h.sent ≤
        endsOf (⟨0, 1⟩, ⟨2, 1⟩) h.sent + endsOf (⟨0, 1⟩, ⟨2, 1⟩) h.failed ∧
      releasesOf (⟨0, 1⟩, ⟨2, 1⟩) h.sent + releasesOf (⟨0, 1⟩, ⟨2, 1⟩) h.failed =
        endsOf (⟨0, 1⟩, ⟨2, 1⟩) h.sent + endsOf (⟨0, 1⟩, ⟨2, 1⟩) h.failed := by
  have hfacts : ((NodeHistory.run { cpuSlots := 1 } ⟨0, 7⟩ Demo.lostReport).map fun h =>
      (h.node.channelOpen, h.node.pending.isEmpty)) = some (true, true) := by
    decide +kernel
  obtain ⟨h, hrun, hfacts⟩ := Option.map_eq_some_iff.mp hfacts
  obtain ⟨hopen, hidle⟩ := Prod.mk.inj hfacts
  obtain ⟨hle, heq⟩ := NodeHistory.release_follows_report hrun (⟨0, 1⟩, ⟨2, 1⟩)
  exact ⟨h, hrun, hopen, hidle, hle, heq hopen (List.isEmpty_iff.mp hidle)⟩

end ComputeFabric
