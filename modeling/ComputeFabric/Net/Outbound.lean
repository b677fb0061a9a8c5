import ComputeFabric.Lib.Lts
import ComputeFabric.Protocol.Frame
import ComputeFabric.Coordinator.State

/-!
# `Net.Outbound` — the outbound queue of a connection

The core queues frames for a peer, the connection's writer takes them off, and any thread may stop the connection.
`stop` is an atomic flag, set and read outside the lock as well as inside; `outbound` and `outbound_bytes` are
guarded by `wmu`. A step here is one atomic access: a look at the flag, setting it, or a region under the lock.
Every thread is somewhere in a call (`Pc`), and a run is any interleaving of such steps.

`accepted`, `written` and `cleared` record what has happened. The byte count is that of the queue, the queue stays
within its limits, what was written is a first part of what was accepted, and after the clearing step of a stop
nothing is queued again (`outbound_accounting`). Seen by the core, a call that is not interrupted is the
`queueOutbound` of its model (`queueOutbound_refines`).
-/

namespace ComputeFabric

/-- `kMaxOutboundFrames`. -/
def maxOutboundFrames : Nat := 256

/-- `kMaxOutboundBytes`. -/
def maxOutboundBytes : Nat := 16 * 2 ^ 20

/-- `frame_wire_size`. A vector's length and the header size fit in a `size_t` together. -/
def frameWireSize (frame : Frame) : Nat := headerSize + frame.payload.length

/-- Where a thread is in a call. -/
inductive Pc where
  | idle
  /-- In `queue_outbound`, past its first look at `stop`. -/
  | queueing (frame : Frame)
  /-- In `queue_outbound`, about to call `stop_connection`. -/
  | overflowed
  /-- In `stop_connection`, with `stop` set and the queue not cleared yet. -/
  | stopping

/-- The shared part of a `NodeConn` or `ClientConn`, the threads, and what has happened. -/
structure Outbound where
  stop : Bool := false
  outbound : List Frame := []
  outboundBytes : Nat := 0
  writerInFlight : Bool := false
  pc : Nat → Pc := fun _ => .idle
  accepted : List Frame := []
  written : List Frame := []
  cleared : Bool := false

namespace Outbound

/-- The steps of a thread, and of the writer. -/
inductive Action where
  /-- `queue_outbound` is called, up to the lock. -/
  | queue (thread : Nat) (frame : Frame)
  /-- The locked region of `queue_outbound`. -/
  | enqueue (thread : Nat)
  /-- `conn->stop.store(true)`. -/
  | stop (thread : Nat)
  /-- The locked region of `stop_connection`. -/
  | clear (thread : Nat)
  /-- The writer's locked region. -/
  | dequeue
  /-- The frame was sent, or sending failed. -/
  | sent

def goto (s : Outbound) (thread : Nat) (pc : Pc) : Outbound := { s with pc := Function.update s.pc thread pc }

/-- `overflow`: no room for the frame. -/
def overflow (s : Outbound) (frame : Frame) : Bool :=
  s.outbound.length ≥ maxOutboundFrames || frameWireSize frame > maxOutboundBytes ||
    s.outboundBytes > maxOutboundBytes - frameWireSize frame

/-- `outbound_bytes` after the writer has taken a frame. -/
def bytesWithout (s : Outbound) (frame : Frame) : Nat :=
  if frameWireSize frame ≤ s.outboundBytes then s.outboundBytes - frameWireSize frame else 0

/-- `conn->outbound.push_back(frame)`. -/
def push (s : Outbound) (frame : Frame) : Outbound :=
  { s with
    outbound := s.outbound ++ [frame]
    outboundBytes := s.outboundBytes + frameWireSize frame
    accepted := s.accepted ++ [frame] }

/-- The writer takes the frame at the head of the queue. -/
def take (s : Outbound) (frame : Frame) (rest : List Frame) : Outbound :=
  { s with
    outbound := rest
    outboundBytes := s.bytesWithout frame
    writerInFlight := true
    written := s.written ++ [frame] }

/-- The locked region of `stop_connection`. -/
def clearQueue (s : Outbound) : Outbound := { s with outbound := [], outboundBytes := 0, cleared := true }

/-- One atomic step, if the thread is at it. -/
def step (s : Outbound) : Action → Option Outbound
  | .queue i frame =>
      match s.pc i with
      | .idle => if s.stop then some s else some (s.goto i (.queueing frame))
      | _ => none
  | .enqueue i =>
      match s.pc i with
      | .queueing frame =>
          if s.stop then some (s.goto i .idle)
          else if s.overflow frame then some (s.goto i .overflowed)
          else some ((s.push frame).goto i .idle)
      | _ => none
  | .stop i =>
      match s.pc i with
      | .idle | .overflowed => some ({ s with stop := true }.goto i .stopping)
      | _ => none
  | .clear i =>
      match s.pc i with
      | .stopping => some (s.clearQueue.goto i .idle)
      | _ => none
  | .dequeue =>
      if s.writerInFlight then none
      else if s.stop then some s
      else match s.outbound with
        | [] => some s
        | frame :: rest => some (s.take frame rest)
  | .sent => if s.writerInFlight then some { s with writerInFlight := false } else none

/-! ## What a step can do -/

/-- The outcomes of a step. -/
inductive Step (s : Outbound) : Outbound → Prop
  | idle : Step s s
  | moved {i : Nat} {pc : Pc} (hpc : pc ≠ .stopping) : Step s (s.goto i pc)
  | accepted {i : Nat} {frame : Frame} (hstop : s.stop = false) (hroom : s.overflow frame = false) :
      Step s ((s.push frame).goto i .idle)
  | stopped {i : Nat} : Step s ({ s with stop := true }.goto i .stopping)
  | cleared {i : Nat} (hpc : s.pc i = .stopping) : Step s (s.clearQueue.goto i .idle)
  | taken {frame : Frame} {rest : List Frame} (hstop : s.stop = false) (hqueue : s.outbound = frame :: rest) :
      Step s (s.take frame rest)
  | sent : Step s { s with writerInFlight := false }

theorem step_cases {s s' : Outbound} {a : Action} (h : s.step a = some s') : Step s s' := by
  cases a with
  | queue i frame =>
      dsimp only [step] at h
      split at h
      · split_ifs at h
        · cases h
          exact .idle
        · cases h
          exact .moved nofun
      · cases h
  | enqueue i =>
      dsimp only [step] at h
      split at h
      · split_ifs at h with hstop hroom
        · cases h
          exact .moved nofun
        · cases h
          exact .moved nofun
        · cases h
          exact .accepted (by simpa using hstop) (by simpa using hroom)
      · cases h
  | stop i =>
      dsimp only [step] at h
      split at h <;> cases h <;> exact .stopped
  | clear i =>
      dsimp only [step] at h
      split at h
      · next hpc =>
          cases h
          exact .cleared hpc
      · cases h
  | dequeue =>
      dsimp only [step] at h
      split_ifs at h with hflight hstop
      · cases h
        exact .idle
      · split at h
        · cases h
          exact .idle
        · next hqueue =>
            cases h
            exact .taken (by simpa using hstop) hqueue
  | sent =>
      dsimp only [step] at h
      split_ifs at h
      cases h
      exact .sent

/-! ## The invariant -/

/-- What every interleaving keeps. -/
structure Accounted (s : Outbound) : Prop where
  bytes : s.outboundBytes = (s.outbound.map frameWireSize).sum
  frames : s.outbound.length ≤ maxOutboundFrames
  size : s.outboundBytes ≤ maxOutboundBytes
  /-- The queue is cleared by threads that have set the flag before. -/
  stopping : ∀ i, s.pc i = .stopping → s.stop = true
  stopped : s.cleared = true → s.stop = true
  empty : s.cleared = true → s.outbound = []
  order : s.cleared = false → s.accepted = s.written ++ s.outbound
  written : s.written <+: s.accepted

theorem Accounted.start : Accounted {} where
  bytes := rfl
  frames := Nat.zero_le _
  size := Nat.zero_le _
  stopping i h := by cases h
  stopped h := by cases h
  empty _ := rfl
  order _ := rfl
  written := List.prefix_rfl

section Step

variable {s : Outbound} (h : s.Accounted)

include h

/-- Moving a thread on, to anywhere but the inside of `stop_connection`. -/
theorem Accounted.goto (i : Nat) {pc : Pc} (hpc : pc ≠ .stopping) : (s.goto i pc).Accounted :=
  { h with
    stopping := by
      intro j hj
      by_cases hij : j = i
      · subst hij
        exact absurd (by simpa [Outbound.goto] using hj) hpc
      · exact h.stopping j (by simpa [Outbound.goto, hij] using hj) }

theorem Accounted.not_cleared (hstop : s.stop = false) : s.cleared = false := by
  by_contra hcleared
  rw [h.stopped (by simpa using hcleared)] at hstop
  cases hstop

/-- The frame at the head of the queue is counted. -/
theorem Accounted.head_le {frame : Frame} {rest : List Frame} (hqueue : s.outbound = frame :: rest) :
    frameWireSize frame ≤ s.outboundBytes := by
  rw [h.bytes, hqueue, List.map_cons, List.sum_cons]
  exact Nat.le_add_right _ _

theorem Accounted.push {frame : Frame} (hstop : s.stop = false) (hroom : s.overflow frame = false) :
    (s.push frame).Accounted := by
  have hcleared := h.not_cleared hstop
  simp only [overflow, ge_iff_le, Bool.or_eq_false_iff, decide_eq_false_iff_not, gt_iff_lt, not_le, not_lt] at hroom
  obtain ⟨⟨hframes, hsize⟩, hbytes⟩ := hroom
  exact
    { bytes := by simp [Outbound.push, h.bytes]
      frames := by
        show (s.outbound ++ [frame]).length ≤ maxOutboundFrames
        rw [List.length_append]
        exact hframes
      size := by
        show s.outboundBytes + frameWireSize frame ≤ maxOutboundBytes
        omega
      stopping := h.stopping
      stopped := h.stopped
      empty := fun hc => absurd (hcleared.symm.trans hc) nofun
      order := fun _ => by
        show s.accepted ++ [frame] = s.written ++ (s.outbound ++ [frame])
        rw [h.order hcleared, List.append_assoc]
      written := h.written.trans (List.prefix_append _ _) }

theorem Accounted.take {frame : Frame} {rest : List Frame} (hstop : s.stop = false)
    (hqueue : s.outbound = frame :: rest) : (s.take frame rest).Accounted := by
  have hcleared := h.not_cleared hstop
  have hle := h.head_le hqueue
  have hwithout : s.bytesWithout frame = s.outboundBytes - frameWireSize frame := if_pos hle
  have horder : s.accepted = s.written ++ [frame] ++ rest := by
    rw [h.order hcleared, hqueue, List.append_assoc]
    rfl
  exact
    { bytes := by
        show s.bytesWithout frame = (rest.map frameWireSize).sum
        rw [hwithout, h.bytes, hqueue, List.map_cons, List.sum_cons, Nat.add_sub_cancel_left]
      frames := by
        have hframes := h.frames
        rw [hqueue, List.length_cons] at hframes
        exact Nat.le_of_succ_le hframes
      size := by
        show s.bytesWithout frame ≤ maxOutboundBytes
        rw [hwithout]
        exact (Nat.sub_le _ _).trans h.size
      stopping := h.stopping
      stopped := h.stopped
      empty := fun hc => absurd (hcleared.symm.trans hc) nofun
      order := fun _ => horder
      written := ⟨rest, horder.symm⟩ }

/-- **One step.** -/
theorem Accounted.step {s' : Outbound} (hstep : Step s s') : s'.Accounted := by
  cases hstep with
  | idle => exact h
  | moved hpc => exact h.goto _ hpc
  | accepted hstop hroom => exact (h.push hstop hroom).goto _ nofun
  | stopped => exact { h with stopping := fun _ _ => rfl, stopped := fun _ => rfl }
  | @cleared i hpc =>
      -- the thread had set the flag before it came here
      have hstop := h.stopping i hpc
      refine Accounted.goto (s := s.clearQueue) ?_ i nofun
      exact
        { bytes := rfl
          frames := Nat.zero_le _
          size := Nat.zero_le _
          stopping := h.stopping
          stopped := fun _ => hstop
          empty := fun _ => rfl
          order := nofun
          written := h.written }
  | taken hstop hqueue => exact h.take hstop hqueue
  | sent => exact { h with }

/-- No step accepts a frame once the queue has been cleared. -/
theorem Accounted.step_cleared {s' : Outbound} (hcleared : s.cleared = true) (hstep : Step s s') :
    s'.cleared = true ∧ s'.accepted = s.accepted := by
  have hstop := h.stopped hcleared
  cases hstep with
  | idle => exact ⟨hcleared, rfl⟩
  | moved => exact ⟨hcleared, rfl⟩
  | accepted hnot => exact absurd (hstop.symm.trans hnot) nofun
  | stopped => exact ⟨hcleared, rfl⟩
  | cleared => exact ⟨rfl, rfl⟩
  | taken hnot => exact absurd (hstop.symm.trans hnot) nofun
  | sent => exact ⟨hcleared, rfl⟩

end Step

theorem Accounted.run {s s' : Outbound} {actions : List Action} (h : s.Accounted)
    (hrun : Lts.run Outbound.step s actions = some s') : s'.Accounted :=
  Lts.run_invariant (C := fun _ _ => True) (fun _ _ _ hs _ hstep => hs.step (step_cases hstep)) h
    (.of_forall fun _ _ => trivial)
    hrun

theorem Accounted.run_cleared {s s' : Outbound} {actions : List Action} (h : s.Accounted)
    (hcleared : s.cleared = true) (hrun : Lts.run Outbound.step s actions = some s') :
    s'.outbound = [] ∧ s'.accepted = s.accepted := by
  have hinv := Lts.run_invariant (I := fun x => x.Accounted ∧ x.cleared = true ∧ x.accepted = s.accepted)
    (C := fun _ _ => True) (fun x a x' hx _ hstep => by
      obtain ⟨hacc, hc, heq⟩ := hx
      obtain ⟨hc', heq'⟩ := hacc.step_cleared hc (step_cases hstep)
      exact ⟨hacc.step (step_cases hstep), hc', heq'.trans heq⟩)
    ⟨h, hcleared, rfl⟩ (.of_forall fun _ _ => trivial) hrun
  exact ⟨hinv.1.empty hinv.2.1, hinv.2.2⟩

/-- **Outbound queue accounting**, for every interleaving. -/
theorem outbound_accounting {actions : List Action} {s : Outbound}
    (hrun : Lts.run Outbound.step {} actions = some s) :
    s.outboundBytes = (s.outbound.map frameWireSize).sum ∧
      s.outbound.length ≤ maxOutboundFrames ∧ s.outboundBytes ≤ maxOutboundBytes ∧
      (∀ frame rest, s.outbound = frame :: rest →
        s.bytesWithout frame = s.outboundBytes - frameWireSize frame ∧ frameWireSize frame ≤ s.outboundBytes) ∧
      (∀ (later : List Action) (s' : Outbound), s.cleared = true → Lts.run Outbound.step s later = some s' →
        s'.outbound = [] ∧ s'.accepted = s.accepted) ∧
      s.written <+: s.accepted ∧ (s.cleared = false → s.accepted = s.written ++ s.outbound) := by
  have h := Accounted.start.run hrun
  refine ⟨h.bytes, h.frames, h.size, fun frame rest hqueue => ?_, fun later s' hcleared hlater => ?_, h.written,
    h.order⟩
  · have hle := h.head_le hqueue
    exact ⟨if_pos hle, hle⟩
  · exact h.run_cleared hcleared hlater

/-- An empty frame. -/
def emptyFrame : Frame where
  header := { magic := frameMagic, version := 0, messageType := 0, requestId := 0, senderKind := .coordinator
              senderId := {}, payloadLength := 0, payloadChecksum := 0, headerChecksum := 0 }
  payload := []

/-- One frame is queued and written, and another thread stops the connection. -/
theorem outbound_accounting_stopped :
    ∃ s, Lts.run Outbound.step {} [.queue 0 emptyFrame, .enqueue 0, .dequeue, .stop 1, .clear 1] = some s ∧
      s.outboundBytes = (s.outbound.map frameWireSize).sum ∧ s.written <+: s.accepted := by
  obtain ⟨s, hrun⟩ : ∃ s, Lts.run Outbound.step {} [.queue 0 emptyFrame, .enqueue 0, .dequeue, .stop 1, .clear 1] =
      some s := ⟨_, rfl⟩
  refine ⟨s, hrun, ?_⟩
  have h := outbound_accounting hrun
  exact ⟨h.1, h.2.2.2.2.2.1⟩

/-! ## The core's view -/

/-- **A call of the core** that no other thread interrupts: the peer is stopped already, or it is stopped for want
    of room, or the frame is accepted, as `Coordinator.queueOutbound` has it for the answer of its oracle. -/
theorem queueOutbound_refines {D : Type} (env : Env) (c : Coordinator D) (conn : ConnId) (requestId : UInt64)
    (m : Message D) {s : Outbound} {i : Nat} {frame : Frame} (hidle : s.pc i = .idle)
    (hstop : c.isStopped conn = s.stop) (hfull : env.outboundFull c.sends = s.overflow frame) :
    ∃ calls s', (∀ a ∈ calls, a = .queue i frame ∨ a = .enqueue i ∨ a = .stop i ∨ a = .clear i) ∧
      Lts.run Outbound.step s calls = some s' ∧ s'.pc i = .idle ∧
      (c.queueOutbound env conn requestId m).isStopped conn = s'.stop ∧
      (s'.accepted = s.accepted ++ [frame] ↔
        (c.queueOutbound env conn requestId m).effects = .queued conn requestId m :: c.effects) := by
  unfold Coordinator.queueOutbound
  cases hs : s.stop with
  | true =>
      rw [hstop, hs, if_pos rfl]
      refine ⟨[.queue i frame], s, by simp, ?_, hidle, hstop, by simp⟩
      simp [Lts.run, step, hidle, hs]
  | false =>
      rw [hstop, hs, if_neg (by simp), hfull]
      have hentered : s.step (.queue i frame) = some (s.goto i (.queueing frame)) := by
        simp [step, hidle, hs]
      cases hover : s.overflow frame with
      | true =>
          refine ⟨[.queue i frame, .enqueue i, .stop i, .clear i],
            ({ (s.goto i (.queueing frame)).goto i .overflowed with stop := true }.goto i .stopping).clearQueue.goto i
              .idle, by simp, Lts.run_cons.mpr ⟨_, hentered, ?_⟩, by simp [goto], ?_, ?_⟩
          · simp [Lts.run, step, goto, overflow, hs] at hover ⊢
            simp [hover]
          · simp [Coordinator.isStopped, Coordinator.stopConnection, goto, clearQueue]
          · simp [Coordinator.stopConnection, goto, clearQueue]
      | false =>
          refine ⟨[.queue i frame, .enqueue i], ((s.goto i (.queueing frame)).push frame).goto i .idle, by simp,
            Lts.run_cons.mpr ⟨_, hentered, ?_⟩, by simp [goto], hstop, by simp [goto, push]⟩
          simp [Lts.run, step, goto, push, overflow, hs] at hover ⊢
          simp [hover]

end Outbound

end ComputeFabric
