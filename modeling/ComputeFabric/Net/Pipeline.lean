import ComputeFabric.Net.Channel
import ComputeFabric.Net.Outbound

/-!
# `Net.Pipeline` — from `queue_outbound` to the reader

A frame that the core queues for a node goes through a bounded queue, the connection's writer thread, `send_all`
with its partial writes, the byte stream, and the reader's `recv_frame`. Each of these may stop half way: the
queue is cleared, a write fails after some bytes, the stream ends, the reader gives up.

`Pipe` puts them together. The threads of the queue are those of `Outbound`; the writer takes a frame, hands its
bytes to the socket in pieces, and leaves its loop on the first failure; the reader takes one step of the loop of
`recv_frame` at a time. All interleave.

The fabric's links deliver what was queued in order and may stop anywhere. `pipe_delivers` says that this is what the
code does: at any time the frames the reader has returned are the first frames that were accepted, unchanged. The
steps are smaller than the functions of the source; a call of `queue_outbound` or `send_all` is a run of them.
-/

namespace ComputeFabric

open Channel (Made Awaits wire)

/-! ## `send_all` -/

/-- One round of the loop of `send_all`. -/
inductive SendIo where
  /-- `::send` accepts bytes: `n + 1` of them, or what is left. -/
  | sent (n : Nat)
  | zero
  /-- `EINTR`. -/
  | interrupted
  /-- `remaining_ms <= 0`, or `EAGAIN`. -/
  | timeout
  /-- `EPIPE`, `ECONNRESET` or `ENOTCONN`. -/
  | reset
  | unconfigured (lastError : Text)
  | failed (lastError : Text)

/-- What `send_all` returns when it fails. -/
inductive SendError where
  | notConnected
  | timeout
  | connectionClosed
  | networkError (message : Text)
deriving DecidableEq

/-- The message of the error. -/
def SendError.message : SendError → Text
  | .notConnected => text "socket not connected"
  | .timeout => text "send timeout"
  | .connectionClosed => text "connection closed during send"
  | .networkError message => message

/-- The loop of `send_all`: the result, and the bytes the socket has accepted. The deadline is at the end of the
    list. -/
def sendRounds : List SendIo → List UInt8 → Except SendError Unit × List UInt8
  | _, [] => (.ok (), [])
  | [], _ => (.error .timeout, [])
  | .sent n :: rounds, data =>
      let rest := sendRounds rounds (data.drop (n + 1))
      (rest.1, data.take (n + 1) ++ rest.2)
  | .interrupted :: rounds, data => sendRounds rounds data
  | .zero :: _, _ => (.error .connectionClosed, [])
  | .reset :: _, _ => (.error .connectionClosed, [])
  | .timeout :: _, _ => (.error .timeout, [])
  | .unconfigured e :: _, _ => (.error (.networkError (text "failed to configure send timeout: " ++ e)), [])
  | .failed e :: _, _ => (.error (.networkError (text "send failed: " ++ e)), [])

/-- `TcpSocket::send_all`; `acquired` says whether the socket could be entered. -/
def sendAll (acquired : Bool) (timeoutMs : Int32) (rounds : List SendIo) (data : List UInt8) :
    Except SendError Unit × List UInt8 :=
  if !acquired then (.error .notConnected, [])
  else if data = [] then (.ok (), [])
  else if timeoutMs ≤ 0 then (.error .timeout, [])
  else sendRounds rounds data

theorem sendRounds_spec (rounds : List SendIo) (data : List UInt8) :
    (sendRounds rounds data).2 <+: data ∧
      ((sendRounds rounds data).1 = .ok () ↔ (sendRounds rounds data).2 = data) := by
  induction rounds generalizing data with
  | nil => cases data <;> simp [sendRounds]
  | cons x rounds ih =>
      cases data with
      | nil => simp [sendRounds]
      | cons b data =>
          cases x with
          | sent n =>
              obtain ⟨⟨more, hmore⟩, hall⟩ := ih ((b :: data).drop (n + 1))
              have hround : sendRounds (.sent n :: rounds) (b :: data) =
                  ((sendRounds rounds ((b :: data).drop (n + 1))).1,
                    (b :: data).take (n + 1) ++ (sendRounds rounds ((b :: data).drop (n + 1))).2) := rfl
              rw [hround]
              refine ⟨⟨more, ?_⟩, hall.trans ?_⟩
              · rw [List.append_assoc, hmore, List.take_append_drop]
              · constructor
                · intro heq
                  rw [heq, List.take_append_drop]
                · intro heq
                  have hsplit := (List.take_append_drop (n + 1) (b :: data)).symm
                  exact List.append_cancel_left (heq.trans hsplit)
          | interrupted => exact ih (b :: data)
          | _ => simp [sendRounds]

/-- **What `send_all` has written when it returns** is a first part of the data, and all of it exactly when it
    returns without an error. -/
theorem sendAll_spec (acquired : Bool) (timeoutMs : Int32) (rounds : List SendIo) {data : List UInt8}
    (hdata : data ≠ []) :
    (sendAll acquired timeoutMs rounds data).2 <+: data ∧
      ((sendAll acquired timeoutMs rounds data).1 = .ok () ↔ (sendAll acquired timeoutMs rounds data).2 = data) := by
  have hnothing : ∀ e : SendError, ([] : List UInt8) <+: data ∧
      ((.error e : Except SendError Unit) = .ok () ↔ [] = data) :=
    fun e => ⟨List.nil_prefix, ⟨nofun, fun heq => absurd heq.symm hdata⟩⟩
  unfold sendAll
  by_cases hacquired : (!acquired) = true
  · rw [if_pos hacquired]
    exact hnothing .notConnected
  · rw [if_neg hacquired, if_neg hdata]
    by_cases htimeout : timeoutMs ≤ 0
    · rw [if_pos htimeout]
      exact hnothing .timeout
    · rw [if_neg htimeout]
      exact sendRounds_spec rounds data

/-! ## One round of `recv_frame` -/

namespace Channel

/-- One round of the loop of `recv_frame`: the call returns, or the loop goes on. -/
def readOnce (maxFrameBytes : UInt32) (x : Io) (c : Channel) : Option (Except Error Frame) × Channel :=
  match examine maxFrameBytes c.recvBuffer with
  | .inl result => (some result, { c with recvBuffer := [] })
  | .inr required =>
      match x with
      | .timeout => (some (.error recvTimeout), c)
      | .failure e => (some (.error e), { c with recvBuffer := [] })
      | .chunk n => if c.incoming = [] then (some (.error recvTimeout), c) else (none, c.deliver required n)

/-- **`recv_frame` is its rounds**, up to the one that returns. -/
theorem recvFrame_cons (maxFrameBytes : UInt32) (x : Io) (io : List Io) (c : Channel) :
    recvFrame maxFrameBytes (x :: io) c =
      match (readOnce maxFrameBytes x c).1 with
      | some result => (result, (readOnce maxFrameBytes x c).2)
      | none => recvFrame maxFrameBytes io (readOnce maxFrameBytes x c).2 := by
  rw [recvFrame, readOnce]
  cases examine maxFrameBytes c.recvBuffer with
  | inl result => rfl
  | inr required =>
      cases x with
      | timeout => rfl
      | failure e => rfl
      | chunk n =>
          dsimp only
          split_ifs <;> rfl

/-- The same channel when more bytes are known to come. -/
def extend (c : Channel) (more : List UInt8) : Channel := { c with incoming := c.incoming ++ more }

/-- A read that delivers what is there is a read of that many bytes when more is to come. -/
theorem deliver_extend (c : Channel) (required n : Nat) (hsome : c.incoming ≠ []) (more : List UInt8) :
    ∃ n', (c.deliver required n).extend more = (c.extend more).deliver required n' := by
  set count := min (n + 1) (min (needed required c.recvBuffer) c.incoming.length) with hcount
  refine ⟨count - 1, ?_⟩
  have hpos : 0 < c.incoming.length := List.length_pos_iff.mpr hsome
  have hle : count ≤ c.incoming.length := by omega
  have hsame : min (count - 1 + 1) (min (needed required c.recvBuffer) (c.incoming ++ more).length) = count := by
    rw [List.length_append]
    omega
  simp only [extend, deliver, hsame, ← hcount]
  rw [List.take_append_of_le_length hle, List.drop_append_of_le_length hle]

/-- **One round of the reader** when the frames `later` are still to be returned, of which `more` has not arrived
    yet: the next frame is returned, the frame grows, or nothing happens; unless the connection breaks. -/
theorem Awaits.readOnce {later : List Frame} {c : Channel} {more : List UInt8} (h : Awaits later (c.extend more))
    (x : Io) :
    (∃ f rest, later = f :: rest ∧ (c.readOnce maxFramePayload x).1 = some (.ok f) ∧
      Awaits rest ((c.readOnce maxFramePayload x).2.extend more)) ∨
    ((c.readOnce maxFramePayload x).1 = none ∧ Awaits later ((c.readOnce maxFramePayload x).2.extend more)) ∨
    ((c.readOnce maxFramePayload x).1 = some (.error recvTimeout) ∧ (c.readOnce maxFramePayload x).2 = c) ∨
    ∃ e, x = .failure e ∧ (c.readOnce maxFramePayload x).1 = some (.error e) := by
  have hbuffer : (c.extend more).recvBuffer = c.recvBuffer := rfl
  unfold Channel.readOnce
  rcases h.round with ⟨f, rest, hlater, hdone, hnext⟩ | ⟨required, hmore, -, hdeliver⟩
  · rw [hbuffer] at hdone
    rw [hdone]
    exact .inl ⟨f, rest, hlater, rfl, hnext⟩
  · rw [hbuffer] at hmore
    rw [hmore]
    cases x with
    | timeout => exact .inr (.inr (.inl ⟨rfl, rfl⟩))
    | failure e => exact .inr (.inr (.inr ⟨e, rfl, rfl⟩))
    | chunk n =>
        dsimp only
        split_ifs with hempty
        · exact .inr (.inr (.inl ⟨rfl, rfl⟩))
        · -- What arrives now is what a longer stream would have delivered.
          obtain ⟨n', hn'⟩ := deliver_extend c required n hempty more
          have hsome : (c.extend more).incoming ≠ [] := fun heq => hempty (List.append_eq_nil_iff.mp heq).1
          refine .inr (.inl ⟨rfl, ?_⟩)
          show Awaits later ((c.deliver required n).extend more)
          rw [hn']
          exact hdeliver n' hsome

/-- **A call of `recv_frame`** returns the next frame, or fails for want of bytes or with its connection. -/
theorem Awaits.recvFrame {later : List Frame} {c : Channel} {more : List UInt8} (h : Awaits later (c.extend more))
    (io : List Io) :
    (∃ f rest, later = f :: rest ∧ (c.recvFrame maxFramePayload io).1 = .ok f) ∨
    (c.recvFrame maxFramePayload io).1 = .error recvTimeout ∨
    ∃ e, .failure e ∈ io ∧ (c.recvFrame maxFramePayload io).1 = .error e := by
  induction io generalizing c with
  | nil =>
      rw [Channel.recvFrame]
      rcases h.round with ⟨f, rest, hlater, hdone, -⟩ | ⟨required, hmore, -⟩
      · rw [show examine maxFramePayload c.recvBuffer = _ from hdone]
        exact .inl ⟨f, rest, hlater, rfl⟩
      · rw [show examine maxFramePayload c.recvBuffer = _ from hmore]
        exact .inr (.inl rfl)
  | cons x io ih =>
      rw [recvFrame_cons]
      rcases h.readOnce x with ⟨f, rest, hlater, hresult, -⟩ | ⟨hresult, hnext⟩ | ⟨hresult, -⟩ | ⟨e, rfl, hresult⟩
      · rw [hresult]
        exact .inl ⟨f, rest, hlater, rfl⟩
      · rw [hresult]
        rcases ih hnext with hframe | htimeout | ⟨e, he, hfails⟩
        · exact .inl hframe
        · exact .inr (.inl htimeout)
        · exact .inr (.inr ⟨e, List.mem_cons_of_mem x he, hfails⟩)
      · rw [hresult]
        exact .inr (.inl rfl)
      · rw [hresult]
        exact .inr (.inr ⟨e, List.mem_cons_self, rfl⟩)

end Channel

/-! ## The pipeline -/

/-- The queue with its threads, the bytes the writer has still to hand to the socket, the stream and the reader. -/
structure Pipe where
  out : Outbound := {}
  unsent : List UInt8 := []
  /-- The writer has left its loop. -/
  writerDone : Bool := false
  channel : Channel := ⟨[], []⟩
  /-- The reader has left its loop. -/
  readerDone : Bool := false
  returned : List Frame := []

namespace Pipe

inductive Action where
  /-- A step of a thread that queues frames or stops the connection. -/
  | thread (a : Outbound.Action)
  /-- The writer's locked region. -/
  | take
  /-- A partial write of `n + 1` bytes. -/
  | write (n : Nat)
  /-- `send_frame` returns. -/
  | sent
  | sendFails
  /-- One round of `recv_frame`. -/
  | read (x : Io)

/-- The thread is one that queues or stops, not the writer. -/
def isThread : Outbound.Action → Bool
  | .dequeue | .sent => false
  | _ => true

/-- A read that times out is an `Io.timeout`: no failure carries that code. -/
def isMislabelled : Io → Bool
  | .failure e => e.code = .timeout
  | _ => false

/-- One step. -/
def step (s : Pipe) : Action → Option Pipe
  | .thread a => if isThread a then (s.out.step a).map fun out => { s with out := out } else none
  | .take =>
      if s.writerDone || s.out.writerInFlight then none
      else if s.out.stop then some { s with writerDone := true }
      else match s.out.outbound with
        | [] => some s
        | frame :: rest => some { s with out := s.out.take frame rest, unsent := wire frame }
  | .write n =>
      if s.out.writerInFlight && !s.unsent.isEmpty then
        some { s with
          unsent := s.unsent.drop (n + 1)
          channel := s.channel.extend (s.unsent.take (n + 1)) }
      else none
  | .sent =>
      if s.out.writerInFlight && s.unsent.isEmpty then
        some { s with out := { s.out with writerInFlight := false } }
      else none
  | .sendFails =>
      if s.out.writerInFlight && !s.unsent.isEmpty then
        some { s with out := { s.out with writerInFlight := false }, writerDone := true }
      else none
  | .read x =>
      if s.readerDone || isMislabelled x then none
      else match s.channel.readOnce maxFramePayload x with
        | (none, c) => some { s with channel := c }
        | (some (.ok f), c) => some { s with channel := c, returned := s.returned ++ [f] }
        | (some (.error e), c) => some { s with channel := c, readerDone := e.code ≠ .timeout }

/-! ## The writer -/

/-- The socket has accepted the bytes, which were the first ones left to send. -/
def wrote (s : Pipe) (bytes : List UInt8) : Pipe :=
  { s with unsent := s.unsent.drop bytes.length, channel := s.channel.extend bytes }

theorem wrote_nil (s : Pipe) : s.wrote [] = s := by simp [wrote, Channel.extend]

theorem wrote_append (s : Pipe) (xs ys : List UInt8) : (s.wrote xs).wrote ys = s.wrote (xs ++ ys) := by
  simp [wrote, Channel.extend, List.drop_drop]

theorem unsent_wrote_take (s : Pipe) (n : Nat) : (s.wrote (s.unsent.take n)).unsent = s.unsent.drop n := by
  show s.unsent.drop (s.unsent.take n).length = s.unsent.drop n
  rw [List.length_take]
  rcases Nat.le_total n s.unsent.length with hle | hle
  · rw [Nat.min_eq_left hle]
  · rw [Nat.min_eq_right hle, List.drop_length, List.drop_of_length_le hle]

theorem step_write {s : Pipe} (hflight : s.out.writerInFlight = true) (hunsent : s.unsent ≠ []) (n : Nat) :
    s.step (.write n) = some (s.wrote (s.unsent.take (n + 1))) := by
  have hdrop : s.unsent.drop (s.unsent.take (n + 1)).length = s.unsent.drop (n + 1) := s.unsent_wrote_take (n + 1)
  rw [wrote, hdrop]
  simp [step, hflight, hunsent]

/-- The loop of `send_all` is a run of partial writes: whatever the socket does, it leaves on the stream what such
    a run leaves there. -/
theorem sendRounds_run (rounds : List SendIo) {s : Pipe} (hflight : s.out.writerInFlight = true) :
    ∃ sizes : List Nat, Lts.run step s (sizes.map .write) = some (s.wrote (sendRounds rounds s.unsent).2) := by
  induction rounds generalizing s with
  | nil =>
      refine ⟨[], ?_⟩
      have hnone : (sendRounds [] s.unsent).2 = [] := by cases s.unsent <;> rfl
      rw [hnone, wrote_nil]
      rfl
  | cons x rounds ih =>
      cases hunsent : s.unsent with
      | nil =>
          refine ⟨[], ?_⟩
          have hnone : (sendRounds (x :: rounds) []).2 = [] := by cases x <;> rfl
          rw [hnone, wrote_nil]
          rfl
      | cons b data =>
          cases x with
          | sent n =>
              have hstep := step_write hflight (by rw [hunsent]; simp) n
              obtain ⟨sizes, hrun⟩ := ih (s := s.wrote (s.unsent.take (n + 1))) hflight
              refine ⟨n :: sizes, Lts.run_cons.mpr ⟨_, hstep, ?_⟩⟩
              rw [hrun, wrote_append, unsent_wrote_take, hunsent]
              rfl
          | interrupted =>
              have hround : sendRounds (.interrupted :: rounds) (b :: data) = sendRounds rounds (b :: data) := rfl
              rw [hround, ← hunsent]
              exact ih hflight
          | _ =>
              refine ⟨[], ?_⟩
              rw [sendRounds, wrote_nil]
              · rfl
              · simp

/-- What the writer does when `send_frame` returns: with an error it leaves its loop. -/
def sendReturns (s : Pipe) (result : Except SendError Unit × List UInt8) : Pipe :=
  { s.wrote result.2 with
    out := { s.out with writerInFlight := false }
    writerDone := s.writerDone || !result.1.isOk }

/-- **A call of `send_all` is a run of the writer's steps**: partial writes, and at the end `sent` or `sendFails`,
    whichever the result says. -/
theorem sendAll_run (acquired : Bool) (timeoutMs : Int32) (rounds : List SendIo) {s : Pipe}
    (hflight : s.out.writerInFlight = true) (hunsent : s.unsent ≠ []) :
    ∃ (sizes : List Nat) (last : Action), (last = .sent ∨ last = .sendFails) ∧
      Lts.run step s (sizes.map .write ++ [last]) =
        some (s.sendReturns (sendAll acquired timeoutMs rounds s.unsent)) := by
  have hwrites : ∃ sizes : List Nat, Lts.run step s (sizes.map .write) =
      some (s.wrote (sendAll acquired timeoutMs rounds s.unsent).2) := by
    unfold sendAll
    split_ifs
    · exact ⟨[], by rw [wrote_nil]; rfl⟩
    · exact ⟨[], by rw [wrote_nil]; rfl⟩
    · exact sendRounds_run rounds hflight
  obtain ⟨sizes, hsizes⟩ := hwrites
  obtain ⟨⟨left, hleft⟩, hall⟩ := sendAll_spec acquired timeoutMs rounds hunsent
  generalize sendAll acquired timeoutMs rounds s.unsent = result at hsizes hleft hall ⊢
  obtain ⟨outcome, bytes⟩ := result
  have hrest : (s.wrote bytes).unsent = left := by
    show s.unsent.drop bytes.length = left
    rw [← hleft, List.drop_left]
  have hsending : (s.wrote bytes).out.writerInFlight = true := hflight
  cases outcome with
  | ok =>
      have hnil : left = [] := by
        rw [hall.mp rfl] at hleft
        exact List.append_right_eq_self.mp hleft
      refine ⟨sizes, .sent, .inl rfl, Lts.run_append.mpr ⟨_, hsizes, Lts.run_cons.mpr ⟨_, ?_, rfl⟩⟩⟩
      have hguard : ((s.wrote bytes).out.writerInFlight && (s.wrote bytes).unsent.isEmpty) = true := by
        simp [hsending, hrest, hnil]
      refine (if_pos hguard).trans ?_
      simp [sendReturns, wrote, Except.isOk, Except.toBool]
  | error e =>
      -- Not everything was written, or the result would be `ok`.
      have hsome : left ≠ [] := by
        rintro rfl
        rw [List.append_nil] at hleft
        exact nomatch hall.mpr hleft
      refine ⟨sizes, .sendFails, .inr rfl, Lts.run_append.mpr ⟨_, hsizes, Lts.run_cons.mpr ⟨_, ?_, rfl⟩⟩⟩
      have hguard : ((s.wrote bytes).out.writerInFlight && !(s.wrote bytes).unsent.isEmpty) = true := by
        simp [hsending, hrest, hsome]
      refine (if_pos hguard).trans ?_
      simp [sendReturns, wrote, Except.isOk, Except.toBool]

/-! ## The queue's threads -/

/-- The threads that queue frames and stop the connection leave the writer alone, and accept only frames that are
    being queued. -/
theorem thread_step {q q' : Outbound} {a : Outbound.Action} (h : q.step a = some q') (ha : isThread a = true) :
    q'.written = q.written ∧ q'.writerInFlight = q.writerInFlight ∧
      (∀ f ∈ q'.accepted, f ∈ q.accepted ∨ ∃ i, q.pc i = .queueing f) ∧
      ∀ i f, q'.pc i = .queueing f → q.pc i = .queueing f ∨ a = .queue i f := by
  have hgoto : ∀ (x : Outbound) (i : Nat) (pc : ComputeFabric.Pc), (∀ f, pc ≠ .queueing f) → ∀ j f,
      (x.goto i pc).pc j = .queueing f → x.pc j = .queueing f := by
    intro x i pc hpc j f hj
    by_cases hij : j = i
    · rw [Outbound.goto, hij] at hj
      simp at hj
      exact absurd hj (hpc f)
    · simpa [Outbound.goto, hij] using hj
  cases a with
  | queue i frame =>
      dsimp only [Outbound.step] at h
      split at h
      · split_ifs at h
        · cases h
          exact ⟨rfl, rfl, fun f hf => .inl hf, fun j f hj => .inl hj⟩
        · cases h
          refine ⟨rfl, rfl, fun f hf => .inl hf, fun j f hj => ?_⟩
          by_cases hij : j = i
          · subst hij
            simp [Outbound.goto] at hj
            exact .inr (by rw [hj])
          · exact .inl (by simpa [Outbound.goto, hij] using hj)
      · cases h
  | enqueue i =>
      dsimp only [Outbound.step] at h
      split at h
      · next frame hpc =>
          split_ifs at h
          · cases h
            exact ⟨rfl, rfl, fun f hf => .inl hf, fun j f hj => .inl (hgoto q i .idle (by simp) j f hj)⟩
          · cases h
            exact ⟨rfl, rfl, fun f hf => .inl hf, fun j f hj => .inl (hgoto q i .overflowed (by simp) j f hj)⟩
          · cases h
            refine ⟨rfl, rfl, fun f hf => ?_, fun j f hj =>
              .inl (hgoto (q.push frame) i .idle (by simp) j f hj)⟩
            rcases List.mem_append.mp hf with hf | hf
            · exact .inl hf
            · rw [List.mem_singleton.mp hf]
              exact .inr ⟨i, hpc⟩
      · cases h
  | stop i =>
      dsimp only [Outbound.step] at h
      split at h
      · cases h
        exact ⟨rfl, rfl, fun f hf => .inl hf, fun j f hj =>
          .inl (hgoto { q with stop := true } i .stopping (by simp) j f hj)⟩
      · cases h
        exact ⟨rfl, rfl, fun f hf => .inl hf, fun j f hj =>
          .inl (hgoto { q with stop := true } i .stopping (by simp) j f hj)⟩
      · cases h
  | clear i =>
      dsimp only [Outbound.step] at h
      split at h
      · cases h
        exact ⟨rfl, rfl, fun f hf => .inl hf, fun j f hj =>
          .inl (hgoto q.clearQueue i .idle (by simp) j f hj)⟩
      · cases h
  | _ => cases ha

/-- What such threads do to the queue they do in the pipeline. -/
theorem run_threads {s : Pipe} {q : Outbound} {calls : List Outbound.Action} (hthreads : ∀ a ∈ calls, isThread a = true)
    (hrun : Lts.run Outbound.step s.out calls = some q) :
    Lts.run step s (calls.map .thread) = some { s with out := q } := by
  induction calls generalizing s with
  | nil =>
      cases hrun
      rfl
  | cons a calls ih =>
      obtain ⟨q', hstep, hrest⟩ := Lts.run_cons.mp hrun
      refine Lts.run_cons.mpr ⟨{ s with out := q' }, ?_, ?_⟩
      · simp [step, hthreads a List.mem_cons_self, hstep]
      · exact ih (s := { s with out := q' }) (fun b hb => hthreads b (List.mem_cons_of_mem a hb)) hrest

/-! ## What arrives -/

/-- What every interleaving keeps. -/
structure Delivers (s : Pipe) : Prop where
  accounted : s.out.Accounted
  made : ∀ f ∈ s.out.accepted, Made f
  queueing : ∀ i f, s.out.pc i = .queueing f → Made f
  /-- A writer that is in its loop and not sending has sent all of the frames it took. -/
  idle : s.writerDone = false → s.out.writerInFlight = false → s.unsent = []
  returned : s.returned <+: s.out.written
  /-- What is in the stream, and what the writer has still to send or has given up, are the frames that are to be
      returned. -/
  stream : s.readerDone = false → ∃ later, s.out.written = s.returned ++ later ∧
    Awaits later (s.channel.extend s.unsent)

theorem Delivers.start : Delivers {} where
  accounted := .start
  made := nofun
  queueing := nofun
  idle := fun _ _ => rfl
  returned := List.prefix_rfl
  stream := fun _ => ⟨[], rfl, nofun, rfl, List.nil_prefix⟩

/-- The writer takes the next frame: it is the last one to be returned now. -/
theorem awaits_take {later : List Frame} {c : Channel} {frame : Frame} (h : Awaits later (c.extend []))
    (hmade : Made frame) : Awaits (later ++ [frame]) (c.extend (wire frame)) where
  made := by
    intro f hf
    rcases List.mem_append.mp hf with hf | hf
    · exact h.made f hf
    · rw [List.mem_singleton.mp hf]
      exact hmade
  conserved := by
    have hconserved := h.conserved
    simp only [Channel.extend, List.append_nil] at hconserved ⊢
    rw [← List.append_assoc, hconserved]
    simp
  within := by
    cases later with
    | nil =>
        have hnil := h.eq_nil.1
        rw [show (c.extend (wire frame)).recvBuffer = [] from hnil]
        exact List.nil_prefix
    | cons f rest => exact h.within

/-- **Every step keeps what arrives in order.** -/
theorem Delivers.step {s s' : Pipe} (h : s.Delivers) {a : Action} (hstep : s.step a = some s')
    (hmade : ∀ i f, a = .thread (.queue i f) → Made f) : s'.Delivers := by
  cases a with
  | thread a =>
      dsimp only [Pipe.step] at hstep
      split_ifs at hstep with ha
      obtain ⟨q, hq, rfl⟩ := Option.map_eq_some_iff.mp hstep
      obtain ⟨hwritten, hflight, haccepted, hqueueing⟩ := thread_step hq ha
      refine ⟨h.accounted.step (Outbound.step_cases hq), fun f hf => ?_, fun i f hf => ?_, ?_, ?_, ?_⟩
      · rcases haccepted f hf with hf | ⟨i, hi⟩
        · exact h.made f hf
        · exact h.queueing i f hi
      · rcases hqueueing i f hf with hf | rfl
        · exact h.queueing i f hf
        · exact hmade i f rfl
      · rw [hflight]
        exact h.idle
      · rw [hwritten]
        exact h.returned
      · rw [hwritten]
        exact h.stream
  | take =>
      dsimp only [Pipe.step] at hstep
      split_ifs at hstep with hbusy hstop
      · cases hstep
        exact ⟨h.accounted, h.made, h.queueing, nofun, h.returned, h.stream⟩
      · obtain ⟨hdone, hflight⟩ : s.writerDone = false ∧ s.out.writerInFlight = false := by simpa using hbusy
        have hstop : s.out.stop = false := by simpa using hstop
        split at hstep
        · cases hstep
          exact h
        · next frame rest hqueue =>
            cases hstep
            have horder := h.accounted.order (h.accounted.not_cleared hstop)
            have hframe : Made frame := by
              refine h.made frame ?_
              rw [horder, hqueue]
              exact List.mem_append_right _ List.mem_cons_self
            refine ⟨h.accounted.take hstop hqueue, h.made, h.queueing, nofun,
              h.returned.trans (List.prefix_append _ _), fun hreader => ?_⟩
            obtain ⟨later, hlater, hawaits⟩ := h.stream hreader
            rw [h.idle hdone hflight] at hawaits
            refine ⟨later ++ [frame], ?_, awaits_take hawaits hframe⟩
            show s.out.written ++ [frame] = _
            rw [hlater, List.append_assoc]
  | write n =>
      dsimp only [Pipe.step] at hstep
      split_ifs at hstep with hsending
      obtain ⟨hflight, -⟩ : s.out.writerInFlight = true ∧ s.unsent.isEmpty = false := by simpa using hsending
      cases hstep
      refine ⟨h.accounted, h.made, h.queueing, fun _ hidle => ?_, h.returned, fun hreader => ?_⟩
      · exact absurd (hflight.symm.trans hidle) nofun
      · obtain ⟨later, hlater, hawaits⟩ := h.stream hreader
        refine ⟨later, hlater, ?_⟩
        have hsame : (s.channel.extend (s.unsent.take (n + 1))).extend (s.unsent.drop (n + 1)) =
            s.channel.extend s.unsent := by
          simp [Channel.extend, List.append_assoc]
        rw [hsame]
        exact hawaits
  | sent =>
      dsimp only [Pipe.step] at hstep
      split_ifs at hstep with hsending
      obtain ⟨-, hempty⟩ : s.out.writerInFlight = true ∧ s.unsent = [] := by simpa using hsending
      cases hstep
      exact ⟨{ h.accounted with }, h.made, h.queueing, fun _ _ => hempty, h.returned, h.stream⟩
  | sendFails =>
      dsimp only [Pipe.step] at hstep
      split_ifs at hstep
      cases hstep
      exact ⟨{ h.accounted with }, h.made, h.queueing, nofun, h.returned, h.stream⟩
  | read x =>
      dsimp only [Pipe.step] at hstep
      split_ifs at hstep with hreader
      obtain ⟨hreader, hlabel⟩ : s.readerDone = false ∧ isMislabelled x = false := by simpa using hreader
      obtain ⟨later, hlater, hawaits⟩ := h.stream hreader
      have hround := hawaits.readOnce x
      generalize hread : s.channel.readOnce maxFramePayload x = result at hstep hround
      obtain ⟨result, c⟩ := result
      rcases hround with ⟨f, rest, rfl, rfl, hnext⟩ | ⟨rfl, hnext⟩ | ⟨rfl, rfl⟩ | ⟨e, rfl, rfl⟩
      · cases hstep
        refine ⟨h.accounted, h.made, h.queueing, h.idle, ⟨rest, ?_⟩, fun _ => ⟨rest, ?_, hnext⟩⟩
        · rw [hlater, List.append_assoc]
          rfl
        · rw [hlater, List.append_assoc]
          rfl
      · cases hstep
        exact ⟨h.accounted, h.made, h.queueing, h.idle, h.returned, fun _ => ⟨later, hlater, hnext⟩⟩
      · cases hstep
        exact ⟨h.accounted, h.made, h.queueing, h.idle, h.returned, fun _ => ⟨later, hlater, hawaits⟩⟩
      · cases hstep
        refine ⟨h.accounted, h.made, h.queueing, h.idle, h.returned, fun hgoes => ?_⟩
        simp [isMislabelled] at hlabel
        simp [hlabel] at hgoes

/-- **The pipeline delivers in order.** Threads queue frames that `make_frame` made within `kMaxFramePayload`, which
    neither `queue_outbound` nor `send_frame` checks, and stop the connection; the writer writes in pieces and fails
    at any byte; the reader reads in pieces, times out and goes on, or loses the connection. In every interleaving:
    the frames the reader has returned are the first of the frames that were accepted, unchanged; as long as it reads,
    a call of `recv_frame` returns the next one, or fails for want of bytes or with the connection, never over the
    framing; and when nothing was dropped, the writer is idle and the stream is empty, all accepted frames have been
    returned. A call of `send_all`, and one of `queue_outbound` as the core sees it, is a run of the pipeline. -/
theorem pipe_delivers {actions : List Action} {s : Pipe} (hrun : Lts.run step {} actions = some s)
    (hmade : ∀ i f, .thread (.queue i f) ∈ actions → Made f) :
    s.returned <+: s.out.accepted ∧
      (s.readerDone = false → ∀ io,
        (∃ f, (s.channel.recvFrame maxFramePayload io).1 = .ok f ∧ s.returned ++ [f] <+: s.out.accepted) ∨
        (s.channel.recvFrame maxFramePayload io).1 = .error Channel.recvTimeout ∨
        ∃ e, .failure e ∈ io ∧ (s.channel.recvFrame maxFramePayload io).1 = .error e) ∧
      (s.out.cleared = false → s.out.outbound = [] → s.out.writerInFlight = false → s.writerDone = false →
        s.readerDone = false → s.channel = ⟨[], []⟩ → s.returned = s.out.accepted) ∧
      (s.out.writerInFlight = true → s.unsent ≠ [] → ∀ acquired timeoutMs rounds,
        ∃ later, Lts.run step s later = some (s.sendReturns (sendAll acquired timeoutMs rounds s.unsent))) ∧
      ∀ (D : Type) (env : Env) (c : Coordinator D) (conn : ConnId) (requestId : UInt64) (m : Message D) (i : Nat)
        (frame : Frame), s.out.pc i = .idle → c.isStopped conn = s.out.stop →
        env.outboundFull c.sends = s.out.overflow frame →
        ∃ later s', Lts.run step s later = some s' ∧ s'.out.pc i = .idle ∧
          (c.queueOutbound env conn requestId m).isStopped conn = s'.out.stop ∧
          (s'.out.accepted = s.out.accepted ++ [frame] ↔
            (c.queueOutbound env conn requestId m).effects = .queued conn requestId m :: c.effects) := by
  have h : s.Delivers := by
    refine Lts.run_preserves_of_mem (P := fun a => ∀ i f, a = .thread (.queue i f) → Made f)
      (fun _ _ _ hx hc hstep => hx.step hstep hc) .start ?_ hrun
    rintro a ha i f rfl
    exact hmade i f ha
  refine ⟨h.returned.trans h.accounted.written, fun hreader io => ?_, ?_, ?_, ?_⟩
  · obtain ⟨later, hlater, hawaits⟩ := h.stream hreader
    refine (hawaits.recvFrame io).imp ?_ id
    rintro ⟨f, rest, rfl, hframe⟩
    refine ⟨f, hframe, List.IsPrefix.trans ⟨rest, ?_⟩ h.accounted.written⟩
    rw [hlater, List.append_assoc]
    rfl
  · intro hcleared hempty hidle hwriter hreader hchannel
    obtain ⟨later, hlater, hawaits⟩ := h.stream hreader
    -- There is no byte left that could belong to a frame.
    have hnone : later.flatMap wire = [] := by
      rw [← hawaits.conserved, hchannel, h.idle hwriter hidle]
      rfl
    have hnil : later = [] := by
      cases later with
      | nil => rfl
      | cons f rest =>
          have hlength := congrArg List.length (List.append_eq_nil_iff.mp hnone).1
          rw [Channel.length_wire, headerSize] at hlength
          simp at hlength
    rw [h.accounted.order hcleared, hempty, hlater, hnil]
    simp
  · intro hflight hunsent acquired timeoutMs rounds
    obtain ⟨sizes, last, -, hsends⟩ := sendAll_run acquired timeoutMs rounds hflight hunsent
    exact ⟨_, hsends⟩
  · intro D env c conn requestId m i frame hidle hstop hfull
    obtain ⟨calls, q, hcalls, hq, hback, hstopped, hqueued⟩ :=
      Outbound.queueOutbound_refines env c conn requestId m hidle hstop hfull
    refine ⟨_, _, run_threads (fun a ha => ?_) hq, hback, hstopped, hqueued⟩
    rcases hcalls a ha with rfl | rfl | rfl | rfl <;> rfl

namespace Demo

def first : Frame := makeFrame 4 .node ⟨0, 7⟩ 1 [10, 20, 30]

def second : Frame := makeFrame 5 .node ⟨0, 7⟩ 2 []

/-- Two threads queue a frame each. The first frame is sent and read in pieces; sending the second one fails inside
    its header, and the reader waits for the rest. -/
def brokenSend : List Action :=
  [.thread (.queue 0 first), .thread (.queue 1 second), .thread (.enqueue 0), .take, .write 9, .read (.chunk 99),
    .thread (.enqueue 1), .read .timeout, .write 99, .sent, .read (.chunk 99), .take, .write 19, .read (.chunk 4),
    .sendFails, .read (.chunk 99), .read (.chunk 99), .read (.chunk 99), .read .timeout]

theorem made_of_mem_brokenSend {i : Nat} {f : Frame} (h : .thread (.queue i f) ∈ brokenSend) : Made f := by
  have hframe : f = first ∨ f = second := by
    simp only [brokenSend, List.mem_cons, Action.thread.injEq, Outbound.Action.queue.injEq] at h
    grind
  rcases hframe with rfl | rfl
  · exact ⟨_, _, _, _, _, by decide, rfl⟩
  · exact ⟨_, _, _, _, _, by decide, rfl⟩

end Demo

theorem pipe_delivers_brokenSend :
    ∃ s : Pipe, Lts.run step {} Demo.brokenSend = some s ∧ s.returned = [Demo.first] ∧
      s.out.accepted = [Demo.first, Demo.second] ∧ s.writerDone = true ∧ s.returned <+: s.out.accepted := by
  have hfacts : ((Lts.run step {} Demo.brokenSend).map fun s => (s.returned, s.out.accepted, s.writerDone)) =
      some ([Demo.first], [Demo.first, Demo.second], true) := by
    decide +kernel
  obtain ⟨s, hs, hvalues⟩ := Option.map_eq_some_iff.mp hfacts
  obtain ⟨hreturned, hvalues⟩ := Prod.mk.inj hvalues
  obtain ⟨haccepted, hdone⟩ := Prod.mk.inj hvalues
  exact ⟨s, hs, hreturned, haccepted, hdone, (pipe_delivers hs fun _ _ => Demo.made_of_mem_brokenSend).1⟩

end Pipe

end ComputeFabric
