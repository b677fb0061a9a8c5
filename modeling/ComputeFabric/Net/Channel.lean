import ComputeFabric.Protocol.Frame

/-!
# `Net.Channel` — frames over a byte stream

`Channel::send_frame` and `Channel::recv_frame` of `channel.cpp`, on an open socket. The receiver collects bytes in
`recv_buffer_`, first a header and then the payload the header announces, and keeps what it has when a call runs
into its deadline; the next call goes on from there.

What the socket and the clock do is not up to the channel: an `Io` is the outcome of one attempt to read, and a
call is a list of them, with the deadline at its end. `incoming` is what was sent and has not been received.

The invariant is `Awaits`: what is in the buffer and what is still to come are the frames that were not returned
yet, and the buffer reaches at most to the end of the first of them.
-/

namespace ComputeFabric

/-- The outcome of `recv_some`. A read returns at least one byte, at most as many as were asked for, and only
    bytes that were sent: `chunk n` asks for `n + 1` within these limits. -/
inductive Io where
  | chunk (n : Nat)
  | timeout
  | failure (e : Error)

/-- The outcome is one of a connection that stays up. -/
def Io.isUp : Io → Bool
  | failure _ => false
  | _ => true

structure Channel where
  recvBuffer : List UInt8
  incoming : List UInt8
deriving DecidableEq

namespace Channel

/-- `send_frame`: the bytes handed to the socket. -/
def wire (f : Frame) : List UInt8 := encodeHeader f.header ++ f.payload

def recvTimeout : Error := ⟨.timeout, text "recv timeout"⟩

/-- The part of the loop of `recv_frame` before it reads: the call is over, or so many bytes are required. -/
def examine (maxFrameBytes : UInt32) (buffer : List UInt8) : Except Error Frame ⊕ Nat :=
  if buffer.length < headerSize then .inr headerSize
  else match decodeHeader (buffer.take headerSize) with
    | .error e => .inl (.error e)
    | .ok h =>
        if h.payloadLength > maxFrameBytes then .inl (malformed "payload exceeds channel frame limit")
        else if buffer.length = headerSize + h.payloadLength.toNat then
          let frame : Frame := ⟨h, buffer.drop headerSize⟩
          .inl (match validateFrame frame with
            | .error e => .error e
            | .ok () => .ok frame)
        else .inr (headerSize + h.payloadLength.toNat)

/-- `required_size - recv_buffer_.size()`, a `size_t`. -/
def needed (required : Nat) (buffer : List UInt8) : Nat := (UInt64.ofNat required - UInt64.ofNat buffer.length).toNat

/-- A read of `n + 1` bytes, cut to what is needed and to what was sent. -/
def deliver (c : Channel) (required n : Nat) : Channel :=
  let count := min (n + 1) (min (needed required c.recvBuffer) c.incoming.length)
  { recvBuffer := c.recvBuffer ++ c.incoming.take count
    incoming := c.incoming.drop count }

/-- `recv_frame`; the end of the list is the deadline. Nothing sent is nothing to read before the deadline. -/
def recvFrame (maxFrameBytes : UInt32) : List Io → Channel → Except Error Frame × Channel
  | io, c => match examine maxFrameBytes c.recvBuffer with
    | .inl result => (result, { c with recvBuffer := [] })
    | .inr required => match io with
      | [] => (.error recvTimeout, c)
      | .timeout :: _ => (.error recvTimeout, c)
      | .failure e :: _ => (.error e, { c with recvBuffer := [] })
      | .chunk n :: rest =>
          if c.incoming = [] then (.error recvTimeout, c)
          else recvFrame maxFrameBytes rest (c.deliver required n)

/-- A sequence of `recv_frame` calls: the results in order, and the channel afterwards. -/
def receive (maxFrameBytes : UInt32) : List (List Io) → Channel → List (Except Error Frame) × Channel
  | [], c => ([], c)
  | io :: calls, c =>
      let (result, c) := c.recvFrame maxFrameBytes io
      let (results, c) := receive maxFrameBytes calls c
      (result :: results, c)

/-- The frames among the results. -/
def returned (results : List (Except Error Frame)) : List Frame := results.filterMap Except.toOption

/-- The buffer contents a call goes through, the one it starts with first. -/
def buffers (maxFrameBytes : UInt32) : List Io → Channel → List (List UInt8)
  | io, c => c.recvBuffer :: match examine maxFrameBytes c.recvBuffer with
    | .inl _ => []
    | .inr required => match io with
      | .chunk n :: rest => if c.incoming = [] then [] else buffers maxFrameBytes rest (c.deliver required n)
      | _ => []

/-! ## The frame being received -/

/-- The frame was built by `make_frame`, with a payload of admissible size. -/
def Made (f : Frame) : Prop :=
  ∃ messageType senderKind senderId requestId payload, payload.length ≤ maxFramePayload.toNat ∧
    f = makeFrame messageType senderKind senderId requestId payload

theorem length_wire (f : Frame) : (wire f).length = headerSize + f.payload.length := by
  rw [wire, List.length_append, length_encodeHeader]

/-- Of a prefix of a frame, the loop either returns the frame, when it is all of it, or asks for more of it. -/
theorem examine_of_prefix {f : Frame} (hf : Made f) {buffer : List UInt8} (hbuffer : buffer <+: wire f) :
    (buffer = wire f ∧ examine maxFramePayload buffer = .inl (.ok f)) ∨
    (∃ required, examine maxFramePayload buffer = .inr required ∧ buffer.length < required ∧
      required ≤ (wire f).length) := by
  obtain ⟨messageType, senderKind, senderId, requestId, payload, hpayload, rfl⟩ := hf
  set f := makeFrame messageType senderKind senderId requestId payload with hf
  have hlen : f.header.payloadLength.toNat = f.payload.length := toNat_ofNat_of_le hpayload
  have hwire := length_wire f
  have hle := hbuffer.length_le
  unfold examine
  by_cases hshort : buffer.length < headerSize
  · rw [if_pos hshort]
    exact .inr ⟨headerSize, rfl, hshort, by omega⟩
  · -- the header is complete, and it is the one that was sent
    have htake : buffer.take headerSize = encodeHeader f.header := by
      obtain ⟨more, hmore⟩ := hbuffer
      have hfront := congrArg (List.take headerSize) hmore
      rw [List.take_append_of_le_length (by omega), wire, List.take_left' (length_encodeHeader _)] at hfront
      exact hfront
    rw [if_neg hshort, htake, hf, decodeHeader_makeFrame _ _ _ _ hpayload, ← hf]
    dsimp only
    have hlimit : f.header.payloadLength ≤ maxFramePayload := ofNat_le hpayload
    rw [if_neg (UInt32.not_lt.mpr hlimit), hlen]
    by_cases hall : buffer.length = headerSize + f.payload.length
    · have hbuf : buffer = wire f := hbuffer.eq_of_length (hall.trans hwire.symm)
      have hdrop : buffer.drop headerSize = f.payload := by
        rw [hbuf, wire, List.drop_left' (length_encodeHeader _)]
      have hvalid : validateFrame f = .ok () := validateFrame_makeFrame _ _ _ _ hpayload
      rw [if_pos hall, hdrop, hvalid]
      exact .inl ⟨hbuf, rfl⟩
    · rw [if_neg hall]
      exact .inr ⟨_, rfl, by omega, by omega⟩

theorem length_wire_lt {f : Frame} (hf : Made f) : (wire f).length < 2 ^ 64 := by
  obtain ⟨messageType, senderKind, senderId, requestId, payload, hpayload, rfl⟩ := hf
  have hmax : maxFramePayload.toNat = 8388608 := rfl
  rw [length_wire]
  simp only [makeFrame, headerSize]
  omega

/-- The subtraction of sizes does not wrap. -/
theorem needed_eq {required : Nat} {buffer : List UInt8} (hle : buffer.length ≤ required) (hlt : required < 2 ^ 64) :
    needed required buffer = required - buffer.length := by
  have hsub : UInt64.ofNat buffer.length ≤ UInt64.ofNat required := by
    rw [UInt64.le_iff_toNat_le, UInt64.toNat_ofNat', UInt64.toNat_ofNat']
    omega
  rw [needed, UInt64.toNat_sub_of_le _ _ hsub, UInt64.toNat_ofNat', UInt64.toNat_ofNat']
  omega

/-! ## The invariant -/

/-- The wire bytes of the frame being received; none when there is no frame to come. -/
def current (later : List Frame) : List UInt8 := (later.head?.map wire).getD []

/-- The frames in `later` are still to be returned: they are what the buffer holds and what is to come, and the
    buffer does not reach beyond the first of them. -/
structure Awaits (later : List Frame) (c : Channel) : Prop where
  made : ∀ f ∈ later, Made f
  conserved : c.recvBuffer ++ c.incoming = later.flatMap wire
  within : c.recvBuffer <+: current later

namespace Awaits

variable {later : List Frame} {c : Channel}

/-- With no frame to come there is nothing in the channel. -/
theorem eq_nil (h : Awaits [] c) : c.recvBuffer = [] ∧ c.incoming = [] :=
  List.append_eq_nil_iff.mp h.conserved

theorem returnFrame {f : Frame} (h : Awaits (f :: later) c) (hall : c.recvBuffer = wire f) :
    Awaits later { c with recvBuffer := [] } where
  made g hg := h.made g (List.mem_cons_of_mem f hg)
  conserved := by
    have hconserved := h.conserved
    rw [hall, List.flatMap_cons] at hconserved
    exact List.append_cancel_left hconserved
  within := List.nil_prefix

/-- A read up to at most the end of the frame keeps the invariant. -/
theorem deliver {f : Frame} {required : Nat} (h : Awaits (f :: later) c) (hlt : c.recvBuffer.length < required)
    (hle : required ≤ (wire f).length) (n : Nat) : Awaits (f :: later) (c.deliver required n) where
  made := h.made
  conserved := by
    simp only [Channel.deliver]
    rw [List.append_assoc, List.take_append_drop]
    exact h.conserved
  within := by
    have hneeded : needed required c.recvBuffer = required - c.recvBuffer.length :=
      needed_eq hlt.le (hle.trans_lt (length_wire_lt (h.made f List.mem_cons_self)))
    -- both are prefixes of all there is, and the read stops where the frame does
    have hall : (c.deliver required n).recvBuffer <+: (f :: later).flatMap wire := by
      refine ⟨(c.deliver required n).incoming, ?_⟩
      simp only [Channel.deliver]
      rw [List.append_assoc, List.take_append_drop]
      exact h.conserved
    have hframe : wire f <+: (f :: later).flatMap wire := ⟨later.flatMap wire, rfl⟩
    refine List.prefix_of_prefix_length_le hall hframe ?_
    show _ ≤ (wire f).length
    simp only [Channel.deliver, List.length_append, List.length_take, hneeded]
    omega

end Awaits

/-- The frame being received is not complete. -/
def Incomplete (later : List Frame) (c : Channel) : Prop := later ≠ [] → c.recvBuffer.length < (current later).length

/-! ## Calls -/

/-- **One round of the loop.** The frame is complete and returned, or it is incomplete and a read goes on with it. -/
theorem Awaits.round {later : List Frame} {c : Channel} (h : Awaits later c) :
    (∃ f rest, later = f :: rest ∧ examine maxFramePayload c.recvBuffer = .inl (.ok f) ∧
      Awaits rest { c with recvBuffer := [] }) ∨
    (∃ required, examine maxFramePayload c.recvBuffer = .inr required ∧ Incomplete later c ∧
      ∀ n, c.incoming ≠ [] → Awaits later (c.deliver required n)) := by
  cases later with
  | nil =>
      obtain ⟨hbuffer, hincoming⟩ := h.eq_nil
      rw [hbuffer]
      exact .inr ⟨headerSize, rfl, fun hne => absurd rfl hne, fun n hne => absurd hincoming hne⟩
  | cons f rest =>
      rcases examine_of_prefix (h.made f List.mem_cons_self) h.within with ⟨hall, hdone⟩ | ⟨required, hmore, hlt, hle⟩
      · exact .inl ⟨f, rest, rfl, hdone, h.returnFrame hall⟩
      · exact .inr ⟨required, hmore, fun _ => hlt.trans_le hle, fun n _ => h.deliver hlt hle n⟩

/-- **One call.** It returns the first frame to come, or it times out with the frame incomplete. -/
theorem recvFrame_spec {io : List Io} (hio : ∀ x ∈ io, x.isUp = true) {later : List Frame} {c : Channel}
    (h : Awaits later c) :
    (∃ f rest, later = f :: rest ∧ (c.recvFrame maxFramePayload io).1 = .ok f ∧
      Awaits rest (c.recvFrame maxFramePayload io).2 ∧ (c.recvFrame maxFramePayload io).2.recvBuffer = []) ∨
    ((c.recvFrame maxFramePayload io).1 = .error recvTimeout ∧ Awaits later (c.recvFrame maxFramePayload io).2 ∧
      Incomplete later (c.recvFrame maxFramePayload io).2) := by
  induction io generalizing c with
  | nil =>
      rcases h.round with ⟨f, rest, hlater, hdone, hnext⟩ | ⟨required, hmore, hpart, -⟩
      · rw [recvFrame, hdone]
        exact .inl ⟨f, rest, hlater, rfl, hnext, rfl⟩
      · rw [recvFrame, hmore]
        exact .inr ⟨rfl, h, hpart⟩
  | cons x io ih =>
      rcases h.round with ⟨f, rest, hlater, hdone, hnext⟩ | ⟨required, hmore, hpart, hdeliver⟩
      · rw [recvFrame, hdone]
        exact .inl ⟨f, rest, hlater, rfl, hnext, rfl⟩
      · rw [recvFrame, hmore]
        cases x with
        | timeout => exact .inr ⟨rfl, h, hpart⟩
        | failure e => exact absurd (hio _ List.mem_cons_self) (by simp [Io.isUp])
        | chunk n =>
            dsimp only
            split_ifs with hempty
            · exact .inr ⟨rfl, h, hpart⟩
            · exact ih (fun y hy => hio y (List.mem_cons_of_mem _ hy)) (hdeliver n hempty)

/-- During a call the buffer does not reach beyond the frame being received. -/
theorem buffers_spec {io : List Io} {later : List Frame} {c : Channel} (h : Awaits later c) :
    ∀ b ∈ c.buffers maxFramePayload io, b <+: current later := by
  induction io generalizing c with
  | nil =>
      intro b hb
      rcases h.round with ⟨f, rest, -, hdone, -⟩ | ⟨required, hmore, -, -⟩
      · rw [buffers, hdone] at hb
        exact List.mem_singleton.mp hb ▸ h.within
      · rw [buffers, hmore] at hb
        exact List.mem_singleton.mp hb ▸ h.within
  | cons x io ih =>
      intro b hb
      rcases h.round with ⟨f, rest, -, hdone, -⟩ | ⟨required, hmore, -, hdeliver⟩
      · rw [buffers, hdone] at hb
        exact List.mem_singleton.mp hb ▸ h.within
      · rw [buffers, hmore] at hb
        cases x with
        | timeout => exact List.mem_singleton.mp hb ▸ h.within
        | failure e => exact List.mem_singleton.mp hb ▸ h.within
        | chunk n =>
            dsimp only at hb
            split_ifs at hb with hempty
            · exact List.mem_singleton.mp hb ▸ h.within
            · rcases List.mem_cons.mp hb with rfl | hb
              · exact h.within
              · exact ih (hdeliver n hempty) b hb

/-- An empty buffer is an incomplete frame. -/
theorem incomplete_of_nil (later : List Frame) {c : Channel} (h : c.recvBuffer = []) : Incomplete later c := by
  intro hne
  cases later with
  | nil => exact absurd rfl hne
  | cons f rest =>
      show c.recvBuffer.length < (wire f).length
      rw [h, length_wire, headerSize, List.length_nil]
      omega

/-- **A sequence of calls.** What it returns are the next frames in order, and what it does not return is still in
    the channel. -/
theorem receive_spec {calls : List (List Io)} (hcalls : ∀ io ∈ calls, ∀ x ∈ io, x.isUp = true)
    {later : List Frame} {c : Channel} (h : Awaits later c) (hpart : Incomplete later c) :
    ∃ rest, returned (c.receive maxFramePayload calls).1 ++ rest = later ∧
      Awaits rest (c.receive maxFramePayload calls).2 ∧ Incomplete rest (c.receive maxFramePayload calls).2 ∧
      ∀ r ∈ (c.receive maxFramePayload calls).1, ∀ e, r = .error e → e = recvTimeout := by
  induction calls generalizing later c with
  | nil => exact ⟨later, rfl, h, hpart, fun r hr => absurd hr List.not_mem_nil⟩
  | cons io calls ih =>
      have hrest : ∀ io ∈ calls, ∀ x ∈ io, x.isUp = true := fun y hy => hcalls y (List.mem_cons_of_mem io hy)
      have hsplit : c.receive maxFramePayload (io :: calls) =
          ((c.recvFrame maxFramePayload io).1 :: ((c.recvFrame maxFramePayload io).2.receive maxFramePayload calls).1,
            ((c.recvFrame maxFramePayload io).2.receive maxFramePayload calls).2) := rfl
      rw [hsplit]
      rcases recvFrame_spec (hcalls io List.mem_cons_self) h with
        ⟨f, next, rfl, hok, hnext, hbuffer⟩ | ⟨htimeout, hnext, hpart'⟩
      · obtain ⟨rest, hreturned, hawaits, hincomplete, herrors⟩ := ih hrest hnext (incomplete_of_nil next hbuffer)
        refine ⟨rest, ?_, hawaits, hincomplete, ?_⟩
        · rw [← hreturned, hok]
          rfl
        · intro r hr e he
          rcases List.mem_cons.mp hr with rfl | hr
          · rw [hok] at he
            cases he
          · exact herrors r hr e he
      · obtain ⟨rest, hreturned, hawaits, hincomplete, herrors⟩ := ih hrest hnext hpart'
        refine ⟨rest, ?_, hawaits, hincomplete, ?_⟩
        · rw [← hreturned, htimeout]
          rfl
        · intro r hr e he
          rcases List.mem_cons.mp hr with rfl | hr
          · rw [htimeout] at he
            exact (Except.error.inj he).symm
          · exact herrors r hr e he

/-- The receiving end of a fresh connection on which `frames` are sent. -/
def fresh (frames : List Frame) : Channel := ⟨[], frames.flatMap wire⟩

end Channel

open Channel in
/-- **Framing does not depend on chunking.** Frames are sent and received in any chunks, with timeouts anywhere, by
    any sequence of `recv_frame` calls. The frames returned are the first ones sent, in order and unchanged, and all
    of them once all bytes were received; the rest is still in the channel. No call fails other than by a timeout.
    In any further call the buffer never reaches beyond the frame that is next. -/
theorem framing_chunk_independent (frames : List Frame) (hframes : ∀ f ∈ frames, Made f) (calls : List (List Io))
    (hcalls : ∀ io ∈ calls, ∀ x ∈ io, x.isUp = true) :
    let c := ((fresh frames).receive maxFramePayload calls).2
    let results := ((fresh frames).receive maxFramePayload calls).1
    ∃ later, returned results ++ later = frames ∧
      c.recvBuffer ++ c.incoming = later.flatMap wire ∧
      (c.incoming = [] → later = []) ∧
      (∀ r ∈ results, ∀ e, r = .error e → e.code ≠ .malformedFrame) ∧
      ∀ io, ∀ b ∈ c.buffers maxFramePayload io, b <+: current later := by
  have hstart : Awaits frames (fresh frames) := ⟨hframes, rfl, List.nil_prefix⟩
  obtain ⟨later, hreturned, hawaits, hpart, herrors⟩ := receive_spec hcalls hstart (incomplete_of_nil frames rfl)
  refine ⟨later, hreturned, hawaits.conserved, ?_, ?_, fun io => buffers_spec hawaits⟩
  · -- all bytes are in the buffer, which ends before the first frame to come does
    intro hnone
    by_contra hne
    obtain ⟨f, rest, rfl⟩ := List.exists_cons_of_ne_nil hne
    have hlt := hpart hne
    have hlen := congrArg List.length hawaits.conserved
    rw [hnone, List.append_nil, List.flatMap_cons, List.length_append] at hlen
    have hcurrent : (current (f :: rest)).length = (wire f).length := rfl
    omega
  · intro r hr e he
    rw [herrors r hr e he]
    exact fun h => nomatch h

/-- Two frames, received in pieces over three calls of which the first times out inside a header. -/
theorem framing_two_frames :
    let frames := [makeFrame 4 .node ⟨0, 7⟩ 1 [10, 20, 30], makeFrame 5 .node ⟨0, 7⟩ 2 []]
    let calls := [[Io.chunk 9, .timeout], [.chunk 100, .chunk 1, .chunk 100], [.chunk 100]]
    Channel.returned ((Channel.fresh frames).receive maxFramePayload calls).1 = frames := by
  intro frames calls
  have hframes : ∀ f ∈ frames, Channel.Made f := by
    intro f hf
    rcases List.mem_cons.mp hf with rfl | hf
    · exact ⟨_, _, _, _, _, by decide, rfl⟩
    · obtain rfl := List.mem_singleton.mp hf
      exact ⟨_, _, _, _, _, by decide, rfl⟩
  obtain ⟨later, hreturned, -, hall, -, -⟩ := framing_chunk_independent frames hframes calls (by decide)
  rw [hall (by decide +kernel), List.append_nil] at hreturned
  exact hreturned

end ComputeFabric
