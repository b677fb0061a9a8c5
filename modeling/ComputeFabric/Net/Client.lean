import ComputeFabric.Coordinator.Readers
import ComputeFabric.Net.Channel

/-!
# `Net.Client` — a request of a client and its answer

`FabricClient::request` of `client.cpp` after the request was sent, and the query methods over it: receive frames
until one answers the request or the deadline is over, then read its payload with the deserializer of the answer.

`readable_iff` says which answers come through. The frame must fit the limit of the receiver and the record the
limits of its deserializer; nothing else is needed, however the bytes arrive.
-/

namespace ComputeFabric

open Codec
open Channel (fresh wire)

namespace Channel

/-! ## What a call of `recv_frame` returns -/

/-- A frame that is returned was examined in a buffer filled with what was sent. -/
theorem recvFrame_ok {maxFrameBytes : UInt32} {io : List Io} {c : Channel} {f : Frame}
    (h : (c.recvFrame maxFrameBytes io).1 = .ok f) :
    ∃ buffer, buffer <+: c.recvBuffer ++ c.incoming ∧ examine maxFrameBytes buffer = .inl (.ok f) := by
  induction io generalizing c with
  | nil =>
      rw [recvFrame] at h
      cases hexamine : examine maxFrameBytes c.recvBuffer with
      | inl result =>
          rw [hexamine] at h
          exact ⟨c.recvBuffer, List.prefix_append _ _, by rw [hexamine, ← h]⟩
      | inr required =>
          rw [hexamine] at h
          cases h
  | cons x io ih =>
      rw [recvFrame] at h
      cases hexamine : examine maxFrameBytes c.recvBuffer with
      | inl result =>
          rw [hexamine] at h
          exact ⟨c.recvBuffer, List.prefix_append _ _, by rw [hexamine, ← h]⟩
      | inr required =>
          rw [hexamine] at h
          cases x with
          | timeout => cases h
          | failure e => cases h
          | chunk n =>
              dsimp only at h
              split_ifs at h
              obtain ⟨buffer, hbuffer, hok⟩ := ih h
              refine ⟨buffer, ?_, hok⟩
              simpa only [Channel.deliver, List.append_assoc, List.take_append_drop] using hbuffer

/-- The payload is what follows the header in the buffer, and it is within the limit of the receiver. -/
theorem examine_ok {maxFrameBytes : UInt32} {buffer : List UInt8} {f : Frame}
    (h : examine maxFrameBytes buffer = .inl (.ok f)) :
    f.payload = buffer.drop headerSize ∧ f.payload.length ≤ maxFramePayload.toNat := by
  unfold examine at h
  split_ifs at h with hshort
  cases hheader : decodeHeader (buffer.take headerSize) with
  | error e =>
      rw [hheader] at h
      cases h
  | ok header =>
      rw [hheader] at h
      dsimp only at h
      split_ifs at h with hlimit hall
      · cases h
      · cases hvalid : validateFrame ⟨header, buffer.drop headerSize⟩ with
        | error e =>
            rw [hvalid] at h
            cases h
        | ok u =>
            rw [hvalid] at h
            obtain rfl := Except.ok.inj (Sum.inl.inj h)
            obtain ⟨-, hlength, hmax, -⟩ := validateFrame_ok hvalid
            exact ⟨rfl, hlength ▸ UInt32.le_iff_toNat_le.mp hmax⟩

/-- A read takes at least one byte. -/
theorem length_incoming_deliver {c : Channel} {required : Nat} (hlt : c.recvBuffer.length < required)
    (hrequired : required < 2 ^ 64) (n : Nat) (hsome : c.incoming ≠ []) :
    (c.deliver required n).incoming.length < c.incoming.length := by
  have hpos : 0 < c.incoming.length := List.length_pos_iff.mpr hsome
  simp only [Channel.deliver, List.length_drop, needed_eq hlt.le hrequired]
  omega

/-- The frame is returned when the reads go on until all of it has arrived. -/
theorem recvFrame_of_chunks {f : Frame} {io : List Io} (hio : ∀ x ∈ io, ∃ n, x = .chunk n) {c : Channel}
    (h : Awaits [f] c) (hlong : c.incoming.length ≤ io.length) : (c.recvFrame maxFramePayload io).1 = .ok f := by
  have hmade : Made f := h.made f (List.mem_singleton_self f)
  -- with nothing left to arrive, the frame is complete
  have hcomplete : c.recvBuffer.length < (wire f).length → c.incoming ≠ [] := by
    intro hlt hnone
    have hconserved := h.conserved
    rw [hnone, List.append_nil, List.flatMap_cons, List.flatMap_nil, List.append_nil] at hconserved
    rw [hconserved] at hlt
    exact lt_irrefl _ hlt
  induction io generalizing c with
  | nil =>
      rcases examine_of_prefix hmade h.within with ⟨-, hdone⟩ | ⟨required, -, hlt, hle⟩
      · rw [recvFrame, hdone]
      · exact absurd (List.length_eq_zero_iff.mp (Nat.le_zero.mp hlong)) (hcomplete (hlt.trans_le hle))
  | cons x io ih =>
      rcases examine_of_prefix hmade h.within with ⟨-, hdone⟩ | ⟨required, hmore, hlt, hle⟩
      · rw [recvFrame, hdone]
      · obtain ⟨n, rfl⟩ := hio x List.mem_cons_self
        have hsome : c.incoming ≠ [] := hcomplete (hlt.trans_le hle)
        have hnext : Awaits [f] (c.deliver required n) := h.deliver hlt hle n
        have hless := length_incoming_deliver hlt (hle.trans_lt (length_wire_lt hmade)) n hsome
        rw [recvFrame, hmore]
        dsimp only
        rw [if_neg hsome]
        refine ih (fun y hy => hio y (List.mem_cons_of_mem _ hy)) hnext ?_ ?_
        · rw [List.length_cons] at hlong
          omega
        · intro hpart hnone
          have hconserved := hnext.conserved
          rw [hnone, List.append_nil, List.flatMap_cons, List.flatMap_nil, List.append_nil] at hconserved
          rw [hconserved] at hpart
          exact lt_irrefl _ hpart

end Channel

namespace FabricClient

/-- The error at the deadline. -/
def noResponse : Error := ⟨.timeout, text "no response from coordinator"⟩

/-- What `request` returns for the frame with its request id: an error response is an error, if it can be read. -/
def answer (f : Frame) : Except Error Frame :=
  if f.header.messageType = MessageType.errorResponse.code then
    match f.decode ErrorResponse.codec with
    | some e => .error ⟨.internal, e.error⟩
    | none => .ok f
  else .ok f

/-- The loop of `request`: one call of `recv_frame` a round, with its own timeout. The end of the list is the
    deadline of the request. -/
def request (req : UInt64) : List (List Io) → Channel → Except Error Frame
  | [], _ => .error noResponse
  | io :: rounds, c => match c.recvFrame maxFramePayload io with
    | (.error e, c) => if e.code = .timeout then request req rounds c else .error e
    | (.ok f, c) => if f.header.requestId = req then answer f else request req rounds c

/-- A query method: the payload of the answer, read by the deserializer of its type. -/
def query {X : Type} (codec : RecordCodec X) (req : UInt64) (rounds : List (List Io)) (c : Channel) :
    Except Error X :=
  match request req rounds c with
  | .error e => .error e
  | .ok f => match codec.deserialize.run f.payload with
    | .error failure => .error (failure.toError f.payload.length)
    | .ok (x, _) => .ok x

/-- **The frame is read as `x`** by the client that waits for it. While the connection is up, the query returns `x`
    unless its deadline comes first, and it does return it when the reads of a round go on until the frame has
    arrived. -/
structure Reads {X : Type} (codec : RecordCodec X) (req : UInt64) (f : Frame) (x : X) : Prop where
  result : ∀ rounds : List (List Io), (∀ io ∈ rounds, ∀ y ∈ io, y.isUp = true) →
    query codec req rounds (fresh [f]) = .ok x ∨ query codec req rounds (fresh [f]) = .error noResponse
  returns : ∀ (io : List Io) (rounds : List (List Io)), (∀ y ∈ io, ∃ n, y = .chunk n) →
    (wire f).length ≤ io.length → query codec req (io :: rounds) (fresh [f]) = .ok x

variable {X : Type} {codec : RecordCodec X} {req : UInt64} {f : Frame} {x : X}

theorem query_ok {rounds : List (List Io)} {c : Channel} (h : query codec req rounds c = .ok x) :
    ∃ g, request req rounds c = .ok g ∧ g.decode codec = some x := by
  unfold query at h
  cases hrequest : request req rounds c with
  | error e =>
      rw [hrequest] at h
      cases h
  | ok g =>
      rw [hrequest] at h
      refine ⟨g, rfl, ?_⟩
      unfold Frame.decode
      cases hrun : codec.deserialize.run g.payload with
      | error failure =>
          simp only [hrun] at h
          cases h
      | ok r =>
          simp only [hrun] at h
          exact congrArg some (Except.ok.inj h)

theorem query_of_request {rounds : List (List Io)} {c : Channel} (hrequest : request req rounds c = .ok f)
    (hdecode : f.decode codec = some x) : query codec req rounds c = .ok x := by
  unfold Frame.decode at hdecode
  unfold query
  rw [hrequest]
  cases hrun : codec.deserialize.run f.payload with
  | error failure =>
      rw [hrun] at hdecode
      cases hdecode
  | ok r =>
      rw [hrun] at hdecode
      simp only [hrun, Option.some.inj hdecode]

theorem answer_ok {g : Frame} (h : answer f = .ok g) : g = f := by
  unfold answer at h
  split_ifs at h
  · cases hdecode : f.decode ErrorResponse.codec with
    | none =>
        rw [hdecode] at h
        exact (Except.ok.inj h).symm
    | some e =>
        rw [hdecode] at h
        cases h
  · exact (Except.ok.inj h).symm

/-- The answer to a request of one round is the frame that was received in it. -/
theorem recvFrame_of_request {io : List Io} {c : Channel} (h : request req [io] c = .ok f) :
    (c.recvFrame maxFramePayload io).1 = .ok f := by
  unfold request at h
  rcases hcall : c.recvFrame maxFramePayload io with ⟨result, c'⟩
  cases result with
  | error e =>
      simp only [hcall, request] at h
      split_ifs at h
  | ok g =>
      simp only [hcall, request] at h
      split_ifs at h
      rw [answer_ok h]

/-- A round returns the answer or goes on. -/
theorem request_of_awaits (hreq : f.header.requestId = req) (hanswer : answer f = .ok f) {c : Channel}
    (h : Channel.Awaits [f] c) {rounds : List (List Io)} (hup : ∀ io ∈ rounds, ∀ y ∈ io, y.isUp = true) :
    request req rounds c = .ok f ∨ request req rounds c = .error noResponse := by
  induction rounds generalizing c with
  | nil => exact .inr rfl
  | cons io rounds ih =>
      unfold request
      rcases hcall : c.recvFrame maxFramePayload io with ⟨result, c'⟩
      rcases Channel.recvFrame_spec (hup io List.mem_cons_self) h with ⟨g, rest, hg, hok, -, -⟩ | ⟨htimeout, hnext, -⟩
      · obtain ⟨rfl, -⟩ := List.cons.inj hg
        rw [hcall] at hok
        subst hok
        simp only [hreq, if_pos, hanswer, true_or]
      · rw [hcall] at htimeout hnext
        subst htimeout
        simp only [Channel.recvTimeout, if_pos]
        exact ih hnext fun io hio => hup io (List.mem_cons_of_mem _ hio)

/-- **Which answers come through**: those within the limits of their deserializer, in a frame within the limit of
    the receiver. -/
theorem reads_iff (t : MessageType) (hkind : t ≠ .errorResponse) (sender : SenderKind) (senderId : Id128) :
    Reads codec req (makeFrame t.code sender senderId req (codec.serialize x)) x ↔
      codec.Bounded x ∧ (codec.serialize x).length ≤ maxFramePayload.toNat := by
  set f := makeFrame t.code sender senderId req (codec.serialize x) with hf
  have hpayload : f.payload = codec.serialize x := rfl
  constructor
  · intro h
    let io : List Io := List.replicate (wire f).length (.chunk 0)
    have hquery := h.returns io [] (fun y hy => ⟨0, List.eq_of_mem_replicate hy⟩) List.length_replicate.ge
    obtain ⟨g, hrequest, hdecode⟩ := query_ok hquery
    have hbounded := Frame.bounded_of_decode hdecode
    obtain ⟨buffer, hbuffer, hexamine⟩ := Channel.recvFrame_ok (recvFrame_of_request hrequest)
    obtain ⟨hdrop, hlimit⟩ := Channel.examine_ok hexamine
    -- what was read is the beginning of the record, and no proper beginning of it can be read
    have hprefix : g.payload <+: codec.serialize x := by
      have hwire : buffer.drop headerSize <+: (wire f).drop headerSize := by
        refine List.IsPrefix.drop ?_ headerSize
        simpa [fresh] using hbuffer
      rwa [← hdrop, wire, List.drop_left' (length_encodeHeader _)] at hwire
    have hwhole : g.payload = codec.serialize x := by
      by_contra hne
      obtain ⟨e, he⟩ := (codec.reads x hbounded).error_of_truncated hprefix hne
      rw [Frame.decode, he] at hdecode
      cases hdecode
    exact ⟨hbounded, hwhole ▸ hlimit⟩
  · rintro ⟨hbounded, hlength⟩
    have hdecode : f.decode codec = some x := Frame.decode_of_payload hbounded hpayload
    have hawaits : Channel.Awaits [f] (fresh [f]) :=
      ⟨fun g hg => List.mem_singleton.mp hg ▸ ⟨_, _, _, _, _, hlength, rfl⟩, rfl, List.nil_prefix⟩
    have hanswer : answer f = .ok f := by
      have hcode : f.header.messageType ≠ MessageType.errorResponse.code := by
        intro hsame
        have := congrArg MessageType.ofCode? hsame
        rw [show f.header.messageType = t.code from rfl, MessageType.ofCode?_code, MessageType.ofCode?_code] at this
        exact hkind (Option.some.inj this)
      rw [answer, if_neg hcode]
    constructor
    · intro rounds hup
      rcases request_of_awaits rfl hanswer hawaits hup with hok | herror
      · exact .inl (query_of_request hok hdecode)
      · exact .inr (by rw [query, show request req rounds (fresh [f]) = _ from herror])
    · intro io rounds hio hlong
      refine query_of_request ?_ hdecode
      have hcall := Channel.recvFrame_of_chunks hio hawaits (by simpa [fresh] using hlong)
      unfold request
      rcases hpair : (fresh [f]).recvFrame maxFramePayload io with ⟨result, c'⟩
      rw [hpair] at hcall
      subst hcall
      simp only [show f.header.requestId = req from rfl, if_pos, hanswer]

end FabricClient

end ComputeFabric
