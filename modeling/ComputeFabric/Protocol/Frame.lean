import ComputeFabric.Core.Digest
import ComputeFabric.Protocol.Wire

/-!
# `Protocol.Frame` — frames and their headers

`frame.cpp`: a 45-byte header with two checksums in front of a payload. `decode_header` checks the magic, the size
limit and the header checksum; `validate_frame` checks the version, the length and the payload checksum.

`decodeHeader_encodeHeader` and `validateFrame_makeFrame` say that what `make_frame` builds passes both.
-/

namespace ComputeFabric

open Codec

/-- `SenderKind`, with the bytes that have no name. -/
inductive SenderKind where
  | node | client | coordinator | unlisted (v : Fin 253)
deriving DecidableEq, Inhabited

def SenderKind.toUInt8 : SenderKind → UInt8
  | node => 1
  | client => 2
  | coordinator => 3
  | unlisted v => if v.val = 0 then 0 else UInt8.ofNat (3 + v)

/-- `static_cast<SenderKind>(byte)`. -/
def SenderKind.ofUInt8 (b : UInt8) : SenderKind :=
  [unlisted ⟨0, by decide⟩, node, client, coordinator].getD b.toNat
    (unlisted ⟨(b.toNat - 3) % 253, Nat.mod_lt _ (by decide)⟩)

instance : ByteEnum SenderKind where
  toUInt8 := SenderKind.toUInt8
  ofUInt8 := SenderKind.ofUInt8
  ofUInt8_toUInt8 e := by
    cases e with
    | unlisted v => revert v; decide +kernel
    | _ => rfl

/-- `kFrameMagic`, "COMP". -/
def frameMagic : UInt32 := 0x434F4D50

/-- `kProtocolVersion`. -/
def protocolVersion : UInt16 := 1

/-- `kMaxFramePayload`: 8 MiB. -/
def maxFramePayload : UInt32 := (8 : UInt32) <<< 20

/-- `kHeaderSize`. -/
def headerSize : Nat := 45

structure FrameHeader where
  magic : UInt32
  version : UInt16
  messageType : UInt16
  requestId : UInt64
  senderKind : SenderKind
  senderId : Id128
  payloadLength : UInt32
  payloadChecksum : UInt32
  headerChecksum : UInt32
deriving DecidableEq

structure Frame where
  header : FrameHeader
  payload : List UInt8
deriving DecidableEq

/-- The bytes of a header before its own checksum. -/
def encodeFields (h : FrameHeader) : List UInt8 := List.flatten [
  putU32 h.magic,
  putU16 h.version,
  putU16 h.messageType,
  putU64 h.requestId,
  putEnum h.senderKind,
  putId h.senderId,
  putU32 h.payloadLength,
  putU32 h.payloadChecksum]

/-- `encode_header`. -/
def encodeHeader (h : FrameHeader) : List UInt8 := encodeFields h ++ putU32 h.headerChecksum

/-- The header with its checksum field set to zero. -/
def zeroChecksum (header : List UInt8) : List UInt8 := header.take (headerSize - 4) ++ List.replicate 4 0

def malformed {X : Type} (message : String) : Except Error X := .error ⟨.malformedFrame, text message⟩

def orTruncated {X : Type} (message : String) (read : Reader X) : Decoder String X := read.mapError fun _ => message

/-- The fields in wire order. The sender kind and the sender id are read unchecked: the size is known. -/
def readHeader : Decoder String FrameHeader := do
  let magic ← orTruncated "truncated magic" readU32
  let version ← orTruncated "truncated version" readU16
  let messageType ← orTruncated "truncated message type" readU16
  let requestId ← orTruncated "truncated request id" readU64
  let senderKind ← orTruncated "header size mismatch" readEnum
  let senderId ← orTruncated "header size mismatch" readId
  let payloadLength ← orTruncated "truncated payload length" readU32
  let payloadChecksum ← orTruncated "truncated payload checksum" readU32
  let headerChecksum ← orTruncated "truncated header checksum" readU32
  pure {
    magic, version, messageType, requestId, senderKind, senderId, payloadLength, payloadChecksum, headerChecksum }

/-- `decode_header`. -/
def decodeHeader (bytes : List UInt8) : Except Error FrameHeader :=
  if bytes.length ≠ headerSize then malformed "header size mismatch"
  else match readHeader.run bytes with
    | .error message => malformed message
    | .ok (h, rest) =>
        if rest ≠ [] then malformed "header trailing bytes"
        else if h.magic ≠ frameMagic then malformed "bad magic"
        else if h.payloadLength > maxFramePayload then malformed "payload exceeds maximum frame size"
        else if Crc32.compute (zeroChecksum bytes) ≠ h.headerChecksum then malformed "header checksum mismatch"
        else .ok h

/-- `make_frame`. -/
def makeFrame (messageType : UInt16) (senderKind : SenderKind) (senderId : Id128) (requestId : UInt64)
    (payload : List UInt8) : Frame :=
  let h : FrameHeader :=
    { magic := frameMagic
      version := protocolVersion
      messageType, requestId, senderKind, senderId
      payloadLength := UInt32.ofNat payload.length
      payloadChecksum := Crc32.compute payload
      headerChecksum := 0 }
  { header := { h with headerChecksum := Crc32.compute (zeroChecksum (encodeHeader h)) }
    payload }

/-- `validate_frame`. -/
def validateFrame (f : Frame) : Except Error Unit :=
  if f.header.magic ≠ frameMagic then malformed "bad magic"
  else if f.header.version ≠ protocolVersion then
    .error ⟨.protocolVersionMismatch, text "unsupported protocol version"⟩
  else if f.header.payloadLength.toNat ≠ f.payload.length then malformed "payload length mismatch"
  else if f.header.payloadLength > maxFramePayload then malformed "payload exceeds maximum frame size"
  else if Crc32.compute f.payload ≠ f.header.payloadChecksum then malformed "payload checksum mismatch"
  else .ok ()

/-! ## What is accepted -/

/-- The checks of `validate_frame`. -/
theorem validateFrame_ok {f : Frame} (h : validateFrame f = .ok ()) :
    f.header.version = protocolVersion ∧ f.header.payloadLength.toNat = f.payload.length ∧
      f.header.payloadLength ≤ maxFramePayload ∧ Crc32.compute f.payload = f.header.payloadChecksum := by
  unfold validateFrame at h
  split_ifs at h with _ hversion hlength hmax hchecksum
  all_goals first
    | exact ⟨not_ne_iff.mp hversion, not_ne_iff.mp hlength, UInt32.not_lt.mp hmax, not_ne_iff.mp hchecksum⟩
    | cases h

theorem SenderKind.toUInt8_ofUInt8 (b : UInt8) : (SenderKind.ofUInt8 b).toUInt8 = b := by
  obtain ⟨⟨i⟩⟩ := b
  revert i
  decide +kernel

theorem inverts_readHeader : Inverts readHeader encodeHeader := by
  intro bytes h rest hrun
  unfold readHeader orTruncated at hrun
  obtain ⟨magic, l₁, h₁, hrun⟩ := Decoder.run_bind_ok hrun
  obtain ⟨version, l₂, h₂, hrun⟩ := Decoder.run_bind_ok hrun
  obtain ⟨messageType, l₃, h₃, hrun⟩ := Decoder.run_bind_ok hrun
  obtain ⟨requestId, l₄, h₄, hrun⟩ := Decoder.run_bind_ok hrun
  obtain ⟨senderKind, l₅, h₅, hrun⟩ := Decoder.run_bind_ok hrun
  obtain ⟨senderId, l₆, h₆, hrun⟩ := Decoder.run_bind_ok hrun
  obtain ⟨payloadLength, l₇, h₇, hrun⟩ := Decoder.run_bind_ok hrun
  obtain ⟨payloadChecksum, l₈, h₈, hrun⟩ := Decoder.run_bind_ok hrun
  obtain ⟨headerChecksum, l₉, h₉, hrun⟩ := Decoder.run_bind_ok hrun
  obtain ⟨rfl, rfl⟩ := Prod.mk.inj (Except.ok.inj hrun)
  rw [(inverts_readU32.mapError _) _ _ _ h₁, (inverts_readU16.mapError _) _ _ _ h₂,
    (inverts_readU16.mapError _) _ _ _ h₃, (inverts_readU64.mapError _) _ _ _ h₄,
    ((inverts_readEnum SenderKind.toUInt8_ofUInt8).mapError _) _ _ _ h₅, (inverts_readId.mapError _) _ _ _ h₆,
    (inverts_readU32.mapError _) _ _ _ h₇, (inverts_readU32.mapError _) _ _ _ h₈,
    (inverts_readU32.mapError _) _ _ _ h₉]
  simp [encodeHeader, encodeFields]

/-- **A header that is accepted** is the encoding of what it is decoded to, with its own checksum. -/
theorem decodeHeader_ok {bytes : List UInt8} {h : FrameHeader} (hdecode : decodeHeader bytes = .ok h) :
    bytes = encodeHeader h ∧ Crc32.compute (zeroChecksum bytes) = h.headerChecksum := by
  unfold decodeHeader at hdecode
  split_ifs at hdecode with hsize
  · cases hdecode
  cases hrun : readHeader.run bytes with
  | error message =>
      rw [hrun] at hdecode
      cases hdecode
  | ok r =>
      rw [hrun] at hdecode
      dsimp only at hdecode
      split_ifs at hdecode with hrest hmagic hlimit hchecksum
      all_goals first
        | cases hdecode
          have hbytes := inverts_readHeader bytes r.1 r.2 hrun
          rw [not_ne_iff.mp hrest, List.append_nil] at hbytes
          exact ⟨hbytes, not_ne_iff.mp hchecksum⟩
        | cases hdecode

/-! ## What `make_frame` builds is accepted -/

theorem length_encodeFields (h : FrameHeader) : (encodeFields h).length = headerSize - 4 := by
  simp [encodeFields, putU32, putU16, putU64, putEnum, putU8, putId, headerSize]

@[simp] theorem length_encodeHeader (h : FrameHeader) : (encodeHeader h).length = headerSize := by
  rw [encodeHeader, List.length_append, length_encodeFields]
  simp [putU32, headerSize]

/-- The checksum field does not enter its own checksum. -/
theorem zeroChecksum_encodeHeader (h : FrameHeader) :
    zeroChecksum (encodeHeader h) = encodeFields h ++ List.replicate 4 0 := by
  rw [zeroChecksum, encodeHeader, ← length_encodeFields h, List.take_left]

theorem reads_readHeader (h : FrameHeader) : Reads readHeader (encodeHeader h) h := by
  have hflat : encodeHeader h = List.flatten [putU32 h.magic, putU16 h.version, putU16 h.messageType,
      putU64 h.requestId, putEnum h.senderKind, putId h.senderId, putU32 h.payloadLength,
      putU32 h.payloadChecksum, putU32 h.headerChecksum] := by
    simp [encodeHeader, encodeFields]
  rw [hflat]
  unfold readHeader
  refine Reads.cons ((reads_readU32 _).mapError _) (Reads.cons ((reads_readU16 _).mapError _) ?_)
  refine Reads.cons ((reads_readU16 _).mapError _) (Reads.cons ((reads_readU64 _).mapError _) ?_)
  refine Reads.cons ((reads_readEnum _).mapError _) (Reads.cons ((reads_readId _).mapError _) ?_)
  refine Reads.cons ((reads_readU32 _).mapError _) (Reads.cons ((reads_readU32 _).mapError _) ?_)
  exact Reads.cons ((reads_readU32 _).mapError _) (Reads.pure h)

/-- A header with the right magic, an admissible length and its own checksum is decoded as it was. -/
theorem decodeHeader_encodeHeader {h : FrameHeader} (hmagic : h.magic = frameMagic)
    (hlength : h.payloadLength ≤ maxFramePayload)
    (hchecksum : h.headerChecksum = Crc32.compute (zeroChecksum (encodeHeader h))) :
    decodeHeader (encodeHeader h) = .ok h := by
  have hread := reads_readHeader h []
  rw [List.append_nil] at hread
  rw [decodeHeader, if_neg (by simp), hread]
  dsimp only
  rw [if_neg (by simp), if_neg (by simp [hmagic]), if_neg (UInt32.not_lt.mpr hlength), if_neg (by simp [hchecksum])]

section MakeFrame

variable (messageType : UInt16) (senderKind : SenderKind) (senderId : Id128) (requestId : UInt64)
  {payload : List UInt8} (hpayload : payload.length ≤ maxFramePayload.toNat)

include hpayload

theorem decodeHeader_makeFrame :
    decodeHeader (encodeHeader (makeFrame messageType senderKind senderId requestId payload).header) =
      .ok (makeFrame messageType senderKind senderId requestId payload).header := by
  refine decodeHeader_encodeHeader rfl (ofNat_le hpayload) ?_
  simp [makeFrame, zeroChecksum_encodeHeader, encodeFields]

theorem validateFrame_makeFrame :
    validateFrame (makeFrame messageType senderKind senderId requestId payload) = .ok () := by
  have hlength : ¬(UInt32.ofNat payload.length > maxFramePayload) := UInt32.not_lt.mpr (ofNat_le hpayload)
  simp [validateFrame, makeFrame, toNat_ofNat_of_le hpayload, hlength]

end MakeFrame

end ComputeFabric
