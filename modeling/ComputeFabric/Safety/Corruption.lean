import ComputeFabric.Core.Checksum
import ComputeFabric.Persist.Format
import ComputeFabric.Protocol.Frame

/-!
# `Safety.Corruption` — damaged frames and damaged files

A frame header and a store file carry checksums, and their readers accept nothing but what the writer would have
written for what they return (`decodeHeader_ok`, `Store.load_ok`). So damage is seen as soon as it changes the
checksum or the size without changing the other, and a checksum changes under any damage inside four consecutive
bytes (`Crc32.compute_ne`).
-/

namespace ComputeFabric

open Crc32 (DiffersIn)

theorem exists_error {X : Type} {r : Except Error X} (h : ∀ x, r ≠ .ok x) : ∃ e, r = .error e := by
  cases r with
  | error e => exact ⟨e, rfl⟩
  | ok x => exact absurd rfl (h x)

/-! ## Frames -/

theorem drop_encodeHeader (h : FrameHeader) : (encodeHeader h).drop (headerSize - 4) = putU32 h.headerChecksum := by
  rw [encodeHeader]
  exact List.drop_left' (length_encodeFields h)

/-- Damage before the checksum field is damage of what the checksum is taken of. -/
theorem differsIn_zeroChecksum {lo hi : Nat} {x y : List UInt8} (hx : x.length = headerSize)
    (hbefore : hi ≤ headerSize - 4) (h : DiffersIn lo hi x y) : DiffersIn lo hi (zeroChecksum x) (zeroChecksum y) where
  length_eq := by simp [zeroChecksum, h.length_eq]
  ne := by
    intro heq
    have htake : x.take (headerSize - 4) = y.take (headerSize - 4) := (List.append_inj' heq rfl).1
    refine h.ne ?_
    rw [← List.take_append_drop (headerSize - 4) x, ← List.take_append_drop (headerSize - 4) y, htake,
      h.drop_eq hbefore]
  outside i hi := by
    have hy : y.length = headerSize := h.length_eq ▸ hx
    unfold zeroChecksum
    by_cases hfield : i < headerSize - 4
    · rw [List.getElem?_append_left (by rw [List.length_take]; omega),
        List.getElem?_append_left (by rw [List.length_take]; omega), List.getElem?_take, List.getElem?_take,
        h.outside i hi]
    · rw [List.getElem?_append_right (by rw [List.length_take]; omega),
        List.getElem?_append_right (by rw [List.length_take]; omega), List.length_take, List.length_take, hx, hy]

/-- **Frame integrity.** What `make_frame` builds is decoded as it was and accepted; a payload that is damaged inside
    four consecutive bytes is refused, and so is a header that is damaged inside four consecutive bytes that are
    all before the checksum field or all in it. -/
theorem frame_integrity (messageType : UInt16) (senderKind : SenderKind) (senderId : Id128) (requestId : UInt64)
    {payload : List UInt8} (hpayload : payload.length ≤ maxFramePayload.toNat) :
    let f := makeFrame messageType senderKind senderId requestId payload
    decodeHeader (encodeHeader f.header) = .ok f.header ∧ validateFrame f = .ok () ∧
    (∀ (damaged : List UInt8) (lo hi : Nat), hi ≤ lo + 4 → DiffersIn lo hi payload damaged →
      ∃ e, validateFrame ⟨f.header, damaged⟩ = .error e) ∧
    (∀ (damaged : List UInt8) (lo hi : Nat), hi ≤ lo + 4 → hi ≤ 41 ∨ 41 ≤ lo ∧ hi ≤ 45 →
      DiffersIn lo hi (encodeHeader f.header) damaged → ∃ e, decodeHeader damaged = .error e) := by
  intro f
  have hdecode : decodeHeader (encodeHeader f.header) = .ok f.header :=
    decodeHeader_makeFrame messageType senderKind senderId requestId hpayload
  refine ⟨hdecode, validateFrame_makeFrame messageType senderKind senderId requestId hpayload, ?_, ?_⟩
  · intro damaged lo hi hwindow hdiffers
    refine exists_error fun u hok => ?_
    obtain ⟨-, -, -, hchecksum⟩ := validateFrame_ok hok
    exact Crc32.compute_ne hwindow hdiffers hchecksum.symm
  · intro damaged lo hi hwindow hplace hdiffers
    refine exists_error fun h hok => ?_
    obtain ⟨hbytes, hchecksum⟩ := decodeHeader_ok hok
    have hsent := (decodeHeader_ok hdecode).2
    rcases hplace with hbefore | ⟨hfield, -⟩
    · -- the checksum field is as it was, so the checksum is of other bytes than before
      have hsame : f.header.headerChecksum = h.headerChecksum := by
        have hdrop := hdiffers.drop_eq (n := headerSize - 4) hbefore
        rw [hbytes, drop_encodeHeader, drop_encodeHeader] at hdrop
        exact putU32_injective hdrop
      refine Crc32.compute_ne hwindow (differsIn_zeroChecksum (length_encodeHeader _) hbefore hdiffers) ?_
      rw [hsent, hchecksum, hsame]
    · -- the checksum is of the same bytes as before, so the field is as it was
      have htake := hdiffers.take_eq (n := headerSize - 4) hfield
      have hsame : f.header.headerChecksum = h.headerChecksum := by
        rw [← hsent, ← hchecksum, zeroChecksum, zeroChecksum, htake]
      refine hdiffers.ne ?_
      rw [← List.take_append_drop (headerSize - 4) (encodeHeader f.header),
        ← List.take_append_drop (headerSize - 4) damaged, htake]
      conv_rhs => rw [hbytes, drop_encodeHeader, ← hsame]
      rw [drop_encodeHeader, hbytes]

/-- One byte of a payload. -/
theorem frame_integrity_byte : ∃ e, validateFrame ⟨(makeFrame 4 .node ⟨0, 7⟩ 1 [10, 20, 30]).header, [10, 21, 30]⟩ =
    .error e := by
  have hpayload : ([10, 20, 30] : List UInt8).length ≤ maxFramePayload.toNat := by decide
  obtain ⟨-, -, hdamaged, -⟩ := frame_integrity 4 .node ⟨0, 7⟩ 1 hpayload
  refine hdamaged [10, 21, 30] 1 2 (by decide) ⟨rfl, by decide, fun i hi => ?_⟩
  match i with
  | 0 => rfl
  | 1 => omega
  | i + 2 => rfl

/-! ## Files -/

section Files

variable {D : Type} [DoubleBits D]

namespace Store

/-- The header of a file tells the size of its body and the checksum. -/
theorem take_withHeader_inj {b c : List UInt8} (h : (withHeader b).take 20 = (withHeader c).take 20) :
    UInt64.ofNat b.length = UInt64.ofNat c.length ∧ Crc32.compute b = Crc32.compute c := by
  have htake : ∀ body : List UInt8, (withHeader body).take 20 =
      (putU32 magic ++ putU32 formatVersion) ++
        (putU64 (UInt64.ofNat body.length) ++ putU32 (Crc32.compute body)) := by
    intro body
    have hsplit : withHeader body = ((putU32 magic ++ putU32 formatVersion) ++
        (putU64 (UInt64.ofNat body.length) ++ putU32 (Crc32.compute body))) ++ body := by
      simp [withHeader]
    rw [hsplit]
    exact List.take_left' (by simp)
  rw [htake, htake] at h
  obtain ⟨hsize, hcrc⟩ := List.append_inj (List.append_cancel_left h) (by simp)
  exact ⟨putU64_injective hsize, putU32_injective hcrc⟩

/-- Two files with the same header, of sizes that fit in 64 bits, have the same size. -/
theorem length_eq_of_take {b c : List UInt8} (h : (withHeader b).take 20 = (withHeader c).take 20)
    (hb : (withHeader b).length < 2 ^ 64) (hc : (withHeader c).length < 2 ^ 64) :
    (withHeader b).length = (withHeader c).length := by
  have hsize := congrArg UInt64.toNat (take_withHeader_inj h).1
  rw [length_withHeader] at hb hc ⊢
  rw [length_withHeader]
  rw [UInt64.toNat_ofNat', UInt64.toNat_ofNat', Nat.mod_eq_of_lt (by omega), Nat.mod_eq_of_lt (by omega)] at hsize
  omega

/-- Files one of which begins with the other. -/
theorem eq_of_prefix {b c : List UInt8} (h : withHeader b <+: withHeader c) (hb : (withHeader b).length < 2 ^ 64)
    (hc : (withHeader c).length < 2 ^ 64) : withHeader b = withHeader c := by
  have htake : (withHeader b).take 20 = (withHeader c).take 20 := by
    obtain ⟨more, hmore⟩ := h
    rw [← hmore, List.take_append_of_le_length]
    rw [length_withHeader]
    exact Nat.le_add_right 20 _
  exact h.eq_of_length (length_eq_of_take htake hb hc)

/-- A file that is accepted has the header of its body, and its size fits in 64 bits. -/
theorem exists_body_of_load {bytes : List UInt8} {d : DurableState D} (h : load bytes = .ok d) :
    ∃ c, bytes = withHeader c ∧ bytes.length < 2 ^ 64 := by
  obtain ⟨hbytes, hlimit⟩ := load_ok h
  have hmax : maxFileSize.toNat = 268435456 := rfl
  exact ⟨bytes.drop 20, hbytes, by omega⟩

theorem drop_withHeader (b : List UInt8) : (withHeader b).drop 20 = b := by
  have hsplit : withHeader b = (putU32 magic ++ (putU32 formatVersion ++ (putU64 (UInt64.ofNat b.length) ++
      putU32 (Crc32.compute b)))) ++ b := by
    simp [withHeader]
  rw [hsplit]
  exact List.drop_left' (by simp)

end Store

open Store (withHeader)

/-- **Corruption of a store file is detected.** The file is a `std::vector`, so its size fits in 64 bits. No proper
    beginning and no proper continuation of it is accepted, nor the file damaged inside four consecutive bytes that
    are all in the header or all in the body. -/
theorem store_corruption_detected (d : DurableState D) (hmemory : (Store.save d).length < 2 ^ 64) :
    (∀ bytes, bytes <+: Store.save d → bytes ≠ Store.save d →
      ∃ e, (Store.load bytes : Except Error (DurableState D)) = .error e) ∧
    (∀ bytes, Store.save d <+: bytes → bytes ≠ Store.save d →
      ∃ e, (Store.load bytes : Except Error (DurableState D)) = .error e) ∧
    (∀ (bytes : List UInt8) (lo hi : Nat), hi ≤ lo + 4 → hi ≤ 20 ∨ 20 ≤ lo → DiffersIn lo hi (Store.save d) bytes →
      ∃ e, (Store.load bytes : Except Error (DurableState D)) = .error e) := by
  refine ⟨fun bytes hprefix hne => ?_, fun bytes hprefix hne => ?_, fun bytes lo hi hwindow hplace hdiffers => ?_⟩
  · refine exists_error fun d' hok => hne ?_
    obtain ⟨c, rfl, hfits⟩ := Store.exists_body_of_load hok
    exact Store.eq_of_prefix hprefix hfits hmemory
  · refine exists_error fun d' hok => hne ?_
    obtain ⟨c, rfl, hfits⟩ := Store.exists_body_of_load hok
    exact (Store.eq_of_prefix hprefix hmemory hfits).symm
  · refine exists_error fun d' hok => ?_
    obtain ⟨c, rfl, -⟩ := Store.exists_body_of_load hok
    rcases hplace with hheader | hbody
    · -- the body is as it was, and the header is that of the body
      have hsame := hdiffers.drop_eq hheader
      rw [Store.save, Store.drop_withHeader, Store.drop_withHeader] at hsame
      exact hdiffers.ne (by rw [Store.save, hsame])
    · -- the checksum is as it was, and the body is not
      have hchecksum := (Store.take_withHeader_inj (hdiffers.take_eq hbody)).2
      refine @Crc32.compute_ne (lo - 20) (hi - 20) (by omega) _ _ ?_ hchecksum
      have hdropped := hdiffers.drop hbody
      rwa [Store.save, Store.drop_withHeader, Store.drop_withHeader] at hdropped

end Files

/-- The file of a state with a task, an attempt and a placement, cut short after 40 bytes, and with one byte of its
    body changed. -/
theorem store_corruption_sample :
    (∃ e, (Store.load ((Store.save Store.sample).take 40) : Except Error (DurableState UInt64)) = .error e) ∧
      ∃ e, (Store.load ((Store.save Store.sample).set 100 255) : Except Error (DurableState UInt64)) = .error e := by
  have hlength : (Store.save Store.sample).length = 692 := by decide +kernel
  have hbyte : (Store.save Store.sample)[100]? = some 0 := by decide +kernel
  obtain ⟨hshort, -, hchanged⟩ := store_corruption_detected Store.sample (by rw [hlength]; decide)
  refine ⟨hshort _ (List.take_prefix _ _) ?_, hchanged _ 100 101 (by decide) (by decide) ⟨?_, ?_, ?_⟩⟩
  · intro heq
    have := congrArg List.length heq
    rw [List.length_take, hlength] at this
    exact absurd this (by decide)
  · exact List.length_set.symm
  · intro heq
    rw [heq, List.getElem?_set_self (by rw [hlength]; decide)] at hbyte
    exact absurd hbyte (by decide)
  · intro i hi
    exact (List.getElem?_set_ne (by omega)).symm

end ComputeFabric
