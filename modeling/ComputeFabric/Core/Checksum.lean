import ComputeFabric.Core.Digest
import ComputeFabric.Lib.Crc

/-!
# `Core.Checksum` — what `Crc32` computes, and what it tells apart

The loop of `Crc32::update` is a table step of the library (`toBitVec_step`). All entries of its table but one are
those of the polynomial `0xEDB88320`: entry 42 is `0xDBBB9F86` in place of `0xDBBBC9D6`. So `Crc32::compute` is not
CRC-32 for strings that make the loop read that entry (`compute_eq_ieee_iff`).

The wrong entry does no harm to the detection of errors: the top bytes of the 256 entries are still all different
(`separates`), so strings that differ inside four consecutive bytes have different checksums (`compute_ne`).
-/

namespace ComputeFabric

namespace Crc32

/-! ## CRC-32, bit by bit -/

/-- The polynomial of IEEE 802.3, reflected. -/
def polynomial : BitVec 32 := 0xEDB88320#32

/-- CRC-32 of IEEE 802.3 and zlib. -/
def ieee (data : List UInt8) : UInt32 :=
  ⟨Crc.checksum polynomial 0xFFFFFFFF#32 0xFFFFFFFF#32 (data.map UInt8.toBitVec)⟩

/-! ## The table -/

/-- The table of the source, by byte. -/
def entryAt (i : BitVec 8) : BitVec 32 := (table.getD i.toNat 0).toBitVec

/-- The index of the source, by byte. -/
theorem toNat_index (crc : UInt32) (byte : UInt8) :
    ((crc ^^^ byte.toUInt32) &&& 0xFF).toNat = (crc.toBitVec.setWidth 8 ^^^ byte.toBitVec).toNat := by
  have hmask : (0xFF : UInt32).toNat = 2 ^ 8 - 1 := rfl
  rw [UInt32.toNat_and, hmask, Nat.and_two_pow_sub_one_eq_mod, UInt32.toNat_xor, UInt8.toNat_toUInt32,
    BitVec.toNat_xor, BitVec.toNat_setWidth, Nat.xor_mod_two_pow, Nat.mod_eq_of_lt byte.toNat_lt]
  rfl

theorem toBitVec_step (crc : UInt32) (byte : UInt8) :
    (step crc byte).toBitVec = Crc.tableStep entryAt crc.toBitVec byte.toBitVec := by
  rw [step, toNat_index]
  rfl

theorem toBitVec_update (crc : UInt32) (data : List UInt8) :
    (update crc data).toBitVec = (data.map UInt8.toBitVec).foldl (Crc.tableStep entryAt) crc.toBitVec := by
  induction data generalizing crc with
  | nil => rfl
  | cons b data ih =>
      rw [List.map_cons, List.foldl_cons, ← toBitVec_step]
      exact ih (step crc b)

/-- Entry `i` of the table is off only for `i = 42`, and only entry 0 has an empty top byte. -/
def entryOk (e : UInt32) (i : Nat) : Bool :=
  e.toBitVec ^^^ Crc.entry polynomial (BitVec.ofNat 8 i) = (if i = 42 then 0x5650#32 else 0#32) &&
    (e.toBitVec >>> 24 != 0#32 || i = 0)

-- the table is gone through once, as a list
theorem entryOk_table : (table.toList.zipIdx.all fun p => entryOk p.1 p.2) = true := by
  decide +kernel

theorem size_table : table.size = 256 := by decide +kernel

theorem entryOk_entryAt (i : BitVec 8) :
    Crc.defect polynomial entryAt i = (if i = 42#8 then 0x5650#32 else 0#32) ∧ (entryAt i >>> 24 = 0#32 → i = 0#8) := by
  have hsize : i.toNat < table.size := size_table ▸ i.isLt
  have hmem : (table.getD i.toNat 0, i.toNat) ∈ table.toList.zipIdx := by
    rw [List.mem_zipIdx_iff_getElem?]
    simp [hsize]
  have hok := List.all_eq_true.mp entryOk_table _ hmem
  simp only [entryOk, Bool.and_eq_true, decide_eq_true_eq, Bool.or_eq_true, bne_iff_ne, BitVec.ofNat_toNat,
    BitVec.setWidth_eq] at hok
  obtain ⟨hdefect, htop⟩ := hok
  refine ⟨?_, fun hzero => ?_⟩
  · have h42 : i = 42#8 ↔ i.toNat = 42 := BitVec.toNat_inj.symm
    rw [Crc.defect, entryAt, hdefect]
    simp only [h42]
  · rcases htop with hne | hindex
    · exact absurd hzero hne
    · exact BitVec.eq_of_toNat_eq hindex

/-- The error is below the top byte. -/
theorem top_entryAt (i : BitVec 8) : entryAt i >>> 24 = Crc.entry polynomial i >>> 24 := by
  have hsplit : entryAt i = Crc.defect polynomial entryAt i ^^^ Crc.entry polynomial i := by
    rw [Crc.defect, BitVec.xor_assoc, BitVec.xor_self, BitVec.xor_zero]
  have hlow : Crc.defect polynomial entryAt i >>> 24 = 0#32 := by
    rw [(entryOk_entryAt i).1]
    split_ifs <;> rfl
  rw [hsplit, BitVec.ushiftRight_xor_distrib, hlow, BitVec.zero_xor]

/-- **No two entries of the table agree in their top byte.** -/
theorem separates : Crc.Separates entryAt := by
  intro i j heq
  -- entries are linear up to the error, so it is enough that only entry 0 has an empty top byte
  have hzero : entryAt (i ^^^ j) >>> 24 = 0#32 := by
    rw [top_entryAt, Crc.entry_xor, BitVec.ushiftRight_xor_distrib, ← top_entryAt, ← top_entryAt]
    have heq' : entryAt i >>> 24 = entryAt j >>> 24 := heq
    rw [heq', BitVec.xor_self]
  exact BitVec.xor_eq_zero_iff.mp ((entryOk_entryAt (i ^^^ j)).2 hzero)

/-! ## Corrupted strings -/

/-- The strings have the same length and differ, but not outside the bytes from `lo` to below `hi`. -/
structure DiffersIn (lo hi : Nat) (x y : List UInt8) : Prop where
  length_eq : x.length = y.length
  ne : x ≠ y
  outside : ∀ i, i < lo ∨ hi ≤ i → x[i]? = y[i]?

namespace DiffersIn

variable {lo hi : Nat} {x y : List UInt8}

/-- What comes before the window is the same. -/
theorem take_eq (h : DiffersIn lo hi x y) {n : Nat} (hn : n ≤ lo) : x.take n = y.take n := by
  apply List.ext_getElem?
  intro i
  rw [List.getElem?_take, List.getElem?_take]
  split_ifs with hi
  · exact h.outside i (.inl (hi.trans_le hn))
  · rfl

/-- What comes after the window is the same. -/
theorem drop_eq (h : DiffersIn lo hi x y) {n : Nat} (hn : hi ≤ n) : x.drop n = y.drop n := by
  apply List.ext_getElem?
  intro i
  rw [List.getElem?_drop, List.getElem?_drop]
  exact h.outside (n + i) (.inr (hn.trans (Nat.le_add_right n i)))

/-- What is left of the strings when a part before the window is taken off. -/
theorem drop (h : DiffersIn lo hi x y) {n : Nat} (hn : n ≤ lo) :
    DiffersIn (lo - n) (hi - n) (x.drop n) (y.drop n) where
  length_eq := by rw [List.length_drop, List.length_drop, h.length_eq]
  ne heq := by
    refine h.ne ?_
    rw [← List.take_append_drop n x, ← List.take_append_drop n y, h.take_eq hn, heq]
  outside i hi := by
    rw [List.getElem?_drop, List.getElem?_drop]
    exact h.outside (n + i) (by omega)

/-- The strings around the window. -/
theorem split (h : DiffersIn lo hi x y) : ∃ before u v after, x = before ++ u ++ after ∧ y = before ++ v ++ after ∧
    u.length = v.length ∧ u.length ≤ hi - lo ∧ u ≠ v := by
  have hparts : ∀ z : List UInt8, z = z.take lo ++ (z.drop lo).take (hi - lo) ++ z.drop (lo + (hi - lo)) := by
    intro z
    rw [← List.drop_drop, List.append_assoc, List.take_append_drop, List.take_append_drop]
  have hbefore := h.take_eq le_rfl
  have hafter := h.drop_eq (n := lo + (hi - lo)) (by omega)
  refine ⟨x.take lo, (x.drop lo).take (hi - lo), (y.drop lo).take (hi - lo), x.drop (lo + (hi - lo)), hparts x, ?_,
    ?_, ?_, ?_⟩
  · rw [hbefore, hafter]
    exact hparts y
  · simp only [List.length_take, List.length_drop, h.length_eq]
  · exact List.length_take_le _ _
  · intro hwindow
    refine h.ne ?_
    rw [hparts x, hparts y, hbefore, hafter, hwindow]

end DiffersIn

/-- **Strings that differ inside four consecutive bytes have different checksums.** -/
theorem compute_ne {lo hi : Nat} (hwindow : hi ≤ lo + 4) {x y : List UInt8} (h : DiffersIn lo hi x y) :
    compute x ≠ compute y := by
  obtain ⟨before, u, v, after, rfl, rfl, hlen, hfit, hne⟩ := h.split
  have hburst := Crc.foldl_tableStep_ne separates (by decide) (0xFFFFFFFF : UInt32).toBitVec
    (u := u.map UInt8.toBitVec) (v := v.map UInt8.toBitVec) (by simp [hlen]) (by rw [List.length_map]; omega)
    (fun heq => hne (List.map_injective_iff.mpr (fun a b => UInt8.toBitVec_inj.mp) heq))
    (before.map UInt8.toBitVec) (after.map UInt8.toBitVec)
  rw [← List.map_append, ← List.map_append, ← List.map_append, ← List.map_append, ← toBitVec_update,
    ← toBitVec_update] at hburst
  intro heq
  exact hburst (congrArg UInt32.toBitVec ((UInt32.xor_left_inj _).mp heq))

/-! ## Where `compute` is not CRC-32 -/

/-- The rounds in which the loop of `update` reads entry 42, each by the number of bytes that follow. -/
def hits : UInt32 → List UInt8 → List Nat
  | _, [] => []
  | crc, b :: data => (if (crc ^^^ b.toUInt32) &&& 0xFF = 42 then [data.length] else []) ++ hits (step crc b) data

/-- The loop never reads entry 42. -/
def Spared (data : List UInt8) : Prop := hits 0xFFFFFFFF data = []

/-- The loop reads entry 42, and the errors cancel: each is divided with the bytes that follow, and they add up to
    nothing. -/
def Cancels (data : List UInt8) : Prop :=
  hits 0xFFFFFFFF data ≠ [] ∧
    ((hits 0xFFFFFFFF data).map fun k => (Crc.shiftOut polynomial)^[k] 0x5650#32).foldr (· ^^^ ·) 0#32 = 0#32

/-- The loop reads entry 42 when the index is 42. -/
theorem index_eq_iff (crc : UInt32) (b : UInt8) :
    (crc ^^^ b.toUInt32) &&& 0xFF = 42 ↔ crc.toBitVec.setWidth 8 ^^^ b.toBitVec = 42#8 := by
  rw [← UInt32.toNat_inj, toNat_index, ← BitVec.toNat_inj]
  rfl

theorem damage_eq (crc : UInt32) (data : List UInt8) :
    Crc.damage polynomial entryAt crc.toBitVec (data.map UInt8.toBitVec) =
      ((hits crc data).map fun k => (Crc.shiftOut polynomial)^[k] 0x5650#32).foldr (· ^^^ ·) 0#32 := by
  induction data generalizing crc with
  | nil => rfl
  | cons b data ih =>
      rw [List.map_cons, Crc.damage, ← toBitVec_step, ih, (entryOk_entryAt _).1, hits, List.length_map]
      by_cases hhit : (crc ^^^ b.toUInt32) &&& 0xFF = 42
      · rw [if_pos hhit, if_pos ((index_eq_iff crc b).mp hhit)]
        rfl
      · rw [if_neg hhit, if_neg fun hindex => hhit ((index_eq_iff crc b).mpr hindex), Crc.iterate_shiftOut_zero,
          BitVec.zero_xor, List.nil_append]

/-- **`Crc32::compute` is CRC-32** of a string exactly when its loop never reads the wrong entry, or reads it so often
    that the errors cancel. -/
theorem compute_eq_ieee_iff (data : List UInt8) : compute data = ieee data ↔ Spared data ∨ Cancels data := by
  have hcompute : (compute data).toBitVec = (ieee data).toBitVec ^^^
      ((hits 0xFFFFFFFF data).map fun k => (Crc.shiftOut polynomial)^[k] 0x5650#32).foldr (· ^^^ ·) 0#32 := by
    rw [compute, UInt32.toBitVec_xor, toBitVec_update, Crc.foldl_tableStep_eq polynomial entryAt (by decide),
      damage_eq, ieee, Crc.checksum, BitVec.xor_assoc, BitVec.xor_assoc]
    exact congrArg _ (BitVec.xor_comm _ _)
  have hclean : compute data = ieee data ↔
      ((hits 0xFFFFFFFF data).map fun k => (Crc.shiftOut polynomial)^[k] 0x5650#32).foldr (· ^^^ ·) 0#32 = 0#32 := by
    rw [← UInt32.toBitVec_inj, hcompute]
    constructor
    · intro heq
      have := congrArg ((ieee data).toBitVec ^^^ ·) heq
      simpa [← BitVec.xor_assoc] using this
    · intro hzero
      rw [hzero, BitVec.xor_zero]
  rw [hclean]
  by_cases hspared : Spared data
  · have hnone : hits 0xFFFFFFFF data = [] := hspared
    simp [hspared, hnone]
  · exact ⟨fun hzero => .inr ⟨hspared, hzero⟩, fun h => (h.resolve_left hspared).2⟩

/-- The test vector of the source reads nine entries, and not this one. -/
theorem compute_test_vector : compute (text "123456789") = ieee (text "123456789") ∧
    ieee (text "123456789") = 0xCBF43926 :=
  ⟨(compute_eq_ieee_iff _).mpr (.inl (by decide +kernel : hits 0xFFFFFFFF (text "123456789") = [])), by decide +kernel⟩

/-- The first byte selects entry 42. -/
theorem compute_ne_ieee : compute [0xD5] ≠ ieee [0xD5] := by
  decide +kernel

end Crc32

end ComputeFabric
