import Mathlib

/-!
# `Lib.Crc` — cyclic redundancy checks

A reflected CRC of width `w`, bit by bit and with a table for each byte.

- **Bit by bit.** `bitStep` divides by the polynomial, `byteStep` takes in a byte. Both are linear over exclusive
  or, so a byte step is a shift by eight and an entry for the byte shifted out (`byteStep_eq`).
- **By table.** `tableStep` reads the entry from a table, which may be any function. If no two entries agree in their
  top byte (`Separates`), a difference in the register is never lost, and bytes can be told apart by the register as
  long as they all fit in it: strings that differ inside a window of `w` bits have different checksums
  (`foldl_tableStep_ne`).
- **A wrong entry.** Where the table differs from `entry`, the error goes through the rest of the division like any
  other word (`foldl_tableStep_eq`).
-/

namespace Crc

variable {w : Nat}

/-! ## Bit by bit -/

/-- One bit of the division; the lowest power of the polynomial is its top bit. -/
def bitStep (poly x : BitVec w) : BitVec w := (x >>> 1) ^^^ (if x.getLsbD 0 then poly else 0#w)

/-- Eight bits of the division. -/
def shiftOut (poly x : BitVec w) : BitVec w := (bitStep poly)^[8] x

/-- A byte is added into the low bits and divided. -/
def byteStep (poly x : BitVec w) (b : BitVec 8) : BitVec w := shiftOut poly (x ^^^ b.setWidth w)

/-- The checksum: the register starts with `init`, and `final` is added to the result. -/
def checksum (poly init final : BitVec w) (data : List (BitVec 8)) : BitVec w :=
  data.foldl (byteStep poly) init ^^^ final

/-- What the division makes of a byte that is shifted out. -/
def entry (poly : BitVec w) (i : BitVec 8) : BitVec w := shiftOut poly (i.setWidth w)

theorem bitStep_xor (poly x y : BitVec w) : bitStep poly (x ^^^ y) = bitStep poly x ^^^ bitStep poly y := by
  apply BitVec.eq_of_getLsbD_eq
  intro i hi
  have hbit : ∀ c : Bool, (if c then poly else 0#w).getLsbD i = (c && poly.getLsbD i) := by
    intro c
    cases c <;> simp
  have hlinear : ∀ a b c d e : Bool, ((a ^^ b) ^^ ((c ^^ d) && e)) = ((a ^^ (c && e)) ^^ (b ^^ (d && e))) := by decide
  simp only [bitStep, BitVec.getLsbD_xor, BitVec.getLsbD_ushiftRight, hbit]
  exact hlinear _ _ _ _ _

theorem iterate_bitStep_xor (poly : BitVec w) (n : Nat) (x y : BitVec w) :
    (bitStep poly)^[n] (x ^^^ y) = (bitStep poly)^[n] x ^^^ (bitStep poly)^[n] y := by
  induction n generalizing x y with
  | zero => rfl
  | succ n ih => rw [Function.iterate_succ_apply, Function.iterate_succ_apply, Function.iterate_succ_apply,
      bitStep_xor, ih]

theorem shiftOut_xor (poly x y : BitVec w) : shiftOut poly (x ^^^ y) = shiftOut poly x ^^^ shiftOut poly y :=
  iterate_bitStep_xor poly 8 x y

/-- Zeros are shifted out without a trace. -/
theorem iterate_bitStep_shiftLeft (poly x : BitVec w) {n : Nat} (hn : n ≤ 8) :
    (bitStep poly)^[n] ((x >>> 8) <<< n) = x >>> 8 := by
  induction n with
  | zero => simp
  | succ n ih =>
      have hone : bitStep poly ((x >>> 8) <<< (n + 1)) = (x >>> 8) <<< n := by
        apply BitVec.eq_of_getLsbD_eq
        intro i hi
        by_cases hlast : i + 1 < w
        · simp [bitStep, hi, Nat.add_comm 1 i, hlast]
        · have hout : w ≤ 8 + (i - n) := by omega
          simp [bitStep, Nat.add_comm 1 i, hlast, BitVec.getLsbD_of_ge _ _ hout]
      rw [Function.iterate_succ_apply, hone]
      exact ih (by omega)

/-- A word is its low byte and the rest. -/
theorem eq_high_xor_low (x : BitVec w) : x = ((x >>> 8) <<< 8) ^^^ (x.setWidth 8).setWidth w := by
  apply BitVec.eq_of_getLsbD_eq
  intro i hi
  by_cases hlow : i < 8
  · simp [hi, hlow]
  · simp [hi, hlow, Nat.add_sub_cancel' (Nat.le_of_not_lt hlow)]

/-- **Eight bits at once**: a shift, and the entry of the byte that is shifted out. -/
theorem shiftOut_eq (poly x : BitVec w) : shiftOut poly x = (x >>> 8) ^^^ entry poly (x.setWidth 8) := by
  conv_lhs => rw [eq_high_xor_low x, shiftOut_xor]
  rw [shiftOut, iterate_bitStep_shiftLeft poly x le_rfl, entry]

theorem entry_xor (poly : BitVec w) (i j : BitVec 8) : entry poly (i ^^^ j) = entry poly i ^^^ entry poly j := by
  rw [entry, BitVec.setWidth_xor, shiftOut_xor, entry, entry]

/-! ## By table -/

/-- A byte by table. -/
def tableStep (table : BitVec 8 → BitVec w) (x : BitVec w) (b : BitVec 8) : BitVec w :=
  (x >>> 8) ^^^ table (x.setWidth 8 ^^^ b)

/-- With the right entries, the table step is the byte step. -/
theorem byteStep_eq (hw : 8 ≤ w) (poly x : BitVec w) (b : BitVec 8) :
    byteStep poly x b = tableStep (entry poly) x b := by
  have hbyte : (b.setWidth w) >>> 8 = 0#w := by
    apply BitVec.eq_of_getLsbD_eq
    intro i hi
    simp
  have hindex : (x ^^^ b.setWidth w).setWidth 8 = x.setWidth 8 ^^^ b := by
    rw [BitVec.setWidth_xor, BitVec.setWidth_setWidth_of_le _ hw, BitVec.setWidth_eq]
  rw [byteStep, shiftOut_eq, BitVec.ushiftRight_xor_distrib, hbyte, BitVec.xor_zero, hindex, tableStep]

/-! ## Errors that are seen -/

/-- No two entries agree in their top byte. -/
def Separates (table : BitVec 8 → BitVec w) : Prop := ∀ i j, table i >>> (w - 8) = table j >>> (w - 8) → i = j

section Window

variable {table : BitVec 8 → BitVec w} (htable : Separates table) (hw : 8 ≤ w)

include htable hw

/-- The top byte of the register is the top byte of the entry. -/
theorem top_ne {i j : BitVec 8} (hne : i ≠ j) (x y : BitVec w) :
    ((x >>> 8) ^^^ table i) >>> (w - 8) ≠ ((y >>> 8) ^^^ table j) >>> (w - 8) := by
  have hzero : ∀ z : BitVec w, (z >>> 8) >>> (w - 8) = 0#w := by
    intro z
    rw [← BitVec.shiftRight_add]
    exact BitVec.ushiftRight_eq_zero (by omega)
  intro heq
  rw [BitVec.ushiftRight_xor_distrib, BitVec.ushiftRight_xor_distrib, hzero, hzero, BitVec.zero_xor,
    BitVec.zero_xor] at heq
  exact hne (htable i j heq)

/-- Registers that differ in the bits from `p + 8` on differ in those from `p` on after any byte. -/
theorem tableStep_ne_above {x y : BitVec w} {p : Nat} (hp : p + 8 ≤ w) (hne : x >>> (p + 8) ≠ y >>> (p + 8))
    (a b : BitVec 8) : tableStep table x a >>> p ≠ tableStep table y b >>> p := by
  unfold tableStep
  intro heq
  by_cases hindex : x.setWidth 8 ^^^ a = y.setWidth 8 ^^^ b
  · rw [hindex, BitVec.ushiftRight_xor_distrib, BitVec.ushiftRight_xor_distrib, BitVec.xor_left_inj,
      ← BitVec.shiftRight_add, ← BitVec.shiftRight_add, Nat.add_comm 8 p] at heq
    exact hne heq
  · refine top_ne htable hw hindex x y ?_
    have hmore := congrArg (fun z : BitVec w => z >>> (w - 8 - p)) heq
    simpa only [← BitVec.shiftRight_add, show p + (w - 8 - p) = w - 8 by omega] using hmore

/-- Different registers stay different under the same byte. -/
theorem tableStep_ne {x y : BitVec w} (hne : x ≠ y) (b : BitVec 8) : tableStep table x b ≠ tableStep table y b := by
  by_cases hlow : x.setWidth 8 = y.setWidth 8
  · -- then they differ above the byte that is shifted out
    have hhigh : x >>> (0 + 8) ≠ y >>> (0 + 8) := by
      intro heq
      rw [Nat.zero_add] at heq
      refine hne ?_
      rw [eq_high_xor_low x, eq_high_xor_low y, heq, hlow]
    simpa using tableStep_ne_above htable hw (by omega) hhigh b b
  · intro heq
    have hindex : x.setWidth 8 ^^^ b ≠ y.setWidth 8 ^^^ b := by rwa [Ne, BitVec.xor_left_inj]
    exact top_ne htable hw hindex x y (congrArg (fun z : BitVec w => z >>> (w - 8)) heq)

theorem foldl_tableStep_ne_of_ne {x y : BitVec w} (hne : x ≠ y) (data : List (BitVec 8)) :
    data.foldl (tableStep table) x ≠ data.foldl (tableStep table) y := by
  induction data generalizing x y with
  | nil => exact hne
  | cons b data ih => exact ih (tableStep_ne htable hw hne b)

theorem foldl_tableStep_ne_above {x y : BitVec w} {u v : List (BitVec 8)} (hlen : u.length = v.length)
    (hfit : 8 * u.length ≤ w) (hne : x >>> (8 * u.length) ≠ y >>> (8 * u.length)) :
    u.foldl (tableStep table) x ≠ v.foldl (tableStep table) y := by
  induction u generalizing x y v with
  | nil =>
      obtain rfl := List.length_eq_zero_iff.mp hlen.symm
      simpa using hne
  | cons a u ih =>
      obtain ⟨b, v, rfl⟩ := List.exists_cons_of_length_eq_add_one hlen.symm
      rw [List.length_cons, Nat.mul_succ] at hfit hne
      rw [List.foldl_cons, List.foldl_cons]
      exact ih (by simpa using hlen) (by omega) (tableStep_ne_above htable hw hfit hne a b)

/-- Different strings that fit in the register lead from the same register to different ones. -/
theorem foldl_tableStep_ne_of_fit (x : BitVec w) {u v : List (BitVec 8)} (hlen : u.length = v.length)
    (hfit : 8 * u.length ≤ w) (hne : u ≠ v) : u.foldl (tableStep table) x ≠ v.foldl (tableStep table) x := by
  induction u generalizing x v with
  | nil => exact absurd (List.length_eq_zero_iff.mp hlen.symm).symm hne
  | cons a u ih =>
      obtain ⟨b, v, rfl⟩ := List.exists_cons_of_length_eq_add_one hlen.symm
      rw [List.length_cons, Nat.mul_succ] at hfit
      have hlen' : u.length = v.length := by simpa using hlen
      by_cases hab : a = b
      · subst hab
        exact ih _ hlen' (by omega) fun huv => hne (congrArg (a :: ·) huv)
      · -- the top bytes of the registers differ, and the rest of the window is too short to lose that
        have hindex : x.setWidth 8 ^^^ a ≠ x.setWidth 8 ^^^ b := by rwa [Ne, BitVec.xor_right_inj]
        rw [List.foldl_cons, List.foldl_cons]
        refine foldl_tableStep_ne_above htable hw hlen' (by omega) fun heq => top_ne htable hw hindex x x ?_
        have hmore := congrArg (fun z : BitVec w => z >>> (w - 8 - 8 * u.length)) heq
        simpa only [← BitVec.shiftRight_add, show 8 * u.length + (w - 8 - 8 * u.length) = w - 8 by omega,
          tableStep] using hmore

/-- **Burst errors are seen.** Strings that differ only inside a window that fits in the register leave different
    registers. -/
theorem foldl_tableStep_ne (x : BitVec w) {u v : List (BitVec 8)} (hlen : u.length = v.length)
    (hfit : 8 * u.length ≤ w) (hne : u ≠ v) (before after : List (BitVec 8)) :
    (before ++ u ++ after).foldl (tableStep table) x ≠ (before ++ v ++ after).foldl (tableStep table) x := by
  simp only [List.foldl_append]
  exact foldl_tableStep_ne_of_ne htable hw (foldl_tableStep_ne_of_fit htable hw _ hlen hfit hne) after

end Window

/-! ## Wrong entries -/

section Wrong

variable (poly : BitVec w) (table : BitVec 8 → BitVec w)

/-- How far a table is off. -/
def defect (i : BitVec 8) : BitVec w := table i ^^^ entry poly i

/-- What wrong entries add to the register in the end: each error is divided with all that follows. -/
def damage : BitVec w → List (BitVec 8) → BitVec w
  | _, [] => 0#w
  | x, b :: data => (shiftOut poly)^[data.length] (defect poly table (x.setWidth 8 ^^^ b)) ^^^
      damage (tableStep table x b) data

theorem iterate_shiftOut_xor (n : Nat) (x y : BitVec w) :
    (shiftOut poly)^[n] (x ^^^ y) = (shiftOut poly)^[n] x ^^^ (shiftOut poly)^[n] y := by
  induction n generalizing x y with
  | zero => rfl
  | succ n ih => rw [Function.iterate_succ_apply, Function.iterate_succ_apply, Function.iterate_succ_apply,
      shiftOut_xor, ih]

theorem iterate_shiftOut_zero (n : Nat) : (shiftOut poly)^[n] 0#w = 0#w := by
  have h := iterate_shiftOut_xor poly n 0#w 0#w
  rwa [BitVec.xor_self, BitVec.xor_self] at h

/-- A difference in the register goes through the division by itself. -/
theorem foldl_byteStep_xor (x y : BitVec w) (data : List (BitVec 8)) :
    data.foldl (byteStep poly) (x ^^^ y) = data.foldl (byteStep poly) x ^^^ (shiftOut poly)^[data.length] y := by
  induction data generalizing x y with
  | nil => rfl
  | cons b data ih =>
      have hone : byteStep poly (x ^^^ y) b = byteStep poly x b ^^^ shiftOut poly y := by
        rw [byteStep, byteStep, ← shiftOut_xor, BitVec.xor_assoc, BitVec.xor_comm y, ← BitVec.xor_assoc]
      rw [List.foldl_cons, hone, ih, List.foldl_cons, List.length_cons, Function.iterate_succ_apply]

/-- **The register under a table with wrong entries** is the right one, with the damage added. -/
theorem foldl_tableStep_eq (hw : 8 ≤ w) (x : BitVec w) (data : List (BitVec 8)) :
    data.foldl (tableStep table) x = data.foldl (byteStep poly) x ^^^ damage poly table x data := by
  induction data generalizing x with
  | nil => simp [damage]
  | cons b data ih =>
      have hone : tableStep table x b = byteStep poly x b ^^^ defect poly table (x.setWidth 8 ^^^ b) := by
        rw [byteStep_eq hw, tableStep, tableStep, defect, BitVec.xor_assoc, BitVec.xor_comm (table _),
          ← BitVec.xor_assoc (entry _ _), BitVec.xor_self, BitVec.zero_xor]
      rw [List.foldl_cons, ih, hone, foldl_byteStep_xor, ← hone, damage, BitVec.xor_assoc, List.foldl_cons]

end Wrong

end Crc
