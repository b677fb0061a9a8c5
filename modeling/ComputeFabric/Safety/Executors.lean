import ComputeFabric.Lib.Codec
import ComputeFabric.Node.Cuda

/-!
# `Safety.Executors` — the vector transform on the CPU and on a device

Both backends transform the same elements `x` to `x * a + b` modulo a prime and digest the sums. They were written
twice, and differ in three places:

- **The addition.** The CPU adds `b` in 32 bits, after the reduction of the product; the device in 64 bits, before
  it. A sum that reaches 2³² loses 5 on the CPU (`deviceElement_modEq`).
- **The grid.** The device launches at most 4096 blocks of 256 threads, without a loop over the rest.
- **The clamp.** Beyond 4 million elements the device transforms 4 million, and mixes that number into the digest.

`cuda_matches_cpu_iff` says when the outputs agree.
-/

namespace ComputeFabric

open Codec

/-! ## The digest -/

theorem xorShift_injective {k : UInt64} (hk : 0 < k.toNat ∧ k.toNat < 64) :
    Function.Injective fun x : UInt64 => x ^^^ (x >>> k) := by
  intro x y h
  -- the difference of the two is its own shift
  have hshift : x ^^^ y = (x ^^^ y) >>> k := by
    have hxor : (x ^^^ (x >>> k)) ^^^ (y ^^^ (y >>> k)) = 0 := by
      rw [show x ^^^ (x >>> k) = y ^^^ (y >>> k) from h, UInt64.xor_self]
    rw [UInt64.shiftRight_xor]
    refine UInt64.xor_eq_zero_iff.mp ?_
    rw [← hxor]
    ac_rfl
  have hnat : (x ^^^ y).toNat = (x ^^^ y).toNat / 2 ^ k.toNat := by
    have := congrArg UInt64.toNat hshift
    rwa [UInt64.toNat_shiftRight, Nat.mod_eq_of_lt hk.2, Nat.shiftRight_eq_div_pow] at this
  have hzero : (x ^^^ y).toNat = 0 := by
    by_contra hne
    have hlt := Nat.div_lt_self (Nat.pos_of_ne_zero hne) (Nat.one_lt_two_pow (Nat.pos_iff_ne_zero.mp hk.1))
    omega
  exact UInt64.xor_eq_zero_iff.mp (UInt64.toNat_inj.mp hzero)

theorem mul_injective_of_inverse {c d : UInt64} (h : c * d = 1) : Function.Injective fun x : UInt64 => x * c := by
  intro x y hxy
  have := congrArg (· * d) hxy
  simpa [UInt64.mul_assoc, h] using this

/-- Every step of `mix64` can be undone. -/
theorem mix64_injective : Function.Injective mix64 := by
  have hmul₁ := mul_injective_of_inverse (c := 0xBF58476D1CE4E5B9) (d := 0x96DE1B173F119089) (by decide)
  have hmul₂ := mul_injective_of_inverse (c := 0x94D049BB133111EB) (d := 0x319642B2D24D8EC3) (by decide)
  have hxor₁ := xorShift_injective (k := 30) (by decide)
  have hxor₂ := xorShift_injective (k := 27) (by decide)
  have hxor₃ := xorShift_injective (k := 31) (by decide)
  exact hxor₃.comp (hmul₂.comp (hxor₂.comp (hmul₁.comp hxor₁)))

theorem bigEndian64_eq (w : UInt64) : bigEndian64 w = beBytes 8 w.toNat := by
  unfold bigEndian64 beBytes
  refine List.map_congr_left fun i hi => ?_
  have hlt : i < 8 := List.mem_range.mp hi
  refine UInt8.toNat_inj.mp ?_
  rw [UInt64.toNat_toUInt8, UInt64.toNat_shiftRight, UInt64.toNat_ofNat', UInt8.toNat_ofNat',
    show (56 - i * 8) % 2 ^ 64 % 64 = 8 * (8 - 1 - i) by omega]

theorem bigEndian64_injective : Function.Injective bigEndian64 := by
  intro x y h
  rw [bigEndian64_eq, bigEndian64_eq] at h
  have hvalue := congrArg beValue h
  rw [beValue_beBytes x.toNat_lt, beValue_beBytes y.toNat_lt] at hvalue
  exact UInt64.toNat_inj.mp hvalue

/-- Digests with the same seed are equal when the hashes of the sums are, and the sizes. -/
theorem digest16_eq_iff (acc acc' : UInt64 × UInt64) (seed : UInt32) (n n' : UInt64) :
    digest16 acc seed n = digest16 acc' seed n' ↔
      bytesHash (littleEndian64 acc.1 ++ littleEndian64 acc.2) seed.toUInt64 =
          bytesHash (littleEndian64 acc'.1 ++ littleEndian64 acc'.2) seed.toUInt64 ∧ n = n' := by
  unfold digest16
  dsimp only
  constructor
  · intro h
    obtain ⟨h0, h1⟩ := List.append_inj h (by simp [bigEndian64])
    have hhash := bigEndian64_injective h0
    refine ⟨hhash, ?_⟩
    have hmix := mix64_injective (bigEndian64_injective h1)
    rw [hhash] at hmix
    exact (UInt64.xor_right_inj _).mp hmix
  · rintro ⟨hhash, rfl⟩
    rw [hhash]

/-! ## The elements -/

section Elements

variable {D : Type} (task : ComputeTask D)

/-- The product of an element, reduced: `mul_mod(x, a, m)`. -/
def reducedProduct (i : Nat) : UInt32 :=
  mulMod (wmix (UInt32.ofNat i + task.seed.toUInt32)) task.kernelParamA.toUInt32 0xFFFFFFFB

/-- The element the CPU computes. -/
def cpuElement (i : Nat) : UInt32 := (reducedProduct task i + task.kernelParamB.toUInt32) % 0xFFFFFFFB

/-- The sum of the CPU does not fit 32 bits. -/
def Overflows (i : Nat) : Prop := 2 ^ 32 ≤ (reducedProduct task i).toNat + task.kernelParamB.toUInt32.toNat

instance (i : Nat) : Decidable (Overflows task i) := inferInstanceAs (Decidable (_ ≤ _))

/-- The output of the CPU. -/
theorem runCpuKernel_output (hkernel : task.kernel = .vectorTransform) (hsize : kernelSize task ≤ 64000000) :
    (runCpuKernel task none).output =
      digest16 (accumulate (cpuElement task) (kernelSize task).toNat) task.seed.toUInt32 (kernelSize task) := by
  have hloop : ∀ n, ∃ processed, vectorTransformKernel none n task.seed.toUInt32 task.kernelParamA.toUInt32
      task.kernelParamB.toUInt32 =
        some ⟨(accumulate (cpuElement task) n).1, (accumulate (cpuElement task) n).2, processed⟩ := by
    intro n
    unfold vectorTransformKernel
    rw [pollingLoop_none]
    induction n with
    | zero => exact ⟨0, rfl⟩
    | succ n ih =>
        obtain ⟨processed, hprocessed⟩ := ih
        rw [List.range'_concat, List.foldl_append, Option.some.inj hprocessed, accumulate_succ]
        refine ⟨processed + 1, ?_⟩
        simp [cpuElement, reducedProduct]
  obtain ⟨processed, hprocessed⟩ := hloop (kernelSize task).toNat
  unfold runCpuKernel kernelLoop
  dsimp only
  rw [if_neg (UInt64.not_lt.mpr hsize), hkernel]
  dsimp only
  rw [hprocessed]
  rfl

/-- Both elements as numbers: the product is added to before the reduction, or after it and in 32 bits. -/
theorem elements_toNat (i : Nat) : ∃ p b : Nat,
    (reducedProduct task i).toNat = p % 4294967291 ∧ task.kernelParamB.toUInt32.toNat = b ∧ b < 2 ^ 32 ∧
      (deviceElement task i).toNat = (p + b) % 4294967291 ∧
      (cpuElement task i).toNat = (p % 4294967291 + b) % 2 ^ 32 % 4294967291 := by
  let x := wmix (UInt32.ofNat i + task.seed.toUInt32)
  let a := task.kernelParamA.toUInt32
  have hx := x.toNat_lt
  have ha := a.toNat_lt
  have hb := task.kernelParamB.toUInt32.toNat_lt
  have hproduct : x.toNat * a.toNat ≤ (2 ^ 32 - 1) * (2 ^ 32 - 1) :=
    Nat.mul_le_mul (Nat.le_pred_of_lt hx) (Nat.le_pred_of_lt ha)
  have hmod : (0xFFFFFFFB : UInt32).toNat = 4294967291 := rfl
  have hreduced : (reducedProduct task i).toNat = x.toNat * a.toNat % 4294967291 := by
    show (mulMod x a 0xFFFFFFFB).toNat = _
    unfold mulMod
    rw [UInt64.toNat_toUInt32, UInt64.toNat_mod, UInt64.toNat_mul, UInt32.toNat_toUInt64, UInt32.toNat_toUInt64,
      UInt32.toNat_toUInt64, hmod]
    omega
  refine ⟨x.toNat * a.toNat, task.kernelParamB.toUInt32.toNat, hreduced, rfl, hb, ?_, ?_⟩
  · show ((x.toUInt64 * a.toUInt64 + task.kernelParamB.toUInt32.toUInt64) % kMod.toUInt64).toUInt32.toNat = _
    rw [UInt64.toNat_toUInt32, UInt64.toNat_mod, UInt64.toNat_add, UInt64.toNat_mul, UInt32.toNat_toUInt64,
      UInt32.toNat_toUInt64, UInt32.toNat_toUInt64, UInt32.toNat_toUInt64, kMod, hmod]
    omega
  · rw [cpuElement, UInt32.toNat_mod, UInt32.toNat_add, hreduced, hmod]

/-- **Where no sum overflows** the elements are the same. -/
theorem deviceElement_eq {i : Nat} (h : ¬Overflows task i) : deviceElement task i = cpuElement task i := by
  obtain ⟨p, b, hreduced, hb, hlt, hdevice, hcpu⟩ := elements_toNat task i
  rw [Overflows, hreduced, hb] at h
  refine UInt32.toNat_inj.mp ?_
  rw [hdevice, hcpu]
  omega

/-- An overflow loses 2³², which is 5 modulo the prime. -/
theorem deviceElement_modEq (i : Nat) :
    (deviceElement task i).toNat ≡ (cpuElement task i).toNat + 5 * (if Overflows task i then 1 else 0)
      [MOD 4294967291] := by
  obtain ⟨p, b, hreduced, hb, hlt, hdevice, hcpu⟩ := elements_toNat task i
  have hoverflows : Overflows task i ↔ 2 ^ 32 ≤ p % 4294967291 + b := by rw [Overflows, hreduced, hb]
  unfold Nat.ModEq
  rw [hdevice, hcpu]
  by_cases hover : Overflows task i
  · rw [if_pos hover]
    have hlarge := hoverflows.mp hover
    omega
  · rw [if_neg hover]
    have hsmall := mt hoverflows.mpr hover
    omega

/-- A sum that gains less than the modulus, and stays what it was modulo it, has gained nothing. -/
theorem eq_zero_of_modEq_add {m s c : Nat} (h : s ≡ s + c [MOD m]) (hlt : c < m) : c = 0 := by
  have hzero : 0 ≡ c [MOD m] := Nat.ModEq.add_left_cancel' s h
  exact Nat.eq_zero_of_dvd_of_lt (Nat.modEq_zero_iff_dvd.mp hzero.symm) hlt

/-- The checksum of the device counts the overflows. -/
theorem sum_deviceElement_modEq (k : Nat) :
    ∑ i ∈ Finset.range k, (deviceElement task i).toNat ≡ ∑ i ∈ Finset.range k, (cpuElement task i).toNat +
      5 * ∑ i ∈ Finset.range k, (if Overflows task i then 1 else 0) [MOD 4294967291] := by
  induction k with
  | zero =>
      simp only [Finset.range_zero, Finset.sum_empty, Nat.mul_zero, Nat.add_zero]
      exact Nat.ModEq.refl 0
  | succ k ih =>
      rw [Finset.sum_range_succ, Finset.sum_range_succ, Finset.sum_range_succ, Nat.mul_add, ← add_add_add_comm]
      exact ih.add (deviceElement_modEq task k)

/-- **An overflow shows in the checksum** of a grid that covers all elements. -/
theorem accumulate_ne_of_overflows {n i : Nat} (hn : n ≤ 2 ^ 20) (hi : i < n) (h : Overflows task i) :
    accumulate (deviceElement task) n ≠ accumulate (cpuElement task) n := by
  intro hsame
  have hsize : n ≤ 2 ^ 32 := le_trans hn (Nat.pow_le_pow_right (by decide) (by decide))
  have hsums : ∑ i ∈ Finset.range n, (deviceElement task i).toNat =
      ∑ i ∈ Finset.range n, (cpuElement task i).toNat := by
    rw [← accumulate_toNat _ hsize, ← accumulate_toNat _ hsize, hsame]
  have hcount : ∑ i ∈ Finset.range n, (if Overflows task i then 1 else 0) ≤ n := by
    have hle := Finset.sum_le_card_nsmul (Finset.range n) (fun i => if Overflows task i then 1 else 0) 1
      fun i _ => by split_ifs <;> omega
    rwa [Finset.card_range, smul_eq_mul, Nat.mul_one] at hle
  have hmod := sum_deviceElement_modEq task n
  rw [hsums] at hmod
  generalize hoverflows : ∑ i ∈ Finset.range n, (if Overflows task i then 1 else 0) = overflows at hmod hcount
  have hfew : 5 * overflows < 4294967291 := by omega
  have hzero := eq_zero_of_modEq_add hmod hfew
  have hterm := Finset.sum_eq_zero_iff.mp (hoverflows.trans (by omega)) i (Finset.mem_range.mpr hi)
  rw [if_pos h] at hterm
  cases hterm

/-! ## Agreement -/

/-- The grid covers every element, and no sum of the CPU overflows. -/
structure FitsDevice : Prop where
  size : (kernelSize task).toNat ≤ 4096 * 256
  sums : ∀ i < (kernelSize task).toNat, ¬Overflows task i

/-- The digests agree although the elements do not all agree: the hash of the sums, 16 bytes in 8, collides, or an
    output that the grid has not covered has not changed the sums. -/
structure Coincides : Prop where
  size : (kernelSize task).toNat ≤ 4000000
  hash : bytesHash (littleEndian64 (accumulate (deviceElement task) (min (kernelSize task).toNat (4096 * 256))).1 ++
        littleEndian64 (accumulate (deviceElement task) (min (kernelSize task).toNat (4096 * 256))).2)
      task.seed.toUInt32.toUInt64 =
    bytesHash (littleEndian64 (accumulate (cpuElement task) (kernelSize task).toNat).1 ++
        littleEndian64 (accumulate (cpuElement task) (kernelSize task).toNat).2) task.seed.toUInt32.toUInt64
  differs : (kernelSize task).toNat ≤ 4096 * 256 →
    accumulate (deviceElement task) (kernelSize task).toNat ≠ accumulate (cpuElement task) (kernelSize task).toNat

theorem deviceSize_eq_iff : deviceSize task = kernelSize task ↔ (kernelSize task).toNat ≤ 4000000 := by
  unfold deviceSize
  dsimp only
  have hbound : (4000000 : UInt64).toNat = 4000000 := rfl
  by_cases h : kernelSize task > 4000000
  · rw [if_pos h]
    have hlt := UInt64.lt_iff_toNat_lt.mp h
    rw [hbound] at hlt
    refine iff_of_false (fun heq => ?_) (Nat.not_le.mpr hlt)
    rw [← heq, hbound] at hlt
    exact lt_irrefl _ hlt
  · rw [if_neg h]
    exact iff_of_true rfl (UInt64.le_iff_toNat_le.mp (UInt64.not_lt.mp h))

/-- **The backends agree**, whenever the device reports success, exactly when its grid covers the elements and no
    32-bit sum of the CPU overflows, or else the digests coincide. This holds for every order of the threads,
    whatever memory they find, and whatever calls fail. -/
theorem cuda_matches_cpu_iff (rt : CudaRuntime) (deviceOrdinal : Int) (hkernel : task.kernel = .vectorTransform)
    (hsize : kernelSize task ≤ 64000000) (hok : (cudaRunVectorTransform rt task deviceOrdinal).success = true) :
    (cudaRunVectorTransform rt task deviceOrdinal).output = (runCpuKernel task none).output ↔
      FitsDevice task ∨ Coincides task := by
  rw [cudaRunVectorTransform_output rt task hok, runCpuKernel_output task hkernel hsize, digest16_eq_iff,
    deviceSize_eq_iff]
  constructor
  · rintro ⟨hhash, hclamp⟩
    rw [(deviceSize_eq_iff task).mpr hclamp] at hhash
    by_cases hfits : FitsDevice task
    · exact .inl hfits
    · refine .inr ⟨hclamp, hhash, fun hgrid => ?_⟩
      obtain ⟨i, hi, hover⟩ : ∃ i < (kernelSize task).toNat, Overflows task i := by
        by_contra hnone
        push Not at hnone
        exact hfits ⟨hgrid, hnone⟩
      exact accumulate_ne_of_overflows task hgrid hi hover
  · rintro (⟨hgrid, hsums⟩ | ⟨hclamp, hhash, -⟩)
    · have hclamp : (kernelSize task).toNat ≤ 4000000 := by omega
      have hsame : accumulate (deviceElement task) (kernelSize task).toNat =
          accumulate (cpuElement task) (kernelSize task).toNat :=
        accumulate_congr fun i hi => deviceElement_eq task (hsums i hi)
      rw [(deviceSize_eq_iff task).mpr hclamp, min_eq_left hgrid, hsame]
      exact ⟨rfl, hclamp⟩
    · rw [(deviceSize_eq_iff task).mpr hclamp]
      exact ⟨hhash, hclamp⟩

end Elements

/-! ## Two runs -/

/-- A runtime without failures that runs the threads in ascending order. -/
def Demo.cuda : CudaRuntime where
  failure _ := none
  memory _ := 0
  shared _ _ := 0
  transform blocks := (Schedule.ascending blocks).prod (Schedule.ascending 256)
  reduce _ _ := Schedule.ascending 256

def Demo.vectorTask (n a b seed : UInt64) : ComputeTask ℚ where
  estimatedDurationSeconds := 0
  expectedTransferGb := 0
  expectedRecomputeCostSeconds := 0
  costEstimate := 0
  kernel := .vectorTransform
  kernelParamN := n
  kernelParamA := a
  kernelParamB := b
  seed := seed

theorem cuda_matches_cpu_small :
    (cudaRunVectorTransform Demo.cuda (Demo.vectorTask 3 2 1 7) 0).success = true ∧
      (cudaRunVectorTransform Demo.cuda (Demo.vectorTask 3 2 1 7) 0).output =
        (runCpuKernel (Demo.vectorTask 3 2 1 7) none).output := by
  have hok : (cudaRunVectorTransform Demo.cuda (Demo.vectorTask 3 2 1 7) 0).success = true :=
    cudaRunVectorTransform_succeeds _ _ (fun _ => rfl) (by decide) 0
  have hsums : ∀ i < 3, ¬Overflows (Demo.vectorTask 3 2 1 7) i := by decide +kernel
  exact ⟨hok, (cuda_matches_cpu_iff (Demo.vectorTask 3 2 1 7) Demo.cuda 0 rfl (by decide) hok).mpr
    (.inl ⟨by decide, hsums⟩)⟩

/-- One element, `a = 1` and `b = 2³² - 1`: the CPU's sum overflows. -/
theorem cuda_differs_from_cpu :
    (Demo.vectorTask 1 1 0xFFFFFFFF 1).kernel = .vectorTransform ∧
      (cudaRunVectorTransform Demo.cuda (Demo.vectorTask 1 1 0xFFFFFFFF 1) 0).success = true ∧
      (runCpuKernel (Demo.vectorTask 1 1 0xFFFFFFFF 1) none).success = true ∧
      (cudaRunVectorTransform Demo.cuda (Demo.vectorTask 1 1 0xFFFFFFFF 1) 0).output ≠
        (runCpuKernel (Demo.vectorTask 1 1 0xFFFFFFFF 1) none).output := by
  have hok : (cudaRunVectorTransform Demo.cuda (Demo.vectorTask 1 1 0xFFFFFFFF 1) 0).success = true :=
    cudaRunVectorTransform_succeeds _ _ (fun _ => rfl) (by decide) 0
  refine ⟨rfl, hok, by decide +kernel, ?_⟩
  rw [cudaRunVectorTransform_output _ _ hok]
  decide +kernel

end ComputeFabric
