import ComputeFabric.Lib.Threads
import ComputeFabric.Node.Workloads

/-!
# `Node.Cuda` — the vector transform on a device

`cuda_run_vector_transform` and its two kernels. Both run as a grid of blocks of 256 threads; the runtime decides
in which order the threads of a phase run, what the memory holds that nobody has written, and which of its calls
fail. All of that is a parameter, `CudaRuntime`.

- `transformed_apply` — the output array: the elements the grid covers, and old memory beyond it.
- `deviceSum_eq` — the device's own checksum adds up the elements the grid covers, in any order of the threads.
- `cudaRunVectorTransform_output` — a successful run has digested the elements that the grid covers, and nothing
  else has changed the digest: the comparison with the device's checksum only succeeds on memory that is zero.
-/

namespace ComputeFabric

open Threads

/-! ## Device code -/

/-- `kMod`: a prime near 2³². -/
def kMod : UInt32 := 0xFFFFFFFB

/-- `wmix_u32`. -/
def wmixU32 (x : UInt32) : UInt32 :=
  let x := x ^^^ (x >>> 16)
  let x := x * 0x7FEB352D
  let x := x ^^^ (x >>> 15)
  let x := x * 0x846CA68B
  x ^^^ (x >>> 16)

/-- `blockIdx.x * blockDim.x + threadIdx.x`. -/
def threadIndex (block : Nat) (thread : Fin 256) : UInt64 := UInt64.ofNat block * 256 + UInt64.ofNat thread

/-- `vec_transform_kernel`. The input array is not read: the thread computes its input again. -/
def vecTransformKernel {blocks : Nat} (n : UInt64) (a b seed : UInt32) :
    Body (Fin blocks × Fin 256) Nat UInt32 := fun t _ =>
  let i := threadIndex t.1 t.2
  if i ≥ n then none
  else
    let xi := wmixU32 (i.toUInt32 + seed)
    let prod := xi.toUInt64 * a.toUInt64 + b.toUInt64
    some (i.toNat, (prod % kMod.toUInt64).toUInt32)

/-- The strides of `for (s = start; s > 0; s >>= 1)`; a 32-bit stride is zero after 32 rounds. -/
def halvings : Nat → Nat → List Nat
  | 0, _ => []
  | fuel + 1, s => if s > 0 then s :: halvings fuel (s / 2) else []

/-- The first phase of `reduce_checksum_kernel`: each thread loads its element. -/
def loadElement (n : UInt64) (y : Nat → UInt32) (block : Nat) : Body (Fin 256) Nat UInt64 := fun tid _ =>
  let i := threadIndex block tid
  some (tid.val, if i < n then (y i.toNat).toUInt64 else 0)

/-- `reduce_checksum_kernel`, one block: what its first thread stores. -/
def reduceChecksumKernel (sched : Nat → Schedule (Fin 256)) (shared : Nat → UInt64) (n : UInt64)
    (y : Nat → UInt32) (block : Nat) : UInt64 :=
  let sh := phase (loadElement n y block) (sched 0).order shared
  reduceRounds sched (halvings 32 128) 1 sh 0

/-! ## Host code -/

/-- The calls of the runtime that can fail, in the order in which they are made. -/
inductive CudaCall where
  | setDevice | mallocX | mallocY | mallocPartial | streamCreate
  | copyIn | launchTransform | copyOut | launchReduce | synchronize | copyPartial

/-- What the runtime is free to do. -/
structure CudaRuntime where
  /-- `cudaGetErrorString` of the error a call returns. -/
  failure : CudaCall → Option Text
  /-- The output array before the launch. -/
  memory : Nat → UInt32
  /-- The shared memory of a block before it runs. -/
  shared : Nat → Nat → UInt64
  transform : ∀ blocks, Schedule (Fin blocks × Fin 256)
  /-- The order of the threads of a block, from barrier to barrier. -/
  reduce : Nat → Nat → Schedule (Fin 256)

/-- `CudaRunResult`, without the time it took. -/
structure CudaRunResult where
  success : Bool := false
  output : List UInt8 := []
  integrityHex : Text := []
  deviceName : Text := []
  errorMessage : Text := []
  bytesTransferred : UInt64 := 0
  elements : UInt64 := 0

namespace CudaRuntime

variable (rt : CudaRuntime)

/-- A call whose failure ends the run with a message. -/
def check (call : CudaCall) (message : Text → Text) : Except Text Unit :=
  match rt.failure call with
  | none => .ok ()
  | some e => .error (message e)

/-- The calls before the first transfer. -/
def setup : Except Text Unit := do
  rt.check .setDevice (text "cudaSetDevice: " ++ ·)
  rt.check .mallocX (text "cudaMalloc x: " ++ ·)
  rt.check .mallocY (text "cudaMalloc y: " ++ ·)
  rt.check .mallocPartial (text "cudaMalloc partial: " ++ ·)
  rt.check .streamCreate fun _ => text "cudaStreamCreate failed"

/-- The calls of the computation. -/
def compute : Except Text Unit := do
  rt.check .copyIn (text "cuda: " ++ ·)
  rt.check .launchTransform (text "cuda: " ++ ·)
  rt.check .copyOut (text "cuda: " ++ ·)
  rt.check .launchReduce (text "cuda: " ++ ·)
  rt.check .synchronize (text "cuda: " ++ ·)
  rt.check .copyPartial (text "cuda: " ++ ·)

end CudaRuntime

/-- The number of elements: bounded allocations. -/
def deviceSize {D : Type} (task : ComputeTask D) : UInt64 :=
  let n := kernelSize task
  if n > 4000000 then 4000000 else n

/-- The number of blocks of both launches. -/
def deviceBlocks (n : UInt64) : UInt32 :=
  let blocks := ((n + 256 - 1) / 256).toUInt32
  if blocks > 4096 then 4096 else blocks

section Run

variable {D : Type} (rt : CudaRuntime) (task : ComputeTask D)

/-- `h_y`: the output array as it is copied back. -/
def transformed : Nat → UInt32 :=
  let n := deviceSize task
  phase (vecTransformKernel n task.kernelParamA.toUInt32 task.kernelParamB.toUInt32 task.seed.toUInt32)
    (rt.transform (deviceBlocks n).toNat).order rt.memory

/-- `dev_sum`: the partial sums of the blocks, added up on the host. -/
def deviceSum : UInt64 :=
  let n := deviceSize task
  (List.range (deviceBlocks n).toNat).foldl (fun sum block => sum +
    reduceChecksumKernel (rt.reduce block) (rt.shared block) n (transformed rt task) block) 0

/-- The host's sums over the first `n` elements: `acc_lo` and `acc_hi`. -/
def accumulate (y : Nat → UInt32) (n : Nat) : UInt64 × UInt64 :=
  (List.range n).foldl (fun acc i => (acc.1 + (y i).toUInt64, acc.2 ^^^ ((y i).toUInt64 <<< 1))) (0, 0)

/-- The 16 bytes of output. -/
def digest16 (acc : UInt64 × UInt64) (seed : UInt32) (n : UInt64) : List UInt8 :=
  let h0 := bytesHash (littleEndian64 acc.1 ++ littleEndian64 acc.2) seed.toUInt64
  let h1 := mix64 (h0 ^^^ n)
  bigEndian64 h0 ++ bigEndian64 h1

/-- `cuda_run_vector_transform`. The token is not looked at. -/
def cudaRunVectorTransform (deviceOrdinal : Int) : CudaRunResult :=
  match rt.setup with
  | .error e => { errorMessage := e }
  | .ok _ =>
      let n := deviceSize task
      let bytesTransferred := n * 4 * 2
      match rt.compute with
      | .error e => { errorMessage := e, bytesTransferred }
      | .ok _ =>
          let acc := accumulate (transformed rt task) n.toNat
          if deviceSum rt task ≠ acc.1 then
            { errorMessage := text "device reduction mismatch", bytesTransferred }
          else
            let output := digest16 acc task.seed.toUInt32 n
            { success := true, output, integrityHex := hexDigest output, elements := n, bytesTransferred,
              deviceName := text ("cuda:" ++ toString deviceOrdinal) }

end Run

/-! ## What the threads leave -/

theorem halvings_eq : halvings 32 128 = strides 8 := by decide

theorem threadIndex_toNat {block : Nat} (h : block < 4096) (thread : Fin 256) :
    (threadIndex block thread).toNat = block * 256 + thread := by
  have hthread := thread.isLt
  unfold threadIndex
  rw [UInt64.toNat_add, UInt64.toNat_mul, UInt64.toNat_ofNat', UInt64.toNat_ofNat']
  have hconst : (256 : UInt64).toNat = 256 := rfl
  rw [hconst]
  omega

/-- The element a thread computes. -/
def deviceElement {D : Type} (task : ComputeTask D) (i : Nat) : UInt32 :=
  let xi := wmixU32 (UInt32.ofNat i + task.seed.toUInt32)
  let prod := xi.toUInt64 * task.kernelParamA.toUInt32.toUInt64 + task.kernelParamB.toUInt32.toUInt64
  (prod % kMod.toUInt64).toUInt32

/-- Two threads of one grid never have the same index. -/
theorem vecTransformKernel_raceFree {blocks : Nat} (hblocks : blocks ≤ 4096) (n : UInt64) (a b seed : UInt32) :
    RaceFree (vecTransformKernel n a b seed : Body (Fin blocks × Fin 256) Nat UInt32)
      (fun t => if t.1.val * 256 + t.2 < n.toNat then some (t.1.val * 256 + t.2) else none)
      (fun t _ => ((wmixU32 (UInt32.ofNat (t.1.val * 256 + t.2) + seed)).toUInt64 * a.toUInt64 + b.toUInt64)
        % kMod.toUInt64 |>.toUInt32) where
  body_eq t mem := by
    have hindex := threadIndex_toNat (Nat.lt_of_lt_of_le t.1.isLt hblocks) t.2
    have hword : (threadIndex t.1 t.2).toUInt32 = UInt32.ofNat (t.1.val * 256 + t.2) := by
      rw [← hindex]
      exact UInt32.toNat_inj.mp (by simp)
    unfold vecTransformKernel
    dsimp only
    simp only [hword, ge_iff_le, UInt64.le_iff_toNat_le, hindex]
    by_cases hlt : t.1.val * 256 + t.2 < n.toNat
    · rw [if_neg (Nat.not_le.mpr hlt), if_pos hlt]
      rfl
    · rw [if_pos (Nat.not_lt.mp hlt), if_neg hlt]
      rfl
  cells t u c ht hu := by
    split_ifs at ht hu
    have heq := (Option.some.inj ht).trans (Option.some.inj hu).symm
    have ht2 := t.2.isLt
    have hu2 := u.2.isLt
    exact Prod.ext (Fin.ext (by omega)) (Fin.ext (by omega))
  reads _ _ _ _ _ _ _ := rfl

theorem loadElement_raceFree (n : UInt64) (y : Nat → UInt32) (block : Nat) :
    RaceFree (loadElement n y block) (fun tid => some tid.val)
      (fun tid _ => if threadIndex block tid < n then (y (threadIndex block tid).toNat).toUInt64 else 0) where
  body_eq _ _ := rfl
  cells _ _ _ ht hu := Fin.ext ((Option.some.inj ht).trans (Option.some.inj hu).symm)
  reads _ _ _ _ _ _ _ := rfl

/-- **One block's checksum** is the sum of its elements. -/
theorem reduceChecksumKernel_eq (sched : Nat → Schedule (Fin 256)) (shared : Nat → UInt64) (n : UInt64)
    (y : Nat → UInt32) {block : Nat} (hblock : block < 4096) :
    reduceChecksumKernel sched shared n y block =
      ∑ j ∈ Finset.range 256, if block * 256 + j < n.toNat then (y (block * 256 + j)).toUInt64 else 0 := by
  unfold reduceChecksumKernel
  dsimp only
  rw [halvings_eq, reduceRounds_strides sched (k := 8) (by decide)]
  refine Finset.sum_congr rfl fun j hj => ?_
  have hlt : j < 256 := Finset.mem_range.mp hj
  have hload := (loadElement_raceFree n y block).phase_written (sched 0).nodup ((sched 0).complete ⟨j, hlt⟩) rfl
    shared
  have hindex := threadIndex_toNat hblock ⟨j, hlt⟩
  rw [hload]
  simp only [UInt64.lt_iff_toNat_lt, hindex]

section Run

variable {D : Type} (rt : CudaRuntime) (task : ComputeTask D)

theorem deviceSize_le : (deviceSize task).toNat ≤ 4000000 := by
  unfold deviceSize
  dsimp only
  split_ifs with h
  · decide
  · exact UInt64.le_iff_toNat_le.mp (UInt64.not_lt.mp h)

/-- A grid of at most 4096 blocks, enough for the first 4096 * 256 elements. -/
theorem deviceBlocks_spec {n : UInt64} (h : n.toNat ≤ 4000000) :
    (deviceBlocks n).toNat ≤ 4096 ∧
      ∀ i, i < n.toNat → (i < (deviceBlocks n).toNat * 256 ↔ i < 4096 * 256) := by
  have hquot : ((n + 256 - 1) / 256).toUInt32.toNat = (n.toNat + 255) / 256 := by
    have hsum : (n + 256 - 1).toNat = n.toNat + 255 := by
      rw [UInt64.toNat_sub_of_le, UInt64.toNat_add]
      · have h256 : (256 : UInt64).toNat = 256 := rfl
        have h1 : (1 : UInt64).toNat = 1 := rfl
        rw [h256, h1]
        omega
      · rw [UInt64.le_iff_toNat_le, UInt64.toNat_add]
        have h256 : (256 : UInt64).toNat = 256 := rfl
        have h1 : (1 : UInt64).toNat = 1 := rfl
        rw [h256, h1]
        omega
    rw [UInt64.toNat_toUInt32, UInt64.toNat_div, hsum]
    show (n.toNat + 255) / 256 % 2 ^ 32 = _
    omega
  unfold deviceBlocks
  dsimp only
  have h4096 : (4096 : UInt32).toNat = 4096 := rfl
  split_ifs with hmany
  · refine ⟨le_of_eq h4096, fun i _ => by rw [h4096]⟩
  · have hle := UInt32.le_iff_toNat_le.mp (UInt32.not_lt.mp hmany)
    rw [hquot, h4096] at hle
    rw [hquot]
    refine ⟨hle, ?_⟩
    intro i hi
    omega

/-- **The output array**: an element of the grid, or what was there. -/
theorem transformed_apply {i : Nat} (hi : i < (deviceSize task).toNat) :
    transformed rt task i = if i < 4096 * 256 then deviceElement task i else rt.memory i := by
  obtain ⟨hblocks, hcovers⟩ := deviceBlocks_spec (deviceSize_le task)
  have hfree := vecTransformKernel_raceFree hblocks (deviceSize task) task.kernelParamA.toUInt32
    task.kernelParamB.toUInt32 task.seed.toUInt32
  unfold transformed
  split_ifs with hgrid
  · have hblock := (hcovers i hi).mpr hgrid
    have hcell : (⟨⟨i / 256, by omega⟩, ⟨i % 256, by omega⟩⟩ : Fin (deviceBlocks (deviceSize task)).toNat × Fin 256).1.val
        * 256 + i % 256 = i := by
      show i / 256 * 256 + i % 256 = i
      omega
    have hwritten := hfree.phase_written (c := i) (rt.transform (deviceBlocks (deviceSize task)).toNat).nodup
      ((rt.transform _).complete ⟨⟨i / 256, by omega⟩, ⟨i % 256, by omega⟩⟩) (by
        dsimp only at hcell ⊢
        rw [hcell, if_pos hi]) rt.memory
    rw [hwritten]
    dsimp only at hcell ⊢
    rw [hcell]
    rfl
  · refine hfree.phase_kept ?_ rt.memory
    intro t _ hcell
    split_ifs at hcell
    have hindex := Option.some.inj hcell
    have ht := t.2.isLt
    have hb := t.1.isLt
    omega

/-- **The device's checksum** is the sum of the elements the grid covers. -/
theorem deviceSum_eq : deviceSum rt task =
    ∑ i ∈ Finset.range (min (deviceSize task).toNat (4096 * 256)), (transformed rt task i).toUInt64 := by
  obtain ⟨hblocks, hcovers⟩ := deviceBlocks_spec (deviceSize_le task)
  have hsum : ∀ k ≤ 4096, (List.range k).foldl (fun sum block => sum + reduceChecksumKernel (rt.reduce block)
      (rt.shared block) (deviceSize task) (transformed rt task) block) 0 =
      ∑ i ∈ Finset.range (k * 256),
        if i < (deviceSize task).toNat then (transformed rt task i).toUInt64 else 0 := by
    intro k hk
    induction k with
    | zero => rfl
    | succ k ih =>
        rw [List.range_succ, List.foldl_append, ih (Nat.le_of_succ_le hk), Nat.succ_mul, Finset.sum_range_add,
          List.foldl_cons, List.foldl_nil, reduceChecksumKernel_eq _ _ _ _ hk]
  unfold deviceSum
  rw [hsum _ hblocks, ← Finset.sum_filter]
  refine Finset.sum_congr ?_ fun _ _ => rfl
  ext i
  rw [Finset.mem_filter, Finset.mem_range, Finset.mem_range, lt_min_iff]
  constructor
  · rintro ⟨hgrid, hi⟩
    exact ⟨hi, (hcovers i hi).mp hgrid⟩
  · rintro ⟨hi, hgrid⟩
    exact ⟨(hcovers i hi).mpr hgrid, hi⟩

/-! ## The host's sums -/

theorem accumulate_succ (y : Nat → UInt32) (n : Nat) : accumulate y (n + 1) =
    ((accumulate y n).1 + (y n).toUInt64, (accumulate y n).2 ^^^ ((y n).toUInt64 <<< 1)) := by
  unfold accumulate
  rw [List.range_succ, List.foldl_append]
  rfl

theorem accumulate_fst (y : Nat → UInt32) (n : Nat) :
    (accumulate y n).1 = ∑ i ∈ Finset.range n, (y i).toUInt64 := by
  induction n with
  | zero => rfl
  | succ n ih => rw [accumulate_succ, Finset.sum_range_succ, ih]

theorem accumulate_congr {y y' : Nat → UInt32} {n : Nat} (h : ∀ i < n, y i = y' i) :
    accumulate y n = accumulate y' n := by
  induction n with
  | zero => rfl
  | succ n ih =>
      rw [accumulate_succ, accumulate_succ, ih fun i hi => h i (Nat.lt_succ_of_lt hi), h n (Nat.lt_succ_self n)]

/-- Zeros at the end change nothing. -/
theorem accumulate_of_zero {y : Nat → UInt32} {k n : Nat} (hk : k ≤ n) (h : ∀ i, k ≤ i → i < n → y i = 0) :
    accumulate y n = accumulate y k := by
  induction n with
  | zero => rw [Nat.le_zero.mp hk]
  | succ n ih =>
      rcases Nat.lt_or_eq_of_le hk with hlt | rfl
      · rw [accumulate_succ, ih (Nat.le_of_lt_succ hlt) fun i hki hi => h i hki (Nat.lt_succ_of_lt hi),
          h n (Nat.le_of_lt_succ hlt) (Nat.lt_succ_self n)]
        simp
      · rfl

/-- Up to 2³² elements the sum of 32-bit values does not wrap. -/
theorem accumulate_toNat (y : Nat → UInt32) {n : Nat} (hn : n ≤ 2 ^ 32) :
    (accumulate y n).1.toNat = ∑ i ∈ Finset.range n, (y i).toNat := by
  have hbound : ∀ k, k ≤ n → ∑ i ∈ Finset.range k, (y i).toNat ≤ k * (2 ^ 32 - 1) := by
    intro k _
    have := Finset.sum_le_card_nsmul (Finset.range k) (fun i => (y i).toNat) (2 ^ 32 - 1)
      fun i _ => Nat.le_pred_of_lt (y i).toNat_lt
    simpa using this
  induction n with
  | zero => rfl
  | succ n ih =>
      have hlast := (y n).toNat_lt
      have hsum := hbound n (Nat.le_succ n)
      rw [accumulate_succ, Finset.sum_range_succ, UInt64.toNat_add,
        ih (Nat.le_of_succ_le hn) fun k hk => hbound k (Nat.le_succ_of_le hk), UInt32.toNat_toUInt64]
      refine Nat.mod_eq_of_lt ?_
      omega

/-! ## Successful runs -/

theorem cudaRunVectorTransform_success {deviceOrdinal : Int}
    (h : (cudaRunVectorTransform rt task deviceOrdinal).success = true) :
    deviceSum rt task = (accumulate (transformed rt task) (deviceSize task).toNat).1 ∧
      (cudaRunVectorTransform rt task deviceOrdinal).output =
        digest16 (accumulate (transformed rt task) (deviceSize task).toNat) task.seed.toUInt32 (deviceSize task) := by
  unfold cudaRunVectorTransform at h ⊢
  cases hsetup : rt.setup with
  | error e =>
      rw [hsetup] at h
      cases h
  | ok _ =>
      rw [hsetup] at h
      dsimp only at h ⊢
      cases hcompute : rt.compute with
      | error e =>
          rw [hcompute] at h
          cases h
      | ok _ =>
          rw [hcompute] at h
          dsimp only at h ⊢
          by_cases hsum : deviceSum rt task = (accumulate (transformed rt task) (deviceSize task).toNat).1
          · rw [if_neg (not_not.mpr hsum)]
            exact ⟨hsum, rfl⟩
          · rw [if_pos hsum] at h
            cases h

/-- **What a successful run digests**: the elements of the grid. Beyond it the memory was zero, or the comparison
    of the sums would have failed. -/
theorem cudaRunVectorTransform_output {deviceOrdinal : Int}
    (h : (cudaRunVectorTransform rt task deviceOrdinal).success = true) :
    (cudaRunVectorTransform rt task deviceOrdinal).output =
      digest16 (accumulate (deviceElement task) (min (deviceSize task).toNat (4096 * 256))) task.seed.toUInt32
        (deviceSize task) := by
  obtain ⟨hsum, houtput⟩ := cudaRunVectorTransform_success rt task h
  have hsize := deviceSize_le task
  have hgrid : ∀ i < min (deviceSize task).toNat (4096 * 256), transformed rt task i = deviceElement task i := by
    intro i hi
    rw [transformed_apply rt task (lt_of_lt_of_le hi (min_le_left _ _)), if_pos (lt_of_lt_of_le hi (min_le_right _ _))]
  rw [houtput, ← accumulate_congr hgrid, accumulate_of_zero (min_le_left _ _)]
  -- the sums agree as numbers, so what the grid has not written adds up to nothing
  intro i hmin hi
  have htotal := accumulate_toNat (transformed rt task) (n := (deviceSize task).toNat) (by omega)
  have hcovered := accumulate_toNat (transformed rt task) (n := min (deviceSize task).toNat (4096 * 256)) (by omega)
  rw [accumulate_fst, ← deviceSum_eq, hsum, htotal] at hcovered
  have hsplit := Finset.sum_range_add_sum_Ico (fun i => (transformed rt task i).toNat)
    (min_le_left (deviceSize task).toNat (4096 * 256))
  have hzero : ∑ i ∈ Finset.Ico (min (deviceSize task).toNat (4096 * 256)) (deviceSize task).toNat,
      (transformed rt task i).toNat = 0 := by omega
  have hterm := (Finset.sum_eq_zero_iff.mp hzero) i (Finset.mem_Ico.mpr ⟨hmin, hi⟩)
  exact UInt32.toNat_inj.mp hterm

/-- A run whose calls succeed, on a grid that covers all elements, succeeds. -/
theorem cudaRunVectorTransform_succeeds (hcalls : ∀ call, rt.failure call = none)
    (hsize : (deviceSize task).toNat ≤ 4096 * 256) (deviceOrdinal : Int) :
    (cudaRunVectorTransform rt task deviceOrdinal).success = true := by
  have hcheck : ∀ call message, rt.check call message = .ok () := by
    intro call message
    rw [CudaRuntime.check, hcalls]
  have hsetup : rt.setup = .ok () := by
    simp only [CudaRuntime.setup, hcheck]
    rfl
  have hcompute : rt.compute = .ok () := by
    simp only [CudaRuntime.compute, hcheck]
    rfl
  have hsum : deviceSum rt task = (accumulate (transformed rt task) (deviceSize task).toNat).1 := by
    rw [deviceSum_eq, accumulate_fst, min_eq_left hsize]
  unfold cudaRunVectorTransform
  rw [hsetup]
  dsimp only
  rw [hcompute]
  dsimp only
  rw [if_neg (not_not.mpr hsum)]

end Run

end ComputeFabric
