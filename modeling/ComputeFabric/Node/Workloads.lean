import ComputeFabric.Core.Digest
import ComputeFabric.Task.Task

/-!
# `Node.Workloads` — the built-in CPU kernels

`run_cpu_kernel` computes a 16-byte digest from the task description alone, and looks at the attempt's
cancellation token while it computes. The token is shared with the thread that reads the coordinator's
messages and only ever goes from clear to requested, so all that a kernel can notice of it is the first
iteration at which the request is visible: `seenAt`, `none` when no look at the token finds it requested.

- `pollingLoop` is the loop every kernel is written with; a loop that sees the request returns nothing.
- `runCpuKernel_cancelled_iff` — a kernel reports `"cancelled"` exactly when one of its looks at the token
  finds the request.
-/

namespace ComputeFabric

/-- `%02x`. -/
def hexByte (b : UInt8) : Text := [hexDigit (b >>> 4).toUInt64, hexDigit (b &&& 15).toUInt64]

/-- `hex_digest`, for the buffers of at most 32 bytes its own buffer has room for. -/
def hexDigest (data : List UInt8) : Text := (data.take 32).flatMap hexByte

def mulMod (a b m : UInt32) : UInt32 := ((a.toUInt64 * b.toUInt64) % m.toUInt64).toUInt32

/-- The mixing step of the kernels. -/
def wmix (x : UInt32) : UInt32 :=
  let x := x ^^^ (x >>> 16)
  let x := x * 0x7FEB352D
  let x := x ^^^ (x >>> 15)
  let x := x * 0x846CA68B
  x ^^^ (x >>> 16)

def hashInteger (v : UInt32) : UInt16 := (wmix (v + 0x9E3779B9)).toUInt16

/-- `is_supported_cpu_kernel`. -/
def isSupportedCpuKernel : KernelType → Bool
  | .hashInteger | .vectorTransform | .checksum | .syntheticLoop | .stateDependent
  | .tensorArithmetic => true
  | _ => false

/-- `kernel_type_name`. -/
def KernelType.name : KernelType → String
  | none => "none"
  | hashInteger => "hash_integer"
  | vectorTransform => "vector_transform"
  | checksum => "checksum"
  | syntheticLoop => "synthetic_loop"
  | stateDependent => "state_dependent"
  | tensorArithmetic => "tensor_arithmetic"
  | unlisted _ => "unknown"

structure WorkloadResult where
  success : Bool := true
  output : List UInt8 := []
  checksumHex : Text := []
  notes : Text := []
  bytesProcessed : UInt64 := 0

/-! ## Loops -/

/-- `rounds` iterations from iteration `i` on. Those that `looks` names begin with a look at the token, and
    the loop ends without a result when it finds the request. -/
def pollingLoop {σ : Type} (looks : Nat → Bool) (seenAt : Option Nat) (body : Nat → σ → σ) :
    Nat → Nat → σ → Option σ
  | 0, _, acc => some acc
  | rounds + 1, i, acc =>
      if looks i && seenAt.any (· ≤ i) then none
      else pollingLoop looks seenAt body rounds (i + 1) (body i acc)

/-- A loop ends without a result exactly when one of its looks finds the request. -/
theorem pollingLoop_eq_none_iff {σ : Type} {looks : Nat → Bool} {seenAt : Option Nat} {body : Nat → σ → σ}
    {rounds i : Nat} {acc : σ} :
    pollingLoop looks seenAt body rounds i acc = none ↔
      ∃ j, i ≤ j ∧ j < i + rounds ∧ looks j = true ∧ seenAt.any (· ≤ j) = true := by
  induction rounds generalizing i acc with
  | zero =>
      simp only [pollingLoop, reduceCtorEq, false_iff, not_exists]
      omega
  | succ rounds ih =>
      rw [pollingLoop]
      split_ifs with hsees
      · rw [Bool.and_eq_true] at hsees
        simp only [true_iff]
        exact ⟨i, le_refl i, by omega, hsees.1, hsees.2⟩
      · rw [ih]
        constructor
        · rintro ⟨j, hij, hj, hlooks, hseen⟩
          exact ⟨j, by omega, by omega, hlooks, hseen⟩
        · rintro ⟨j, hij, hj, hlooks, hseen⟩
          refine ⟨j, ?_, by omega, hlooks, hseen⟩
          -- the first iteration has just been found not to see the request
          by_contra hlt
          obtain rfl : j = i := by omega
          exact hsees (by rw [hlooks, hseen]; rfl)

/-- A loop that finds no request runs all its iterations. -/
theorem pollingLoop_none {σ : Type} {looks : Nat → Bool} {body : Nat → σ → σ} {rounds i : Nat} {acc : σ} :
    pollingLoop looks none body rounds i acc =
      some ((List.range' i rounds).foldl (fun acc j => body j acc) acc) := by
  induction rounds generalizing i acc with
  | zero => rfl
  | succ rounds ih =>
      rw [pollingLoop, if_neg (by simp), ih, List.range'_succ, List.foldl_cons]

/-- The accumulators of a kernel. -/
structure KernelAcc where
  lo : UInt64 := 0
  hi : UInt64 := 0
  processed : UInt64 := 0

/-! ## Kernels -/

section Kernels

variable (seenAt : Option Nat) (n : Nat) (seed : UInt32)

/-- `KernelType::HashInteger`. -/
def hashIntegerKernel : Option KernelAcc :=
  pollingLoop (fun _ => true) seenAt (fun i acc =>
    let h := (hashInteger (wmix (UInt32.ofNat i + seed))).toUInt64
    { lo := acc.lo + h, hi := acc.hi + h * (UInt64.ofNat i + 1), processed := acc.processed + 2 }) n 0 {}

/-- `KernelType::VectorTransform`; the modulus is a prime near 2³². -/
def vectorTransformKernel (a b : UInt32) : Option KernelAcc :=
  pollingLoop (fun _ => true) seenAt (fun i acc =>
    let x := wmix (UInt32.ofNat i + seed)
    let y := ((mulMod x a 0xFFFFFFFB + b) % 0xFFFFFFFB).toUInt64
    { lo := acc.lo + y, hi := acc.hi ^^^ (y <<< 1), processed := acc.processed + 1 }) n 0 {}

/-- `KernelType::Checksum`. -/
def checksumKernel : Option KernelAcc :=
  (pollingLoop (fun _ => true) seenAt (fun i (x : UInt32 × KernelAcc) =>
    let s := x.1 * 31 + wmix (UInt32.ofNat i + x.1)
    (s, { lo := x.2.lo + s.toUInt64, hi := x.2.hi + s.toUInt64 * (UInt64.ofNat i + 1),
          processed := x.2.processed + 1 })) n 0 (seed, {})).map Prod.snd

/-- The bound of the loop of `KernelType::SyntheticLoop`. -/
def syntheticRounds : Nat := min n 50000000

/-- `KernelType::SyntheticLoop`: it looks at the token every 16384 iterations. -/
def syntheticLoopKernel : Option KernelAcc :=
  (pollingLoop (fun i => i &&& 0x3FFF = 0) seenAt (fun i (x : UInt32 × KernelAcc) =>
    let s := wmix (x.1 + UInt32.ofNat i)
    (s, { lo := x.2.lo + s.toUInt64, hi := x.2.hi ^^^ s.toUInt64, processed := x.2.processed + 1 }))
    (syntheticRounds n) 0 (seed, {})).map Prod.snd

/-- The fingerprint of the state a task depends on. -/
def stateFingerprint {D : Type} (deps : List (StateDependency D)) : UInt64 :=
  deps.foldl (fun fp dep => fp ^^^ (bytesHash dep.stateId 0 + bytesHash dep.generation 0)) 0

/-- `KernelType::StateDependent`. -/
def stateDependentKernel (fingerprint : UInt64) : Option KernelAcc :=
  (pollingLoop (fun _ => true) seenAt (fun i (x : UInt32 × KernelAcc) =>
    let s := wmix (x.1 + UInt32.ofNat i)
    (s, { lo := x.2.lo + s.toUInt64, hi := x.2.hi ^^^ (s.toUInt64 <<< 3), processed := x.2.processed + 1 }))
    n 0 (fingerprint.toUInt32 ^^^ seed, {})).map Prod.snd

/-- The side of the matrices of `KernelType::TensorArithmetic`. -/
def tensorSide : Nat := if n > 256 then 256 else if n = 0 then 1 else n

/-- One entry of the product: row `i` of the left matrix with column `j` of the right one. -/
def tensorEntry (k i j : Nat) : UInt32 :=
  let s := (List.range k).foldl (fun (s : UInt64) l =>
    s + (wmix (UInt32.ofNat (i * k + l) + seed)).toUInt64 *
      (wmix (UInt32.ofNat (l * k + j) + seed + 0x1234)).toUInt64) 0
  ((s >>> 32) ^^^ (s &&& 0xFFFFFFFF)).toUInt32

/-- `KernelType::TensorArithmetic`: it looks at the token before every row. -/
def tensorArithmeticKernel : Option KernelAcc :=
  let k := tensorSide n
  (pollingLoop (fun _ => true) seenAt (fun i acc =>
    (List.range k).foldl (fun acc j =>
      let c := (tensorEntry seed k i j).toUInt64
      { acc with lo := acc.lo + c, hi := acc.hi ^^^ (c <<< 5) }) acc) k 0 ({} : KernelAcc)).map
    fun acc => { acc with processed := UInt64.ofNat (k * k * k * 2) }

end Kernels

/-! ## `run_cpu_kernel` -/

/-- The bytes of a word in memory, least significant first. -/
def littleEndian64 (w : UInt64) : List UInt8 :=
  (List.range 8).map fun i => (w >>> UInt64.ofNat (8 * i)).toUInt8

/-- The bytes of a word, most significant first. -/
def bigEndian64 (w : UInt64) : List UInt8 :=
  (List.range 8).map fun i => (w >>> UInt64.ofNat (56 - i * 8)).toUInt8

/-- The loop of the kernel a task names, if the CPU has it. -/
def kernelLoop {D : Type} (task : ComputeTask D) (seenAt : Option Nat) (n : Nat) : Option (Option KernelAcc) :=
  let seed := task.seed.toUInt32
  match task.kernel with
  | .hashInteger => some (hashIntegerKernel seenAt n seed)
  | .vectorTransform =>
      some (vectorTransformKernel seenAt n seed task.kernelParamA.toUInt32 task.kernelParamB.toUInt32)
  | .checksum => some (checksumKernel seenAt n seed)
  | .syntheticLoop => some (syntheticLoopKernel seenAt n seed)
  | .stateDependent => some (stateDependentKernel seenAt n seed (stateFingerprint task.stateDependencies))
  | .tensorArithmetic => some (tensorArithmeticKernel seenAt n seed)
  | _ => none

/-- The size a kernel runs with. -/
def kernelSize {D : Type} (task : ComputeTask D) : UInt64 :=
  if task.kernelParamN > 0 then task.kernelParamN else 1

/-- `run_cpu_kernel`. The device is always `"cpu"`. -/
def runCpuKernel {D : Type} (task : ComputeTask D) (seenAt : Option Nat) : WorkloadResult :=
  let n := kernelSize task
  if n > 64000000 then { success := false, notes := text "kernel size exceeds bound" }
  else match kernelLoop task seenAt n.toNat with
    | none => { success := false, notes := text ("unsupported kernel: " ++ task.kernel.name) }
    | some none => { success := false, notes := text "cancelled" }
    | some (some acc) =>
        let h0 := bytesHash (littleEndian64 acc.lo ++ littleEndian64 acc.hi) task.seed.toUInt32.toUInt64
        let h1 := mix64 (h0 ^^^ n)
        let output := bigEndian64 h0 ++ bigEndian64 h1
        { output := output, checksumHex := hexDigest output, bytesProcessed := acc.processed }

/-! ## When a kernel is cancelled -/

/-- The number of iterations of a kernel's loop. -/
def kernelRounds (kernel : KernelType) (n : Nat) : Nat :=
  match kernel with
  | .syntheticLoop => syntheticRounds n
  | .tensorArithmetic => tensorSide n
  | _ => n

/-- The iterations of a kernel's loop that begin with a look at the token. -/
def kernelLooks (kernel : KernelType) (i : Nat) : Bool :=
  match kernel with
  | .syntheticLoop => i &&& 0x3FFF = 0
  | _ => true

/-- One of the kernel's looks at the token finds the request. -/
def SeesRequest (kernel : KernelType) (n : Nat) (seenAt : Option Nat) : Prop :=
  ∃ j, j < kernelRounds kernel n ∧ kernelLooks kernel j = true ∧ seenAt.any (· ≤ j) = true

/-- The loops of the kernels differ in their bodies; whether they end early depends on their looks alone. -/
theorem kernelLoop_eq_some_none_iff {D : Type} {task : ComputeTask D} {seenAt : Option Nat} {n : Nat} :
    kernelLoop task seenAt n = some none ↔
      isSupportedCpuKernel task.kernel = true ∧ SeesRequest task.kernel n seenAt := by
  have hloop : ∀ {σ : Type} {looks : Nat → Bool} {body : Nat → σ → σ} {rounds : Nat} {acc : σ},
      pollingLoop looks seenAt body rounds 0 acc = none ↔
        ∃ j, j < rounds ∧ looks j = true ∧ seenAt.any (· ≤ j) = true := by
    intro σ looks body rounds acc
    rw [pollingLoop_eq_none_iff]
    simp
  unfold kernelLoop SeesRequest
  cases hkernel : task.kernel <;>
    simp [isSupportedCpuKernel, kernelRounds, kernelLooks, hashIntegerKernel, vectorTransformKernel,
      checksumKernel, syntheticLoopKernel, stateDependentKernel, tensorArithmeticKernel, hloop]

/-- **When a kernel is cancelled.** It says so exactly when its loop is entered and one of the looks of the
    loop finds the request. -/
theorem runCpuKernel_cancelled_iff {D : Type} {task : ComputeTask D} {seenAt : Option Nat} :
    (runCpuKernel task seenAt).notes = text "cancelled" ↔
      kernelSize task ≤ 64000000 ∧ isSupportedCpuKernel task.kernel = true ∧
        SeesRequest task.kernel (kernelSize task).toNat seenAt := by
  unfold runCpuKernel
  dsimp only
  by_cases hsize : kernelSize task > 64000000
  · rw [if_pos hsize]
    refine iff_of_false (by decide +kernel) ?_
    rintro ⟨hle, -⟩
    exact absurd hsize (UInt64.not_lt.mpr hle)
  · rw [if_neg hsize, ← kernelLoop_eq_some_none_iff, and_iff_right (UInt64.not_lt.mp hsize)]
    cases hloop : kernelLoop task seenAt (kernelSize task).toNat with
    | none =>
        refine iff_of_false ?_ (by simp)
        have hnames : ∀ name ∈ ["none", "hash_integer", "vector_transform", "checksum", "synthetic_loop",
            "state_dependent", "tensor_arithmetic", "unknown"],
            text ("unsupported kernel: " ++ name) ≠ text "cancelled" := by
          decide +kernel
        exact hnames task.kernel.name (by cases task.kernel <;> simp [KernelType.name])
    | some result =>
        cases result with
        | none => simp
        | some acc =>
            refine iff_of_false ?_ (by simp)
            show ([] : Text) ≠ text "cancelled"
            decide +kernel

end ComputeFabric
