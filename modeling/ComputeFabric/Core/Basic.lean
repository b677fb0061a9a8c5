import Mathlib

/-!
# `Core.Basic` — identifiers, byte strings, errors and doubles

Every object the fabric names (workload, task, attempt, reservation, node, node session) carries an
`Id128`. `std::map<Id128, V>` is `IdMap V`, `std::set<Id128>` is `IdSet`: the standard library's
extensional tree containers over the source's `operator<` (high word first, then low word), so iteration
runs in the source's order and two maps with the same lookups are equal.

A `std::string` is an arbitrary byte string, not a Unicode one, so it is modelled as `Text`.

C++ `double` is left abstract. `DoubleArith D` lists the operations on doubles that the program performs
and promises no law about them, so a result over an arbitrary `DoubleArith D` holds for IEEE arithmetic
with its rounding and NaNs; a result about exact costs is stated at `ℚ`, whose instance is below.
-/

namespace ComputeFabric

/-- A 128-bit stable identifier. -/
structure Id128 where
  hi : UInt64 := 0
  lo : UInt64 := 0
deriving DecidableEq, Inhabited

namespace Id128

def zero : Id128 := {}

def isZero (a : Id128) : Bool := a.hi == 0 && a.lo == 0

/-- `operator<`: by the high word, then by the low word. -/
instance : Ord Id128 := ⟨compareLex (compareOn Id128.hi) (compareOn Id128.lo)⟩

instance : Std.TransOrd Id128 := inferInstanceAs (Std.TransCmp (compareLex _ _))

instance : Std.LawfulEqOrd Id128 where
  eq_of_compare {a b} h := by
    obtain ⟨ha, la⟩ := a
    obtain ⟨hb, lb⟩ := b
    have h' : (compare ha hb).then (compare la lb) = .eq := h
    rw [Ordering.then_eq_eq] at h'
    rw [Std.compare_eq_iff_eq.mp h'.1, Std.compare_eq_iff_eq.mp h'.2]

instance : LT Id128 := ltOfOrd

end Id128

abbrev WorkloadId := Id128
abbrev ComputeTaskId := Id128
abbrev ExecutionAttemptId := Id128
abbrev ReservationId := Id128
abbrev NodeId := Id128
abbrev NodeSessionId := Id128

/-- Coordinator epoch: a 64-bit counter, bumped at every coordinator start. -/
abbrev CoordinatorEpoch := UInt64

/-- Per-node session epoch: bumped when a node re-registers. -/
abbrev SessionEpoch := UInt64

/-- `std::map<Id128, V>`. -/
abbrev IdMap (V : Type) := Std.ExtTreeMap Id128 V compare

/-- `std::set<Id128>`. -/
abbrev IdSet := Std.ExtTreeSet Id128 compare

/-- `std::string`: raw bytes. -/
abbrev Text := List UInt8

/-- The bytes of a string literal of the source. -/
def text (s : String) : Text := s.toUTF8.toList

/-- `std::map<std::string, V>`. -/
abbrev TextMap (V : Type) := Std.ExtTreeMap Text V compare

/-- One lower-case hexadecimal digit (`%x`). -/
def hexDigit (n : UInt64) : UInt8 :=
  if n < 10 then 48 + n.toUInt8 else 87 + n.toUInt8

/-- `%016llx`: the sixteen digits of a word, most significant first. -/
def hexWord (w : UInt64) : Text :=
  (List.range 16).map fun i => hexDigit ((w >>> (UInt64.ofNat (60 - 4 * i))) &&& 15)

/-- `Id128::to_hex`. -/
def Id128.toHex (a : Id128) : Text := hexWord a.hi ++ hexWord a.lo

/-- `std::to_string` of an unsigned integer. -/
def decimal (n : Nat) : Text := text (toString n)

/-! ## Errors -/

/-- `ErrorCode`, restricted to the codes the modelled functions return. -/
inductive ErrorCode where
  | taskNotFound | illegalTransition | alreadyExists | selfDependency | dependencyCycle
  | reservationNotFound | corruptionDetected | ioError | shuttingDown | noCapacity | outOfBounds
  | persistenceError | malformedFrame | protocolVersionMismatch | timeout | internal
  | invalidState
deriving DecidableEq

/-- `Error`: a code and a message. `Result<T>` is `Except Error T`. -/
structure Error where
  code : ErrorCode
  message : Text
deriving DecidableEq

/-! ## Doubles -/

/-- The operations on `double` used by the program. The comparisons are the C++ ones: all are `false` on a
    NaN. -/
class DoubleArith (D : Type) extends Add D, Sub D, Mul D, Div D, Neg D, OfScientific D, NatCast D,
    IntCast D where
  lt : D → D → Bool
  le : D → D → Bool
  eq : D → D → Bool

/-- Exact arithmetic. -/
instance : DoubleArith ℚ where
  lt x y := decide (x < y)
  le x y := decide (x ≤ y)
  eq x y := decide (x = y)

/-- `std::min(a, b)`. -/
def DoubleArith.min {D : Type} [DoubleArith D] (a b : D) : D := if lt b a then b else a

/-- `std::max(a, b)`. -/
def DoubleArith.max {D : Type} [DoubleArith D] (a b : D) : D := if lt a b then b else a

end ComputeFabric
