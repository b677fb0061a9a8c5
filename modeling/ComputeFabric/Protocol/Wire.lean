import ComputeFabric.Lib.Codec
import ComputeFabric.Lib.OrdMap
import ComputeFabric.Resource.Reservation
import ComputeFabric.Task.Lifecycle

/-!
# `Protocol.Wire` — the big-endian writer and the bounds-checked reader

`BinaryWriter` and `BinaryReader` of `wire.h`. A writer only appends, so a `put` is the bytes it appends. A
reader is a `Decoder` over the bytes left; a failed read reports how many there were at the failure, which is
what the position in `BinaryReader::fail` is computed from.

Each `read` undoes its `put` (`reads_…`), and a `read` with a limit returns values within it (`yields_…`). Counted
lists and string maps, which every record format repeats, are read and written by one pair of functions each.
-/

namespace ComputeFabric

open Codec

/-- The object representation of a `double`: `std::memcpy` to and from a 64-bit word. -/
class DoubleBits (D : Type) where
  bits : D ≃ UInt64

/-- Doubles given by their representation. -/
instance : DoubleBits UInt64 := ⟨Equiv.refl UInt64⟩

/-- An `enum class … : uint8_t`: every byte is a value. -/
class ByteEnum (E : Type) where
  toUInt8 : E → UInt8
  ofUInt8 : UInt8 → E
  ofUInt8_toUInt8 : ∀ e, ofUInt8 (toUInt8 e) = e

instance : ByteEnum TaskClass where
  toUInt8 := TaskClass.toUInt8
  ofUInt8 := TaskClass.ofUInt8
  ofUInt8_toUInt8 e := by
    cases e with
    | unlisted v => revert v; decide +kernel
    | _ => rfl

instance : ByteEnum ExecutorType where
  toUInt8 := ExecutorType.toUInt8
  ofUInt8 := ExecutorType.ofUInt8
  ofUInt8_toUInt8 e := by
    cases e with
    | unlisted v => revert v; decide +kernel
    | _ => rfl

instance : ByteEnum KernelType where
  toUInt8 := KernelType.toUInt8
  ofUInt8 := KernelType.ofUInt8
  ofUInt8_toUInt8 e := by
    cases e with
    | unlisted v => revert v; decide +kernel
    | _ => rfl

instance : ByteEnum Priority where
  toUInt8 := Priority.toUInt8
  ofUInt8 := Priority.ofUInt8
  ofUInt8_toUInt8 e := by
    cases e with
    | unlisted v => revert v; decide +kernel
    | _ => rfl

instance : ByteEnum AttemptState where
  toUInt8 := AttemptState.toUInt8
  ofUInt8 := AttemptState.ofUInt8
  ofUInt8_toUInt8 e := by
    cases e with
    | unlisted v => revert v; decide +kernel
    | _ => rfl

instance : ByteEnum FailureKind where
  toUInt8 := FailureKind.toUInt8
  ofUInt8 := FailureKind.ofUInt8
  ofUInt8_toUInt8 e := by
    cases e with
    | unlisted v => revert v; decide +kernel
    | _ => rfl

instance : ByteEnum TaskState where
  toUInt8 := TaskState.toUInt8
  ofUInt8 := TaskState.ofUInt8
  ofUInt8_toUInt8 e := by
    cases e with
    | unlisted v => revert v; decide +kernel
    | _ => rfl

instance : ByteEnum NodeHealth where
  toUInt8 := NodeHealth.toUInt8
  ofUInt8 := NodeHealth.ofUInt8
  ofUInt8_toUInt8 e := by
    cases e with
    | unlisted v => revert v; decide +kernel
    | _ => rfl

/-! ## `BinaryWriter` -/

def putU8 (v : UInt8) : List UInt8 := beBytes 1 v.toNat

def putU16 (v : UInt16) : List UInt8 := beBytes 2 v.toNat

def putU32 (v : UInt32) : List UInt8 := beBytes 4 v.toNat

def putI32 (v : Int32) : List UInt8 := putU32 v.toUInt32

def putU64 (v : UInt64) : List UInt8 := beBytes 8 v.toNat

def putI64 (v : Int64) : List UInt8 := putU64 v.toUInt64

def putF64 {D : Type} [DoubleBits D] (v : D) : List UInt8 := putU64 (DoubleBits.bits v)

def putBool (b : Bool) : List UInt8 := putU8 (if b then 1 else 0)

/-- `put_u8(static_cast<uint8_t>(e))`. -/
def putEnum {E : Type} [ByteEnum E] (e : E) : List UInt8 := putU8 (ByteEnum.toUInt8 e)

/-- `put_string`: the length is narrowed to 32 bits. -/
def putString (s : Text) : List UInt8 := putU32 (UInt32.ofNat s.length) ++ s

/-- `put_id`: `Id128::to_bytes`, the high word first. -/
def putId (id : Id128) : List UInt8 := putU64 id.hi ++ putU64 id.lo

/-- `put_u32(xs.size())`, then the elements. -/
def putList {X : Type} (put : X → List UInt8) (xs : List X) : List UInt8 :=
  putU32 (UInt32.ofNat xs.length) ++ xs.flatMap put

/-- A `std::map<std::string, std::string>`: count, then keys and values in key order. -/
def putTags (tags : TextMap Text) : List UInt8 :=
  putList (fun e => putString e.1 ++ putString e.2) tags.toList

/-! How long the pieces are. -/

section Lengths

@[simp] theorem length_putU8 (v : UInt8) : (putU8 v).length = 1 := length_beBytes 1 _

@[simp] theorem length_putU32 (v : UInt32) : (putU32 v).length = 4 := length_beBytes 4 _

@[simp] theorem length_putU64 (v : UInt64) : (putU64 v).length = 8 := length_beBytes 8 _

@[simp] theorem length_putI64 (v : Int64) : (putI64 v).length = 8 := length_beBytes 8 _

@[simp] theorem length_putF64 {D : Type} [DoubleBits D] (v : D) : (putF64 v).length = 8 := length_beBytes 8 _

@[simp] theorem length_putBool (b : Bool) : (putBool b).length = 1 := length_beBytes 1 _

@[simp] theorem length_putEnum {E : Type} [ByteEnum E] (e : E) : (putEnum e).length = 1 := length_beBytes 1 _

@[simp] theorem length_putId (id : Id128) : (putId id).length = 16 := by simp [putId]

@[simp] theorem length_putString (s : Text) : (putString s).length = 4 + s.length := by simp [putString]

theorem length_putList {X : Type} (put : X → List UInt8) (xs : List X) :
    (putList put xs).length = 4 + (xs.map fun x => (put x).length).sum := by
  simp [putList, List.length_flatMap]

end Lengths

/-! ## `BinaryReader` -/

/-- A read of `BinaryReader`; a failure is the number of bytes left. -/
abbrev Reader (X : Type) := Decoder Nat X

def readU8 : Reader UInt8 := do
  let v ← word 1
  pure (UInt8.ofNat v)

def readU16 : Reader UInt16 := do
  let v ← word 2
  pure (UInt16.ofNat v)

def readU32 : Reader UInt32 := do
  let v ← word 4
  pure (UInt32.ofNat v)

def readI32 : Reader Int32 := do
  let u ← readU32
  pure u.toInt32

def readU64 : Reader UInt64 := do
  let v ← word 8
  pure (UInt64.ofNat v)

def readI64 : Reader Int64 := do
  let u ← readU64
  pure u.toInt64

def readF64 {D : Type} [DoubleBits D] : Reader D := do
  let bits ← readU64
  pure (DoubleBits.bits.symm bits)

/-- `read_bool`: any nonzero byte is `true`. -/
def readBool : Reader Bool := do
  let b ← readU8
  pure (b != 0)

/-- `read_u8`, then `static_cast`. -/
def readEnum {E : Type} [ByteEnum E] : Reader E := do
  let b ← readU8
  pure (ByteEnum.ofUInt8 b)

/-- `read_raw_bytes`. -/
def readRawBytes (n : UInt32) : Reader (List UInt8) := take n.toNat

/-- `read_u32(n)` with the check `n > max` that follows it. -/
def readU32Max (max : UInt32) : Reader UInt32 := do
  let n ← readU32
  let _ ← ensure (n ≤ max)
  pure n

/-- `read_string(out, max_len)`. -/
def readString (maxLen : UInt32) : Reader Text := do
  let n ← readU32Max maxLen
  readRawBytes n

/-- `read_id`: `Id128::from_bytes` of the next 16 bytes. -/
def readId : Reader Id128 := do
  let b ← take 16
  pure ⟨UInt64.ofNat (beValue (b.take 8)), UInt64.ofNat (beValue (b.drop 8))⟩

/-! ## Reading back what was put -/

section ReadBack

variable {X : Type}

theorem reads_readU8 (v : UInt8) : Reads readU8 (putU8 v) v := by
  refine (reads_word v.toNat_lt).last ?_
  rw [UInt8.ofNat_toNat]
  exact Reads.pure v

theorem reads_readU16 (v : UInt16) : Reads readU16 (putU16 v) v := by
  refine (reads_word v.toNat_lt).last ?_
  rw [UInt16.ofNat_toNat]
  exact Reads.pure v

theorem reads_readU32 (v : UInt32) : Reads readU32 (putU32 v) v := by
  refine (reads_word v.toNat_lt).last ?_
  rw [UInt32.ofNat_toNat]
  exact Reads.pure v

theorem reads_readI32 (v : Int32) : Reads readI32 (putI32 v) v := by
  refine (reads_readU32 v.toUInt32).last ?_
  rw [Int32.toInt32_toUInt32]
  exact Reads.pure v

theorem reads_readU64 (v : UInt64) : Reads readU64 (putU64 v) v := by
  refine (reads_word v.toNat_lt).last ?_
  rw [UInt64.ofNat_toNat]
  exact Reads.pure v

theorem reads_readI64 (v : Int64) : Reads readI64 (putI64 v) v := by
  refine (reads_readU64 v.toUInt64).last ?_
  rw [Int64.toInt64_toUInt64]
  exact Reads.pure v

theorem reads_readF64 {D : Type} [DoubleBits D] (v : D) : Reads readF64 (putF64 v) v := by
  refine (reads_readU64 (DoubleBits.bits v)).last ?_
  rw [Equiv.symm_apply_apply]
  exact Reads.pure v

theorem reads_readBool (b : Bool) : Reads readBool (putBool b) b := by
  refine (reads_readU8 _).last ?_
  cases b <;> exact Reads.pure _

theorem reads_readEnum {E : Type} [ByteEnum E] (e : E) : Reads readEnum (putEnum e) e := by
  refine (reads_readU8 _).last ?_
  rw [ByteEnum.ofUInt8_toUInt8]
  exact Reads.pure e

theorem reads_readU32Max {n max : UInt32} (h : n ≤ max) : Reads (readU32Max max) (putU32 n) n :=
  (reads_readU32 n).last (Reads.last (x := []) (reads_ensure (decide_eq_true h)) (Reads.pure n))

/-- A length within a 32-bit limit survives the narrowing. -/
theorem toNat_ofNat_of_le {n : Nat} {max : UInt32} (h : n ≤ max.toNat) : (UInt32.ofNat n).toNat = n := by
  have hmax := max.toNat_lt
  rw [UInt32.toNat_ofNat']
  omega

theorem ofNat_le {n : Nat} {max : UInt32} (h : n ≤ max.toNat) : UInt32.ofNat n ≤ max := by
  rw [UInt32.le_iff_toNat_le, toNat_ofNat_of_le h]
  exact h

theorem reads_readRawBytes {bytes : List UInt8} {max : UInt32} (h : bytes.length ≤ max.toNat) :
    Reads (readRawBytes (UInt32.ofNat bytes.length)) bytes bytes := by
  have hread := reads_take bytes
  rwa [← toNat_ofNat_of_le h] at hread

theorem reads_readString {s : Text} {maxLen : UInt32} (h : s.length ≤ maxLen.toNat) :
    Reads (readString maxLen) (putString s) s :=
  (reads_readU32Max (ofNat_le h)).bind (reads_readRawBytes h)

theorem reads_readId (id : Id128) : Reads readId (putId id) id := by
  have hbytes : Reads (take 16) (putId id) (putId id) := by
    have hread := reads_take (putId id)
    rwa [show (putId id).length = 16 by simp [putId, putU64]] at hread
  refine hbytes.last ?_
  have hlen : (putU64 id.hi).length = 8 := length_beBytes 8 _
  have hhi : (putId id).take 8 = putU64 id.hi := by
    rw [putId, ← hlen, List.take_left]
  have hlo : (putId id).drop 8 = putU64 id.lo := by
    rw [putId, ← hlen, List.drop_left]
  rw [hhi, hlo, putU64, putU64, beValue_beBytes id.hi.toNat_lt, beValue_beBytes id.lo.toNat_lt,
    UInt64.ofNat_toNat, UInt64.ofNat_toNat]
  exact Reads.pure id

end ReadBack

/-! ## Reading back past the limits

The writer narrows a length to 32 bits and checks nothing else. Up to there the reader either refuses the bytes or
returns what was put. -/

theorem readsOnly_readU32Max (n max : UInt32) : ReadsOnly (readU32Max max) (putU32 n) n :=
  (reads_readU32 n).readsOnly.last (ReadsOnly.last (x := []) (readsOnly_ensure _) (Reads.pure n).readsOnly)

theorem toNat_ofNat_of_lt {n : Nat} (h : n < 4294967296) : (UInt32.ofNat n).toNat = n := by
  rw [UInt32.toNat_ofNat']
  omega

theorem readsOnly_readString (maxLen : UInt32) {s : Text} (h : s.length < 4294967296) :
    ReadsOnly (readString maxLen) (putString s) s := by
  refine (readsOnly_readU32Max _ maxLen).bind ?_
  have hread := (reads_take s).readsOnly
  rwa [← toNat_ofNat_of_lt h] at hread

/-! ## What a limited read returns -/

theorem yields_readU32Max (max : UInt32) : Yields (readU32Max max) fun n => n ≤ max :=
  (Yields.any readU32).bind fun _ _ => (yields_ensure _).bind fun _ hn => Yields.pure (of_decide_eq_true hn)

theorem yields_readRawBytes (n : UInt32) : Yields (readRawBytes n) fun bytes => bytes.length = n.toNat :=
  yields_take n.toNat

theorem yields_readString (maxLen : UInt32) : Yields (readString maxLen) fun s => s.length ≤ maxLen.toNat := by
  refine (yields_readU32Max maxLen).bind fun n hn => (yields_readRawBytes n).mono fun s hs => ?_
  rw [hs]
  exact UInt32.le_iff_toNat_le.mp hn

/-! ## Bytes that are accepted are bytes that were put -/

theorem inverts_readU8 : Inverts readU8 putU8 := by
  refine (inverts_word 1).map fun bytes v rest hrun => ?_
  have hv : v < 256 := yields_word 1 bytes v rest hrun
  rw [putU8, UInt8.toNat_ofNat', Nat.mod_eq_of_lt (by omega)]

theorem inverts_readU16 : Inverts readU16 putU16 := by
  refine (inverts_word 2).map fun bytes v rest hrun => ?_
  have hv : v < 65536 := yields_word 2 bytes v rest hrun
  rw [putU16, UInt16.toNat_ofNat', Nat.mod_eq_of_lt (by omega)]

theorem inverts_readU32 : Inverts readU32 putU32 := by
  refine (inverts_word 4).map fun bytes v rest hrun => ?_
  have hv : v < 4294967296 := yields_word 4 bytes v rest hrun
  rw [putU32, UInt32.toNat_ofNat', Nat.mod_eq_of_lt (by omega)]

theorem inverts_readU64 : Inverts readU64 putU64 := by
  refine (inverts_word 8).map fun bytes v rest hrun => ?_
  have hv : v < 18446744073709551616 := yields_word 8 bytes v rest hrun
  rw [putU64, UInt64.toNat_ofNat', Nat.mod_eq_of_lt (by omega)]

theorem inverts_readEnum {E : Type} [ByteEnum E] (h : ∀ b, ByteEnum.toUInt8 (ByteEnum.ofUInt8 b : E) = b) :
    Inverts (readEnum (E := E)) putEnum :=
  inverts_readU8.map fun _ b _ _ => by rw [putEnum, h b]

theorem inverts_readId : Inverts readId putId := by
  refine (inverts_take 16).map fun bytes b rest hrun => ?_
  have hlen : b.length = 16 := yields_take 16 bytes b rest hrun
  have hword : ∀ half : List UInt8, half.length = 8 → putU64 (UInt64.ofNat (beValue half)) = half := by
    intro half hhalf
    have hlt : beValue half < 2 ^ 64 := by
      have hlt := beValue_lt half
      rw [hhalf] at hlt
      omega
    have hbytes := beBytes_beValue half
    rw [hhalf] at hbytes
    rw [putU64, UInt64.toNat_ofNat', Nat.mod_eq_of_lt hlt, hbytes]
  rw [putId, hword _ (by simp [hlen]), hword _ (by simp [hlen]), List.take_append_drop]
  rfl

theorem putU32_injective : Function.Injective putU32 := by
  intro a b h
  have hread := reads_readU32 a []
  rw [h, reads_readU32 b []] at hread
  exact (Prod.mk.inj (Except.ok.inj hread)).1.symm

theorem putU64_injective : Function.Injective putU64 := by
  intro a b h
  have hread := reads_readU64 a []
  rw [h, reads_readU64 b []] at hread
  exact (Prod.mk.inj (Except.ok.inj hread)).1.symm

/-! ## Fields of a record

A deserializer gives up at the first read that fails, with a text that names the field. -/

/-- `BinaryReader::fail(what)`, before the text is put together. -/
structure ReadFailure where
  what : String
  left : Nat
deriving DecidableEq

/-- The error, for a reader over `len` bytes. -/
def ReadFailure.toError (len : Nat) (f : ReadFailure) : Error :=
  ⟨.outOfBounds, text f.what ++ text " (reader at " ++ decimal (len - f.left) ++ text "/" ++ decimal len ++
    text ")"⟩

/-- A deserializer. -/
abbrev Deserializer (X : Type) := Decoder ReadFailure X

/-- `if (!r.read_…(…)) return r.fail(what);` -/
def need {X : Type} (what : String) (read : Reader X) : Deserializer X := read.mapError (ReadFailure.mk what)

/-- `kMaxString`, also the limit on payload bytes. -/
def maxString : UInt32 := (1 : UInt32) <<< 20

/-- `kMaxList`. -/
def maxList : UInt32 := (1 : UInt32) <<< 16

/-- A string field. -/
def needString (what : String) : Deserializer Text := need what (readString maxString)

/-- A counted list; `what` names the count. -/
def needList {X : Type} (what : String) (item : Deserializer X) : Deserializer (List X) := do
  let n ← need what (readU32Max maxList)
  item.times n.toNat

/-- A string map; `whatEntry` names an entry. -/
def needTags (what whatEntry : String) : Deserializer (TextMap Text) := do
  let entries ← needList what (need whatEntry do
    let k ← readString maxString
    let v ← readString maxString
    pure (k, v))
  pure (OrdMap.ofEntries entries)

/-- The string is within the decoder's limit. -/
def Text.Bounded (s : Text) : Prop := s.length ≤ maxString.toNat

/-- The list, and each of its elements, is within the decoder's limits. -/
def BoundedList {X : Type} (P : X → Prop) (xs : List X) : Prop := xs.length ≤ maxList.toNat ∧ ∀ x ∈ xs, P x

/-- The map is within the decoder's limits. -/
def BoundedTags (tags : TextMap Text) : Prop :=
  tags.size ≤ maxList.toNat ∧ ∀ e ∈ tags.toList, Text.Bounded e.1 ∧ Text.Bounded e.2

instance (s : Text) : Decidable (Text.Bounded s) := inferInstanceAs (Decidable (_ ≤ _))

instance {X : Type} (P : X → Prop) [DecidablePred P] (xs : List X) : Decidable (BoundedList P xs) :=
  inferInstanceAs (Decidable (_ ∧ _))

instance (tags : TextMap Text) : Decidable (BoundedTags tags) := inferInstanceAs (Decidable (_ ∧ _))

section Fields

variable {X : Type}

theorem reads_need (what : String) {read : Reader X} {bytes : List UInt8} {x : X} (h : Reads read bytes x) :
    Reads (need what read) bytes x := h.mapError _

@[simp] theorem run_needU8 (what : String) (v : UInt8) (rest : List UInt8) :
    (need what readU8).run (putU8 v ++ rest) = .ok (v, rest) := reads_need what (reads_readU8 v) rest

@[simp] theorem run_needU16 (what : String) (v : UInt16) (rest : List UInt8) :
    (need what readU16).run (putU16 v ++ rest) = .ok (v, rest) := reads_need what (reads_readU16 v) rest

@[simp] theorem run_needU32 (what : String) (v : UInt32) (rest : List UInt8) :
    (need what readU32).run (putU32 v ++ rest) = .ok (v, rest) := reads_need what (reads_readU32 v) rest

@[simp] theorem run_needI32 (what : String) (v : Int32) (rest : List UInt8) :
    (need what readI32).run (putI32 v ++ rest) = .ok (v, rest) := reads_need what (reads_readI32 v) rest

@[simp] theorem run_needU64 (what : String) (v : UInt64) (rest : List UInt8) :
    (need what readU64).run (putU64 v ++ rest) = .ok (v, rest) := reads_need what (reads_readU64 v) rest

@[simp] theorem run_needI64 (what : String) (v : Int64) (rest : List UInt8) :
    (need what readI64).run (putI64 v ++ rest) = .ok (v, rest) := reads_need what (reads_readI64 v) rest

@[simp] theorem run_needF64 {D : Type} [DoubleBits D] (what : String) (v : D) (rest : List UInt8) :
    (need what readF64).run (putF64 v ++ rest) = .ok (v, rest) := reads_need what (reads_readF64 v) rest

@[simp] theorem run_needBool (what : String) (b : Bool) (rest : List UInt8) :
    (need what readBool).run (putBool b ++ rest) = .ok (b, rest) := reads_need what (reads_readBool b) rest

@[simp] theorem run_needEnum {E : Type} [ByteEnum E] (what : String) (e : E) (rest : List UInt8) :
    (need what readEnum).run (putEnum e ++ rest) = .ok (e, rest) := reads_need what (reads_readEnum e) rest

@[simp] theorem run_needId (what : String) (id : Id128) (rest : List UInt8) :
    (need what readId).run (putId id ++ rest) = .ok (id, rest) := reads_need what (reads_readId id) rest

@[simp] theorem run_needString (what : String) {s : Text} (h : Text.Bounded s) (rest : List UInt8) :
    (needString what).run (putString s ++ rest) = .ok (s, rest) := reads_need what (reads_readString h) rest

theorem reads_needString (what : String) {s : Text} (h : Text.Bounded s) : Reads (needString what) (putString s) s :=
  reads_need what (reads_readString h)

theorem reads_needList (what : String) {item : Deserializer X} {put : X → List UInt8} {xs : List X}
    (hlen : xs.length ≤ maxList.toNat) (h : ∀ x ∈ xs, Reads item (put x) x) :
    Reads (needList what item) (putList put xs) xs := by
  refine (reads_need what (reads_readU32Max (ofNat_le hlen))).bind ?_
  rw [toNat_ofNat_of_le hlen]
  exact reads_times h

theorem length_le_putString (s : Text) : s.length ≤ (putString s).length := by
  rw [putString, List.length_append]
  omega

/-- An element is no longer than the list it stands in. -/
theorem length_item_le_putList (put : X → List UInt8) {xs : List X} {x : X} (hx : x ∈ xs) :
    (put x).length ≤ (putList put xs).length := by
  obtain ⟨l₁, l₂, rfl⟩ := List.append_of_mem hx
  simp [putList]
  omega

/-- A list of elements that all take room has no more of them than bytes. -/
theorem length_le_flatMap {put : X → List UInt8} (hput : ∀ x, 0 < (put x).length) (xs : List X) :
    xs.length ≤ (xs.flatMap put).length := by
  induction xs with
  | nil => exact Nat.le_refl 0
  | cons x xs ih =>
      have hx := hput x
      rw [List.flatMap_cons, List.length_append, List.length_cons]
      omega

theorem length_le_putList (put : X → List UInt8) (hput : ∀ x, 0 < (put x).length) (xs : List X) :
    xs.length ≤ (putList put xs).length := by
  rw [putList, List.length_append]
  exact (length_le_flatMap hput xs).trans (Nat.le_add_left _ _)

theorem readsOnly_needString (what : String) {s : Text} (h : s.length < 4294967296) :
    ReadsOnly (needString what) (putString s) s := (readsOnly_readString maxString h).mapError _

theorem readsOnly_needList (what : String) {item : Deserializer X} {put : X → List UInt8} {xs : List X}
    (hlen : xs.length < 4294967296) (h : ∀ x ∈ xs, ReadsOnly item (put x) x) :
    ReadsOnly (needList what item) (putList put xs) xs := by
  refine ((readsOnly_readU32Max _ maxList).mapError _).bind ?_
  rw [toNat_ofNat_of_lt hlen]
  exact readsOnly_times h

theorem reads_needTags (what whatEntry : String) {tags : TextMap Text} (h : BoundedTags tags) :
    Reads (needTags what whatEntry) (putTags tags) tags := by
  have hentries : Reads (needList what (need whatEntry do
      let k ← readString maxString
      let v ← readString maxString
      pure (k, v))) (putTags tags) tags.toList := by
    refine reads_needList what ?_ fun e he => reads_need whatEntry ?_
    · rw [Std.ExtTreeMap.length_toList]
      exact h.1
    · have hbounds := h.2 e he
      exact (reads_readString hbounds.1).bind ((reads_readString hbounds.2).last (Reads.pure e))
  refine hentries.last ?_
  rw [OrdMap.ofEntries_toList]
  exact Reads.pure tags

theorem yields_need (what : String) {read : Reader X} {P : X → Prop} (h : Yields read P) :
    Yields (need what read) P := h.mapError _

theorem yields_needString (what : String) : Yields (needString what) Text.Bounded :=
  yields_need what (yields_readString maxString)

theorem yields_needList (what : String) {item : Deserializer X} {P : X → Prop} (h : Yields item P) :
    Yields (needList what item) (BoundedList P) := by
  refine (yields_need what (yields_readU32Max maxList)).bind fun n hn => (h.times n.toNat).mono ?_
  rintro xs ⟨hlen, hxs⟩
  refine ⟨?_, hxs⟩
  rw [hlen]
  exact UInt32.le_iff_toNat_le.mp hn

theorem yields_needTags (what whatEntry : String) : Yields (needTags what whatEntry) BoundedTags := by
  have hentry : Yields (need whatEntry do
      let k ← readString maxString
      let v ← readString maxString
      pure (k, v)) fun e => Text.Bounded e.1 ∧ Text.Bounded e.2 :=
    yields_need whatEntry ((yields_readString maxString).bind fun _ hk =>
      (yields_readString maxString).bind fun _ hv => Yields.pure ⟨hk, hv⟩)
  refine (yields_needList what hentry).bind fun entries hentries => Yields.pure ⟨?_, fun e he => ?_⟩
  · exact (OrdMap.size_ofEntries_le entries).trans hentries.1
  · exact hentries.2 e (OrdMap.mem_of_mem_ofEntries he)

end Fields

end ComputeFabric
