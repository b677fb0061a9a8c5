import Mathlib

/-!
# `Lib.Codec` — decoders of byte lists

A `Decoder` reads a value from the front of a byte list and returns what is left, or fails with an error. It
carries the one fact every decoder built from reads has: **more input does not change what was read**
(`stable`). Decoders form a monad, so a format is written down field by field, and four things are said about
one:

- `Reads d x a` — `d` reads `a` off the bytes `x`, whatever follows them. `Reads.bind` composes this along the
  fields of a format, `reads_times` along a list.
- `Reads.error_of_truncated` — then it fails on every proper prefix of `x`. This needs no work of its own: it is
  `stable` again.
- `Yields d P` — whatever `d` returns, on any input, satisfies `P`.
- `ReadsOnly d x a` — `d` reads `a` off `x` or fails: what is left of `Reads` when a limit may refuse the bytes.

Words are read and written most significant byte first.
-/

namespace Codec

variable {ε ε' α β : Type}

structure Decoder (ε α : Type) where
  run : List UInt8 → Except ε (α × List UInt8)
  stable : ∀ {bytes : List UInt8} {a : α} {rest : List UInt8} (more : List UInt8),
    run bytes = .ok (a, rest) → run (bytes ++ more) = .ok (a, rest ++ more)

namespace Decoder

/-- Read nothing. -/
def ret (a : α) : Decoder ε α where
  run bytes := .ok (a, bytes)
  stable more h := by
    obtain ⟨rfl, rfl⟩ := Prod.mk.inj (Except.ok.inj h)
    rfl

/-- Read with `d`, then with `f` of what was read. -/
def andThen (d : Decoder ε α) (f : α → Decoder ε β) : Decoder ε β where
  run bytes := match d.run bytes with
    | .error e => .error e
    | .ok (a, rest) => (f a).run rest
  stable {bytes b rest} more h := by
    cases hd : d.run bytes with
    | error e =>
        rw [hd] at h
        cases h
    | ok r =>
        obtain ⟨a, left⟩ := r
        rw [hd] at h
        rw [d.stable more hd]
        exact (f a).stable more h

instance : Monad (Decoder ε) where
  pure := ret
  bind := andThen

/-- Fail, with an error that depends on the number of bytes left. -/
def fail (e : Nat → ε) : Decoder ε α where
  run bytes := .error (e bytes.length)
  stable more h := by cases h

/-- The same reads with other errors. -/
def mapError (g : ε → ε') (d : Decoder ε α) : Decoder ε' α where
  run bytes := match d.run bytes with
    | .error e => .error (g e)
    | .ok r => .ok r
  stable {bytes a rest} more h := by
    cases hd : d.run bytes with
    | error e =>
        rw [hd] at h
        cases h
    | ok r =>
        rw [hd] at h
        obtain rfl := Except.ok.inj h
        rw [d.stable more hd]

/-- `n` values in a row. -/
def times (d : Decoder ε α) : Nat → Decoder ε (List α)
  | 0 => pure []
  | n + 1 => do
      let a ← d
      let as ← times d n
      pure (a :: as)

@[simp] theorem run_pure (a : α) (bytes : List UInt8) :
    (pure a : Decoder ε α).run bytes = .ok (a, bytes) := rfl

theorem run_bind (d : Decoder ε α) (f : α → Decoder ε β) (bytes : List UInt8) :
    (d >>= f).run bytes = match d.run bytes with
      | .error e => .error e
      | .ok (a, rest) => (f a).run rest := rfl

theorem run_mapError (g : ε → ε') (d : Decoder ε α) (bytes : List UInt8) :
    (d.mapError g).run bytes = match d.run bytes with
      | .error e => .error (g e)
      | .ok r => .ok r := rfl

/-- What a sequence of reads returns, the second read returns. -/
theorem run_bind_ok {d : Decoder ε α} {f : α → Decoder ε β} {bytes rest : List UInt8} {b : β}
    (h : (d >>= f).run bytes = .ok (b, rest)) :
    ∃ a left, d.run bytes = .ok (a, left) ∧ (f a).run left = .ok (b, rest) := by
  rw [run_bind] at h
  cases hd : d.run bytes with
  | error e =>
      rw [hd] at h
      cases h
  | ok r =>
      rw [hd] at h
      exact ⟨r.1, r.2, rfl, h⟩

end Decoder

open Decoder

/-! ## Reading back -/

/-- `d` reads `a` off `bytes`, whatever follows. -/
def Reads (d : Decoder ε α) (bytes : List UInt8) (a : α) : Prop :=
  ∀ rest, d.run (bytes ++ rest) = .ok (a, rest)

namespace Reads

variable {d : Decoder ε α} {x y : List UInt8} {a : α}

theorem pure (a : α) : Reads (pure a : Decoder ε α) [] a := fun _ => rfl

theorem bind {f : α → Decoder ε β} {b : β} (h : Reads d x a) (hf : Reads (f a) y b) :
    Reads (d >>= f) (x ++ y) b := by
  intro rest
  rw [List.append_assoc, run_bind, h (y ++ rest)]
  exact hf rest

/-- The same along a list of fields. -/
theorem cons {f : α → Decoder ε β} {b : β} {xs : List (List UInt8)} (h : Reads d x a)
    (hf : Reads (f a) xs.flatten b) : Reads (d >>= f) (x :: xs).flatten b := by
  rw [List.flatten_cons]
  exact h.bind hf

/-- A read that is followed by no other. -/
theorem last {f : α → Decoder ε β} {b : β} (h : Reads d x a) (hf : Reads (f a) [] b) :
    Reads (d >>= f) x b := by
  have hread := h.bind hf
  rwa [List.append_nil] at hread

theorem mapError (g : ε → ε') (h : Reads d x a) : Reads (d.mapError g) x a := by
  intro rest
  rw [run_mapError, h rest]

/-- **Every proper prefix is refused.** If it were read, what is missing could not change that. -/
theorem error_of_truncated (h : Reads d x a) {p : List UInt8} (hp : p <+: x) (hne : p ≠ x) :
    ∃ e, d.run p = .error e := by
  cases hrun : d.run p with
  | error e => exact ⟨e, rfl⟩
  | ok r =>
      obtain ⟨q, rfl⟩ := hp
      have hwhole := d.stable q hrun
      have hread := h []
      rw [List.append_nil, hwhole] at hread
      have hnil : r.2 ++ q = [] := (Prod.mk.inj (Except.ok.inj hread)).2
      rw [List.append_eq_nil_iff] at hnil
      rw [hnil.2, List.append_nil] at hne
      exact absurd rfl hne

end Reads

/-- A list is read back element by element. -/
theorem reads_times {d : Decoder ε α} {enc : α → List UInt8} {as : List α}
    (h : ∀ a ∈ as, Reads d (enc a) a) : Reads (d.times as.length) (as.flatMap enc) as := by
  induction as with
  | nil => exact Reads.pure []
  | cons a as ih =>
      have hrest := ih fun b hb => h b (List.mem_cons_of_mem a hb)
      exact (h a List.mem_cons_self).bind (hrest.last (Reads.pure (a :: as)))

/-! ## What a decoder returns -/

/-- Whatever `d` returns satisfies `P`. -/
def Yields (d : Decoder ε α) (P : α → Prop) : Prop :=
  ∀ bytes a rest, d.run bytes = .ok (a, rest) → P a

namespace Yields

variable {d : Decoder ε α} {P : α → Prop}

theorem any (d : Decoder ε α) : Yields d fun _ => True := fun _ _ _ _ => trivial

theorem pure {a : α} (h : P a) : Yields (pure a : Decoder ε α) P := by
  intro bytes b rest hrun
  obtain ⟨rfl, -⟩ := Prod.mk.inj (Except.ok.inj hrun)
  exact h

theorem fail (e : Nat → ε) : Yields (Decoder.fail e) P := by
  intro bytes a rest hrun
  cases hrun

theorem bind {f : α → Decoder ε β} {Q : β → Prop} (h : Yields d P) (hf : ∀ a, P a → Yields (f a) Q) :
    Yields (d >>= f) Q := by
  intro bytes b rest hrun
  obtain ⟨a, left, hd, hrest⟩ := run_bind_ok hrun
  exact hf a (h bytes a left hd) left b rest hrest

theorem mono {Q : α → Prop} (h : Yields d P) (hPQ : ∀ a, P a → Q a) : Yields d Q :=
  fun bytes a rest hrun => hPQ a (h bytes a rest hrun)

theorem mapError (g : ε → ε') (h : Yields d P) : Yields (d.mapError g) P := by
  intro bytes a rest hrun
  refine h bytes a rest ?_
  cases hd : d.run bytes with
  | error e =>
      rw [run_mapError, hd] at hrun
      cases hrun
  | ok r =>
      rw [run_mapError, hd] at hrun
      exact congrArg Except.ok (Except.ok.inj hrun)

theorem times (h : Yields d P) (n : Nat) : Yields (d.times n) fun as => as.length = n ∧ ∀ a ∈ as, P a := by
  induction n with
  | zero => exact Yields.pure ⟨rfl, fun a ha => absurd ha List.not_mem_nil⟩
  | succ n ih =>
      refine h.bind fun a ha => ih.bind fun as has => Yields.pure ⟨by simp [has.1], ?_⟩
      intro b hb
      rcases List.mem_cons.mp hb with rfl | hb
      · exact ha
      · exact has.2 b hb

end Yields

/-! ## Reading back or refusing

A decoder with limits refuses some of what an encoder without them writes. It never takes it for something else. -/

/-- `d` reads `a` off `bytes`, or refuses them. -/
def ReadsOnly (d : Decoder ε α) (bytes : List UInt8) (a : α) : Prop :=
  ∀ rest b left, d.run (bytes ++ rest) = .ok (b, left) → b = a ∧ left = rest

theorem Reads.readsOnly {d : Decoder ε α} {x : List UInt8} {a : α} (h : Reads d x a) : ReadsOnly d x a := by
  intro rest b left hrun
  rw [h rest] at hrun
  obtain ⟨rfl, rfl⟩ := Prod.mk.inj (Except.ok.inj hrun)
  exact ⟨rfl, rfl⟩

namespace ReadsOnly

variable {d : Decoder ε α} {x y : List UInt8} {a : α}

theorem bind {f : α → Decoder ε β} {b : β} (h : ReadsOnly d x a) (hf : ReadsOnly (f a) y b) :
    ReadsOnly (d >>= f) (x ++ y) b := by
  intro rest b' left hrun
  rw [List.append_assoc] at hrun
  obtain ⟨a', mid, hd, hrest⟩ := run_bind_ok hrun
  obtain ⟨rfl, rfl⟩ := h _ _ _ hd
  exact hf _ _ _ hrest

theorem cons {f : α → Decoder ε β} {b : β} {xs : List (List UInt8)} (h : ReadsOnly d x a)
    (hf : ReadsOnly (f a) xs.flatten b) : ReadsOnly (d >>= f) (x :: xs).flatten b := by
  rw [List.flatten_cons]
  exact h.bind hf

theorem last {f : α → Decoder ε β} {b : β} (h : ReadsOnly d x a) (hf : ReadsOnly (f a) [] b) :
    ReadsOnly (d >>= f) x b := by
  have hread := h.bind hf
  rwa [List.append_nil] at hread

theorem mapError (g : ε → ε') (h : ReadsOnly d x a) : ReadsOnly (d.mapError g) x a := by
  intro rest b left hrun
  refine h rest b left ?_
  cases hd : d.run (x ++ rest) with
  | error e =>
      rw [run_mapError, hd] at hrun
      cases hrun
  | ok r =>
      rw [run_mapError, hd] at hrun
      exact congrArg Except.ok (Except.ok.inj hrun)

/-- What is read back satisfies what the decoder yields. -/
theorem yields {P : α → Prop} (h : ReadsOnly d x a) (hP : Yields d P) {b : α} {left : List UInt8}
    (hrun : d.run x = .ok (b, left)) : b = a ∧ P a := by
  have hread := hrun
  rw [← List.append_nil x] at hread
  obtain ⟨rfl, -⟩ := h _ _ _ hread
  exact ⟨rfl, hP _ _ _ hrun⟩

end ReadsOnly

theorem readsOnly_times {d : Decoder ε α} {enc : α → List UInt8} {as : List α}
    (h : ∀ a ∈ as, ReadsOnly d (enc a) a) : ReadsOnly (d.times as.length) (as.flatMap enc) as := by
  induction as with
  | nil => exact (Reads.pure []).readsOnly
  | cons a as ih =>
      have hrest := ih fun b hb => h b (List.mem_cons_of_mem a hb)
      exact (h a List.mem_cons_self).bind (hrest.last (Reads.pure (a :: as)).readsOnly)

/-! ## Bytes and words -/

/-- The next `n` bytes; fails with the number of bytes left. -/
def take (n : Nat) : Decoder Nat (List UInt8) where
  run bytes := if n ≤ bytes.length then .ok (bytes.take n, bytes.drop n) else .error bytes.length
  stable {bytes a rest} more h := by
    split_ifs at h with hn
    obtain ⟨rfl, rfl⟩ := Prod.mk.inj (Except.ok.inj h)
    have hmore : n ≤ (bytes ++ more).length := by
      rw [List.length_append]
      omega
    rw [if_pos hmore, List.take_append_of_le_length hn, List.drop_append_of_le_length hn]

theorem reads_take (x : List UInt8) : Reads (take x.length) x x := by
  intro rest
  show (if x.length ≤ (x ++ rest).length then _ else _) = _
  rw [if_pos (by simp), List.take_left, List.drop_left]

theorem yields_take (n : Nat) : Yields (take n) fun x => x.length = n := by
  intro bytes a rest hrun
  have h : (if n ≤ bytes.length then Except.ok (bytes.take n, bytes.drop n) else .error bytes.length) =
    .ok (a, rest) := hrun
  split_ifs at h with hn
  obtain ⟨rfl, -⟩ := Prod.mk.inj (Except.ok.inj h)
  rw [List.length_take, Nat.min_eq_left hn]

/-- Go on only if `b`; fails with the number of bytes left. -/
def ensure (b : Bool) : Decoder Nat Unit := if b then pure () else Decoder.fail id

theorem reads_ensure {b : Bool} (h : b = true) : Reads (ensure b) [] () := by
  rw [ensure, if_pos h]
  exact Reads.pure ()

theorem readsOnly_ensure (b : Bool) : ReadsOnly (ensure b) [] () := by
  intro rest u left hrun
  unfold ensure at hrun
  split_ifs at hrun
  · exact (Reads.pure ()).readsOnly rest u left hrun
  · cases hrun

theorem yields_ensure (b : Bool) : Yields (ensure b) fun _ => b = true := by
  unfold ensure
  split_ifs with h
  · exact Yields.pure h
  · exact Yields.fail id

/-- The `n` low bytes of `v`, most significant first. -/
def beBytes (n v : Nat) : List UInt8 := (List.range n).map fun i => UInt8.ofNat (v >>> (8 * (n - 1 - i)))

/-- The value of a byte list, most significant byte first. -/
def beValue (bytes : List UInt8) : Nat := bytes.foldl (fun v b => (v <<< 8) ||| b.toNat) 0

@[simp] theorem length_beBytes (n v : Nat) : (beBytes n v).length = n := by simp [beBytes]

theorem beBytes_succ (n v : Nat) : beBytes (n + 1) v = beBytes n (v >>> 8) ++ [UInt8.ofNat v] := by
  unfold beBytes
  rw [List.range_succ, List.map_append, List.map_singleton]
  congr 1
  · refine List.map_congr_left fun i hi => ?_
    rw [List.mem_range] at hi
    rw [← Nat.shiftRight_add]
    congr 2
    omega
  · simp

/-- A word survives the trip through its bytes. -/
theorem beValue_beBytes {n v : Nat} (h : v < 256 ^ n) : beValue (beBytes n v) = v := by
  induction n generalizing v with
  | zero =>
      have hv : v = 0 := by simpa using h
      rw [hv]
      rfl
  | succ n ih =>
      have hshift : v >>> 8 < 256 ^ n := by
        rw [Nat.shiftRight_eq_div_pow, Nat.div_lt_iff_lt_mul (by decide)]
        rwa [pow_succ] at h
      have hfold : beValue (beBytes n (v >>> 8) ++ [UInt8.ofNat v]) =
          (beValue (beBytes n (v >>> 8)) <<< 8) ||| (UInt8.ofNat v).toNat := by
        simp [beValue]
      rw [beBytes_succ, hfold, ih hshift, ← Nat.shiftLeft_add_eq_or_of_lt (UInt8.toNat_lt (UInt8.ofNat v))]
      rw [Nat.shiftLeft_eq, Nat.shiftRight_eq_div_pow, UInt8.toNat_ofNat']
      omega

/-- An `n`-byte word. -/
def word (n : Nat) : Decoder Nat Nat := do
  let bytes ← take n
  pure (beValue bytes)

theorem reads_word {n v : Nat} (h : v < 256 ^ n) : Reads (word n) (beBytes n v) v := by
  have hbytes : Reads (take n) (beBytes n v) (beBytes n v) := by
    have hlen := reads_take (beBytes n v)
    rwa [length_beBytes] at hlen
  refine hbytes.last ?_
  rw [beValue_beBytes h]
  exact Reads.pure v

/-! ## Accepting only what was written -/

/-- Whatever the decoder accepts begins with the encoding of what it returns. -/
def Inverts (d : Decoder ε α) (enc : α → List UInt8) : Prop :=
  ∀ (bytes : List UInt8) (a : α) (rest : List UInt8), d.run bytes = .ok (a, rest) → bytes = enc a ++ rest

theorem Inverts.mapError {d : Decoder ε α} {enc : α → List UInt8} (h : Inverts d enc) (g : ε → ε') :
    Inverts (d.mapError g) enc := by
  intro bytes a rest hrun
  rw [run_mapError] at hrun
  cases hd : d.run bytes with
  | error e =>
      rw [hd] at hrun
      cases hrun
  | ok r =>
      rw [hd] at hrun
      cases hrun
      exact h bytes a rest hd

/-- A decoder that only renames what it reads. -/
theorem Inverts.map {d : Decoder ε α} {enc : α → List UInt8} {f : α → β} {enc' : β → List UInt8}
    (h : Inverts d enc) (hf : ∀ bytes a rest, d.run bytes = .ok (a, rest) → enc' (f a) = enc a) :
    Inverts (d >>= fun a => pure (f a)) enc' := by
  intro bytes b rest hrun
  obtain ⟨a, left, hd, hpure⟩ := run_bind_ok hrun
  obtain ⟨rfl, rfl⟩ := Prod.mk.inj (Except.ok.inj hpure)
  rw [hf bytes a left hd]
  exact h bytes a left hd

theorem inverts_take (n : Nat) : Inverts (take n) id := by
  intro bytes a rest hrun
  have h : (if n ≤ bytes.length then Except.ok (bytes.take n, bytes.drop n) else .error bytes.length) =
    .ok (a, rest) := hrun
  split_ifs at h
  obtain ⟨rfl, rfl⟩ := Prod.mk.inj (Except.ok.inj h)
  exact (List.take_append_drop n bytes).symm

theorem beValue_concat (bytes : List UInt8) (b : UInt8) : beValue (bytes ++ [b]) = beValue bytes * 256 + b.toNat := by
  have hfold : beValue (bytes ++ [b]) = (beValue bytes <<< 8) ||| b.toNat := by simp [beValue]
  rw [hfold, ← Nat.shiftLeft_add_eq_or_of_lt b.toNat_lt, Nat.shiftLeft_eq]

theorem beValue_lt (bytes : List UInt8) : beValue bytes < 256 ^ bytes.length := by
  induction bytes using List.reverseRecOn with
  | nil => decide
  | append_singleton bytes b ih =>
      have hb : b.toNat < 256 := b.toNat_lt
      rw [beValue_concat, List.length_append, List.length_singleton, pow_succ]
      omega

/-- The bytes of a word survive the trip through its value. -/
theorem beBytes_beValue (bytes : List UInt8) : beBytes bytes.length (beValue bytes) = bytes := by
  induction bytes using List.reverseRecOn with
  | nil => rfl
  | append_singleton bytes b ih =>
      have hb : b.toNat < 256 := b.toNat_lt
      have hhigh : (beValue bytes * 256 + b.toNat) >>> 8 = beValue bytes := by
        rw [Nat.shiftRight_eq_div_pow]
        omega
      have hlow : UInt8.ofNat (beValue bytes * 256 + b.toNat) = b := by
        apply UInt8.toNat_inj.mp
        rw [UInt8.toNat_ofNat']
        omega
      rw [List.length_append, List.length_singleton, beBytes_succ, beValue_concat, hhigh, hlow, ih]

theorem yields_word (n : Nat) : Yields (word n) fun v => v < 256 ^ n := by
  refine (yields_take n).bind fun bytes hlen => Yields.pure ?_
  rw [← hlen]
  exact beValue_lt bytes

theorem inverts_word (n : Nat) : Inverts (word n) (beBytes n) := by
  refine (inverts_take n).map fun bytes a rest hrun => ?_
  rw [← yields_take n bytes a rest hrun]
  exact beBytes_beValue a

end Codec
