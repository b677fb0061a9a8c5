import Mathlib

/-!
# `Lib.Threads` — threads that share a memory between two barriers

Data-parallel programs run in phases. In one phase every thread runs once, in an order that nobody knows, and
writes at most one cell of a memory that all of them see; a barrier ends the phase.

- **One phase.** When no thread reads or writes a cell that another one writes (`RaceFree`), the phase leaves in
  each written cell what its thread computes from the memory at the beginning, whatever the order (`phase_written`,
  `phase_kept`).
- **The tree sum.** Rounds that add the upper half of the cells to the lower half, with strides `2 ^ (k - 1), …, 1`,
  leave the sum of the first `2 ^ k` cells in cell 0 (`reduceRounds_strides`).
-/

/-- An order in which every thread runs exactly once. -/
structure Schedule (T : Type) where
  order : List T
  nodup : order.Nodup
  complete : ∀ t, t ∈ order

/-- The threads one after another. -/
def Schedule.ascending (n : Nat) : Schedule (Fin n) := ⟨List.finRange n, List.nodup_finRange n, List.mem_finRange⟩

/-- The groups one after another, and the threads of each in order. -/
def Schedule.prod {S T : Type} (σ : Schedule S) (τ : Schedule T) : Schedule (S × T) :=
  ⟨σ.order ×ˢ τ.order, σ.nodup.product τ.nodup, fun t => List.mem_product.mpr ⟨σ.complete t.1, τ.complete t.2⟩⟩

namespace Threads

variable {T C V : Type} [DecidableEq C]

/-- What a thread does in one phase: the cell it writes, if it writes one, and the value, given the memory. -/
abbrev Body (T C V : Type) := T → (C → V) → Option (C × V)

/-- One thread runs. -/
def exec (body : Body T C V) (mem : C → V) (t : T) : C → V :=
  match body t mem with
  | none => mem
  | some (c, v) => Function.update mem c v

/-- All threads run, in the given order. -/
def phase (body : Body T C V) (order : List T) (mem : C → V) : C → V := order.foldl (exec body) mem

/-- Thread `t` writes `value t` to `cell t`; no other thread writes that cell, or one that the value depends on. -/
structure RaceFree (body : Body T C V) (cell : T → Option C) (value : T → (C → V) → V) : Prop where
  body_eq : ∀ t mem, body t mem = (cell t).map fun c => (c, value t mem)
  cells : ∀ t u c, cell t = some c → cell u = some c → t = u
  reads : ∀ t u c, t ≠ u → cell u = some c → ∀ mem v, value t (Function.update mem c v) = value t mem

section RaceFree

variable {body : Body T C V} {cell : T → Option C} {value : T → (C → V) → V} (h : RaceFree body cell value)

include h

theorem RaceFree.exec_apply (mem : C → V) (t : T) (c : C) :
    exec body mem t c = if cell t = some c then value t mem else mem c := by
  unfold exec
  rw [h.body_eq]
  cases hcell : cell t with
  | none => simp
  | some c' =>
      by_cases hc : c = c'
      · simp [hc]
      · simp [hc, Ne.symm hc]

/-- What a thread computes is not changed by another one. -/
theorem RaceFree.value_exec {t u : T} (hne : t ≠ u) (mem : C → V) : value t (exec body mem u) = value t mem := by
  unfold exec
  rw [h.body_eq]
  cases hcell : cell u with
  | none => rfl
  | some c => exact h.reads t u c hne hcell mem _

/-- A cell that no thread writes is kept. -/
theorem RaceFree.phase_kept {c : C} {order : List T} (hc : ∀ t ∈ order, cell t ≠ some c) (mem : C → V) :
    phase body order mem c = mem c := by
  induction order generalizing mem with
  | nil => rfl
  | cons t order ih =>
      rw [phase, List.foldl_cons]
      refine (ih (fun u hu => hc u (List.mem_cons_of_mem _ hu)) _).trans ?_
      rw [h.exec_apply, if_neg (hc t List.mem_cons_self)]

/-- **A written cell** has what its thread computes from the memory at the beginning. -/
theorem RaceFree.phase_written {c : C} {t : T} {order : List T} (hnodup : order.Nodup) (ht : t ∈ order)
    (hcell : cell t = some c) (mem : C → V) : phase body order mem c = value t mem := by
  induction order generalizing mem with
  | nil => cases ht
  | cons u order ih =>
      rw [List.nodup_cons] at hnodup
      rw [phase, List.foldl_cons]
      rcases List.mem_cons.mp ht with rfl | hlater
      · have hkept : ∀ v ∈ order, cell v ≠ some c := by
          intro v hv hsame
          exact hnodup.1 (h.cells t v c hcell hsame ▸ hv)
        refine (h.phase_kept hkept _).trans ?_
        rw [h.exec_apply, if_pos hcell]
      · have hne : t ≠ u := fun heq => hnodup.1 (heq ▸ hlater)
        exact (ih hnodup.2 hlater _).trans (h.value_exec hne mem)

end RaceFree

/-! ## The tree sum -/

section Tree

variable {M : Type} [AddCommMonoid M] {d : Nat}

/-- The lower cells take what stands `s` cells above them. -/
def addStride (s : Nat) : Body (Fin d) Nat M := fun t sh =>
  if t.val < s then some (t.val, sh t.val + sh (t.val + s)) else none

theorem addStride_raceFree (s : Nat) :
    RaceFree (addStride s : Body (Fin d) Nat M) (fun t => if t.val < s then some t.val else none)
      (fun t sh => sh t.val + sh (t.val + s)) where
  body_eq t sh := by
    unfold addStride
    split_ifs <;> rfl
  cells t u c ht hu := by
    split_ifs at ht hu
    exact Fin.ext ((Option.some.inj ht).trans (Option.some.inj hu).symm)
  reads t u c hne hu sh v := by
    split_ifs at hu with hs
    -- a round writes below its stride and reads its own cell and one above
    obtain rfl := Option.some.inj hu
    have hown : t.val ≠ u.val := fun heq => hne (Fin.ext heq)
    rw [Function.update_of_ne hown, Function.update_of_ne (by omega)]

/-- The rounds with the given strides, a barrier after each. -/
def reduceRounds (sched : Nat → Schedule (Fin d)) : List Nat → Nat → (Nat → M) → Nat → M
  | [], _, sh => sh
  | s :: rest, round, sh => reduceRounds sched rest (round + 1) (phase (addStride s) (sched round).order sh)

/-- `2 ^ (k - 1), …, 2, 1`. -/
def strides : Nat → List Nat
  | 0 => []
  | k + 1 => 2 ^ k :: strides k

/-- **The tree sum** ends in cell 0, in whatever order the threads run. -/
theorem reduceRounds_strides (sched : Nat → Schedule (Fin d)) {k : Nat} (hk : 2 ^ k ≤ d) (round : Nat)
    (sh : Nat → M) : reduceRounds sched (strides k) round sh 0 = ∑ i ∈ Finset.range (2 ^ k), sh i := by
  induction k generalizing round sh with
  | zero => simp [strides, reduceRounds]
  | succ k ih =>
      rw [Nat.pow_succ, Nat.mul_comm, Nat.two_mul] at hk ⊢
      rw [strides, reduceRounds, ih (by omega), Finset.sum_range_add, ← Finset.sum_add_distrib]
      refine Finset.sum_congr rfl fun i hi => ?_
      have hlt : i < 2 ^ k := Finset.mem_range.mp hi
      have hwritten := (addStride_raceFree (M := M) (d := d) (2 ^ k)).phase_written (sched round).nodup
        ((sched round).complete ⟨i, by omega⟩) (if_pos hlt) sh
      rw [hwritten, Nat.add_comm i]

end Tree

end Threads
