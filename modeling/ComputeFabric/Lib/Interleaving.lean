import Mathlib

/-!
# `Lib.Interleaving` — threads with program counters

Threads that share a state are a function `pc : T → P` from threads to program counters: a step of thread `t`
replaces `pc t`, and a notification of all waiting threads maps every program counter at once.

`total w pc` adds up a weight over all threads. With weights 0 and 1 it counts the threads at a place in the
program; with larger weights it is a measure. One lemma for each kind of step says how it changes.
-/

namespace Interleaving

variable {T P : Type} [Fintype T]

/-- The weight of all threads together. -/
def total (w : P → Nat) (pc : T → P) : Nat := ∑ t, w (pc t)

/-- One thread takes a step. -/
theorem total_update [DecidableEq T] (w : P → Nat) (pc : T → P) (t : T) (x : P) :
    total w (Function.update pc t x) + w (pc t) = total w pc + w x := by
  have hcomp : ∀ u, w (Function.update pc t x u) = Function.update (fun u => w (pc u)) t (w x) u := by
    intro u
    by_cases hu : u = t
    · rw [hu, Function.update_self, Function.update_self]
    · rw [Function.update_of_ne hu, Function.update_of_ne hu]
  have hnew : total w (Function.update pc t x) = w x + ∑ u ∈ Finset.univ \ {t}, w (pc u) := by
    unfold total
    rw [Finset.sum_congr rfl fun u _ => hcomp u, Finset.sum_update_of_mem (Finset.mem_univ t)]
  have hold : total w pc = ∑ u ∈ Finset.univ \ {t}, w (pc u) + w (pc t) := by
    unfold total
    rw [← Finset.sum_sdiff (Finset.subset_univ {t}), Finset.sum_singleton]
  omega

/-- All threads move, and none changes its weight. -/
theorem total_congr {w : P → Nat} {pc pc' : T → P} (h : ∀ t, w (pc' t) = w (pc t)) :
    total w pc' = total w pc :=
  Finset.sum_congr rfl fun t _ => h t

/-- All threads move, and none gains more than one. -/
theorem total_le_add_card {w : P → Nat} {pc pc' : T → P} (h : ∀ t, w (pc' t) ≤ w (pc t) + 1) :
    total w pc' ≤ total w pc + Fintype.card T := by
  calc total w pc' ≤ ∑ t : T, (w (pc t) + 1) := Finset.sum_le_sum fun t _ => h t
    _ = total w pc + Fintype.card T := by
      rw [Finset.sum_add_distrib]
      simp [total]

theorem le_total (w : P → Nat) (pc : T → P) (t : T) : w (pc t) ≤ total w pc :=
  Finset.single_le_sum (f := fun u => w (pc u)) (fun _ _ => Nat.zero_le _) (Finset.mem_univ t)

theorem total_eq_zero {w : P → Nat} {pc : T → P} (h : ∀ t, w (pc t) = 0) : total w pc = 0 :=
  Finset.sum_eq_zero fun t _ => h t

end Interleaving
