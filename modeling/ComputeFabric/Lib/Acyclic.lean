import Mathlib

/-!
# `Lib.Acyclic` — relations without cycles

A relation is acyclic when no path leads from a point back to it. With finitely many points that edges lead to, such a
relation can be ranked, by the number of points that can be reached (`Acyclic.exists_rank_le`). New edges out of one
point make a cycle exactly when one of their ends leads back to the point (`Acyclic.extend`, `ExtendsAt.cycle`).
-/

open Relation (TransGen ReflTransGen)

variable {α : Type}

/-- No path of edges leads from a point back to it. -/
def Acyclic (r : α → α → Prop) : Prop := ∀ a, ¬TransGen r a a

namespace Acyclic

variable {r s : α → α → Prop}

theorem of_rank (rank : α → Nat) (h : ∀ a b, r a b → rank b < rank a) : Acyclic r := by
  have hpath : ∀ a b, TransGen r a b → rank b < rank a := by
    intro a b hab
    induction hab with
    | single hab => exact h _ _ hab
    | tail _ hbc ih => exact (h _ _ hbc).trans ih
  exact fun a ha => lt_irrefl _ (hpath a a ha)

theorem mono (h : Acyclic r) (hsub : ∀ a b, s a b → r a b) : Acyclic s :=
  fun a ha => h a (TransGen.mono hsub _ _ ha)

/-- **An acyclic relation can be ranked** when its edges have finitely many ends, with no rank above their number. -/
theorem exists_rank_le (h : Acyclic r) (hfin : {b | ∃ a, r a b}.Finite) :
    ∃ rank : α → Nat, (∀ a b, r a b → rank b < rank a) ∧ ∀ a, rank a ≤ {b | ∃ a, r a b}.ncard := by
  have hsub : ∀ a, {b | TransGen r a b} ⊆ {b | ∃ a, r a b} := by
    intro a b hb
    obtain ⟨c, -, hcb⟩ := TransGen.tail'_iff.mp hb
    exact ⟨c, hcb⟩
  refine ⟨fun a => {b | TransGen r a b}.ncard, fun a b hab => ?_, fun a => Set.ncard_le_ncard (hsub a) hfin⟩
  refine Set.ncard_lt_ncard ⟨fun c hc => TransGen.head hab hc, ?_⟩ (hfin.subset (hsub a))
  -- `b` is reached from `a` and not from itself
  exact fun hback => h b (hback (TransGen.single hab))

theorem exists_rank (h : Acyclic r) (hfin : {b | ∃ a, r a b}.Finite) :
    ∃ rank : α → Nat, ∀ a b, r a b → rank b < rank a := by
  obtain ⟨rank, hrank, -⟩ := h.exists_rank_le hfin
  exact ⟨rank, hrank⟩

/-- The edges of `s` are those of `r` and others out of `p`. -/
structure ExtendsAt (p : α) (out : α → Prop) (r s : α → α → Prop) : Prop where
  edge : ∀ a b, s a b ↔ r a b ∨ a = p ∧ out b

section Extend

variable {p : α} {out : α → Prop} (hs : ExtendsAt p out r s)

include hs

/-- A path of the larger relation has no new edge, or the part before its first and the part after its last new edge
    are paths of the smaller relation. -/
theorem ExtendsAt.path (hback : ∀ d, out d → ¬ReflTransGen r d p) {a b : α} (h : TransGen s a b) :
    TransGen r a b ∨ ReflTransGen r a p ∧ ∃ d, out d ∧ ReflTransGen r d b := by
  induction h with
  | single hab =>
      rcases (hs.edge _ _).mp hab with hr | ⟨rfl, hout⟩
      · exact .inl (.single hr)
      · exact .inr ⟨.refl, _, hout, .refl⟩
  | tail _ hbc ih =>
      rcases (hs.edge _ _).mp hbc with hr | ⟨rfl, hout⟩
      · rcases ih with hab | ⟨hap, d, hd, hdb⟩
        · exact .inl (hab.tail hr)
        · exact .inr ⟨hap, d, hd, hdb.tail hr⟩
      · rcases ih with hab | ⟨-, d, hd, hdb⟩
        · exact .inr ⟨hab.to_reflTransGen, _, hout, .refl⟩
        · exact absurd hdb (hback d hd)

/-- **New edges make no cycle** when none of them leads back. -/
theorem extend (h : Acyclic r) (hback : ∀ d, out d → ¬ReflTransGen r d p) : Acyclic s := by
  intro a ha
  rcases hs.path hback ha with hr | ⟨hap, d, hd, hda⟩
  · exact h a hr
  · exact hback d hd (hda.trans hap)

/-- An edge that leads back closes a cycle. -/
theorem ExtendsAt.cycle {d : α} (hd : out d) (hback : ReflTransGen r d p) : TransGen s p p :=
  TransGen.head' ((hs.edge p d).mpr (.inr ⟨rfl, hd⟩))
    (ReflTransGen.mono (fun a b hab => (hs.edge a b).mpr (.inl hab)) _ _ hback)

end Extend

end Acyclic
