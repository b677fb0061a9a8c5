import ComputeFabric.Lib.Acyclic

/-!
# `Lib.TopoSort` — orders that respect dependencies

Nodes with dependencies, and lists of nodes. A list `Respects` the dependencies when each node comes after all of its
own; it is `Greedy` when each node is the least of those that could come next. A greedy list that cannot be continued
holds all nodes, if there is no cycle and no dependency outside the nodes (`Greedy.complete`), and it is then the
lexicographically least of all complete lists that respect the dependencies (`Greedy.least`).
-/

namespace TopoSort

variable {α : Type} (nodes : List α) (deps : α → List α)

/-- The node can come next after `done`. -/
structure Available (done : List α) (x : α) : Prop where
  node : x ∈ nodes
  fresh : x ∉ done
  ready : ∀ d ∈ deps x, d ∈ done

/-- Each node of the list comes after its dependencies. -/
def Respects (l : List α) : Prop := ∀ before x after, l = before ++ x :: after → ∀ d ∈ deps x, d ∈ before

/-- The dependencies of the nodes are nodes. -/
def Closed : Prop := ∀ x ∈ nodes, ∀ d ∈ deps x, d ∈ nodes

variable (cmp : α → α → Ordering)

/-- Each node of the list is the least of those that can come next. -/
inductive Greedy : List α → Prop
  | nil : Greedy []
  | snoc {l : List α} {x : α} (h : Greedy l) (hx : Available nodes deps l x)
      (hleast : ∀ y, Available nodes deps l y → (cmp x y).isLE = true) : Greedy (l ++ [x])

namespace Greedy

variable {nodes deps cmp} {l : List α}

theorem nodup (h : Greedy nodes deps cmp l) : l.Nodup := by
  induction h with
  | nil => exact List.nodup_nil
  | snoc h hx _ ih => exact List.concat_eq_append ▸ ih.concat hx.fresh

theorem subset (h : Greedy nodes deps cmp l) : ∀ x ∈ l, x ∈ nodes := by
  induction h with
  | nil => exact fun x hx => absurd hx List.not_mem_nil
  | snoc h hx _ ih =>
      intro y hy
      rcases List.mem_append.mp hy with hy | hy
      · exact ih y hy
      · rw [List.mem_singleton.mp hy]
        exact hx.node

/-- Every beginning of a greedy list is one. -/
theorem of_append {before after : List α} (h : Greedy nodes deps cmp (before ++ after)) :
    Greedy nodes deps cmp before := by
  induction after using List.reverseRecOn with
  | nil => simpa using h
  | append_singleton after x ih =>
      generalize hl : before ++ (after ++ [x]) = l at h
      cases h with
      | nil => simp at hl
      | snoc h _ _ =>
          rw [← List.append_assoc] at hl
          obtain ⟨rfl, -⟩ := List.append_inj' hl rfl
          exact ih h

/-- What comes next was the least available. -/
theorem next {before after : List α} {x : α} (h : Greedy nodes deps cmp (before ++ x :: after)) :
    Available nodes deps before x ∧ ∀ y, Available nodes deps before y → (cmp x y).isLE = true := by
  have hfront : Greedy nodes deps cmp (before ++ [x]) := by
    rw [← List.singleton_append, ← List.append_assoc] at h
    exact of_append h
  generalize hl : before ++ [x] = l at hfront
  cases hfront with
  | nil => simp at hl
  | snoc h hx hleast =>
      obtain ⟨rfl, hlast⟩ := List.append_inj' hl rfl
      obtain ⟨rfl, -⟩ := List.cons.inj hlast
      exact ⟨hx, hleast⟩

theorem respects (h : Greedy nodes deps cmp l) : Respects deps l := by
  rintro before x after rfl
  exact h.next.1.ready

/-- **Without cycles, the list goes on until it holds all nodes.** -/
theorem complete (h : Greedy nodes deps cmp l) (hstuck : ∀ x, ¬Available nodes deps l x) (hnodes : nodes.Nodup)
    (hacyclic : Acyclic fun x d => d ∈ deps x) (hclosed : Closed nodes deps) : l.Perm nodes := by
  have hends : {d | ∃ x, x ∈ nodes ∧ d ∈ deps x}.Finite :=
    (List.finite_toSet nodes).subset fun d ⟨x, hx, hd⟩ => hclosed x hx d hd
  obtain ⟨rank, hrank⟩ :=
    (hacyclic.mono (s := fun x d => x ∈ nodes ∧ d ∈ deps x) fun x d hd => hd.2).exists_rank hends
  -- a node that is missing has a missing dependency, of smaller rank
  have hall : ∀ n x, rank x = n → x ∈ nodes → x ∈ l := by
    intro n
    induction n using Nat.strong_induction_on with
    | _ n ih =>
        intro x hn hx
        by_contra hmissing
        refine hstuck x ⟨hx, hmissing, fun d hd => ?_⟩
        exact ih (rank d) (hn ▸ hrank x d ⟨hx, hd⟩) d rfl (hclosed x hx d hd)
  exact (List.perm_ext_iff_of_nodup h.nodup hnodes).mpr fun x => ⟨h.subset x, hall _ x rfl⟩

/-- **A complete greedy list is the least** of the complete lists that respect the dependencies. -/
theorem least [Std.TransCmp cmp] [Std.LawfulEqCmp cmp] (h : Greedy nodes deps cmp l) (hl : l.Perm nodes) {l' : List α}
    (hl' : l'.Perm nodes) (hrespects : Respects deps l') :
    l = l' ∨ List.Lex (fun a b => cmp a b = .lt) l l' := by
  have hnodup : l'.Nodup := (hl'.trans hl.symm).nodup_iff.mpr h.nodup
  have hlength : l.length = l'.length := (hl.trans hl'.symm).length_eq
  -- the lists agree up to here; compare what is left
  suffices hrest : ∀ (rest rest' before : List α), l = before ++ rest → l' = before ++ rest' →
      rest = rest' ∨ List.Lex (fun a b => cmp a b = .lt) rest rest' from hrest l l' [] rfl rfl
  intro rest
  induction rest with
  | nil =>
      intro rest' before hsplit hsplit'
      rw [hsplit, hsplit', List.length_append, List.length_append] at hlength
      exact .inl (List.length_eq_zero_iff.mp (by simpa using hlength.symm)).symm
  | cons x rest ih =>
      intro rest' before hsplit hsplit'
      cases rest' with
      | nil =>
          rw [hsplit, hsplit', List.length_append, List.length_append, List.length_cons, List.length_nil] at hlength
          omega
      | cons y rest' =>
          by_cases hxy : x = y
          · subst hxy
            rcases ih rest' (before ++ [x]) (by simpa using hsplit) (by simpa using hsplit') with rfl | hlex
            · exact .inl rfl
            · exact .inr (.cons hlex)
          · -- `y` could have come here too
            have hy : Available nodes deps before y := by
              refine ⟨hl'.mem_iff.mp ?_, fun hmem => ?_, hrespects before y rest' hsplit'⟩
              · rw [hsplit']
                exact List.mem_append_right _ List.mem_cons_self
              · rw [hsplit', List.nodup_append] at hnodup
                exact hnodup.2.2 y hmem y List.mem_cons_self rfl
            have hle := (hsplit ▸ h).next.2 y hy
            refine .inr (.rel ?_)
            cases hcmp : cmp x y with
            | lt => rfl
            | eq => exact absurd (Std.LawfulEqCmp.eq_of_compare hcmp) hxy
            | gt =>
                rw [hcmp] at hle
                cases hle

end Greedy

/-- A complete list that respects the dependencies has them all. -/
theorem Respects.closed {nodes : List α} {deps : α → List α} {l : List α} (h : Respects deps l) (hl : l.Perm nodes) :
    Closed nodes deps := by
  intro x hx d hd
  obtain ⟨before, after, rfl⟩ := List.append_of_mem (hl.mem_iff.mpr hx)
  exact hl.mem_iff.mp (List.mem_append_left _ (h before x after rfl d hd))

end TopoSort
