import ComputeFabric.Task.Dag

/-!
# `Task.Acyclic` — what the cycle search accepts

`addTask` runs a depth-first search along the dependency edges and refuses the task when it meets a gray
node. When a rank falls along every edge, the gray nodes of a search all stand above the node it is at, so it
meets none (`dfs_false`) and the task is added (`addTask_of_ranked`). The fuel of the search is never the
reason for a refusal: below a node there are only nodes of smaller rank (`depth_lt`).

- `Ranked` — the tasks of a map can be ranked so that every task stands above its dependencies.
- `Ranked.insert` — submitting a task whose dependencies are known keeps it so, whatever the ids are.
-/

namespace ComputeFabric

namespace TaskGraph

variable {D : Type}

/-! ## The search -/

/-- Along every edge of `deps` the rank falls. -/
def Falls (deps : IdMap IdSet) (rank : ComputeTaskId → Nat) : Prop :=
  ∀ t d, d ∈ deps.getD t ∅ → rank d < rank t

/-- How deep a search from `t` can go: past the nodes with edges that stand below `t`, and one node further. -/
def depth (deps : IdMap IdSet) (rank : ComputeTaskId → Nat) (t : ComputeTaskId) : Nat :=
  (deps.keys.toFinset.filter fun k => rank k < rank t).card + if deps.contains t then 2 else 1

section Search

variable {deps : IdMap IdSet} {rank : ComputeTaskId → Nat}

theorem contains_of_mem_getD {t d : ComputeTaskId} (h : d ∈ deps.getD t ∅) : deps.contains t = true := by
  by_contra hnot
  rw [Std.ExtTreeMap.getD_eq_fallback_of_contains_eq_false (Bool.not_eq_true _ ▸ hnot)] at h
  simp at h

/-- A search goes less deep from a dependency. -/
theorem depth_lt (hfalls : Falls deps rank) {t d : ComputeTaskId} (h : d ∈ deps.getD t ∅) :
    depth deps rank d < depth deps rank t := by
  have hrank := hfalls t d h
  have hsub : (deps.keys.toFinset.filter fun k => rank k < rank d) ⊆
      deps.keys.toFinset.filter fun k => rank k < rank t :=
    Finset.monotone_filter_right _ fun k _ hk => lt_trans hk hrank
  unfold depth
  rw [if_pos (contains_of_mem_getD h)]
  split_ifs with hd
  · -- `d` has edges itself: it is counted below `t` and not below itself
    have hlt : (deps.keys.toFinset.filter fun k => rank k < rank d).card <
        (deps.keys.toFinset.filter fun k => rank k < rank t).card := by
      refine Finset.card_lt_card ((Finset.ssubset_iff_of_subset hsub).mpr ⟨d, ?_, ?_⟩)
      · rw [Finset.mem_filter, List.mem_toFinset, Std.ExtTreeMap.mem_keys]
        exact ⟨Std.ExtTreeMap.mem_iff_contains.mpr hd, hrank⟩
      · rw [Finset.mem_filter]
        exact fun h => lt_irrefl _ h.2
    omega
  · have hle := Finset.card_le_card hsub
    omega

theorem depth_le (deps : IdMap IdSet) (rank : ComputeTaskId → Nat) (t : ComputeTaskId) :
    depth deps rank t ≤ deps.size + 2 := by
  have hkeys : (deps.keys.toFinset.filter fun k => rank k < rank t).card ≤ deps.size := by
    refine (Finset.card_filter_le _ _).trans ((List.toFinset_card_le _).trans ?_)
    rw [Std.ExtTreeMap.length_keys]
  unfold depth
  split_ifs <;> omega

/-- The inner loop of the search. -/
def visit (deps : IdMap IdSet) (fuel : Nat) (acc : Bool × IdMap Color) (d : ComputeTaskId) :
    Bool × IdMap Color :=
  if acc.1 then acc
  else match acc.2[d]? with
    | some Color.gray => (true, acc.2)
    | some Color.black => acc
    | none => dfs deps fuel acc.2 d

theorem dfs_succ (fuel : Nat) (color : IdMap Color) (cur : ComputeTaskId) :
    dfs deps (fuel + 1) color cur =
      let loop := (deps.getD cur ∅).toList.foldl (visit deps fuel) (false, color.insert cur .gray)
      if loop.1 then loop else (false, loop.2.insert cur .black) := rfl

/-- **The search meets no gray node**, and the nodes that are gray when it ends are those that were so when it
    began. -/
theorem dfs_false (hfalls : Falls deps rank) (fuel : Nat) : ∀ (color : IdMap Color) (cur : ComputeTaskId),
    depth deps rank cur ≤ fuel → (∀ x : ComputeTaskId, color[x]? = some .gray → rank cur < rank x) →
    (dfs deps fuel color cur).1 = false ∧
      ∀ x : ComputeTaskId, (dfs deps fuel color cur).2[x]? = some .gray ↔ color[x]? = some .gray := by
  induction fuel with
  | zero =>
      intro color cur hfuel
      have : 0 < depth deps rank cur := by unfold depth; split_ifs <;> omega
      omega
  | succ fuel ih =>
      intro color cur hfuel hgray
      -- the invariant of the loop: no back edge, and the same gray nodes, all above the dependencies
      have hloop : ∀ (ds : List ComputeTaskId), (∀ d ∈ ds, d ∈ deps.getD cur ∅) → ∀ acc : Bool × IdMap Color,
          acc.1 = false → (∀ x : ComputeTaskId, acc.2[x]? = some .gray → rank cur ≤ rank x) →
          (ds.foldl (visit deps fuel) acc).1 = false ∧
            ∀ x : ComputeTaskId, (ds.foldl (visit deps fuel) acc).2[x]? = some .gray ↔ acc.2[x]? = some .gray := by
        intro ds
        induction ds with
        | nil => exact fun _ acc hacc _ => ⟨hacc, fun x => Iff.rfl⟩
        | cons d ds ihds =>
            intro hds acc hacc habove
            have hd := hds d List.mem_cons_self
            have hvisit : (visit deps fuel acc d).1 = false ∧
                ∀ x : ComputeTaskId, (visit deps fuel acc d).2[x]? = some .gray ↔ acc.2[x]? = some .gray := by
              unfold visit
              rw [if_neg (by simp [hacc])]
              split
              · next hcolor => exact absurd (habove d hcolor) (not_le.mpr (hfalls cur d hd))
              · exact ⟨hacc, fun x => Iff.rfl⟩
              · refine ih acc.2 d (by have := depth_lt hfalls hd; omega) ?_
                intro x hx
                exact lt_of_lt_of_le (hfalls cur d hd) (habove x hx)
            obtain ⟨hfalse, hsame⟩ := ihds (fun d' hd' => hds d' (List.mem_cons_of_mem _ hd')) _ hvisit.1
              fun x hx => habove x ((hvisit.2 x).mp hx)
            exact ⟨hfalse, fun x => (hsame x).trans (hvisit.2 x)⟩
      have hcur : color[cur]? ≠ some .gray := fun h => lt_irrefl _ (hgray cur h)
      have hinsert : ∀ x : ComputeTaskId, (color.insert cur Color.gray)[x]? = some .gray ↔
          cur = x ∨ color[x]? = some .gray := by
        intro x
        by_cases hx : cur = x <;> simp [hx, Std.ExtTreeMap.getElem?_insert]
      obtain ⟨hfalse, hsame⟩ := hloop (deps.getD cur ∅).toList (fun d hd => by simpa using hd)
        (false, color.insert cur .gray) rfl (by
          intro x hx
          rcases (hinsert x).mp hx with rfl | hold
          · exact le_rfl
          · exact (hgray x hold).le)
      rw [dfs_succ]
      dsimp only
      rw [if_neg (by simp [hfalse])]
      refine ⟨rfl, fun x => ?_⟩
      by_cases hx : cur = x
      · subst hx
        simp [hcur]
      · rw [Std.ExtTreeMap.getElem?_insert, if_neg (by simpa using hx), hsame, hinsert]
        simp [hx]

end Search

/-! ## Ranked tasks -/

/-- Every task stands above its dependencies. -/
def RankedBy (rank : ComputeTaskId → Nat) (tasks : IdMap (ComputeTask D)) : Prop :=
  ∀ (t : ComputeTaskId) (task : ComputeTask D), tasks[t]? = some task → ∀ d ∈ task.dependencies, rank d < rank t

/-- The dependencies have no cycle. -/
def Ranked (tasks : IdMap (ComputeTask D)) : Prop := ∃ rank, RankedBy rank tasks

theorem Ranked.empty : Ranked (∅ : IdMap (ComputeTask D)) := ⟨fun _ => 0, fun t task h => by simp at h⟩

/-- A new task goes on top: its dependencies are tasks, and no task depends on it yet. -/
theorem Ranked.insert {tasks : IdMap (ComputeTask D)} (h : Ranked tasks) (hclosed : Closed tasks)
    {task : ComputeTask D} (hnew : tasks[task.id]? = none)
    (hdeps : ∀ d ∈ task.dependencies, tasks[d]?.isSome = true) : Ranked (tasks.insert task.id task) := by
  obtain ⟨rank, hrank⟩ := h
  have hfresh : ∀ d : ComputeTaskId, tasks[d]?.isSome = true → d ≠ task.id := by
    rintro d hd rfl
    rw [hnew] at hd
    cases hd
  refine ⟨fun x => if x = task.id then (task.dependencies.map rank).sum + 1 else rank x, ?_⟩
  intro t tk htk d hd
  dsimp only
  by_cases ht : task.id = t
  · subst ht
    obtain rfl : task = tk := by simpa using htk
    rw [if_neg (hfresh d (hdeps d hd)), if_pos rfl]
    exact Nat.lt_succ_of_le (List.single_le_sum (by simp) _ (List.mem_map_of_mem hd))
  · have hold : tasks[t]? = some tk := by simpa [Std.ExtTreeMap.getElem?_insert, ht] using htk
    rw [if_neg (hfresh d (hclosed t tk hold d hd)), if_neg (Ne.symm ht)]
    exact hrank t tk hold d hd

theorem Coherent.falls {g : TaskGraph D} (hg : g.Coherent) {rank : ComputeTaskId → Nat}
    (h : RankedBy rank g.tasks) : Falls g.deps rank := by
  intro t d hd
  cases htask : g.tasks[t]? with
  | none =>
      rw [Std.ExtTreeMap.getD_eq_getD_getElem?, hg.deps_none htask] at hd
      simp at hd
  | some task =>
      refine h t task htask d ((hg.mem_dependencies htask d).mp ?_)
      rwa [dependencies, Std.ExtTreeSet.mem_toList]

/-- **A new task is accepted** when the graph with it has no cycle. -/
theorem addTask_of_ranked {g : TaskGraph D} (hg : g.Coherent) {task : ComputeTask D}
    (hnew : g.tasks[task.id]? = none) {rank : ComputeTaskId → Nat}
    (h : RankedBy rank (g.insertTask task).tasks) : g.addTask task = (g.insertTask task, .ok ()) := by
  have htask : (g.insertTask task).tasks[task.id]? = some task := by simp [insertTask]
  have hself : task.id ∉ task.dependencies := fun hmem => lt_irrefl _ (h _ _ htask _ hmem)
  have hhas : (g.insertTask task).hasTask task.id = true := by simp [hasTask, insertTask]
  have hsearch := (dfs_false ((hg.insertTask hnew).falls h) _ ∅ task.id (depth_le _ _ _) (by simp)).1
  have hvalid : (g.insertTask task).validateDependencies task.id = .ok () := by
    rw [validateDependencies, hhas, hsearch]
    rfl
  unfold addTask
  rw [if_neg (by simpa using hasTask_eq_false.mpr hnew), if_neg (by simpa using hself)]
  dsimp only
  rw [hvalid]

end TaskGraph

end ComputeFabric
