import ComputeFabric.Lib.Acyclic
import ComputeFabric.Task.Acyclic

/-!
# `Task.Cycles` — the cycle search is exact

`Task.Acyclic` shows that the search accepts what can be ranked. Here is the other direction: a search that ends
without a back edge has coloured black only nodes that lead to black nodes and never back to themselves (`Settled`),
its starting point among them. Both together make `addTask` refuse exactly the tasks that would close a cycle
(`addTask_cycle_iff`), in every graph that `add_task`, `remove_task` and `set_state` can build.

The search starts at the new task only. It is enough because the graph before had no cycle, which `Consistent`
carries along, with what the rollback of `addTask` relies on: `dependents_` holds no edge that `deps_` lacks.
-/

namespace ComputeFabric

namespace TaskGraph

open Relation (TransGen ReflTransGen)

variable {D : Type}

/-! ## What a finished search has seen -/

/-- An edge from a node to one of its dependencies. -/
def Edge (deps : IdMap IdSet) (t d : ComputeTaskId) : Prop := d ∈ deps.getD t ∅

/-- Black nodes lead to black nodes only, and never back. -/
structure Settled (deps : IdMap IdSet) (color : IdMap Color) : Prop where
  closed : ∀ {x d : ComputeTaskId}, color[x]? = some .black → Edge deps x d → color[d]? = some .black
  acyclic : ∀ {x : ComputeTaskId}, color[x]? = some .black → ¬TransGen (Edge deps) x x

/-- A search has settled more nodes and recoloured none. -/
structure Deepens (deps : IdMap IdSet) (color color' : IdMap Color) : Prop where
  settled : Settled deps color'
  kept : ∀ {x : ComputeTaskId} {k : Color}, color[x]? = some k → color'[x]? = some k

section Search

variable {deps : IdMap IdSet} {color : IdMap Color} {cur : ComputeTaskId}

theorem Settled.path (h : Settled deps color) {x y : ComputeTaskId} (hx : color[x]? = some .black)
    (hxy : ReflTransGen (Edge deps) x y) : color[y]? = some .black := by
  induction hxy with
  | refl => exact hx
  | tail _ hedge ih => exact h.closed ih hedge

/-- A node that has just been reached is not settled. -/
theorem Settled.reach (h : Settled deps color) (hcur : color[cur]? = none) :
    Deepens deps color (color.insert cur .gray) := by
  have hother : ∀ {x : ComputeTaskId} {k : Color}, color[x]? = some k → (color.insert cur .gray)[x]? = some k := by
    intro x k hx
    rw [Std.ExtTreeMap.getElem?_insert, if_neg]
    · exact hx
    · rintro heq
      rw [← Std.LawfulEqOrd.eq_of_compare heq, hcur] at hx
      cases hx
  have hblack : ∀ {x : ComputeTaskId}, (color.insert cur .gray)[x]? = some .black → color[x]? = some .black := by
    intro x hx
    rw [Std.ExtTreeMap.getElem?_insert] at hx
    split_ifs at hx
    · cases hx
    · exact hx
  exact ⟨⟨fun hx hedge => hother (h.closed (hblack hx) hedge), fun hx => h.acyclic (hblack hx)⟩, hother⟩

/-- A node is settled when all its dependencies are: a path back to it would end in a black node. -/
theorem Settled.finish (h : Settled deps color) (hcur : color[cur]? = some .gray)
    (hdeps : ∀ d, Edge deps cur d → color[d]? = some .black) : Settled deps (color.insert cur .black) := by
  have hget : ∀ x : ComputeTaskId, (color.insert cur .black)[x]? = if cur = x then some .black else color[x]? := by
    intro x
    simp [Std.ExtTreeMap.getElem?_insert]
  refine ⟨?_, ?_⟩
  · intro x d hx hedge
    rw [hget] at hx ⊢
    by_cases hdcur : cur = d
    · rw [if_pos hdcur]
    · rw [if_neg hdcur]
      split_ifs at hx with hxcur
      · exact hdeps d (hxcur ▸ hedge)
      · exact h.closed hx hedge
  · intro x hx hcycle
    rw [hget] at hx
    split_ifs at hx with hxcur
    · subst hxcur
      obtain ⟨d, hedge, hback⟩ := TransGen.head'_iff.mp hcycle
      rw [h.path (hdeps d hedge) hback] at hcur
      cases hcur
    · exact h.acyclic hx hcycle

theorem foldl_visit_of_true (fuel : Nat) (ds : List ComputeTaskId) {acc : Bool × IdMap Color} (h : acc.1 = true) :
    ds.foldl (visit deps fuel) acc = acc := by
  refine List.foldlRecOn (motive := fun acc' => acc' = acc) ds _ rfl ?_
  rintro acc' rfl d -
  rw [visit, if_pos h]

/-- **A search that meets no gray node** settles everything below its starting point. -/
theorem dfs_settled (fuel : Nat) : ∀ (color : IdMap Color) (cur : ComputeTaskId), Settled deps color →
    color[cur]? = none → (dfs deps fuel color cur).1 = false →
    Deepens deps color (dfs deps fuel color cur).2 ∧ (dfs deps fuel color cur).2[cur]? = some .black := by
  induction fuel with
  | zero =>
      intro color cur _ _ h
      cases h
  | succ fuel ih =>
      intro color cur hsettled hcur h
      -- the invariant of the loop: what it has visited is black
      have hloop : ∀ (ds : List ComputeTaskId) (acc : Bool × IdMap Color), Settled deps acc.2 →
          (ds.foldl (visit deps fuel) acc).1 = false →
          Deepens deps acc.2 (ds.foldl (visit deps fuel) acc).2 ∧
            ∀ d ∈ ds, (ds.foldl (visit deps fuel) acc).2[d]? = some .black := by
        intro ds
        induction ds with
        | nil => exact fun acc hacc _ => ⟨⟨hacc, id⟩, fun d hd => absurd hd List.not_mem_nil⟩
        | cons d ds ihds =>
            intro acc hacc hfalse
            rw [List.foldl_cons] at hfalse ⊢
            have hstep : (visit deps fuel acc d).1 = false := by
              by_contra htrue
              rw [foldl_visit_of_true fuel ds (by simpa using htrue)] at hfalse
              exact htrue hfalse
            have hvisit : Deepens deps acc.2 (visit deps fuel acc d).2 ∧
                (visit deps fuel acc d).2[d]? = some .black := by
              unfold visit at hstep ⊢
              split_ifs at hstep ⊢ with hfound
              · rw [hfound] at hstep
                cases hstep
              · split at hstep
                · cases hstep
                · next hblack => exact ⟨⟨hacc, id⟩, hblack⟩
                · next hwhite => exact ih acc.2 d hacc hwhite hstep
            obtain ⟨hdeep, hall⟩ := ihds _ hvisit.1.settled hfalse
            refine ⟨⟨hdeep.settled, fun hx => hdeep.kept (hvisit.1.kept hx)⟩, ?_⟩
            intro d' hd'
            rcases List.mem_cons.mp hd' with rfl | hd'
            · exact hdeep.kept hvisit.2
            · exact hall d' hd'
      rw [dfs_succ] at h ⊢
      dsimp only at h ⊢
      split_ifs at h ⊢ with hfound
      · rw [hfound] at h
        cases h
      · have hreach := hsettled.reach hcur
        obtain ⟨hdeep, hall⟩ := hloop _ (false, color.insert cur .gray) hreach.settled (by simpa using hfound)
        have hgray := hdeep.kept (x := cur) (k := .gray) (by simp)
        refine ⟨⟨hdeep.settled.finish hgray fun d hd => hall d (by simpa [Edge] using hd), ?_⟩, by simp⟩
        intro x k hx
        rw [Std.ExtTreeMap.getElem?_insert, if_neg]
        · exact hdeep.kept (hreach.kept hx)
        · intro heq
          rw [← Std.LawfulEqOrd.eq_of_compare heq, hcur] at hx
          cases hx

/-- A search from a node on a cycle does not end without a back edge. -/
theorem dfs_true_of_cycle {fuel : Nat} {id : ComputeTaskId} (h : TransGen (Edge deps) id id) :
    (dfs deps fuel ∅ id).1 = true := by
  by_contra hfalse
  have hsettled : Settled deps ∅ := ⟨fun hx => by simp at hx, fun hx => by simp at hx⟩
  obtain ⟨hdeep, hblack⟩ := dfs_settled fuel ∅ id hsettled (by simp) (by simpa using hfalse)
  exact hdeep.settled.acyclic hblack h

end Search

/-! ## Consistent graphs -/

/-- The task `t` lists `d` among its dependencies. -/
def HasEdge (g : TaskGraph D) (t d : ComputeTaskId) : Prop := d ∈ g.dependencies t

theorem hasEdge_iff {g : TaskGraph D} {t d : ComputeTaskId} : g.HasEdge t d ↔ Edge g.deps t d :=
  Std.ExtTreeSet.mem_toList

/-- Every task has its dependency set, `dependents_` has no edge that `deps_` lacks, and no path leads back. -/
structure Consistent (g : TaskGraph D) : Prop extends Coherent g where
  contains_deps : ∀ {id : ComputeTaskId}, g.hasTask id = true → g.deps.contains id = true
  reversed : ∀ {x u : ComputeTaskId}, u ∈ g.dependentsOf x → g.HasEdge u x
  acyclic : Acyclic g.HasEdge

theorem Coherent.not_hasEdge {g : TaskGraph D} (hg : g.Coherent) {t d : ComputeTaskId}
    (h : g.tasks[t]? = none) : ¬g.HasEdge t d := by
  rw [hasEdge_iff, Edge, Std.ExtTreeMap.getD_eq_getD_getElem?, hg.deps_none h]
  simp

/-- An id that is not a task is no task's dependent. -/
theorem Consistent.not_mem_dependentsOf {g : TaskGraph D} (hg : g.Consistent) {x u : ComputeTaskId}
    (h : g.tasks[u]? = none) : u ∉ g.dependentsOf x :=
  fun hu => hg.not_hasEdge h (hg.reversed hu)

theorem finite_dependencies (g : TaskGraph D) : {d | ∃ t, g.HasEdge t d}.Finite := by
  refine (List.finite_toSet (g.deps.toList.flatMap fun e => e.2.toList)).subset ?_
  rintro d ⟨t, hd⟩
  rw [hasEdge_iff, Edge, Std.ExtTreeMap.getD_eq_getD_getElem?] at hd
  cases hget : g.deps[t]? with
  | none => simp [hget] at hd
  | some set =>
      refine List.mem_flatMap.mpr ⟨(t, set), Std.ExtTreeMap.mem_toList_iff_getElem?_eq_some.mpr hget, ?_⟩
      simpa [hget] using hd

theorem Consistent.empty : Consistent ({} : TaskGraph D) where
  toCoherent := .empty
  contains_deps h := by simp [hasTask] at h
  reversed h := by simp [dependentsOf] at h
  acyclic := .of_rank (fun _ => 0) fun t d h => by simp [HasEdge, dependencies] at h

theorem Consistent.trySetState {g : TaskGraph D} (hg : g.Consistent) (id : ComputeTaskId) (st : TaskState) :
    (g.trySetState id st).Consistent where
  toCoherent := hg.toCoherent.trySetState id st
  contains_deps h := by
    rw [trySetState_deps]
    exact hg.contains_deps (by simpa [hasTask] using h)
  reversed h := by
    rw [HasEdge, dependencies, trySetState_deps]
    exact hg.reversed (by simpa [dependentsOf] using h)
  acyclic := hg.acyclic.mono fun t d h => by simpa [HasEdge, dependencies] using h

/-! ## Adding a task -/

section Add

variable {g : TaskGraph D} {task : ComputeTask D}

/-- The dependencies of an accepted task are edges out of its id, added to those there are. -/
theorem Coherent.extendsAt (hg : g.Coherent) (hnew : g.tasks[task.id]? = none) :
    Acyclic.ExtendsAt task.id (· ∈ task.dependencies) g.HasEdge (g.insertTask task).HasEdge where
  edge t d := by
    rw [HasEdge, mem_dependencies_insertTask hg hnew]
    split_ifs with ht
    · subst ht
      exact ⟨fun hd => .inr ⟨rfl, hd⟩, fun h => h.elim (fun hd => absurd hd (hg.not_hasEdge hnew)) And.right⟩
    · exact ⟨.inl, fun h => h.elim id fun hd => absurd hd.1.symm ht⟩

/-- What `addTask` does with a new task that does not list itself. -/
theorem addTask_fresh (hnew : g.tasks[task.id]? = none) (hself : task.id ∉ task.dependencies) :
    g.addTask task =
      if (dfs (g.insertTask task).deps ((g.insertTask task).deps.size + 2) ∅ task.id).1 then
        ((g.insertTask task).rollbackTask task, .error ⟨.dependencyCycle, text "dependency cycle detected"⟩)
      else (g.insertTask task, .ok ()) := by
  have hhas : (g.insertTask task).hasTask task.id = true := by simp [hasTask, insertTask]
  rw [addTask, if_neg (by simpa using hasTask_eq_false.mpr hnew), if_neg (by simpa using hself)]
  dsimp only
  rw [validateDependencies, hhas, if_neg (by simp)]
  split_ifs <;> rfl

/-- **A task on a new cycle is refused.** -/
theorem Consistent.addTask_of_path (hg : g.Consistent) (hnew : g.tasks[task.id]? = none)
    (hself : task.id ∉ task.dependencies) {d : ComputeTaskId} (hd : d ∈ task.dependencies)
    (hback : ReflTransGen g.HasEdge d task.id) :
    g.addTask task =
      ((g.insertTask task).rollbackTask task, .error ⟨.dependencyCycle, text "dependency cycle detected"⟩) := by
  have hcycle := (hg.extendsAt hnew).cycle hd hback
  rw [addTask_fresh hnew hself, if_pos]
  exact dfs_true_of_cycle (TransGen.mono (fun t d h => hasEdge_iff.mp h) _ _ hcycle)

/-- **Any other new task is accepted.** -/
theorem Consistent.addTask_of_no_path (hg : g.Consistent) (hnew : g.tasks[task.id]? = none)
    (hback : ∀ d ∈ task.dependencies, ¬ReflTransGen g.HasEdge d task.id) :
    g.addTask task = (g.insertTask task, .ok ()) := by
  have hacyclic := Acyclic.extend (hg.extendsAt hnew) hg.acyclic hback
  obtain ⟨rank, hrank⟩ := hacyclic.exists_rank (finite_dependencies _)
  have hranked : RankedBy rank (g.insertTask task).tasks := by
    intro t tk htk d hd
    exact hrank t d (((hg.insertTask hnew).mem_dependencies htk d).mpr hd)
  exact addTask_of_ranked hg.toCoherent hnew hranked

theorem mem_dependentsOf_insertTask (g : TaskGraph D) (task : ComputeTask D) (x u : ComputeTaskId) :
    u ∈ (g.insertTask task).dependentsOf x ↔ (x ∈ task.dependencies ∧ task.id = u) ∨ u ∈ g.dependentsOf x := by
  simp only [dependentsOf, Std.ExtTreeSet.mem_toList]
  exact mem_foldl_addDependent _ _ _ _ _

/-- The rollback erases what the insertion added, and all dependents of the rejected id. -/
theorem mem_dependentsOf_rollbackTask (g : TaskGraph D) (task : ComputeTask D) (x u : ComputeTaskId) :
    u ∈ ((g.insertTask task).rollbackTask task).dependentsOf x ↔
      task.id ≠ x ∧ ¬(x ∈ task.dependencies ∧ task.id = u) ∧ u ∈ g.dependentsOf x := by
  have hadd := mem_dependentsOf_insertTask g task x u
  simp only [dependentsOf, Std.ExtTreeSet.mem_toList] at hadd ⊢
  by_cases hx : task.id = x
  · simp [rollbackTask, hx, Std.ExtTreeMap.getD_eq_getD_getElem?]
  · rw [rollbackTask, Std.ExtTreeMap.getD_eq_getD_getElem?, Std.ExtTreeMap.getElem?_erase,
      if_neg (by simpa using hx), ← Std.ExtTreeMap.getD_eq_getD_getElem?, mem_foldl_eraseDependent, hadd]
    exact ⟨fun h => ⟨hx, h.1, h.2.resolve_left h.1⟩, fun h => ⟨h.2.1, .inr h.2.2⟩⟩

/-- A call that fails returns the graph itself or rolls the insertion back. -/
theorem addTask_error_cases {g' : TaskGraph D} {e : Error} (h : g.addTask task = (g', .error e)) :
    g' = g ∧ (g.hasTask task.id = true ∨ task.id ∈ task.dependencies) ∨
      g.tasks[task.id]? = none ∧ task.id ∉ task.dependencies ∧ g' = (g.insertTask task).rollbackTask task := by
  by_cases hhas : g.hasTask task.id = true
  · rw [addTask, if_pos hhas] at h
    exact .inl ⟨(Prod.mk.inj h).1.symm, .inl hhas⟩
  by_cases hself : task.id ∈ task.dependencies
  · rw [addTask, if_neg hhas, if_pos (by simpa using hself)] at h
    exact .inl ⟨(Prod.mk.inj h).1.symm, .inr hself⟩
  have hnew := hasTask_eq_false.mp (by simpa using hhas)
  rw [addTask_fresh hnew hself] at h
  split_ifs at h
  · exact .inr ⟨hnew, hself, (Prod.mk.inj h).1.symm⟩
  · cases (Prod.mk.inj h).2

/-- `dependents_` has no edge that `deps_` lacks. -/
def Reversed (g : TaskGraph D) : Prop := ∀ x u : ComputeTaskId, u ∈ g.dependentsOf x → g.HasEdge u x

theorem Reversed.insertTask (h : g.Reversed) (hg : g.Coherent) (hnew : g.tasks[task.id]? = none) :
    (g.insertTask task).Reversed := by
  intro x u hu
  refine ((hg.extendsAt hnew).edge u x).mpr ?_
  rcases (mem_dependentsOf_insertTask _ _ _ _).mp hu with ⟨hx, hid⟩ | hold
  · exact .inr ⟨hid.symm, hx⟩
  · exact .inl (h x u hold)

/-- A rejected task leaves no edge behind; the rollback may only drop some. -/
theorem Reversed.addTask_error (h : g.Reversed) (hg : g.Coherent) {g' : TaskGraph D} {e : Error}
    (hadd : g.addTask task = (g', .error e)) : g'.Reversed := by
  intro x u hu
  have hold : u ∈ g.dependentsOf x := by
    rcases addTask_error_cases hadd with ⟨rfl, -⟩ | ⟨-, -, rfl⟩
    · exact hu
    · exact ((mem_dependentsOf_rollbackTask _ _ _ _).mp hu).2.2
  rw [hasEdge_iff, (TaskGraph.addTask_error hg hadd).2.2, ← hasEdge_iff]
  exact h x u hold

/-- **Adding a task keeps a graph consistent**, whether the task is accepted or not. -/
theorem Consistent.addTask (hg : g.Consistent) (task : ComputeTask D) : (g.addTask task).1.Consistent := by
  cases hadd : g.addTask task with
  | mk g' result =>
  cases result with
  | ok =>
      obtain ⟨hnew, rfl⟩ := addTask_ok hadd
      have hself : task.id ∉ task.dependencies := by
        intro hself
        rw [TaskGraph.addTask, if_neg (by simpa using hasTask_eq_false.mpr hnew), if_pos (by simpa using hself)]
          at hadd
        cases (Prod.mk.inj hadd).2
      have hback : ∀ d ∈ task.dependencies, ¬ReflTransGen g.HasEdge d task.id := by
        intro d hd hpath
        rw [hg.addTask_of_path hnew hself hd hpath] at hadd
        cases (Prod.mk.inj hadd).2
      exact
        { toCoherent := hg.toCoherent.insertTask hnew
          contains_deps := by
            intro id hid
            by_cases heq : task.id = id
            · simp [TaskGraph.insertTask, heq]
            · have hold : g.hasTask id = true → g.deps.contains id = true := hg.contains_deps
              simpa [TaskGraph.insertTask, hasTask, heq] using
                hold (by simpa [TaskGraph.insertTask, hasTask, heq] using hid)
          reversed := Reversed.insertTask (fun _ _ => hg.reversed) hg.toCoherent hnew _ _
          acyclic := Acyclic.extend (hg.extendsAt hnew) hg.acyclic hback }
  | error e =>
      obtain ⟨htasks, hstates, hdeps⟩ := TaskGraph.addTask_error hg.toCoherent hadd
      have hedges : ∀ t d, g'.HasEdge t d ↔ g.HasEdge t d := by
        intro t d
        rw [hasEdge_iff, hasEdge_iff, hdeps]
      exact
        { toCoherent := hg.toCoherent.congr htasks (fun _ => by rw [hstates]) hdeps
          contains_deps := by
            intro id hid
            rw [hasTask, htasks] at hid
            rw [hdeps]
            exact hg.contains_deps hid
          reversed := Reversed.addTask_error (fun _ _ => hg.reversed) hg.toCoherent hadd _ _
          acyclic := hg.acyclic.mono fun t d h => (hedges t d).mp h }

end Add

/-! ## Removing a task -/

/-- A task that is removed is gone from all four maps. -/
structure Removes (g : TaskGraph D) (id : ComputeTaskId) (g' : TaskGraph D) : Prop where
  tasks : g'.tasks = g.tasks.erase id
  states : g'.states = g.states.erase id
  deps : g'.deps = g.deps.erase id
  mem_dependentsOf : ∀ x u, u ∈ g'.dependentsOf x ↔ id ≠ x ∧ ¬(g.HasEdge id x ∧ id = u) ∧ u ∈ g.dependentsOf x

theorem removeTask_ok {g g' : TaskGraph D} {id : ComputeTaskId} (h : g.removeTask id = .ok g') :
    Removes g id g' := by
  unfold removeTask at h
  split_ifs at h
  obtain rfl := Except.ok.inj h
  refine ⟨rfl, rfl, rfl, fun x u => ?_⟩
  simp only [dependentsOf, Std.ExtTreeSet.mem_toList]
  by_cases hx : id = x
  · simp [hx, Std.ExtTreeMap.getD_eq_getD_getElem?]
  · rw [Std.ExtTreeMap.getD_eq_getD_getElem?, Std.ExtTreeMap.getElem?_erase, if_neg (by simpa using hx),
      ← Std.ExtTreeMap.getD_eq_getD_getElem?, mem_foldl_eraseDependent]
    exact ⟨fun h => ⟨hx, h⟩, And.right⟩

theorem getElem?_erase_of_ne {V : Type} (m : IdMap V) {id k : Id128} (h : id ≠ k) : (m.erase id)[k]? = m[k]? := by
  rw [Std.ExtTreeMap.getElem?_erase, if_neg (by simpa using h)]

theorem Removes.hasEdge {g g' : TaskGraph D} {id : ComputeTaskId} (h : Removes g id g') {t d : ComputeTaskId} :
    g'.HasEdge t d ↔ id ≠ t ∧ g.HasEdge t d := by
  simp only [hasEdge_iff, Edge, h.deps, Std.ExtTreeMap.getD_eq_getD_getElem?]
  by_cases ht : id = t
  · simp [ht]
  · rw [getElem?_erase_of_ne _ ht]
    exact ⟨fun h => ⟨ht, h⟩, And.right⟩

/-- **Removing a task keeps a graph consistent.** -/
theorem Consistent.removeTask {g g' : TaskGraph D} {id : ComputeTaskId} (hg : g.Consistent)
    (hremove : g.removeTask id = .ok g') : g'.Consistent := by
  have h := removeTask_ok hremove
  have hold : ∀ {t : ComputeTaskId} {task : ComputeTask D}, g'.tasks[t]? = some task →
      id ≠ t ∧ g.tasks[t]? = some task := by
    intro t task ht
    rw [h.tasks] at ht
    by_cases heq : id = t
    · simp [heq] at ht
    · exact ⟨heq, getElem?_erase_of_ne _ heq ▸ ht⟩
  exact
    { id_eq := fun ht => hg.id_eq (hold ht).2
      isSome_states := by
        intro t
        rw [h.states, h.tasks]
        by_cases heq : id = t
        · simp [heq]
        · rw [getElem?_erase_of_ne _ heq, getElem?_erase_of_ne _ heq, hg.isSome_states]
      mem_dependencies := by
        intro t task ht d
        obtain ⟨hne, ht⟩ := hold ht
        exact h.hasEdge.trans ⟨fun hd => (hg.mem_dependencies ht d).mp hd.2,
          fun hd => ⟨hne, (hg.mem_dependencies ht d).mpr hd⟩⟩
      deps_none := by
        intro t ht
        rw [h.tasks] at ht
        rw [h.deps]
        by_cases heq : id = t
        · simp [heq]
        · rw [getElem?_erase_of_ne _ heq] at ht ⊢
          exact hg.deps_none ht
      contains_deps := by
        intro t ht
        rw [hasTask, h.tasks, Std.ExtTreeMap.contains_erase, Bool.and_eq_true] at ht
        rw [h.deps, Std.ExtTreeMap.contains_erase, Bool.and_eq_true]
        exact ⟨ht.1, hg.contains_deps ht.2⟩
      reversed := by
        intro x u hu
        obtain ⟨-, hnot, hu⟩ := (h.mem_dependentsOf x u).mp hu
        have hedge := hg.reversed hu
        refine h.hasEdge.mpr ⟨?_, hedge⟩
        rintro rfl
        exact hnot ⟨hedge, rfl⟩
      acyclic := hg.acyclic.mono fun t d hd => (h.hasEdge.mp hd).2 }

/-! ## Reachable graphs -/

/-- The calls that build a graph. -/
inductive GraphOp (D : Type) where
  | addTask (task : ComputeTask D)
  | removeTask (id : ComputeTaskId)
  | setState (id : ComputeTaskId) (st : TaskState)

/-- The graph after a call, whatever its result. -/
def GraphOp.apply (g : TaskGraph D) : GraphOp D → TaskGraph D
  | addTask task => (g.addTask task).1
  | removeTask id =>
      match g.removeTask id with
      | .ok g' => g'
      | .error _ => g
  | setState id st => g.trySetState id st

/-- A graph that calls on the empty graph can build. -/
def Reachable (g : TaskGraph D) : Prop := ∃ ops : List (GraphOp D), ops.foldl GraphOp.apply {} = g

theorem Consistent.apply {g : TaskGraph D} (hg : g.Consistent) (op : GraphOp D) : (op.apply g).Consistent := by
  cases op with
  | addTask task => exact hg.addTask task
  | removeTask id =>
      unfold GraphOp.apply
      dsimp only
      split
      · next hremove => exact hg.removeTask hremove
      · exact hg
  | setState id st => exact hg.trySetState id st

theorem Reachable.consistent {g : TaskGraph D} (hg : g.Reachable) : g.Consistent := by
  obtain ⟨ops, rfl⟩ := hg
  exact List.foldlRecOn (motive := Consistent) ops _ .empty fun g hg op _ => hg.apply op

/-- **Cycle detection is exact.** No reachable graph has a cycle, and a new task that does not list itself is
    refused exactly when one of its dependencies already leads to it. -/
theorem addTask_cycle_iff {g : TaskGraph D} (hg : g.Reachable) :
    Acyclic g.HasEdge ∧
      ∀ task : ComputeTask D, g.hasTask task.id = false → task.id ∉ task.dependencies →
        ((g.addTask task).2 = .error ⟨.dependencyCycle, text "dependency cycle detected"⟩ ↔
          ∃ d ∈ task.dependencies, ReflTransGen g.HasEdge d task.id) ∧
        ((¬∃ d ∈ task.dependencies, ReflTransGen g.HasEdge d task.id) → (g.addTask task).2 = .ok ()) := by
  have hcons := hg.consistent
  refine ⟨hcons.acyclic, fun task hnew hself => ?_⟩
  have hnone := hasTask_eq_false.mp hnew
  have hok : (¬∃ d ∈ task.dependencies, ReflTransGen g.HasEdge d task.id) → (g.addTask task).2 = .ok () := by
    intro hno
    rw [hcons.addTask_of_no_path hnone fun d hd hback => hno ⟨d, hd, hback⟩]
  refine ⟨⟨fun herr => ?_, fun ⟨d, hd, hback⟩ => ?_⟩, hok⟩
  · by_contra hno
    rw [hok hno] at herr
    cases herr
  · rw [hcons.addTask_of_path hnone hself hd hback]

/-- A task with no demands but its dependencies. -/
def plainTask (id : ComputeTaskId) (dependencies : List ComputeTaskId) : ComputeTask ℚ where
  id := id
  dependencies := dependencies
  estimatedDurationSeconds := 0
  expectedTransferGb := 0
  expectedRecomputeCostSeconds := 0
  costEstimate := 0

/-- Task 1 waits for task 2, which is not there yet. -/
def forwardGraph : TaskGraph ℚ := (GraphOp.addTask (plainTask ⟨0, 1⟩ [⟨0, 2⟩])).apply {}

theorem addTask_cycle_forward :
    (forwardGraph.addTask (plainTask ⟨0, 2⟩ [⟨0, 1⟩])).2 =
      .error ⟨.dependencyCycle, text "dependency cycle detected"⟩ := by
  have hpath : forwardGraph.HasEdge ⟨0, 1⟩ ⟨0, 2⟩ :=
    (by decide +kernel : (⟨0, 2⟩ : ComputeTaskId) ∈ forwardGraph.dependencies ⟨0, 1⟩)
  exact ((addTask_cycle_iff ⟨[.addTask (plainTask ⟨0, 1⟩ [⟨0, 2⟩])], rfl⟩).2 (plainTask ⟨0, 2⟩ [⟨0, 1⟩])
    (by decide +kernel) (by decide)).1.mpr ⟨⟨0, 1⟩, List.mem_singleton.mpr rfl, .single hpath⟩

/-! ## A rejected task -/

/-- No query of the graph tells the two apart. -/
structure SameView (g g' : TaskGraph D) : Prop where
  hasTask : ∀ id, g'.hasTask id = g.hasTask id
  find : ∀ id, g'.find id = g.find id
  state : ∀ id, g'.state id = g.state id
  dependencies : ∀ id, g'.dependencies id = g.dependencies id
  dependentsOf : ∀ id, g'.dependentsOf id = g.dependentsOf id
  dependenciesSatisfied : ∀ id, g'.dependenciesSatisfied id = g.dependenciesSatisfied id
  dependencyPoisoned : ∀ id, g'.dependencyPoisoned id = g.dependencyPoisoned id

theorem SameView.of_maps {g g' : TaskGraph D} (htasks : g'.tasks = g.tasks) (hstates : g'.states = g.states)
    (hdeps : g'.deps = g.deps) (hdependents : ∀ id, g'.dependentsOf id = g.dependentsOf id) : SameView g g' where
  hasTask id := by rw [TaskGraph.hasTask, htasks]; rfl
  find id := by rw [TaskGraph.find, htasks]; rfl
  state id := by rw [TaskGraph.state, hstates]; rfl
  dependencies id := by rw [TaskGraph.dependencies, hdeps]; rfl
  dependentsOf := hdependents
  dependenciesSatisfied id := by
    rw [TaskGraph.dependenciesSatisfied, TaskGraph.dependencies, hdeps, hstates]
    rfl
  dependencyPoisoned id := by
    rw [TaskGraph.dependencyPoisoned, TaskGraph.dependencies, hdeps, hstates]
    rfl

theorem dependentsOf_rollbackTask_self (g : TaskGraph D) (task : ComputeTask D) :
    ((g.insertTask task).rollbackTask task).dependentsOf task.id = [] :=
  List.eq_nil_iff_forall_not_mem.mpr fun u hu => ((mem_dependentsOf_rollbackTask g task _ u).mp hu).1 rfl

/-- The rollback restores the dependents of every other id. -/
theorem Consistent.dependentsOf_rollbackTask {g : TaskGraph D} (hg : g.Consistent) {task : ComputeTask D}
    (hnew : g.tasks[task.id]? = none) {x : ComputeTaskId} (hx : task.id ≠ x) :
    ((g.insertTask task).rollbackTask task).dependentsOf x = g.dependentsOf x := by
  refine congrArg Std.ExtTreeSet.toList (Std.ExtTreeSet.ext_mem fun u => ?_)
  rw [← Std.ExtTreeSet.mem_toList, ← Std.ExtTreeSet.mem_toList]
  refine (mem_dependentsOf_rollbackTask g task x u).trans ⟨fun h => h.2.2, fun hu => ⟨hx, ?_, hu⟩⟩
  rintro ⟨-, rfl⟩
  exact hg.not_mem_dependentsOf hnew hu

/-- **What a rejected task changes.** The rollback erases the whole `dependents_` entry of the rejected id, with
    the edges that earlier tasks put there by forward reference; so nothing is changed exactly when the call fails
    before the insertion, or nobody depends on the id yet. -/
theorem addTask_rejected_iff {g g' : TaskGraph D} (hg : g.Reachable) {task : ComputeTask D} {e : Error}
    (hadd : g.addTask task = (g', .error e)) :
    SameView g g' ↔
      g.hasTask task.id = true ∨ task.id ∈ task.dependencies ∨ g.dependentsOf task.id = [] := by
  have hcons := hg.consistent
  rcases addTask_error_cases hadd with ⟨rfl, hearly⟩ | ⟨hnew, hself, hg'⟩
  · exact ⟨fun _ => hearly.imp_right .inl, fun _ => .of_maps rfl rfl rfl fun _ => rfl⟩
  · have hhas := hasTask_eq_false.mpr hnew
    refine ⟨fun hview => .inr (.inr ?_), fun hcond => ?_⟩
    · rw [← hview.dependentsOf, hg', dependentsOf_rollbackTask_self]
    · have hnone : g.dependentsOf task.id = [] := by
        rcases hcond with h | h | h
        · rw [hhas] at h
          cases h
        · exact absurd h hself
        · exact h
      obtain ⟨htasks, hstates, hdeps⟩ := addTask_error hcons.toCoherent hadd
      refine .of_maps htasks hstates hdeps fun x => ?_
      rw [hg']
      by_cases hx : task.id = x
      · rw [← hx, dependentsOf_rollbackTask_self, hnone]
      · exact hcons.dependentsOf_rollbackTask hnew hx

/-- A task that is there already. -/
theorem addTask_rejected_twice :
    SameView forwardGraph (forwardGraph.addTask (plainTask ⟨0, 1⟩ [])).1 := by
  have hhas : forwardGraph.hasTask ⟨0, 1⟩ = true := by decide +kernel
  have hadd : forwardGraph.addTask (plainTask ⟨0, 1⟩ []) =
      (forwardGraph, .error ⟨.alreadyExists, text "task already present in graph"⟩) := if_pos hhas
  rw [hadd]
  exact (addTask_rejected_iff ⟨[.addTask (plainTask ⟨0, 1⟩ [⟨0, 2⟩])], rfl⟩ hadd).mpr (.inl hhas)

/-- Task 2 is rejected for the cycle, and task 1 is no longer among its dependents. -/
theorem addTask_rejected_forgets :
    (forwardGraph.addTask (plainTask ⟨0, 2⟩ [⟨0, 1⟩])).2 =
        .error ⟨.dependencyCycle, text "dependency cycle detected"⟩ ∧
      ¬SameView forwardGraph (forwardGraph.addTask (plainTask ⟨0, 2⟩ [⟨0, 1⟩])).1 := by
  have hlost : forwardGraph.dependentsOf ⟨0, 2⟩ = [⟨0, 1⟩] ∧
      (forwardGraph.addTask (plainTask ⟨0, 2⟩ [⟨0, 1⟩])).1.dependentsOf ⟨0, 2⟩ = [] := by
    decide +kernel
  refine ⟨by rfl, fun hview => ?_⟩
  have hsame := hview.dependentsOf ⟨0, 2⟩
  rw [hlost.1, hlost.2] at hsame
  cases hsame

end TaskGraph

end ComputeFabric
