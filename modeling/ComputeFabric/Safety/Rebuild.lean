import ComputeFabric.Lib.Acyclic
import ComputeFabric.Safety.Blocked
import ComputeFabric.Safety.Recovery
import ComputeFabric.Task.Cycles

/-!
# `Safety.Rebuild` — the graph does not remember the order it was built in

Tasks reach the graph in the order of submission, and a start adds them again in id order, where most dependencies
are forward references. Tasks without a cycle are accepted in any order, by their rank, and two insertions of
different ids commute on all four maps (`insertTask_comm`), so every order gives one graph (`rebuild_any_order`).
-/

namespace ComputeFabric

open Coordinator

variable {D : Type}

/-! ## Insertions commute -/

namespace TaskGraph

theorem insert_comm {V : Type} (m : IdMap V) {a b : Id128} (h : a ≠ b) (v w : V) :
    (m.insert a v).insert b w = (m.insert b w).insert a v := by
  refine Std.ExtTreeMap.ext_getElem? fun x => ?_
  rw [Std.ExtTreeMap.getElem?_insert, Std.ExtTreeMap.getElem?_insert, Std.ExtTreeMap.getElem?_insert,
    Std.ExtTreeMap.getElem?_insert]
  split_ifs with hb ha
  · exact absurd ((Std.LawfulEqOrd.eq_of_compare ha).trans (Std.LawfulEqOrd.eq_of_compare hb).symm) h
  all_goals rfl

/-- The new task is entered in the set of each of its dependencies. -/
theorem getElem?_foldl_addDependent (ds : List ComputeTaskId) (m : IdMap IdSet) (id x : ComputeTaskId) :
    (ds.foldl (fun m d => addDependent m d id) m)[x]? =
      if x ∈ ds then some ((m.getD x ∅).insert id) else m[x]? := by
  induction ds generalizing m with
  | nil => simp
  | cons d ds ih =>
      rw [List.foldl_cons, ih, addDependent]
      by_cases hd : d = x
      · subst hd
        have htwice : ((m.getD d ∅).insert id).insert id = (m.getD d ∅).insert id :=
          Std.ExtTreeSet.ext_mem fun u => by simp [Std.ExtTreeSet.mem_insert]
        simp [htwice]
      · simp [Std.ExtTreeMap.getD_eq_getD_getElem?, Std.ExtTreeMap.getElem?_insert, hd, Ne.symm hd]

/-- **Insertions of different tasks commute.** -/
theorem insertTask_comm (g : TaskGraph D) {a b : ComputeTask D} (h : a.id ≠ b.id) :
    (g.insertTask a).insertTask b = (g.insertTask b).insertTask a := by
  have hdeps : ((g.insertTask a).insertTask b).deps = ((g.insertTask b).insertTask a).deps := by
    have hb : (g.insertTask a).deps.getD b.id ∅ = g.deps.getD b.id ∅ := by
      simp [insertTask, Std.ExtTreeMap.getD_insert, h]
    have ha : (g.insertTask b).deps.getD a.id ∅ = g.deps.getD a.id ∅ := by
      simp [insertTask, Std.ExtTreeMap.getD_insert, h.symm]
    show (g.insertTask a).deps.insert b.id _ = (g.insertTask b).deps.insert a.id _
    rw [hb, ha]
    exact insert_comm _ h _ _
  have hdependents : ((g.insertTask a).insertTask b).dependents = ((g.insertTask b).insertTask a).dependents := by
    refine Std.ExtTreeMap.ext_getElem? fun x => ?_
    simp only [insertTask, getElem?_foldl_addDependent, Std.ExtTreeMap.getD_eq_getD_getElem?]
    by_cases ha : x ∈ a.dependencies <;> by_cases hb : x ∈ b.dependencies <;> simp only [ha, hb, if_true, if_false]
    refine congrArg some (Std.ExtTreeSet.ext_mem fun u => ?_)
    simp only [Option.getD_some, Std.ExtTreeSet.mem_insert]
    exact or_left_comm
  rw [TaskGraph.mk.injEq]
  exact ⟨insert_comm _ h _ _, insert_comm _ h _ _, hdeps, hdependents⟩

/-- Insertions in any order give one graph. -/
theorem foldl_insertTask_perm {order tasks : List (ComputeTask D)} (hnd : (tasks.map ComputeTask.id).Nodup)
    (hperm : order.Perm tasks) (g : TaskGraph D) :
    order.foldl insertTask g = tasks.foldl insertTask g := by
  refine hperm.foldl_eq' (fun a ha b hb g => ?_) g
  by_cases hid : a.id = b.id
  · rw [List.inj_on_of_nodup_map hnd (hperm.mem_iff.mp ha) (hperm.mem_iff.mp hb) hid]
  · exact insertTask_comm g hid

end TaskGraph

/-! ## Rebuilding -/

/-- The task `t` of the list lists `d` among its dependencies. -/
def ListedDependsOn (tasks : List (ComputeTask D)) (t d : ComputeTaskId) : Prop :=
  ∃ task ∈ tasks, task.id = t ∧ d ∈ task.dependencies

section Rebuild

variable {tasks : List (ComputeTask D)} (hnd : (tasks.map ComputeTask.id).Nodup)
  (hacyclic : Acyclic (ListedDependsOn tasks))

include hnd hacyclic in
/-- Every order is accepted, and gives the graph of the list. -/
theorem rebuild_perm {order : List (ComputeTask D)} (hperm : order.Perm tasks) :
    rebuild order {} = .ok (tasks.foldl TaskGraph.insertTask {}) := by
  have hends : {d | ∃ t, ListedDependsOn tasks t d}.Finite := by
    refine (List.finite_toSet (tasks.flatMap ComputeTask.dependencies)).subset ?_
    rintro d ⟨t, task, htask, -, hd⟩
    exact List.mem_flatMap.mpr ⟨task, htask, hd⟩
  obtain ⟨rank, hrank⟩ := hacyclic.exists_rank hends
  have hfalls : ∀ task ∈ order, ∀ d ∈ task.dependencies, rank d < rank task.id :=
    fun task htask d hd => hrank task.id d ⟨task, hperm.mem_iff.mp htask, rfl, hd⟩
  have hranked := rebuild_of_ranked order (g := {}) .empty (fun t task htask => by simp at htask) hfalls
    ((hperm.map ComputeTask.id).nodup_iff.mpr hnd) (by simp)
  rw [hranked, TaskGraph.foldl_insertTask_perm hnd hperm]

include hnd in
/-- The tasks of a file, in id order, are an order of the tasks it holds. -/
theorem perm_of_saved {saved : IdMap (ComputeTask D)}
    (hsaved : ∀ (t : ComputeTaskId) (task : ComputeTask D), saved[t]? = some task ↔ task ∈ tasks ∧ task.id = t) :
    (saved.toList.map Prod.snd).Perm tasks := by
  have hids : (saved.toList.map Prod.snd).map ComputeTask.id = saved.toList.map Prod.fst := by
    rw [List.map_map]
    refine List.map_congr_left fun e he => ?_
    exact ((hsaved e.1 e.2).mp (Std.ExtTreeMap.mem_toList_iff_getElem?_eq_some.mp he)).2
  have hdistinct : (saved.toList.map Prod.snd).Nodup :=
    .of_map ComputeTask.id (hids ▸ OrdMap.nodup_toList_keys saved)
  refine (List.perm_ext_iff_of_nodup hdistinct (.of_map _ hnd)).mpr fun task => ?_
  rw [List.mem_map]
  constructor
  · rintro ⟨⟨t, task⟩, he, rfl⟩
    exact ((hsaved t task).mp (Std.ExtTreeMap.mem_toList_iff_getElem?_eq_some.mp he)).1
  · intro htask
    have hget := (hsaved task.id task).mpr ⟨htask, rfl⟩
    exact ⟨(task.id, task), Std.ExtTreeMap.mem_toList_iff_getElem?_eq_some.mpr hget, rfl⟩

end Rebuild

/-- **The graph does not depend on the order.** Tasks with distinct ids and no cycle are accepted one after the other
    in every order, all orders give one graph, and a start on a file with these tasks comes back to it. -/
theorem rebuild_any_order [DoubleArith D] (tasks : List (ComputeTask D)) (hnd : (tasks.map ComputeTask.id).Nodup)
    (hacyclic : Acyclic (ListedDependsOn tasks)) :
    ∃ g : TaskGraph D,
      (∀ order : List (ComputeTask D), order.Perm tasks → rebuild order {} = .ok g) ∧
      ∀ (env : Env) (w : World D) (d : DurableState D), w.file = some d →
        (∀ (t : ComputeTaskId) (task : ComputeTask D), d.tasks[t]? = some task ↔ task ∈ tasks ∧ task.id = t) →
        ∃ s, start env w = .ok s ∧
          s.graph.tasks = g.tasks ∧ s.graph.deps = g.deps ∧ s.graph.dependents = g.dependents := by
  refine ⟨tasks.foldl TaskGraph.insertTask {}, fun order => rebuild_perm hnd hacyclic, ?_⟩
  intro env w d hfile hsaved
  have hrebuild := rebuild_perm hnd hacyclic (perm_of_saved hnd hsaved)
  have hstart : ∃ s, start env w = .ok s := by
    unfold start openStore
    rw [hfile]
    dsimp only
    rw [hrebuild]
    exact ⟨_, rfl⟩
  obtain ⟨s, hs⟩ := hstart
  exact ⟨s, hs, start_edges hs (by rw [hfile]; exact hrebuild)⟩

/-- Task 1 depends on task 2: both orders give one graph. -/
theorem rebuild_pair :
    rebuild [TaskGraph.plainTask ⟨0, 1⟩ [⟨0, 2⟩], TaskGraph.plainTask ⟨0, 2⟩ []] {} =
      rebuild [TaskGraph.plainTask ⟨0, 2⟩ [], TaskGraph.plainTask ⟨0, 1⟩ [⟨0, 2⟩]] {} := by
  have hacyclic : Acyclic (ListedDependsOn [TaskGraph.plainTask ⟨0, 1⟩ [⟨0, 2⟩], TaskGraph.plainTask ⟨0, 2⟩ []]) := by
    refine .of_rank (fun t => if t = ⟨0, 1⟩ then 1 else 0) ?_
    rintro t d ⟨task, htask, rfl, hd⟩
    simp only [List.mem_cons, List.not_mem_nil, or_false] at htask
    rcases htask with rfl | rfl
    · obtain rfl := List.mem_singleton.mp hd
      decide
    · exact absurd hd List.not_mem_nil
  obtain ⟨g, hg, -⟩ := rebuild_any_order _ (by decide) hacyclic
  rw [hg _ (List.Perm.refl _), hg _ (List.Perm.swap _ _ _)]

end ComputeFabric
