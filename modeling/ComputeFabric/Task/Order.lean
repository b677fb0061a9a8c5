import ComputeFabric.Lib.OrdMap
import ComputeFabric.Lib.TopoSort
import ComputeFabric.Task.Cycles

/-!
# `Task.Order` — the topological order

The loop of `topological_order` keeps, for every task, the number of dependencies that have not been emitted, and in
`ready` the tasks for which this number is zero and that have not been emitted themselves (`Emitting`). Taking the
least of them each time makes the order greedy in the sense of `Lib.TopoSort`, which gives the rest: it is complete
when no dependency is missing, and then the least of all orders that respect the dependencies
(`topologicalOrder_spec`).

The numbers are `int`. A task with 2³² dependencies starts at zero and is emitted before all of them
(`topologicalOrder_wide`), so the result is stated for dependency sets that an `int` can count.
-/

namespace ComputeFabric

namespace TaskGraph

open TopoSort (Available Respects Greedy)

variable {D : Type}

/-! ## The tables of the first loop -/

theorem nodup_taskIds (g : TaskGraph D) : g.taskIds.Nodup := Std.ExtTreeMap.nodup_keys

theorem mem_taskIds {g : TaskGraph D} {t : ComputeTaskId} : t ∈ g.taskIds ↔ g.hasTask t = true := by
  rw [taskIds, Std.ExtTreeMap.mem_keys, hasTask, Std.ExtTreeMap.mem_iff_contains]

theorem length_taskIds (g : TaskGraph D) : g.taskIds.length = g.tasks.size := Std.ExtTreeMap.length_keys

theorem nodup_dependencies (g : TaskGraph D) (t : ComputeTaskId) : (g.dependencies t).Nodup :=
  Std.ExtTreeSet.distinct_toList.imp fun h heq => h (by rw [heq]; exact Std.ReflCmp.compare_self)

theorem getElem?_foldl_insert {V : Type} (f : Id128 → V) (ids : List Id128) (m : IdMap V) (x : Id128) :
    (ids.foldl (fun m id => m.insert id (f id)) m)[x]? = if x ∈ ids then some (f x) else m[x]? := by
  induction ids generalizing m with
  | nil => simp
  | cons id ids ih =>
      rw [List.foldl_cons, ih]
      by_cases hx : id = x
      · subst hx
        simp
      · simp [Std.ExtTreeMap.getElem?_insert, hx, Ne.symm hx]

theorem getElem?_indegrees (g : TaskGraph D) (t : ComputeTaskId) :
    g.indegrees[t]? = if t ∈ g.taskIds then some (Int32.ofNat (g.dependencies t).length) else none := by
  rw [indegrees, getElem?_foldl_insert fun id => Int32.ofNat (g.deps.getD id ∅).size]
  simp [dependencies, Std.ExtTreeSet.length_toList]

theorem mem_foldl_insert_if {V : Type} (p : V → Prop) [DecidablePred p] (entries : List (Id128 × V)) (set : IdSet)
    (x : Id128) :
    x ∈ entries.foldl (fun ready e => if p e.2 then ready.insert e.1 else ready) set ↔
      (∃ v, (x, v) ∈ entries ∧ p v) ∨ x ∈ set := by
  induction entries generalizing set with
  | nil => simp
  | cons e entries ih =>
      obtain ⟨k, v⟩ := e
      have hone : x ∈ (if p v then set.insert k else set) ↔ k = x ∧ p v ∨ x ∈ set := by
        split_ifs with hv <;> simp [hv, Std.ExtTreeSet.mem_insert]
      rw [List.foldl_cons, ih, hone]
      constructor
      · rintro (⟨v', hv', hp⟩ | ⟨rfl, hp⟩ | hx)
        · exact .inl ⟨v', List.mem_cons_of_mem _ hv', hp⟩
        · exact .inl ⟨v, List.mem_cons_self, hp⟩
        · exact .inr hx
      · rintro (⟨v', hv', hp⟩ | hx)
        · rcases List.mem_cons.mp hv' with heq | hrest
          · obtain ⟨rfl, rfl⟩ := Prod.mk.inj heq
            exact .inr (.inl ⟨rfl, hp⟩)
          · exact .inl ⟨v', hrest, hp⟩
        · exact .inr (.inr hx)

theorem mem_initialReady (g : TaskGraph D) (t : ComputeTaskId) :
    t ∈ g.initialReady ↔ t ∈ g.taskIds ∧ Int32.ofNat (g.dependencies t).length = 0 := by
  rw [initialReady, mem_foldl_insert_if fun n : Int32 => n = 0]
  simp only [Std.ExtTreeMap.mem_toList_iff_getElem?_eq_some, getElem?_indegrees]
  by_cases ht : t ∈ g.taskIds <;> simp [ht]

theorem getD_pushOut (out : IdMap (List ComputeTaskId)) (d id x : ComputeTaskId) :
    (pushOut out d id).getD x [] = if d = x then out.getD x [] ++ [id] else out.getD x [] := by
  unfold pushOut
  by_cases hx : d = x
  · subst hx
    simp
  · simp [hx, Std.ExtTreeMap.getD_insert]

theorem getD_foldl_pushOut (ds : List ComputeTaskId) (hnd : ds.Nodup) (out : IdMap (List ComputeTaskId))
    (id x : ComputeTaskId) :
    (ds.foldl (fun out d => pushOut out d id) out).getD x [] =
      out.getD x [] ++ if x ∈ ds then [id] else [] := by
  induction ds generalizing out with
  | nil => simp
  | cons d ds ih =>
      rw [List.nodup_cons] at hnd
      rw [List.foldl_cons, ih hnd.2, getD_pushOut]
      by_cases hx : d = x
      · subst hx
        simp [hnd.1]
      · simp [hx, Ne.symm hx]

/-- The users of an id, in id order. -/
theorem getD_outEdges (g : TaskGraph D) (x : ComputeTaskId) :
    g.outEdges.getD x [] = g.taskIds.filter fun t => x ∈ g.dependencies t := by
  suffices hfold : ∀ (ids : List ComputeTaskId) (out : IdMap (List ComputeTaskId)),
      (ids.foldl (fun out id => (g.dependencies id).foldl (fun out d => pushOut out d id) out) out).getD x [] =
        out.getD x [] ++ ids.filter fun t => x ∈ g.dependencies t by
    rw [outEdges, hfold]
    simp
  intro ids
  induction ids with
  | nil => simp
  | cons id ids ih =>
      intro out
      rw [List.foldl_cons, ih, getD_foldl_pushOut _ (nodup_dependencies g id), List.filter_cons]
      by_cases hx : x ∈ g.dependencies id <;> simp [hx]

/-! ## One round -/

/-- The round takes one from the number of every user, and adds those that come to zero. -/
theorem foldl_relax (users : List ComputeTaskId) (hnd : users.Nodup) (acc : IdMap Int32 × IdSet) (x : ComputeTaskId) :
    (users.foldl relax acc).1.getD x 0 = (if x ∈ users then acc.1.getD x 0 - 1 else acc.1.getD x 0) ∧
      (x ∈ (users.foldl relax acc).2 ↔ x ∈ users ∧ acc.1.getD x 0 - 1 = 0 ∨ x ∈ acc.2) := by
  induction users generalizing acc with
  | nil => simp
  | cons u users ih =>
      rw [List.nodup_cons] at hnd
      obtain ⟨hvalue, hready⟩ := ih hnd.2 (relax acc u)
      rw [List.foldl_cons, hvalue, hready]
      by_cases hx : u = x
      · subst hx
        by_cases hzero : acc.1.getD u 0 - 1 = 0 <;> simp [relax, hnd.1, hzero]
      · have hone : (relax acc u).1.getD x 0 = acc.1.getD x 0 := by
          simp [relax, Std.ExtTreeMap.getD_insert, hx]
        have hset : x ∈ (relax acc u).2 ↔ x ∈ acc.2 := by
          unfold relax
          dsimp only
          split_ifs <;> simp [Std.ExtTreeSet.mem_insert, hx]
        simp [hone, hset, Ne.symm hx]

/-- The dependencies of a task that have not been emitted. -/
def waiting (g : TaskGraph D) (order : List ComputeTaskId) (t : ComputeTaskId) : List ComputeTaskId :=
  (g.dependencies t).filter fun d => d ∉ order

theorem waiting_nil (g : TaskGraph D) (t : ComputeTaskId) : g.waiting [] t = g.dependencies t := by
  simp [waiting]

theorem waiting_eq_nil {g : TaskGraph D} {order : List ComputeTaskId} {t : ComputeTaskId} :
    g.waiting order t = [] ↔ ∀ d ∈ g.dependencies t, d ∈ order := by
  simp [waiting, List.filter_eq_nil_iff]

/-- Emitting `cur` leaves one dependency less to wait for, where `cur` is one. -/
theorem waiting_concat (g : TaskGraph D) (order : List ComputeTaskId) (cur t : ComputeTaskId) :
    g.waiting (order ++ [cur]) t = (g.waiting order t).erase cur := by
  have hnd : (g.waiting order t).Nodup := (nodup_dependencies g t).filter _
  rw [hnd.erase_eq_filter, waiting, waiting, List.filter_filter]
  refine List.filter_congr fun d _ => ?_
  by_cases hd : d = cur <;> simp [hd]

/-- What the loop keeps between two rounds. -/
structure Emitting (g : TaskGraph D) (order : List ComputeTaskId) (indegree : IdMap Int32) (ready : IdSet) : Prop where
  greedy : Greedy g.taskIds g.dependencies compare order
  count : ∀ t ∈ g.taskIds, indegree.getD t 0 = Int32.ofNat (g.waiting order t).length
  ready : ∀ t, t ∈ ready ↔ Available g.taskIds g.dependencies order t

theorem int32_ofNat_eq_zero {n : Nat} (h : n < 2 ^ 31) : Int32.ofNat n = 0 ↔ n = 0 := by
  constructor
  · intro hzero
    have hint := congrArg Int32.toInt hzero
    rw [Int32.toInt_ofNat_of_lt (by omega)] at hint
    simpa using hint
  · rintro rfl
    rfl

section Loop

variable {g : TaskGraph D} (hsmall : ∀ t, (g.dependencies t).length < 2 ^ 31)

include hsmall

theorem length_waiting_lt (order : List ComputeTaskId) (t : ComputeTaskId) : (g.waiting order t).length < 2 ^ 31 :=
  (List.length_filter_le _ _).trans_lt (hsmall t)

theorem Emitting.start : Emitting g [] g.indegrees g.initialReady where
  greedy := .nil
  count t ht := by
    rw [Std.ExtTreeMap.getD_eq_getD_getElem?, getElem?_indegrees, if_pos ht, waiting_nil]
    rfl
  ready t := by
    rw [mem_initialReady, int32_ofNat_eq_zero (hsmall t), List.length_eq_zero_iff]
    refine ⟨fun ⟨ht, hnil⟩ => ⟨ht, List.not_mem_nil, fun d hd => by simp [hnil] at hd⟩, fun h => ⟨h.node, ?_⟩⟩
    exact List.eq_nil_iff_forall_not_mem.mpr fun d hd => List.not_mem_nil (h.ready d hd)

/-- **One round of the loop**: the least ready task is emitted. -/
theorem Emitting.round {order : List ComputeTaskId} {indegree : IdMap Int32} {ready : IdSet} {cur : ComputeTaskId}
    (h : Emitting g order indegree ready) (hmin : ready.toList.head? = some cur) :
    Emitting g (order ++ [cur]) ((g.outEdges.getD cur []).foldl relax (indegree, ready.erase cur)).1
      ((g.outEdges.getD cur []).foldl relax (indegree, ready.erase cur)).2 := by
  rw [← Std.ExtTreeSet.min?_eq_head?_toList] at hmin
  obtain ⟨hmem, hleast⟩ := Std.ExtTreeSet.min?_eq_some_iff_mem_and_forall.mp hmin
  have hcur := (h.ready cur).mp hmem
  have hgreedy : Greedy g.taskIds g.dependencies compare (order ++ [cur]) :=
    .snoc h.greedy hcur fun y hy => hleast y ((h.ready y).mpr hy)
  have husers : ∀ {t}, t ∈ g.outEdges.getD cur [] ↔ t ∈ g.taskIds ∧ cur ∈ g.dependencies t := by
    intro t
    rw [getD_outEdges, List.mem_filter, decide_eq_true_iff]
  have hnd : (g.outEdges.getD cur []).Nodup := by
    rw [getD_outEdges]
    exact (nodup_taskIds g).filter _
  -- the number of a user of `cur` goes down by one
  have hcount : ∀ t ∈ g.taskIds, cur ∈ g.dependencies t →
      indegree.getD t 0 - 1 = Int32.ofNat (g.waiting (order ++ [cur]) t).length := by
    intro t ht hdep
    have hwait : cur ∈ g.waiting order t := List.mem_filter.mpr ⟨hdep, by simpa using hcur.fresh⟩
    have hpos := List.length_pos_of_mem hwait
    rw [h.count t ht, waiting_concat, List.length_erase_of_mem hwait, Int32.ofNat_sub _ _ hpos]
    rfl
  refine ⟨hgreedy, fun t ht => ?_, fun t => ?_⟩
  · rw [(foldl_relax _ hnd _ t).1]
    split_ifs with huser
    · exact hcount t ht (husers.mp huser).2
    · have hdep : cur ∉ g.waiting order t := fun hw => huser (husers.mpr ⟨ht, (List.mem_filter.mp hw).1⟩)
      rw [waiting_concat, List.erase_of_not_mem hdep]
      exact h.count t ht
  · rw [(foldl_relax _ hnd _ t).2, husers]
    constructor
    · rintro (⟨⟨ht, hdep⟩, hzero⟩ | hready)
      · -- a user that comes to zero was waiting for `cur` alone
        rw [hcount t ht hdep, int32_ofNat_eq_zero (length_waiting_lt hsmall _ t), List.length_eq_zero_iff,
          waiting_eq_nil] at hzero
        refine ⟨ht, fun hold => ?_, hzero⟩
        rcases List.mem_append.mp hold with hold | hsame
        · obtain ⟨before, after, hsplit⟩ := List.append_of_mem hold
          have hearlier := h.greedy.respects before t after hsplit cur hdep
          exact hcur.fresh (hsplit ▸ List.mem_append_left _ hearlier)
        · exact hcur.fresh (hcur.ready cur (List.mem_singleton.mp hsame ▸ hdep))
      · rw [Std.ExtTreeSet.mem_erase] at hready
        have hold := (h.ready t).mp hready.2
        have hne : cur ≠ t := fun heq => hready.1 (heq ▸ Std.ReflCmp.compare_self)
        refine ⟨hold.node, fun hin => ?_, fun d hd => List.mem_append_left _ (hold.ready d hd)⟩
        rcases List.mem_append.mp hin with hin | hsame
        · exact hold.fresh hin
        · exact hne (List.mem_singleton.mp hsame).symm
    · intro havail
      by_cases hdep : cur ∈ g.dependencies t
      · refine .inl ⟨⟨havail.node, hdep⟩, ?_⟩
        rw [hcount t havail.node hdep, int32_ofNat_eq_zero (length_waiting_lt hsmall _ t), List.length_eq_zero_iff]
        exact waiting_eq_nil.mpr havail.ready
      · refine .inr (Std.ExtTreeSet.mem_erase.mpr ⟨?_, (h.ready t).mpr ⟨havail.node, ?_, ?_⟩⟩)
        · intro heq
          refine havail.fresh (List.mem_append_right _ (List.mem_singleton.mpr ?_))
          exact (Std.LawfulEqOrd.eq_of_compare heq).symm
        · exact fun hin => havail.fresh (List.mem_append_left _ hin)
        · intro d hd
          rcases List.mem_append.mp (havail.ready d hd) with hin | hsame
          · exact hin
          · exact absurd (List.mem_singleton.mp hsame ▸ hd) hdep

/-- **The whole loop** ends with a greedy order that cannot be continued. -/
theorem kahn_spec (fuel : Nat) : ∀ {order : List ComputeTaskId} {indegree : IdMap Int32} {ready : IdSet},
    Emitting g order indegree ready → g.taskIds.length < order.length + fuel →
    Greedy g.taskIds g.dependencies compare (kahn g.outEdges fuel indegree ready order) ∧
      ∀ t, ¬Available g.taskIds g.dependencies (kahn g.outEdges fuel indegree ready order) t := by
  induction fuel with
  | zero =>
      intro order indegree ready h hfuel
      have hle := (h.greedy.nodup.subperm fun t ht => h.greedy.subset t ht).length_le
      omega
  | succ fuel ih =>
      intro order indegree ready h hfuel
      unfold kahn
      split
      · next hnone =>
          refine ⟨h.greedy, fun t ht => ?_⟩
          rw [← Std.ExtTreeSet.min?_eq_head?_toList, Std.ExtTreeSet.min?_eq_none_iff] at hnone
          have hin := (h.ready t).mpr ht
          simp [hnone] at hin
      · next cur hmin =>
          refine ih (h.round hsmall hmin) ?_
          rw [List.length_append, List.length_singleton]
          omega

end Loop

/-- **The topological order is correct.** -/
theorem topologicalOrder_spec {g : TaskGraph D} (hg : g.Reachable)
    (hsmall : ∀ t, (g.dependencies t).length < 2 ^ 31) :
    ((∃ order, g.topologicalOrder = .ok order) ↔
        ∀ t, g.hasTask t = true → ∀ d ∈ g.dependencies t, g.hasTask d = true) ∧
      ∀ order, g.topologicalOrder = .ok order →
        order.Perm g.taskIds ∧ Respects g.dependencies order ∧
          ∀ order' : List ComputeTaskId, order'.Perm g.taskIds → Respects g.dependencies order' →
            order = order' ∨ List.Lex (· < ·) order order' := by
  obtain ⟨hgreedy, hstuck⟩ := kahn_spec hsmall (g.tasks.size + 1) (.start hsmall) (by
    rw [length_taskIds, List.length_nil]
    omega)
  have hresult : ∀ order, g.topologicalOrder = .ok order ↔
      kahn g.outEdges (g.tasks.size + 1) g.indegrees g.initialReady [] = order ∧ order.length = g.tasks.size := by
    intro order
    unfold topologicalOrder
    dsimp only
    split_ifs with hlength
    · refine ⟨(nomatch ·), ?_⟩
      rintro ⟨rfl, hsize⟩
      exact absurd hsize hlength
    · refine ⟨fun h => ?_, fun h => by rw [h.1]⟩
      cases h
      exact ⟨rfl, not_not.mp hlength⟩
  generalize kahn g.outEdges (g.tasks.size + 1) g.indegrees g.initialReady [] = found at hgreedy hstuck hresult
  -- an order as long as there are tasks holds them all
  have hperm : found.length = g.tasks.size → found.Perm g.taskIds := by
    intro hlength
    refine (hgreedy.nodup.subperm fun t ht => hgreedy.subset t ht).perm_of_length_le ?_
    rw [length_taskIds, hlength]
  refine ⟨⟨fun ⟨order, horder⟩ t ht d hd => ?_, fun hclosed => ⟨found, ?_⟩⟩, fun order horder => ?_⟩
  · obtain ⟨rfl, hlength⟩ := (hresult order).mp horder
    exact mem_taskIds.mp (hgreedy.respects.closed (hperm hlength) t (mem_taskIds.mpr ht) d hd)
  · have hcomplete := hgreedy.complete hstuck (nodup_taskIds g) hg.consistent.acyclic fun t ht d hd =>
      mem_taskIds.mpr (hclosed t (mem_taskIds.mp ht) d hd)
    exact (hresult found).mpr ⟨rfl, by rw [hcomplete.length_eq, length_taskIds]⟩
  · obtain ⟨rfl, hlength⟩ := (hresult order).mp horder
    exact ⟨hperm hlength, hgreedy.respects, fun order' hall hrespects =>
      hgreedy.least (hperm hlength) hall hrespects⟩

/-- A dependency set is no larger than the list it was made from. -/
theorem Coherent.length_dependencies_le {g : TaskGraph D} (hg : g.Coherent) {n : Nat}
    (h : ∀ task ∈ g.tasks.values, task.dependencies.length ≤ n) (t : ComputeTaskId) :
    (g.dependencies t).length ≤ n := by
  cases ht : g.tasks[t]? with
  | none =>
      have hnil : g.dependencies t = [] := List.eq_nil_iff_forall_not_mem.mpr fun d => hg.not_hasEdge ht
      simp [hnil]
  | some task =>
      have hsub := (nodup_dependencies g t).subperm fun d hd => (hg.mem_dependencies ht d).mp hd
      exact hsub.length_le.trans (h task (OrdMap.mem_values.mpr ⟨t, ht⟩))

/-- Task 1 depends on task 2. -/
def pairGraph : TaskGraph ℚ :=
  [GraphOp.addTask (plainTask ⟨0, 1⟩ [⟨0, 2⟩]), .addTask (plainTask ⟨0, 2⟩ [])].foldl GraphOp.apply {}

theorem topologicalOrder_pair :
    pairGraph.topologicalOrder = .ok [⟨0, 2⟩, ⟨0, 1⟩] ∧
      ∀ order : List ComputeTaskId, order.Perm pairGraph.taskIds → Respects pairGraph.dependencies order →
        [⟨0, 2⟩, ⟨0, 1⟩] = order ∨ List.Lex (· < ·) [⟨0, 2⟩, ⟨0, 1⟩] order := by
  have hg : pairGraph.Reachable := ⟨_, rfl⟩
  have hvalues : ∀ task ∈ pairGraph.tasks.values, task.dependencies.length ≤ 1 := by decide +kernel
  have hsmall : ∀ t, (pairGraph.dependencies t).length < 2 ^ 31 := fun t =>
    (hg.consistent.length_dependencies_le hvalues t).trans_lt (by norm_num)
  have horder : pairGraph.topologicalOrder = .ok [⟨0, 2⟩, ⟨0, 1⟩] := by decide +kernel
  exact ⟨horder, ((topologicalOrder_spec hg hsmall).2 _ horder).2.2⟩

/-! ## In-degrees that an `int` cannot count -/

/-- A task alone in the graph is emitted at once when its number of dependencies is cast to zero. -/
theorem topologicalOrder_lone {task : ComputeTask D} (hself : task.id ∉ task.dependencies)
    (hnd : task.dependencies.Nodup) (hzero : Int32.ofNat task.dependencies.length = 0) :
    (({} : TaskGraph D).insertTask task).topologicalOrder = .ok [task.id] := by
  have hdeps : ∀ d, d ∈ (({} : TaskGraph D).insertTask task).dependencies task.id ↔ d ∈ task.dependencies := by
    intro d
    rw [mem_dependencies_insertTask .empty (by simp), if_pos rfl]
  have hids : (({} : TaskGraph D).insertTask task).taskIds = [task.id] := by
    refine List.perm_singleton.mp ((List.perm_ext_iff_of_nodup (nodup_taskIds _) (List.nodup_singleton _)).mpr ?_)
    intro t
    rw [mem_taskIds, List.mem_singleton]
    simp [hasTask, insertTask, eq_comm (a := t)]
  have hsize : (({} : TaskGraph D).insertTask task).tasks.size = 1 := by
    rw [← length_taskIds, hids, List.length_singleton]
  generalize ({} : TaskGraph D).insertTask task = g at hdeps hids hsize
  have hlength : (g.dependencies task.id).length = task.dependencies.length :=
    ((List.perm_ext_iff_of_nodup (nodup_dependencies g _) hnd).mpr hdeps).length_eq
  have hready : ∀ t, t ∈ g.initialReady ↔ t = task.id := by
    intro t
    rw [mem_initialReady, hids, List.mem_singleton]
    refine ⟨And.left, ?_⟩
    rintro rfl
    exact ⟨rfl, hlength ▸ hzero⟩
  have hmin : g.initialReady.toList.head? = some task.id := by
    rw [← Std.ExtTreeSet.min?_eq_head?_toList]
    refine Std.ExtTreeSet.min?_eq_some_iff_mem_and_forall.mpr ⟨(hready _).mpr rfl, fun t ht => ?_⟩
    rw [(hready t).mp ht]
    exact Std.ReflCmp.isLE_rfl
  have husers : g.outEdges.getD task.id [] = [] := by
    rw [getD_outEdges, hids]
    simp [hdeps, hself]
  have hnext : (g.initialReady.erase task.id).toList.head? = none := by
    rw [← Std.ExtTreeSet.min?_eq_head?_toList, Std.ExtTreeSet.min?_eq_none_iff]
    refine Std.ExtTreeSet.ext_mem fun t => ?_
    simp [Std.ExtTreeSet.mem_erase, hready, eq_comm (a := t)]
  have hkahn : kahn g.outEdges (g.tasks.size + 1) g.indegrees g.initialReady [] = [task.id] := by
    rw [hsize]
    simp only [kahn, hmin, husers, List.foldl_nil, hnext, List.nil_append]
  rw [topologicalOrder, hkahn, hsize]
  rfl

/-- 2³² ids. -/
def wideDependencies : List ComputeTaskId := (List.range (2 ^ 32)).map fun i => ⟨0, UInt64.ofNat i⟩

theorem nodup_wideDependencies : wideDependencies.Nodup := by
  refine List.Nodup.map_on ?_ List.nodup_range
  intro i hi j hj heq
  rw [List.mem_range] at hi hj
  have hlow : (UInt64.ofNat i).toNat = (UInt64.ofNat j).toNat := congrArg (fun id : Id128 => id.lo.toNat) heq
  rwa [UInt64.toNat_ofNat_of_lt' (by rw [UInt64.size]; omega), UInt64.toNat_ofNat_of_lt' (by rw [UInt64.size]; omega)]
    at hlow

theorem hi_wideDependencies {d : ComputeTaskId} (h : d ∈ wideDependencies) : d.hi = 0 := by
  obtain ⟨i, -, rfl⟩ := List.mem_map.mp h
  rfl

/-- A lone task is reachable, and ordered if its dependencies are miscounted. -/
theorem topologicalOrder_miscounted {ds : List ComputeTaskId} (hhi : ∀ d ∈ ds, d.hi = 0) (hnd : ds.Nodup)
    (hzero : Int32.ofNat ds.length = 0) {d : ComputeTaskId} (hd : d ∈ ds) :
    ∃ g : TaskGraph ℚ, g.Reachable ∧ g.topologicalOrder = .ok [⟨1, 0⟩] ∧
      g.hasTask ⟨1, 0⟩ = true ∧ ∃ d ∈ g.dependencies ⟨1, 0⟩, g.hasTask d = false := by
  have hself : (⟨1, 0⟩ : ComputeTaskId) ∉ ds := fun h => absurd (hhi _ h) (by decide)
  have hnone : (({} : TaskGraph ℚ).tasks)[(plainTask ⟨1, 0⟩ ds).id]? = none := by simp
  have hranked : RankedBy (fun d => if d.hi = 0 then 0 else 1)
      (({} : TaskGraph ℚ).insertTask (plainTask ⟨1, 0⟩ ds)).tasks := by
    intro t task ht d hd
    by_cases hid : (plainTask ⟨1, 0⟩ ds).id = t
    · subst hid
      obtain rfl : plainTask ⟨1, 0⟩ ds = task := by simpa [insertTask] using ht
      simp [plainTask, hhi d hd]
    · simp [insertTask, hid] at ht
  have hne : d ≠ ⟨1, 0⟩ := fun h => hself (h ▸ hd)
  refine ⟨({} : TaskGraph ℚ).insertTask (plainTask ⟨1, 0⟩ ds), ⟨[.addTask (plainTask ⟨1, 0⟩ ds)], ?_⟩,
    @topologicalOrder_lone _ (plainTask ⟨1, 0⟩ ds) hself hnd hzero, ?_, d, ?_, ?_⟩
  · exact congrArg Prod.fst (addTask_of_ranked .empty hnone hranked)
  · simp [hasTask, insertTask, plainTask]
  · exact (mem_dependencies_insertTask .empty hnone _ _).mpr (by simpa [plainTask] using hd)
  · simp [hasTask, insertTask, plainTask, hne.symm]

/-- A task with 2³² dependencies, none of them in the graph, is ordered. -/
theorem topologicalOrder_wide :
    ∃ g : TaskGraph ℚ, g.Reachable ∧ g.topologicalOrder = .ok [⟨1, 0⟩] ∧
      g.hasTask ⟨1, 0⟩ = true ∧ ∃ d ∈ g.dependencies ⟨1, 0⟩, g.hasTask d = false := by
  have hlength : wideDependencies.length = 2 ^ 32 := by
    rw [wideDependencies, List.length_map, List.length_range]
  have hfirst : (⟨0, UInt64.ofNat 0⟩ : ComputeTaskId) ∈ wideDependencies :=
    List.mem_map_of_mem (List.mem_range.mpr (Nat.pow_pos Nat.zero_lt_two))
  refine topologicalOrder_miscounted (fun d => hi_wideDependencies) nodup_wideDependencies ?_ hfirst
  rw [hlength]
  decide +kernel

end TaskGraph

end ComputeFabric
