import ComputeFabric.Task.Lifecycle
import ComputeFabric.Task.Task

/-!
# `Task.Dag` — the dependency graph over tasks

`TaskGraph` of `dag.h`: four maps (tasks, lifecycle states, dependencies, dependents) kept side by side.
`addTask` inserts first and rolls back when the depth-first search finds a cycle; `setState` is gated by
`TaskState.isLegal`; `restoreState` is the ungated write used by restart recovery only.

The recursive cycle search of the source runs on the C++ stack. Here it is structurally recursive on a
fuel argument that exceeds the number of tasks with recorded dependencies, so it never limits a search.
-/

namespace ComputeFabric

structure TaskGraph (D : Type) where
  tasks : IdMap (ComputeTask D) := ∅
  states : IdMap TaskState := ∅
  deps : IdMap IdSet := ∅
  dependents : IdMap IdSet := ∅

namespace TaskGraph

variable {D : Type}

def hasTask (g : TaskGraph D) (id : ComputeTaskId) : Bool := g.tasks.contains id

def find (g : TaskGraph D) (id : ComputeTaskId) : Option (ComputeTask D) := g.tasks[id]?

/-- Colours of the depth-first search; a missing entry is white. -/
inductive Color where
  | gray | black
deriving DecidableEq

/-- The search of `validate_dependencies`: `true` when a back edge is met. The accumulator of the inner
    loop carries the early `return true` in its first component. -/
def dfs (deps : IdMap IdSet) : Nat → IdMap Color → ComputeTaskId → Bool × IdMap Color
  | 0, color, _ => (true, color)
  | fuel + 1, color, cur =>
      let loop := ((deps.getD cur ∅).toList).foldl
        (fun (acc : Bool × IdMap Color) d =>
          if acc.1 then acc
          else match acc.2[d]? with
            | some Color.gray => (true, acc.2)
            | some Color.black => acc
            | none => dfs deps fuel acc.2 d)
        (false, color.insert cur .gray)
      if loop.1 then loop else (false, loop.2.insert cur .black)

/-- `TaskGraph::validate_dependencies`. -/
def validateDependencies (g : TaskGraph D) (id : ComputeTaskId) : Except Error Unit :=
  if !g.hasTask id then
    .error ⟨.taskNotFound, text "task not found in graph"⟩
  else if (dfs g.deps (g.deps.size + 2) ∅ id).1 then
    .error ⟨.dependencyCycle, text "dependency cycle detected"⟩
  else .ok ()

/-- `dependents_[d].insert(id)`. -/
def addDependent (m : IdMap IdSet) (d id : ComputeTaskId) : IdMap IdSet :=
  m.insert d ((m.getD d ∅).insert id)

/-- `dependents_[d].erase(id)`. -/
def eraseDependent (m : IdMap IdSet) (d id : ComputeTaskId) : IdMap IdSet :=
  m.insert d ((m.getD d ∅).erase id)

/-- The insertion half of `add_task`, before validation. -/
def insertTask (g : TaskGraph D) (task : ComputeTask D) : TaskGraph D where
  tasks := g.tasks.insert task.id task
  states := g.states.insert task.id .submitted
  deps := g.deps.insert task.id
    (task.dependencies.foldl (fun ds d => ds.insert d) (g.deps.getD task.id ∅))
  dependents := task.dependencies.foldl (fun m d => addDependent m d task.id) g.dependents

/-- The rollback half of `add_task`, after a failed validation. -/
def rollbackTask (g : TaskGraph D) (task : ComputeTask D) : TaskGraph D where
  tasks := g.tasks.erase task.id
  states := g.states.erase task.id
  deps := g.deps.erase task.id
  dependents :=
    (task.dependencies.foldl (fun m d => eraseDependent m d task.id) g.dependents).erase task.id

/-- `TaskGraph::add_task`: the graph after the call, and its result. -/
def addTask (g : TaskGraph D) (task : ComputeTask D) : TaskGraph D × Except Error Unit :=
  if g.hasTask task.id then
    (g, .error ⟨.alreadyExists, text "task already present in graph"⟩)
  else if task.dependencies.contains task.id then
    (g, .error ⟨.selfDependency, text "task depends on itself"⟩)
  else
    let g' := g.insertTask task
    match g'.validateDependencies task.id with
    | .error e => (g'.rollbackTask task, .error e)
    | .ok () => (g', .ok ())

/-- `TaskGraph::remove_task`. The entry that `dependents_[id]` creates on the way is erased again. -/
def removeTask (g : TaskGraph D) (id : ComputeTaskId) : Except Error (TaskGraph D) :=
  if !g.hasTask id then
    .error ⟨.taskNotFound, text "task not found"⟩
  else if !(g.dependents.getD id ∅).isEmpty then
    .error ⟨.invalidState, text "task has dependents"⟩
  else
    .ok {
      tasks := g.tasks.erase id
      states := g.states.erase id
      deps := g.deps.erase id
      dependents :=
        ((g.deps.getD id ∅).toList.foldl (fun m d => eraseDependent m d id) g.dependents).erase id }

/-- `TaskGraph::dependencies`. -/
def dependencies (g : TaskGraph D) (id : ComputeTaskId) : List ComputeTaskId :=
  (g.deps.getD id ∅).toList

/-- `TaskGraph::dependents`. -/
def dependentsOf (g : TaskGraph D) (id : ComputeTaskId) : List ComputeTaskId :=
  (g.dependents.getD id ∅).toList

/-- `TaskGraph::dependencies_satisfied`: every dependency is `Succeeded`. -/
def dependenciesSatisfied (g : TaskGraph D) (id : ComputeTaskId) : Bool :=
  (g.dependencies id).all fun d => g.states[d]? = some .succeeded

/-- `TaskGraph::dependency_poisoned`: some dependency is Failed, Lost, Cancelled or Expired. -/
def dependencyPoisoned (g : TaskGraph D) (id : ComputeTaskId) : Bool :=
  (g.dependencies id).any fun d =>
    match g.states[d]? with
    | some .failed | some .lost | some .cancelled | some .expired => true
    | _ => false

/-- `TaskGraph::task_ids`: all task ids in id order. -/
def taskIds (g : TaskGraph D) : List ComputeTaskId := g.tasks.keys

/-- `TaskGraph::state`: `Submitted` for an unknown task. -/
def state (g : TaskGraph D) (id : ComputeTaskId) : TaskState := g.states[id]?.getD .submitted

/-- `TaskGraph::set_state`. -/
def setState (g : TaskGraph D) (id : ComputeTaskId) (st : TaskState) : Except Error (TaskGraph D) :=
  match g.states[id]? with
  | none => .error ⟨.taskNotFound, text "task not found"⟩
  | some cur =>
      if cur.isLegal st then .ok { g with states := g.states.insert id st }
      else .error ⟨.illegalTransition,
        text ("illegal task transition " ++ cur.name ++ " -> " ++ st.name)⟩

/-- A `set_state` call whose result is dropped: an illegal transition leaves the graph as it was. -/
def trySetState (g : TaskGraph D) (id : ComputeTaskId) (st : TaskState) : TaskGraph D :=
  match g.setState id st with
  | .ok g' => g'
  | .error _ => g

/-- `TaskGraph::restore_state`: the ungated write of restart recovery. -/
def restoreState (g : TaskGraph D) (id : ComputeTaskId) (st : TaskState) : TaskGraph D :=
  if g.states.contains id then { g with states := g.states.insert id st } else g

/-! ## The topological order -/

/-- `indegree`: the number of dependencies, cast to `int`. -/
def indegrees (g : TaskGraph D) : IdMap Int32 :=
  g.taskIds.foldl (fun m id => m.insert id (Int32.ofNat (g.deps.getD id ∅).size)) ∅

/-- `out[d].push_back(id)`. -/
def pushOut (out : IdMap (List ComputeTaskId)) (d id : ComputeTaskId) : IdMap (List ComputeTaskId) :=
  out.insert d (out.getD d [] ++ [id])

/-- `out`: the tasks that list an id among their dependencies, in id order. -/
def outEdges (g : TaskGraph D) : IdMap (List ComputeTaskId) :=
  g.taskIds.foldl (fun out id => (g.dependencies id).foldl (fun out d => pushOut out d id) out) ∅

/-- `if (--indegree[nxt] == 0) ready.insert(nxt)`. -/
def relax (acc : IdMap Int32 × IdSet) (nxt : ComputeTaskId) : IdMap Int32 × IdSet :=
  let n := acc.1.getD nxt 0 - 1
  (acc.1.insert nxt n, if n = 0 then acc.2.insert nxt else acc.2)

/-- The loop of `topological_order`, for at most `fuel` rounds. -/
def kahn (out : IdMap (List ComputeTaskId)) : Nat → IdMap Int32 → IdSet → List ComputeTaskId → List ComputeTaskId
  | 0, _, _, order => order
  | fuel + 1, indegree, ready, order =>
      match ready.toList.head? with
      | none => order
      | some cur =>
          let acc := (out.getD cur []).foldl relax (indegree, ready.erase cur)
          kahn out fuel acc.1 acc.2 (order ++ [cur])

/-- `ready` before the loop. -/
def initialReady (g : TaskGraph D) : IdSet :=
  g.indegrees.toList.foldl (fun ready e => if e.2 = 0 then ready.insert e.1 else ready) ∅

/-- `TaskGraph::topological_order`. Each round of its loop appends one id, and an order longer than the number of
    tasks is refused in the end like a shorter one, so one round more than there are tasks is enough. -/
def topologicalOrder (g : TaskGraph D) : Except Error (List ComputeTaskId) :=
  let order := kahn g.outEdges (g.tasks.size + 1) g.indegrees g.initialReady []
  if order.length ≠ g.tasks.size then .error ⟨.dependencyCycle, text "cycle detected in task graph"⟩
  else .ok order

/-! ## What the operations do to the four maps -/

theorem setState_of_legal {g : TaskGraph D} {id : ComputeTaskId} {cur st : TaskState}
    (hcur : g.states[id]? = some cur) (hlegal : cur.isLegal st = true) :
    g.setState id st = .ok (g.trySetState id st) := by
  simp [trySetState, setState, hcur, hlegal]

/-- A state change that succeeds was in the table. -/
theorem legal_of_setState {g g' : TaskGraph D} {id : ComputeTaskId} {st : TaskState}
    (h : g.setState id st = .ok g') : ∃ cur, g.states[id]? = some cur ∧ cur.isLegal st = true := by
  unfold setState at h
  cases hcur : g.states[id]? with
  | none =>
      rw [hcur] at h
      cases h
  | some cur =>
      rw [hcur] at h
      dsimp only at h
      split_ifs at h with hlegal
      exact ⟨cur, rfl, hlegal⟩

@[simp] theorem trySetState_tasks (g : TaskGraph D) (id : ComputeTaskId) (st : TaskState) :
    (g.trySetState id st).tasks = g.tasks := by
  unfold trySetState setState
  split
  · next h =>
      split at h
      · cases h
      · split at h <;> cases h
        rfl
  · rfl

@[simp] theorem trySetState_deps (g : TaskGraph D) (id : ComputeTaskId) (st : TaskState) :
    (g.trySetState id st).deps = g.deps := by
  unfold trySetState setState
  split
  · next h =>
      split at h
      · cases h
      · split at h <;> cases h
        rfl
  · rfl

@[simp] theorem trySetState_dependents (g : TaskGraph D) (id : ComputeTaskId) (st : TaskState) :
    (g.trySetState id st).dependents = g.dependents := by
  unfold trySetState setState
  split
  · next h =>
      split at h
      · cases h
      · split at h <;> cases h
        rfl
  · rfl

/-- **A gated write.** `trySetState` moves `id` to `TaskState.next` and touches no other task. -/
theorem getElem?_states_trySetState (g : TaskGraph D) (id : ComputeTaskId) (st : TaskState)
    (t : ComputeTaskId) :
    (g.trySetState id st).states[t]? =
      if id = t then g.states[t]?.map (fun cur => cur.next st) else g.states[t]? := by
  unfold trySetState setState
  cases hcur : g.states[id]? with
  | none =>
      by_cases h : id = t
      · subst h
        simp [hcur]
      · simp [h]
  | some cur =>
      by_cases hl : cur.isLegal st = true
      · by_cases h : id = t
        · subst h
          simp [hl, hcur, TaskState.next]
        · simp [hl, h, Std.ExtTreeMap.getElem?_insert]
      · by_cases h : id = t
        · subst h
          simp [hl, hcur, TaskState.next]
        · simp [hl, h]

/-- The four maps speak of the same tasks: every task sits under its own id, has a state, and its
    dependency set holds exactly the dependencies it was submitted with. -/
structure Coherent (g : TaskGraph D) : Prop where
  id_eq : ∀ {id : ComputeTaskId} {task : ComputeTask D}, g.tasks[id]? = some task → task.id = id
  isSome_states : ∀ id : ComputeTaskId, g.states[id]?.isSome = g.tasks[id]?.isSome
  mem_dependencies : ∀ {id : ComputeTaskId} {task : ComputeTask D}, g.tasks[id]? = some task →
    ∀ d, d ∈ g.dependencies id ↔ d ∈ task.dependencies
  deps_none : ∀ {id : ComputeTaskId}, g.tasks[id]? = none → g.deps[id]? = none

theorem Coherent.empty : Coherent ({} : TaskGraph D) where
  id_eq h := by simp at h
  isSome_states id := by simp
  mem_dependencies h := by simp at h
  deps_none _ := by simp

/-- Coherence does not read the dependents map, and of the states only which tasks have one. -/
theorem Coherent.congr {g g' : TaskGraph D} (hg : g.Coherent) (htasks : g'.tasks = g.tasks)
    (hstates : ∀ id : ComputeTaskId, g'.states[id]?.isSome = g.states[id]?.isSome) (hdeps : g'.deps = g.deps) :
    g'.Coherent where
  id_eq h := hg.id_eq (htasks ▸ h)
  isSome_states id := by rw [hstates, htasks, hg.isSome_states]
  mem_dependencies h d := by
    rw [dependencies, hdeps]
    exact hg.mem_dependencies (htasks ▸ h) d
  deps_none h := by
    rw [hdeps]
    exact hg.deps_none (htasks ▸ h)

theorem hasTask_eq_false {g : TaskGraph D} {id : ComputeTaskId} :
    g.hasTask id = false ↔ g.tasks[id]? = none := by
  rw [hasTask, Std.ExtTreeMap.contains_eq_isSome_getElem?, Option.isSome_eq_false_iff,
    Option.isNone_iff_eq_none]

theorem Coherent.states_none {g : TaskGraph D} (hg : g.Coherent) {id : ComputeTaskId}
    (h : g.tasks[id]? = none) : g.states[id]? = none := by
  rw [← Option.not_isSome_iff_eq_none, hg.isSome_states, h]
  simp

theorem Coherent.trySetState {g : TaskGraph D} (hg : g.Coherent) (id : ComputeTaskId)
    (st : TaskState) : (g.trySetState id st).Coherent := by
  refine hg.congr (trySetState_tasks g id st) (fun t => ?_) (trySetState_deps g id st)
  rw [getElem?_states_trySetState]
  split_ifs <;> simp

theorem mem_foldl_insert (ds : List ComputeTaskId) (set : IdSet) (d : ComputeTaskId) :
    d ∈ ds.foldl (fun ds d => ds.insert d) set ↔ d ∈ ds ∨ d ∈ set := by
  induction ds generalizing set with
  | nil => simp
  | cons x xs ih =>
      rw [List.foldl_cons, ih]
      simp [Std.ExtTreeSet.mem_insert]
      tauto

theorem addTask_ok {g g' : TaskGraph D} {task : ComputeTask D} (h : g.addTask task = (g', .ok ())) :
    g.tasks[task.id]? = none ∧ g' = g.insertTask task := by
  unfold addTask at h
  split_ifs at h with hhas hself
  · cases h
  · cases h
  · dsimp only at h
    split at h
    · cases h
    · cases h
      exact ⟨hasTask_eq_false.mp (by simpa using hhas), rfl⟩

section Insert

variable {g : TaskGraph D} (hg : g.Coherent) {task : ComputeTask D}
  (hnew : g.tasks[task.id]? = none)

theorem getElem?_states_insertTask (t : ComputeTaskId) :
    (g.insertTask task).states[t]? = if task.id = t then some .submitted else g.states[t]? := by
  simp [insertTask, Std.ExtTreeMap.getElem?_insert]

include hg hnew in
theorem mem_dependencies_insertTask (t d : ComputeTaskId) :
    d ∈ (g.insertTask task).dependencies t ↔
      if task.id = t then d ∈ task.dependencies else d ∈ g.dependencies t := by
  have hnone := hg.deps_none hnew
  by_cases h : task.id = t
  · subst h
    simp [dependencies, insertTask, mem_foldl_insert, Std.ExtTreeMap.getD_eq_getD_getElem?, hnone]
  · simp [dependencies, insertTask, h, Std.ExtTreeMap.getD_eq_getD_getElem?,
      Std.ExtTreeMap.getElem?_insert]

include hg hnew in
theorem Coherent.insertTask : (g.insertTask task).Coherent where
  id_eq {id t} h := by
    by_cases hid : task.id = id
    · subst hid
      simp [TaskGraph.insertTask] at h
      rw [h]
    · exact hg.id_eq (by simpa [TaskGraph.insertTask, Std.ExtTreeMap.getElem?_insert, hid] using h)
  isSome_states id := by
    by_cases hid : task.id = id
    · simp [TaskGraph.insertTask, hid]
    · simpa [TaskGraph.insertTask, Std.ExtTreeMap.getElem?_insert, hid] using hg.isSome_states id
  mem_dependencies {id t} h d := by
    rw [mem_dependencies_insertTask hg hnew]
    by_cases hid : task.id = id
    · subst hid
      simp [TaskGraph.insertTask] at h
      simp [h]
    · rw [if_neg hid]
      exact hg.mem_dependencies
        (by simpa [TaskGraph.insertTask, Std.ExtTreeMap.getElem?_insert, hid] using h) d
  deps_none {id} h := by
    by_cases hid : task.id = id
    · simp [TaskGraph.insertTask, hid] at h
    · have hold : g.tasks[id]? = none := by
        simpa [TaskGraph.insertTask, Std.ExtTreeMap.getElem?_insert, hid] using h
      simpa [TaskGraph.insertTask, Std.ExtTreeMap.getElem?_insert, hid] using hg.deps_none hold

/-- Inserting a new key and erasing it again gives the map back. -/
theorem erase_insert_of_none {V : Type} (m : IdMap V) (k : Id128) (v : V) (h : m[k]? = none) :
    (m.insert k v).erase k = m := by
  ext k' : 1
  by_cases hk : k = k'
  · subst hk
    simp [h]
  · simp [hk, Std.ExtTreeMap.getElem?_erase, Std.ExtTreeMap.getElem?_insert]

include hg in
/-- **A rejected submission** leaves tasks, states and dependencies as they were. -/
theorem addTask_error {g' : TaskGraph D} {e : Error} (h : g.addTask task = (g', .error e)) :
    g'.tasks = g.tasks ∧ g'.states = g.states ∧ g'.deps = g.deps := by
  unfold addTask at h
  split_ifs at h with hhas hself
  · cases h
    exact ⟨rfl, rfl, rfl⟩
  · cases h
    exact ⟨rfl, rfl, rfl⟩
  · have hnone : g.tasks[task.id]? = none := hasTask_eq_false.mp (by simpa using hhas)
    dsimp only at h
    split at h
    · cases h
      exact ⟨erase_insert_of_none _ _ _ hnone, erase_insert_of_none _ _ _ (hg.states_none hnone),
        erase_insert_of_none _ _ _ (hg.deps_none hnone)⟩
    · cases h

end Insert

/-! ## Edges in both directions -/

/-- Every dependency edge is recorded at both ends. -/
def Linked (g : TaskGraph D) : Prop := ∀ t d, d ∈ g.dependencies t → t ∈ g.dependentsOf d

/-- Every dependency of a task is a task. -/
def Closed (tasks : IdMap (ComputeTask D)) : Prop :=
  ∀ (t : ComputeTaskId) (task : ComputeTask D), tasks[t]? = some task →
    ∀ d ∈ task.dependencies, tasks[d]?.isSome = true

theorem Linked.congr {g g' : TaskGraph D} (h : g.Linked) (hdeps : g'.deps = g.deps)
    (hdependents : g'.dependents = g.dependents) : g'.Linked := by
  intro t d hd
  rw [dependencies, hdeps] at hd
  rw [dependentsOf, hdependents]
  exact h t d hd

theorem mem_addDependent (m : IdMap IdSet) (d id x u : ComputeTaskId) :
    u ∈ (addDependent m d id).getD x ∅ ↔ (d = x ∧ id = u) ∨ u ∈ m.getD x ∅ := by
  unfold addDependent
  by_cases hx : d = x
  · subst hx
    simp [Std.ExtTreeMap.getD_eq_getD_getElem?, Std.ExtTreeSet.mem_insert]
  · simp [Std.ExtTreeMap.getD_eq_getD_getElem?, Std.ExtTreeMap.getElem?_insert, hx]

theorem mem_foldl_addDependent (ds : List ComputeTaskId) (m : IdMap IdSet) (id x u : ComputeTaskId) :
    u ∈ (ds.foldl (fun m d => addDependent m d id) m).getD x ∅ ↔ (x ∈ ds ∧ id = u) ∨ u ∈ m.getD x ∅ := by
  induction ds generalizing m with
  | nil => simp
  | cons d ds ih =>
      rw [List.foldl_cons, ih, mem_addDependent]
      simp only [List.mem_cons]
      constructor
      · rintro (⟨hx, hu⟩ | ⟨rfl, hu⟩ | hu)
        · exact .inl ⟨.inr hx, hu⟩
        · exact .inl ⟨.inl rfl, hu⟩
        · exact .inr hu
      · rintro (⟨rfl | hx, hu⟩ | hu)
        · exact .inr (.inl ⟨rfl, hu⟩)
        · exact .inl ⟨hx, hu⟩
        · exact .inr (.inr hu)

/-- Erasing one dependent from some sets leaves the others. -/
theorem mem_foldl_eraseDependent (ds : List ComputeTaskId) (m : IdMap IdSet) (id x u : ComputeTaskId) :
    u ∈ (ds.foldl (fun m d => eraseDependent m d id) m).getD x ∅ ↔ ¬(x ∈ ds ∧ id = u) ∧ u ∈ m.getD x ∅ := by
  induction ds generalizing m with
  | nil => simp
  | cons d ds ih =>
      have hone : u ∈ (eraseDependent m d id).getD x ∅ ↔ ¬(d = x ∧ id = u) ∧ u ∈ m.getD x ∅ := by
        unfold eraseDependent
        by_cases hx : d = x
        · subst hx
          simp [Std.ExtTreeMap.getD_eq_getD_getElem?, Std.ExtTreeSet.mem_erase]
        · simp [Std.ExtTreeMap.getD_eq_getD_getElem?, Std.ExtTreeMap.getElem?_insert, hx]
      rw [List.foldl_cons, ih, hone, List.mem_cons]
      constructor
      · rintro ⟨hrest, hd, hu⟩
        refine ⟨?_, hu⟩
        rintro ⟨rfl | hx, hid⟩
        · exact hd ⟨rfl, hid⟩
        · exact hrest ⟨hx, hid⟩
      · rintro ⟨hnot, hu⟩
        exact ⟨fun h => hnot ⟨.inr h.1, h.2⟩, fun h => hnot ⟨.inl h.1.symm, h.2⟩, hu⟩

section Links

variable {g : TaskGraph D} (hg : g.Coherent) {task : ComputeTask D}

include hg in
theorem Linked.insertTask (h : g.Linked) (hnew : g.tasks[task.id]? = none) : (g.insertTask task).Linked := by
  intro t d hd
  rw [mem_dependencies_insertTask hg hnew] at hd
  rw [dependentsOf, Std.ExtTreeSet.mem_toList]
  refine (mem_foldl_addDependent _ _ _ _ _).mpr ?_
  split_ifs at hd with ht
  · exact .inl ⟨hd, ht⟩
  · exact .inr (Std.ExtTreeSet.mem_toList.mp (h t d hd))

include hg in
/-- **A rejected submission** loses no edge: its rollback drops edges of the rejected id only, and no task
    depends on an id that is not a task. -/
theorem Linked.addTask_error (h : g.Linked) (hclosed : Closed g.tasks) {g' : TaskGraph D} {e : Error}
    (hadd : g.addTask task = (g', .error e)) : g'.Linked := by
  have hdeps := (TaskGraph.addTask_error hg hadd).2.2
  unfold addTask at hadd
  split_ifs at hadd with hhas hself
  · cases hadd
    exact h
  · cases hadd
    exact h
  · have hnone : g.tasks[task.id]? = none := hasTask_eq_false.mp (by simpa using hhas)
    dsimp only at hadd
    split at hadd
    · cases hadd
      intro t d hd
      rw [dependencies, hdeps] at hd
      have hold := h t d hd
      -- both ends of the edge are tasks, and the rejected id is not
      cases htask : g.tasks[t]? with
      | none =>
          rw [Std.ExtTreeMap.getD_eq_getD_getElem?, hg.deps_none htask] at hd
          simp at hd
      | some tk =>
          have hd' := hclosed t tk htask d ((hg.mem_dependencies htask d).mp hd)
          have hut : task.id ≠ t := by
            rintro rfl
            rw [hnone] at htask
            cases htask
          have hud : task.id ≠ d := by
            rintro rfl
            rw [hnone] at hd'
            cases hd'
          rw [dependentsOf, Std.ExtTreeSet.mem_toList, rollbackTask, Std.ExtTreeMap.getD_eq_getD_getElem?,
            Std.ExtTreeMap.getElem?_erase, if_neg (by simpa using hud), ← Std.ExtTreeMap.getD_eq_getD_getElem?,
            mem_foldl_eraseDependent]
          refine ⟨fun h => hut h.2, (mem_foldl_addDependent _ _ _ _ _).mpr (.inr ?_)⟩
          exact Std.ExtTreeSet.mem_toList.mp hold
    · cases hadd

end Links

end TaskGraph

end ComputeFabric
