import ComputeFabric.Coordinator.TaskSteps

/-!
# `Coordinator.Restart` — what a start finds and what a save leaves

`Coordinator.start` loads the last saved file, rebuilds the graph, writes the saved states back and recovers
the work that was in progress. `start_spec` says what the new process knows, field by field, in terms of the
file: tasks and committed attempts as saved, every task in its recovered state, and nothing else — no
reservation, no node, no cancel request.
-/

namespace ComputeFabric

open Coordinator

variable {D : Type}

/-! ## Rebuilding the graph -/

namespace TaskGraph

theorem getElem?_tasks_insertTask (g : TaskGraph D) (task : ComputeTask D) (t : ComputeTaskId) :
    (g.insertTask task).tasks[t]? = if task.id = t then some task else g.tasks[t]? := by
  simp [insertTask, Std.ExtTreeMap.getElem?_insert]

/-- A rebuilt graph holds the tasks of the list, all of them submitted. -/
theorem rebuild_spec {list : List (ComputeTask D)} {g g' : TaskGraph D}
    (h : Coordinator.rebuild list g = .ok g') (hg : g.Coherent)
    (hsub : ∀ (t : ComputeTaskId) (st : TaskState), g.states[t]? = some st → st = .submitted) :
    g'.Coherent ∧
      (∀ (t : ComputeTaskId) (st : TaskState), g'.states[t]? = some st → st = .submitted) ∧
      ∀ t, g'.tasks[t]? = (g.tasks[t]?).or (list.find? fun task => task.id = t) := by
  induction list generalizing g with
  | nil =>
      cases h
      exact ⟨hg, hsub, by simp⟩
  | cons task rest ih =>
      unfold Coordinator.rebuild at h
      split at h
      · next g₁ hadd =>
          obtain ⟨hnew, rfl⟩ := addTask_ok hadd
          obtain ⟨hcoh, hsub', htasks⟩ := ih h (hg.insertTask hnew) (by
            intro t st hst
            rw [getElem?_states_insertTask] at hst
            split_ifs at hst
            · exact (Option.some.inj hst).symm
            · exact hsub t st hst)
          refine ⟨hcoh, hsub', ?_⟩
          intro t
          rw [htasks, getElem?_tasks_insertTask]
          by_cases ht : task.id = t
          · subst ht
            simp [hnew]
          · simp [ht]
      · cases h

@[simp] theorem restoreState_tasks (g : TaskGraph D) (id : ComputeTaskId) (st : TaskState) :
    (g.restoreState id st).tasks = g.tasks := by
  unfold restoreState
  split_ifs <;> rfl

@[simp] theorem restoreState_deps (g : TaskGraph D) (id : ComputeTaskId) (st : TaskState) :
    (g.restoreState id st).deps = g.deps := by
  unfold restoreState
  split_ifs <;> rfl

theorem getElem?_states_restoreState (g : TaskGraph D) (id : ComputeTaskId) (st : TaskState)
    (t : ComputeTaskId) :
    (g.restoreState id st).states[t]? =
      if id = t then g.states[t]?.map fun _ => st else g.states[t]? := by
  unfold restoreState
  rw [Std.ExtTreeMap.contains_eq_isSome_getElem?]
  by_cases ht : id = t
  · subst ht
    cases h : g.states[id]? with
    | none => simp [h]
    | some cur => simp
  · split_ifs
    · simp [Std.ExtTreeMap.getElem?_insert, ht]
    · rfl

theorem Coherent.restoreState {g : TaskGraph D} (hg : g.Coherent) (id : ComputeTaskId)
    (st : TaskState) : (g.restoreState id st).Coherent := by
  refine hg.congr (restoreState_tasks g id st) (fun t => ?_) (restoreState_deps g id st)
  rw [getElem?_states_restoreState]
  split_ifs <;> simp

/-- The saved states are what the graph's tasks are in after they have been written back. -/
theorem restoreStates_spec (states : IdMap TaskState) {g : TaskGraph D} (hg : g.Coherent) :
    (restoreStates states g).Coherent ∧ (restoreStates states g).tasks = g.tasks ∧
      (restoreStates states g).deps = g.deps ∧
      ∀ t : ComputeTaskId, (restoreStates states g).states[t]? =
        g.states[t]?.map fun st => states[t]?.getD st := by
  have hlist : ∀ (entries : List (ComputeTaskId × TaskState)) (g : TaskGraph D), g.Coherent →
      (entries.map Prod.fst).Nodup →
      let g' := entries.foldl (fun g e => if g.hasTask e.1 then g.restoreState e.1 e.2 else g) g
      g'.Coherent ∧ g'.tasks = g.tasks ∧ g'.deps = g.deps ∧ ∀ t : ComputeTaskId,
        g'.states[t]? = g.states[t]?.map fun st => ((entries.find? fun e => e.1 = t).map Prod.snd).getD st := by
    intro entries
    induction entries with
    | nil =>
        intro g hg _
        exact ⟨hg, rfl, rfl, by simp⟩
    | cons e rest ih =>
        intro g hg hnd
        rw [List.map_cons, List.nodup_cons] at hnd
        have hround : (if g.hasTask e.1 then g.restoreState e.1 e.2 else g) = g.restoreState e.1 e.2 := by
          split_ifs with hhas
          · rfl
          · -- without a task there is no state to write
            have hnone := hg.states_none (hasTask_eq_false.mp (by simpa using hhas))
            unfold TaskGraph.restoreState
            rw [Std.ExtTreeMap.contains_eq_isSome_getElem?, hnone]
            rfl
        have hrest := ih (g.restoreState e.1 e.2) (hg.restoreState e.1 e.2) hnd.2
        simp only [List.foldl_cons, hround]
        refine ⟨hrest.1, by rw [hrest.2.1, restoreState_tasks], by rw [hrest.2.2.1, restoreState_deps], ?_⟩
        intro t
        rw [hrest.2.2.2, getElem?_states_restoreState]
        by_cases ht : e.1 = t
        · have hnone : (rest.find? fun e => e.1 = t) = none := by
            rw [List.find?_eq_none]
            intro x hx hxt
            exact hnd.1 (List.mem_map.mpr ⟨x, hx, by rw [ht]; simpa using hxt⟩)
          cases g.states[t]? <;> simp [ht, hnone]
        · simp [ht]
  have hall := hlist states.toList g hg (OrdMap.nodup_toList_keys states)
  refine ⟨hall.1, hall.2.1, hall.2.2.1, ?_⟩
  intro t
  rw [restoreStates, hall.2.2.2, OrdMap.find?_toList]
  cases states[t]? <;> simp

end TaskGraph

/-! ## Recovery -/

/-- The state recovery leaves a task in: work in progress is requeued or, without `retry`, failed. -/
def recoveredState (retry : Bool) (st : TaskState) : TaskState :=
  if st.isActive then (if retry then .retryPending else .failed) else st

/-- Recovery leads only to `RetryPending` and `Failed`, and only from work in progress. -/
theorem recoveredState_eq_iff {retry : Bool} {st st' : TaskState} (hactive : st'.isActive = false)
    (hretry : st' ≠ .retryPending) (hfailed : st' ≠ .failed) : recoveredState retry st = st' ↔ st = st' := by
  have hne : st.isActive = true → st ≠ st' := by
    rintro hst rfl
    rw [hst] at hactive
    cases hactive
  unfold recoveredState
  split_ifs with hst hr
  · exact iff_of_false hretry.symm (hne hst)
  · exact iff_of_false hfailed.symm (hne hst)
  · rfl

theorem recoveredState_eq_succeeded {retry : Bool} {st : TaskState} :
    recoveredState retry st = .succeeded ↔ st = .succeeded :=
  recoveredState_eq_iff rfl (by decide) (by decide)

/-- What recovery does not touch. -/
structure SameBooks (s s' : Coordinator D) : Prop where
  tasks : s'.graph.tasks = s.graph.tasks
  deps : s'.graph.deps = s.graph.deps
  reservations : s'.reservations = s.reservations
  nodes : s'.nodes = s.nodes
  attempts : s'.attempts = s.attempts
  dispatchAtMs : s'.dispatchAtMs = s.dispatchAtMs
  cancelRequested : s'.cancelRequested = s.cancelRequested
  taskReservation : s'.taskReservation = s.taskReservation
  dispatchLog : s'.dispatchLog = s.dispatchLog
  drawn : s'.drawn = s.drawn
  durable : s'.durable = s.durable
  file : s'.file = s.file
  saves : s'.saves = s.saves
  effects : s'.effects = s.effects
  placementRecords : s'.placementRecords = s.placementRecords
  stateLocality : s'.stateLocality = s.stateLocality

theorem SameBooks.refl (s : Coordinator D) : SameBooks s s :=
  ⟨rfl, rfl, rfl, rfl, rfl, rfl, rfl, rfl, rfl, rfl, rfl, rfl, rfl, rfl, rfl, rfl⟩

theorem SameBooks.trans {s s' s'' : Coordinator D} (h : SameBooks s s') (h' : SameBooks s' s'') :
    SameBooks s s'' where
  tasks := h'.tasks.trans h.tasks
  deps := h'.deps.trans h.deps
  reservations := h'.reservations.trans h.reservations
  nodes := h'.nodes.trans h.nodes
  attempts := h'.attempts.trans h.attempts
  dispatchAtMs := h'.dispatchAtMs.trans h.dispatchAtMs
  cancelRequested := h'.cancelRequested.trans h.cancelRequested
  taskReservation := h'.taskReservation.trans h.taskReservation
  dispatchLog := h'.dispatchLog.trans h.dispatchLog
  drawn := h'.drawn.trans h.drawn
  durable := h'.durable.trans h.durable
  file := h'.file.trans h.file
  saves := h'.saves.trans h.saves
  effects := h'.effects.trans h.effects
  placementRecords := h'.placementRecords.trans h.placementRecords
  stateLocality := h'.stateLocality.trans h.stateLocality

theorem TaskState.isLegal_lost {st : TaskState} (h : st.isActive = true) :
    st.isLegal .lost = true := by
  cases st <;> first | rfl | cases h

/-- Active → Lost → RetryPending or Failed is legal at every step. -/
theorem next_lost_next (retry : Bool) {st : TaskState} (h : st.isActive = true) :
    (st.next .lost).next (if retry then .retryPending else .failed) = recoveredState retry st := by
  have hlost : st.next .lost = .lost := if_pos (TaskState.isLegal_lost h)
  rw [hlost, recoveredState, if_pos h]
  split_ifs <;> rfl

theorem SameBooks.retryOrFail {s s' : Coordinator D} (t : ComputeTaskId) (r : Option Int64)
    (hledger : s'.toLedger = s.toLedger.retryOrFail t r) (hdurable : s'.durable = s.durable)
    (hfile : s'.file = s.file) (hsaves : s'.saves = s.saves) (heffects : s'.effects = s.effects)
    (hplacements : s'.placementRecords = s.placementRecords)
    (hlocality : s'.stateLocality = s.stateLocality) : SameBooks s s' := by
  cases r <;> constructor <;>
    first | assumption | simp [hledger, Ledger.retryOrFail, Ledger.setState]

theorem getElem?_states_retryOrFail (l : Ledger D) (t : ComputeTaskId) (r : Option Int64)
    (u : ComputeTaskId) :
    (l.retryOrFail t r).graph.states[u]? =
      if t = u then l.graph.states[u]?.map fun st => st.next (Ledger.afterFailure r)
      else l.graph.states[u]? := by
  have hview := congrArg TaskView.state (l.view_retryOrFail t u r)
  split_ifs at hview ⊢ <;> exact hview

theorem requeueOrFail_spec (env : Env) (s : Coordinator D) (t : ComputeTaskId) (task : ComputeTask D) :
    SameBooks s (s.requeueOrFail env t task) ∧ ∀ u : ComputeTaskId,
      (s.requeueOrFail env t task).graph.states[u]? =
        if t = u then
          s.graph.states[u]?.map fun st =>
            st.next (if retriesNodeLoss task then .retryPending else .failed)
        else s.graph.states[u]? := by
  unfold requeueOrFail
  split_ifs with hretry
  · exact ⟨.retryOrFail t (some (s.retryTime env task)) rfl rfl rfl rfl rfl rfl rfl, getElem?_states_retryOrFail _ _ _⟩
  · exact ⟨.retryOrFail t none rfl rfl rfl rfl rfl rfl rfl, getElem?_states_retryOrFail _ _ _⟩

/-- Recovery rewrites the state of the task it looks at and nothing else. -/
theorem recoverTask_spec (env : Env) (s : Coordinator D) (x : ComputeTaskId × ComputeTask D) :
    SameBooks s (recoverTask env s x) ∧ ∀ u : ComputeTaskId,
      (recoverTask env s x).graph.states[u]? =
        if x.1 = u then s.graph.states[u]?.map (recoveredState (retriesNodeLoss x.2)) else s.graph.states[u]? := by
  have hcur : s.graph.state x.1 = (s.graph.states[x.1]?).getD .submitted := rfl
  unfold recoverTask
  cases hst : s.graph.states[x.1]? with
  | none =>
      rw [hcur, hst, if_neg (by decide)]
      refine ⟨.refl s, ?_⟩
      intro u
      split_ifs with hu
      · rw [← hu, hst]
        rfl
      · rfl
  | some cur =>
      rw [hst, Option.getD_some] at hcur
      rw [hcur]
      by_cases hactive : cur.isActive = true
      · rw [if_pos hactive, TaskGraph.setState_of_legal hst (TaskState.isLegal_lost hactive)]
        obtain ⟨hbooks, hstates⟩ :=
          requeueOrFail_spec env { s with graph := s.graph.trySetState x.1 .lost } x.1 x.2
        refine ⟨SameBooks.trans ?_ hbooks, ?_⟩
        · constructor <;> first | rfl | simp
        · intro u
          refine (hstates u).trans ?_
          rw [TaskGraph.getElem?_states_trySetState]
          by_cases hu : x.1 = u
          · rw [if_pos hu, if_pos hu, if_pos hu, ← hu, hst]
            exact congrArg some (next_lost_next (retriesNodeLoss x.2) hactive)
          · rw [if_neg hu, if_neg hu, if_neg hu]
      · rw [if_neg hactive]
        refine ⟨.refl s, ?_⟩
        intro u
        split_ifs with hu
        · rw [← hu, hst, Option.map_some, recoveredState, if_neg hactive]
        · rfl

theorem foldl_recoverTask_spec (env : Env) (list : List (ComputeTaskId × ComputeTask D))
    (hnd : (list.map Prod.fst).Nodup) (s : Coordinator D) :
    SameBooks s (list.foldl (recoverTask env) s) ∧ ∀ u : ComputeTaskId,
      (list.foldl (recoverTask env) s).graph.states[u]? =
        match list.find? fun x => x.1 = u with
        | none => s.graph.states[u]?
        | some x => s.graph.states[u]?.map (recoveredState (retriesNodeLoss x.2)) := by
  induction list generalizing s with
  | nil => exact ⟨.refl s, fun _ => rfl⟩
  | cons x rest ih =>
      rw [List.map_cons, List.nodup_cons] at hnd
      obtain ⟨hbooks, hstates⟩ := recoverTask_spec env s x
      obtain ⟨hbooks', hstates'⟩ := ih hnd.2 (recoverTask env s x)
      refine ⟨hbooks.trans hbooks', ?_⟩
      intro u
      rw [List.foldl_cons, hstates', hstates]
      by_cases hu : x.1 = u
      · have hnone : (rest.find? fun y => y.1 = u) = none := by
          rw [List.find?_eq_none]
          intro y hy hyu
          exact hnd.1 (List.mem_map.mpr ⟨y, hy, by rw [hu]; simpa using hyu⟩)
        simp [hu, hnone]
      · simp [hu]

/-! ## The file -/

/-- What the coordinator saves: tasks and attempts under their own keys, and committed attempts only. -/
structure FileOk (d : DurableState D) : Prop where
  id_eq : ∀ {t : ComputeTaskId} {task : ComputeTask D}, d.tasks[t]? = some task → task.id = t
  keyed : ∀ (t : ComputeTaskId), ∀ a ∈ d.attempts[t]?.getD [], a.taskId = t
  committed : ∀ (t : ComputeTaskId), ∀ a ∈ d.attempts[t]?.getD [], a.committed = true

theorem FileOk.empty : FileOk ({} : DurableState D) where
  id_eq h := by simp at h
  keyed t a ha := by simp at ha
  committed t a ha := by simp at ha

/-- The attempts of a task that a save writes. -/
theorem getD_attempts_snapshot (s : Coordinator D) (t : ComputeTaskId) :
    s.snapshot.attempts[t]?.getD [] = (s.attemptsOf t).filter fun a => a.committed := by
  show (OrdMap.mapMaybe _ s.attempts)[t]?.getD [] = _
  rw [OrdMap.getElem?_mapMaybe, Ledger.attemptsOf]
  cases s.attempts[t]? with
  | none => rfl
  | some list =>
      simp only [Option.bind_some, committedOnly, Option.getD_some]
      split_ifs with hempty
      · exact (List.isEmpty_iff.mp hempty).symm
      · rfl

theorem FileOk.snapshot {s : Coordinator D} (hwf : s.WellFormed) : FileOk s.snapshot where
  id_eq h := hwf.coherent.id_eq h
  keyed t a ha := by
    rw [getD_attempts_snapshot] at ha
    exact hwf.keyed t a (List.mem_of_mem_filter ha)
  committed t a ha := by
    rw [getD_attempts_snapshot] at ha
    exact List.of_mem_filter ha

/-- What a process started on the file `d` knows. -/
structure Started (w : World D) (d : DurableState D) (s : Coordinator D) : Prop where
  wellFormed : s.WellFormed
  tasks : ∀ t : ComputeTaskId, s.graph.tasks[t]? = d.tasks[t]?
  states : ∀ t : ComputeTaskId, s.graph.states[t]? =
    d.tasks[t]?.map fun task => recoveredState (retriesNodeLoss task) (d.taskStates[t]?.getD .submitted)
  attempts : s.attempts = d.attempts
  reservations : s.reservations = ∅
  nodes : s.nodes = ∅
  dispatchAtMs : s.dispatchAtMs = ∅
  cancelRequested : s.cancelRequested = ∅
  taskReservation : s.taskReservation = ∅
  dispatchLog : s.dispatchLog = w.dispatchLog
  drawn : s.drawn = w.drawn
  epoch : s.durable.epoch = nextEpoch d.epoch
  file : s.file = some d ∨ s.file = some s.snapshot

theorem openStore_spec {env : Env} {w w' : World D} {d : DurableState D}
    (h : openStore env w = .ok (w', d)) :
    d = w.file.getD {} ∧ w'.file = some d ∧ w'.dispatchLog = w.dispatchLog ∧ w'.drawn = w.drawn ∧
      w'.clockReads = w.clockReads ∧ w'.saves = bumpSave w ∧
      (w'.effects = w.effects ∧ w'.file = w.file ∨ w'.effects = .saved {} :: w.effects ∧ w.file = none) := by
  unfold openStore at h
  split at h
  · next d' hfile =>
      cases h
      simp [hfile, bumpSave]
  · next hfile =>
      split_ifs at h
      · cases h
        simp [hfile, bumpSave]

/-- The rebuilt graph is the graph of the saved tasks. -/
theorem rebuild_tasks {tasks : IdMap (ComputeTask D)} {g : TaskGraph D}
    (hid : ∀ {t : ComputeTaskId} {task : ComputeTask D}, tasks[t]? = some task → task.id = t)
    (h : rebuild (tasks.toList.map Prod.snd) {} = .ok g) :
    g.Coherent ∧ (∀ t : ComputeTaskId, g.tasks[t]? = tasks[t]?) ∧
      ∀ t : ComputeTaskId, g.states[t]? = tasks[t]?.map fun _ => .submitted := by
  obtain ⟨hcoh, hsub, htasks⟩ := TaskGraph.rebuild_spec h .empty (by simp)
  have hfind : ∀ t : ComputeTaskId, ((tasks.toList.map Prod.snd).find? fun task => task.id = t) = tasks[t]? := by
    intro t
    have hkey : (tasks.toList.find? fun e => e.2.id = t) = tasks.toList.find? fun e => e.1 = t := by
      refine List.find?_congr ?_
      intro e he
      rw [hid (Std.ExtTreeMap.mem_toList_iff_getElem?_eq_some.mp he)]
    rw [List.find?_map]
    show Option.map _ (tasks.toList.find? fun e => e.2.id = t) = _
    rw [hkey, OrdMap.find?_toList]
    cases tasks[t]? <;> rfl
  have htasks' : ∀ t : ComputeTaskId, g.tasks[t]? = tasks[t]? := by
    intro t
    rw [htasks, hfind]
    simp
  refine ⟨hcoh, htasks', ?_⟩
  intro t
  rw [← htasks' t]
  have hsome := hcoh.isSome_states t
  cases hst : g.states[t]? with
  | none =>
      rw [hst] at hsome
      rw [Option.isSome_eq_false_iff.mp hsome.symm |> Option.isNone_iff_eq_none.mp]
      rfl
  | some st =>
      rw [hst] at hsome
      obtain ⟨task, htask⟩ := Option.isSome_iff_exists.mp hsome.symm
      rw [htask, hsub t st hst]
      rfl

/-- A save changes nothing but the store. -/
theorem Started.persist {w : World D} {d : DurableState D} {s : Coordinator D} (h : Started w d s)
    (env : Env) : Started w d (s.persist env) := by
  unfold Coordinator.persist
  split_ifs
  · exact ⟨h.wellFormed, h.tasks, h.states, h.attempts, h.reservations, h.nodes, h.dispatchAtMs,
      h.cancelRequested, h.taskReservation, h.dispatchLog, h.drawn, h.epoch, .inr rfl⟩
  · exact ⟨h.wellFormed, h.tasks, h.states, h.attempts, h.reservations, h.nodes, h.dispatchAtMs,
      h.cancelRequested, h.taskReservation, h.dispatchLog, h.drawn, h.epoch, h.file⟩

/-- Before recovery every task is in the state it was saved in. -/
theorem loaded_states [DoubleArith D] (env : Env) {w : World D} {d : DurableState D} {g : TaskGraph D}
    (hfile : FileOk d) (hrebuild : rebuild (d.tasks.toList.map Prod.snd) {} = .ok g) (t : ComputeTaskId) :
    (loaded env w d g).graph.states[t]? = d.tasks[t]?.map fun _ => d.taskStates[t]?.getD .submitted := by
  obtain ⟨hcoh, -, hsubmitted⟩ := rebuild_tasks hfile.id_eq hrebuild
  obtain ⟨-, -, -, hrestored⟩ := TaskGraph.restoreStates_spec d.taskStates hcoh
  refine (hrestored t).trans ?_
  rw [hsubmitted]
  cases d.tasks[t]? <;> rfl

theorem recovered_spec [DoubleArith D] (env : Env) {w : World D} {d : DurableState D} {g : TaskGraph D}
    (hw : w.file = some d) (hfile : FileOk d)
    (hrebuild : rebuild (d.tasks.toList.map Prod.snd) {} = .ok g) :
    Started w d (d.tasks.toList.foldl (recoverTask env) (loaded env w d g)) := by
  obtain ⟨hcoh, htasks, -⟩ := rebuild_tasks hfile.id_eq hrebuild
  obtain ⟨hcoh', htasks', -, -⟩ := TaskGraph.restoreStates_spec d.taskStates hcoh
  obtain ⟨hbooks, hstates⟩ := foldl_recoverTask_spec env d.tasks.toList
    (OrdMap.nodup_toList_keys d.tasks) (loaded env w d g)
  generalize d.tasks.toList.foldl (recoverTask env) (loaded env w d g) = s at hbooks hstates
  have hattempts : s.attempts = d.attempts := hbooks.attempts
  have hgraph : ∀ t : ComputeTaskId, s.graph.states[t]? =
      d.tasks[t]?.map fun task => recoveredState (retriesNodeLoss task) (d.taskStates[t]?.getD .submitted) := by
    intro t
    rw [hstates, OrdMap.find?_toList, loaded_states env hfile hrebuild t]
    cases d.tasks[t]? <;> rfl
  have hwf : s.WellFormed :=
    { keyed := by
        intro t a ha
        rw [Ledger.attemptsOf, hattempts] at ha
        exact hfile.keyed t a ha
      coherent := by
        refine TaskGraph.Coherent.congr (g := (loaded env w d g).graph) hcoh' hbooks.tasks (fun t => ?_) hbooks.deps
        rw [hstates]
        split <;> simp
      nodes := by
        intro n node hn
        rw [hbooks.nodes] at hn
        simp [loaded] at hn }
  exact
    { wellFormed := hwf
      tasks := fun t => by rw [hbooks.tasks]; exact htasks' ▸ htasks t
      states := hgraph
      attempts := hattempts
      reservations := hbooks.reservations
      nodes := hbooks.nodes
      dispatchAtMs := hbooks.dispatchAtMs
      cancelRequested := hbooks.cancelRequested
      taskReservation := hbooks.taskReservation
      dispatchLog := hbooks.dispatchLog
      drawn := hbooks.drawn
      epoch := by rw [hbooks.durable]; rfl
      file := .inl (hbooks.file.trans hw) }

/-- Recovery leaves the books alone. -/
theorem recovery_books [DoubleArith D] (env : Env) (w : World D) (d : DurableState D) (g : TaskGraph D) :
    SameBooks (loaded env w d g) (d.tasks.toList.foldl (recoverTask env) (loaded env w d g)) :=
  (foldl_recoverTask_spec env d.tasks.toList (OrdMap.nodup_toList_keys _) _).1

/-- A start that succeeds: the file, the graph rebuilt from it, recovery, and a save. -/
theorem start_ok [DoubleArith D] {env : Env} {w : World D} {s : Coordinator D} (h : start env w = .ok s) :
    ∃ w' g, openStore env w = .ok (w', w.file.getD {}) ∧
      rebuild ((w.file.getD {}).tasks.toList.map Prod.snd) {} = .ok g ∧
      s = ((w.file.getD {}).tasks.toList.foldl (recoverTask env)
        (loaded env w' (w.file.getD {}) g)).persist env := by
  unfold start at h
  split at h
  · cases h
  · next w' d hopen =>
      obtain ⟨rfl, -⟩ := openStore_spec hopen
      split at h
      · cases h
      · next g hrebuild => exact ⟨w', g, hopen, hrebuild, (Except.ok.inj h).symm⟩

/-- **What a start finds.** -/
theorem start_spec [DoubleArith D] {env : Env} {w : World D} {s : Coordinator D}
    (h : start env w = .ok s) (hfile : FileOk (w.file.getD {})) :
    Started w (w.file.getD {}) s := by
  obtain ⟨w', g, hopen, hrebuild, rfl⟩ := start_ok h
  obtain ⟨-, hw', hlog, hdrawn, -⟩ := openStore_spec hopen
  have hstarted := (recovered_spec env hw' hfile hrebuild).persist env
  exact { hstarted with
    dispatchLog := hstarted.dispatchLog.trans hlog
    drawn := hstarted.drawn.trans hdrawn }

/-- When the save of the bumped epoch succeeds, the file is the state the process starts in. -/
theorem start_saved [DoubleArith D] {env : Env} {w : World D} {s : Coordinator D}
    (h : start env w = .ok s) (hsave : env.saveOk (bumpSave w) = true) : s.file = some s.snapshot := by
  obtain ⟨w', g, hopen, -, rfl⟩ := start_ok h
  obtain ⟨-, -, -, -, -, hsaves, -⟩ := openStore_spec hopen
  have hbooks := recovery_books env w' (w.file.getD {}) g
  have hsave' : env.saveOk (loaded env w' (w.file.getD {}) g).saves = true := by
    show env.saveOk w'.saves = true
    rw [hsaves]
    exact hsave
  rw [Coordinator.persist, hbooks.saves, if_pos hsave']
  rfl

/-- A process starts without placement records and without locality facts. -/
theorem start_forgets [DoubleArith D] {env : Env} {w : World D} {s : Coordinator D}
    (h : start env w = .ok s) : s.placementRecords = ∅ ∧ s.stateLocality = ∅ := by
  obtain ⟨w', g, -, -, rfl⟩ := start_ok h
  have hbooks := recovery_books env w' (w.file.getD {}) g
  unfold Coordinator.persist
  split_ifs <;> exact ⟨hbooks.placementRecords, hbooks.stateLocality⟩

/-- The recorded workloads are those of the file. -/
theorem start_workloads [DoubleArith D] {env : Env} {w : World D} {s : Coordinator D}
    (h : start env w = .ok s) : s.durable.workloads = (w.file.getD {}).workloads := by
  obtain ⟨w', g, -, -, rfl⟩ := start_ok h
  have hbooks := recovery_books env w' (w.file.getD {}) g
  rw [persist_durable]
  show (Coordinator.durable _).workloads = _
  rw [hbooks.durable]
  rfl

end ComputeFabric
