import ComputeFabric.Coordinator.Run

/-!
# `Coordinator.View` — the row of one task in the ledger

What the ledger says about a single task: its lifecycle state, its attempts, its entry in the reservation
index, whether its cancellation was requested, and how often it was dispatched. Every transition writes the
row of at most one task (node loss: of each affected task), so an invariant of one task needs only the
transitions of that task's own row.

The lemmas `view_*` compute the row after each primitive and each transition.
-/

namespace ComputeFabric

open ExecutionAttempt (markStarted markCommitted markFailed markCancelled)

section Marks

variable {D : Type}

@[simp] theorem isLive_markStarted (st : AttemptStarted) (a : ExecutionAttempt D) :
    (markStarted st a).isLive = !a.committed := by
  simp [markStarted, ExecutionAttempt.isLive, ExecutionAttempt.isOutstanding]

@[simp] theorem isLive_markCommitted (co : AttemptComplete D) (time : Int64) (a : ExecutionAttempt D) :
    (markCommitted co time a).isLive = false := rfl

@[simp] theorem isLive_markFailed (kind : FailureKind) (reason : Text) (time : Int64)
    (a : ExecutionAttempt D) : (markFailed kind reason time a).isLive = false := by
  simp [markFailed, ExecutionAttempt.isLive, ExecutionAttempt.isOutstanding]

@[simp] theorem isLive_markCancelled (reason : Text) (time : Int64) (a : ExecutionAttempt D) :
    (markCancelled reason time a).isLive = false := by
  simp [markCancelled, ExecutionAttempt.isLive, ExecutionAttempt.isOutstanding]

end Marks

@[ext] structure TaskView (D : Type) where
  state : Option TaskState
  attempts : List (ExecutionAttempt D)
  resv : Option ReservationId
  cancel : Bool
  dispatched : Nat

namespace TaskView

variable {D : Type}

/-- A gated state change. -/
def move (v : TaskView D) (st : TaskState) : TaskView D :=
  { v with state := v.state.map fun cur => cur.next st }

/-- The reservation entry is dropped. -/
def release (v : TaskView D) : TaskView D := { v with resv := none }

/-- One attempt record is rewritten. -/
def rewrite (v : TaskView D) (i : Nat) (f : ExecutionAttempt D → ExecutionAttempt D) : TaskView D :=
  { v with attempts := v.attempts.modify i f }

/-- A cancel request is withdrawn. -/
def uncancel (v : TaskView D) : TaskView D := { v with cancel := false }

section

variable (v : TaskView D) (st : TaskState) (i : Nat) (f : ExecutionAttempt D → ExecutionAttempt D)

@[simp] theorem move_state : (v.move st).state = v.state.map fun cur => cur.next st := rfl
@[simp] theorem move_attempts : (v.move st).attempts = v.attempts := rfl
@[simp] theorem move_resv : (v.move st).resv = v.resv := rfl
@[simp] theorem move_dispatched : (v.move st).dispatched = v.dispatched := rfl
@[simp] theorem release_state : v.release.state = v.state := rfl
@[simp] theorem release_attempts : v.release.attempts = v.attempts := rfl
@[simp] theorem release_resv : v.release.resv = none := rfl
@[simp] theorem release_dispatched : v.release.dispatched = v.dispatched := rfl
@[simp] theorem rewrite_state : (v.rewrite i f).state = v.state := rfl
@[simp] theorem rewrite_attempts : (v.rewrite i f).attempts = v.attempts.modify i f := rfl
@[simp] theorem rewrite_resv : (v.rewrite i f).resv = v.resv := rfl
@[simp] theorem rewrite_dispatched : (v.rewrite i f).dispatched = v.dispatched := rfl
@[simp] theorem uncancel_state : v.uncancel.state = v.state := rfl
@[simp] theorem uncancel_attempts : v.uncancel.attempts = v.attempts := rfl
@[simp] theorem uncancel_resv : v.uncancel.resv = v.resv := rfl
@[simp] theorem uncancel_dispatched : v.uncancel.dispatched = v.dispatched := rfl

theorem move_absorbing {v : TaskView D} {cur : TaskState} (hcur : v.state = some cur)
    (habs : cur.isAbsorbing = true) (st : TaskState) : (v.move st).state = some cur := by
  rw [move_state, hcur, Option.map_some, TaskState.next_absorbing habs]

/-- A rewrite keeps what it does not write. -/
theorem map_modify {β : Type} (g : ExecutionAttempt D → β) (list : List (ExecutionAttempt D))
    (hf : ∀ a, g (f a) = g a) : (list.modify i f).map g = list.map g := by
  apply List.ext_getElem?
  intro j
  rw [List.getElem?_map, List.getElem?_modify, List.getElem?_map]
  cases list[j]? with
  | none => rfl
  | some a =>
      show some (g (if i = j then f a else a)) = some (g a)
      split_ifs
      · rw [hf]
      · rfl

end

end TaskView

namespace Ledger

variable {D : Type}

def view (l : Ledger D) (t : ComputeTaskId) : TaskView D where
  state := l.graph.states[t]?
  attempts := l.attemptsOf t
  resv := l.taskReservation[t]?
  cancel := l.isCancelRequested t
  dispatched := l.dispatchLog.countP fun d => d.1 = t

/-- The lifecycle state of a known task is the one in its row. -/
theorem state_eq_iff {l : Ledger D} {t : ComputeTaskId} {st : TaskState} (h : st ≠ .submitted) :
    l.graph.state t = st ↔ l.graph.states[t]? = some st := by
  unfold TaskGraph.state
  cases l.graph.states[t]? with
  | none =>
      constructor
      · intro he
        exact absurd he.symm h
      · intro he
        cases he
  | some cur => simp

theorem state_of_view {l : Ledger D} {t : ComputeTaskId} {st : TaskState}
    (h : (l.view t).state = some st) : l.graph.state t = st := by
  show (l.view t).state.getD .submitted = st
  rw [h]
  rfl

/-! ## Primitives -/

section Primitives

variable (l : Ledger D) (t u : ComputeTaskId)

theorem view_setState (st : TaskState) :
    (l.setState t st).view u = if t = u then (l.view u).move st else l.view u := by
  by_cases h : t = u
  · simp [view, setState, TaskGraph.getElem?_states_trySetState, h, TaskView.move, attemptsOf,
      isCancelRequested]
  · simp [view, setState, TaskGraph.getElem?_states_trySetState, h, attemptsOf, isCancelRequested]

@[simp] theorem releaseTaskReservation_graph : (l.releaseTaskReservation t).graph = l.graph := by
  unfold releaseTaskReservation
  split <;> rfl

@[simp] theorem releaseTaskReservation_attempts :
    (l.releaseTaskReservation t).attempts = l.attempts := by
  unfold releaseTaskReservation
  split <;> rfl

@[simp] theorem releaseTaskReservation_nodes : (l.releaseTaskReservation t).nodes = l.nodes := by
  unfold releaseTaskReservation
  split <;> rfl

@[simp] theorem releaseTaskReservation_cancelRequested :
    (l.releaseTaskReservation t).cancelRequested = l.cancelRequested := by
  unfold releaseTaskReservation
  split <;> rfl

@[simp] theorem releaseTaskReservation_dispatchLog :
    (l.releaseTaskReservation t).dispatchLog = l.dispatchLog := by
  unfold releaseTaskReservation
  split <;> rfl

@[simp] theorem releaseTaskReservation_drawn : (l.releaseTaskReservation t).drawn = l.drawn := by
  unfold releaseTaskReservation
  split <;> rfl

@[simp] theorem releaseTaskReservation_retryReadyAtMs :
    (l.releaseTaskReservation t).retryReadyAtMs = l.retryReadyAtMs := by
  unfold releaseTaskReservation
  split <;> rfl

theorem getElem?_taskReservation_release :
    (l.releaseTaskReservation t).taskReservation[u]? =
      if t = u then none else l.taskReservation[u]? := by
  unfold releaseTaskReservation
  split
  · next h =>
      by_cases htu : t = u
      · subst htu
        simp [h]
      · simp [htu]
  · simp [Std.ExtTreeMap.getElem?_erase]

theorem view_releaseTaskReservation :
    (l.releaseTaskReservation t).view u = if t = u then (l.view u).release else l.view u := by
  by_cases h : t = u
  · simp [view, getElem?_taskReservation_release, h, TaskView.release, attemptsOf, isCancelRequested]
  · simp [view, getElem?_taskReservation_release, h, attemptsOf, isCancelRequested]

theorem attemptsOf_updateAttempt (p : AttemptPtr) (f : ExecutionAttempt D → ExecutionAttempt D) :
    (l.updateAttempt p f).attemptsOf u =
      if p.task = u then (l.attemptsOf u).modify p.index f else l.attemptsOf u := by
  unfold attemptsOf updateAttempt
  by_cases h : p.task = u
  · subst h
    cases hl : l.attempts[p.task]? <;> simp [hl]
  · simp [h, Std.ExtTreeMap.getElem?_modify]

theorem view_updateAttempt (p : AttemptPtr) (f : ExecutionAttempt D → ExecutionAttempt D) :
    (l.updateAttempt p f).view u =
      if p.task = u then (l.view u).rewrite p.index f else l.view u := by
  by_cases h : p.task = u
  · rw [if_pos h]
    exact TaskView.ext rfl ((l.attemptsOf_updateAttempt u p f).trans (if_pos h)) rfl rfl rfl
  · rw [if_neg h]
    exact TaskView.ext rfl ((l.attemptsOf_updateAttempt u p f).trans (if_neg h)) rfl rfl rfl

theorem attemptsOf_touchAttempts : (l.touchAttempts t).attemptsOf u = l.attemptsOf u := by
  unfold touchAttempts attemptsOf
  by_cases h : t = u
  · simp [h]
  · simp [h, Std.ExtTreeMap.getElem?_insert]

theorem view_touchAttempts : (l.touchAttempts t).view u = l.view u :=
  TaskView.ext rfl (l.attemptsOf_touchAttempts t u) rfl rfl rfl

theorem view_eraseCancel :
    ({ l with cancelRequested := l.cancelRequested.erase t } : Ledger D).view u =
      if t = u then (l.view u).uncancel else l.view u := by
  by_cases h : t = u <;>
    simp [view, isCancelRequested, h, TaskView.uncancel, Std.ExtTreeMap.getElem?_erase, attemptsOf]

theorem view_holdReservation (rid : ReservationId) :
    (l.holdReservation t rid).view u =
      if t = u then { l.view u with resv := some rid } else l.view u := by
  by_cases h : t = u <;>
    simp [view, holdReservation, h, Std.ExtTreeMap.getElem?_insert, attemptsOf, isCancelRequested]

theorem attemptsOf_pushAttempt (a : ExecutionAttempt D) :
    (l.pushAttempt t a).attemptsOf u =
      if t = u then l.attemptsOf u ++ [a] else l.attemptsOf u := by
  by_cases h : t = u <;> simp [attemptsOf, pushAttempt, h, Std.ExtTreeMap.getElem?_insert]

theorem view_pushAttempt (a : ExecutionAttempt D) :
    (l.pushAttempt t a).view u =
      if t = u then
        { l.view u with
          attempts := (l.view u).attempts ++ [a], dispatched := (l.view u).dispatched + 1 }
      else l.view u := by
  by_cases h : t = u
  · rw [if_pos h]
    refine TaskView.ext rfl ((l.attemptsOf_pushAttempt t u a).trans (if_pos h)) rfl rfl ?_
    simp [view, pushAttempt, h]
  · rw [if_neg h]
    refine TaskView.ext rfl ((l.attemptsOf_pushAttempt t u a).trans (if_neg h)) rfl rfl ?_
    simp [view, pushAttempt, h]

theorem view_requestCancel :
    (l.requestCancel t).view u = if t = u then { l.view u with cancel := true } else l.view u := by
  by_cases h : t = u <;>
    simp [view, requestCancel, h, Std.ExtTreeMap.getElem?_insert, attemptsOf, isCancelRequested]

end Primitives

/-! ## Transitions -/

section Transitions

variable (l : Ledger D) (t u : ComputeTaskId) {p : AttemptPtr} {a : ExecutionAttempt D}

theorem view_startAttempt (h : a.taskId = p.task) (st : AttemptStarted) :
    (l.startAttempt p a st).view u =
      if p.task = u then ((l.view u).rewrite p.index (markStarted st)).move .running
      else l.view u := by
  simp only [startAttempt, view_setState, view_updateAttempt, h]
  split_ifs <;> rfl

theorem view_commitAttempt (h : a.taskId = p.task) (co : AttemptComplete D) (now : Int64) :
    (l.commitAttempt p a co now).view u =
      if p.task = u then
        (((l.view u).rewrite p.index (markCommitted co now)).move .succeeded).release.uncancel
      else l.view u := by
  simp only [commitAttempt, view_eraseCancel, view_releaseTaskReservation, view_setState,
    view_updateAttempt, h]
  split_ifs <;> rfl

theorem view_abandonAttempt (h : a.taskId = p.task) (now : Int64) :
    (l.abandonAttempt p a now).view u =
      if p.task = u then
        (((l.view u).rewrite p.index (markCancelled (text "cancelled") now)).move .preempted).release
      else l.view u := by
  simp only [abandonAttempt, view_releaseTaskReservation, view_setState, view_updateAttempt, h]
  split_ifs <;> rfl

/-- The state `retryOrFail` asks for. -/
def afterFailure (retryAt : Option Int64) : TaskState :=
  if retryAt.isSome then .retryPending else .failed

theorem afterFailure_eq (retryAt : Option Int64) :
    afterFailure retryAt = .retryPending ∨ afterFailure retryAt = .failed := by
  cases retryAt
  · exact .inr rfl
  · exact .inl rfl

theorem view_retryOrFail (retryAt : Option Int64) :
    (l.retryOrFail t retryAt).view u =
      if t = u then (l.view u).move (afterFailure retryAt) else l.view u := by
  cases retryAt with
  | none => exact l.view_setState t u .failed
  | some time => exact l.view_setState t u .retryPending

theorem view_failAttempt (h : a.taskId = p.task) (kind : FailureKind) (reason : Text) (now : Int64)
    (retryAt : Option Int64) :
    (l.failAttempt p a kind reason now retryAt).view u =
      if p.task = u then
        let v := ((l.view u).rewrite p.index (markFailed kind reason now)).release
        if v.state = some .succeeded then v else v.move (afterFailure retryAt)
      else l.view u := by
  have hstate : l.graph.state p.task = .succeeded ↔ l.graph.states[p.task]? = some .succeeded :=
    state_eq_iff (by decide)
  unfold failAttempt
  rw [h]
  by_cases hs : l.graph.state p.task = .succeeded
  · rw [if_pos hs]
    simp only [view_releaseTaskReservation, view_updateAttempt]
    split_ifs with hu hv
    · rfl
    · subst hu
      exact absurd (hstate.mp hs) hv
    · rfl
  · rw [if_neg hs]
    simp only [view_retryOrFail, view_releaseTaskReservation, view_updateAttempt]
    split_ifs with hu hv
    · subst hu
      exact absurd (hstate.mpr hv) hs
    · rfl
    · rfl

theorem view_cancelAttempt (h : a.taskId = p.task) (ca : AttemptCancelled) (now : Int64) :
    (l.cancelAttempt p a ca now).view u =
      if p.task = u then
        ((l.view u).rewrite p.index (markCancelled ca.reason now)).release.move .preempted
      else l.view u := by
  simp only [cancelAttempt, view_releaseTaskReservation, view_setState, view_updateAttempt, h]
  split_ifs <;> rfl

theorem view_unblockTask (now : Int64) :
    (l.unblockTask t now).view u = if t = u then (l.view u).move .ready else l.view u :=
  l.view_setState t u .ready

theorem view_cancelTask :
    (l.cancelTask t).view u =
      if t = u then ((l.view u).move .cancelled).release.uncancel else l.view u := by
  simp only [cancelTask, view_eraseCancel, view_releaseTaskReservation, view_setState]
  split_ifs <;> rfl

theorem view_loseTask (retryAt : Option Int64) :
    (l.loseTask t retryAt).view u =
      if t = u then (((l.view u).move .lost).move (afterFailure retryAt)).release
      else l.view u := by
  simp only [loseTask, view_releaseTaskReservation, view_retryOrFail, view_setState]
  split_ifs <;> rfl

theorem view_timeoutDispatch (now : Int64) :
    (l.timeoutDispatch t now).view u =
      if t = u then (l.view u).release.move .ready else l.view u := by
  show ((l.releaseTaskReservation t).setState t .ready).view u = _
  simp only [view_releaseTaskReservation, view_setState]
  split_ifs <;> rfl

theorem view_requeueTask (now : Int64) :
    (l.requeueTask t now).view u = if t = u then (l.view u).move .ready else l.view u :=
  l.view_setState t u .ready

theorem view_expireTask :
    (l.expireTask t).view u = if t = u then (l.view u).release.move .expired else l.view u := by
  simp only [expireTask, view_releaseTaskReservation, view_setState]
  split_ifs <;> rfl

/-- A successful round of `schedule_ready_tasks`, from the grant on. -/
def dispatch (resv : Reservation) (a : ExecutionAttempt D) : Ledger D :=
  let l := ((l.addReservation resv).setState t .planning).setState t .reserved
  ((l.holdReservation t resv.id).pushAttempt t a).setState t .dispatching

theorem view_dispatch (h : l.graph.states[t]? = some .ready) (resv : Reservation) :
    (l.dispatch t resv a).view u =
      if t = u then
        { state := some .dispatching
          attempts := (l.view u).attempts ++ [a]
          resv := some resv.id
          cancel := (l.view u).cancel
          dispatched := (l.view u).dispatched + 1 }
      else l.view u := by
  have hview : (l.addReservation resv).view u = l.view u := rfl
  simp only [dispatch, view_setState, view_pushAttempt, view_holdReservation, hview]
  split_ifs with hu
  · subst hu
    refine TaskView.ext ?_ rfl rfl rfl rfl
    -- Ready → Planning → Reserved → Dispatching is legal at every step
    show ((((l.graph.states[t]?).map _).map _).map _) = some TaskState.dispatching
    rw [h]
    rfl
  · rfl

theorem view_submitTask {g : TaskGraph D} {task : ComputeTask D}
    (hadd : l.graph.addTask task = (g, .ok ())) (now : Int64) :
    (l.submitTask g task now).view u =
      if task.id = u then { l.view u with state := some (initialState task) } else l.view u := by
  obtain ⟨-, rfl⟩ := TaskGraph.addTask_ok hadd
  have hstate : ∀ u, (({ l with graph := l.graph.insertTask task } : Ledger D)).view u =
      if task.id = u then { l.view u with state := some .submitted } else l.view u := by
    intro u
    by_cases hu : task.id = u <;>
      simp [view, TaskGraph.getElem?_states_insertTask, hu, attemptsOf, isCancelRequested]
  show (({ l with graph := l.graph.insertTask task } : Ledger D).setState task.id
    (initialState task)).view u = _
  rw [view_setState, hstate]
  split_ifs with hu
  · refine TaskView.ext ?_ rfl rfl rfl rfl
    unfold TaskView.move initialState
    split_ifs <;> rfl
  · rfl

end Transitions

/-! ## Lookup of an attempt -/

/-- A node loss collects the tasks with a live attempt on the node. -/
theorem mem_affectedBy {l : Ledger D} {n : NodeId} {t : ComputeTaskId} :
    t ∈ l.affectedBy n ↔ ∃ a ∈ l.attemptsOf t, a.nodeId = n ∧ a.isLive = true := by
  unfold affectedBy
  rw [List.mem_flatMap]
  constructor
  · rintro ⟨⟨u, list⟩, hmem, hin⟩
    obtain ⟨a, ha, rfl⟩ := List.mem_map.mp hin
    rw [Std.ExtTreeMap.mem_toList_iff_getElem?_eq_some] at hmem
    refine ⟨a, ?_, by simpa using List.of_mem_filter ha⟩
    rw [attemptsOf, hmem]
    exact List.mem_of_mem_filter ha
  · rintro ⟨a, ha, hnode, hlive⟩
    unfold attemptsOf at ha
    cases hl : l.attempts[t]? with
    | none => simp [hl] at ha
    | some list =>
        refine ⟨(t, list), Std.ExtTreeMap.mem_toList_iff_getElem?_eq_some.mpr hl, ?_⟩
        exact List.mem_map.mpr ⟨a, List.mem_filter.mpr ⟨by simpa [hl] using ha, by simp [hnode, hlive]⟩, rfl⟩

theorem findIn_eq_some {id : ExecutionAttemptId} {list : List (ExecutionAttempt D)} {i : Nat}
    {a : ExecutionAttempt D} (h : findIn id list = some (i, a)) : list[i]? = some a ∧ a.id = id := by
  unfold findIn at h
  obtain ⟨⟨b, j⟩, hfind, heq⟩ := Option.map_eq_some_iff.mp h
  cases heq
  have hmem := List.mem_of_find?_eq_some hfind
  exact ⟨by simpa [List.mem_zipIdx_iff_getElem?] using hmem, by simpa using List.find?_some hfind⟩

theorem findIn_eq_none {id : ExecutionAttemptId} {list : List (ExecutionAttempt D)}
    (h : findIn id list = none) {a : ExecutionAttempt D} (ha : a ∈ list) : a.id ≠ id := by
  unfold findIn at h
  rw [Option.map_eq_none_iff, List.find?_eq_none] at h
  obtain ⟨i, hi⟩ := List.mem_iff_getElem?.mp ha
  have := h (a, i) (by simpa [List.mem_zipIdx_iff_getElem?] using hi)
  simpa using this

/-- The pointer `find_active_attempt` returns leads to a record with the id asked for. -/
theorem findActiveAttempt_eq_some {l : Ledger D} {id : ExecutionAttemptId} {p : AttemptPtr}
    {a : ExecutionAttempt D} (h : l.findActiveAttempt id = some (p, a)) :
    (l.attemptsOf p.task)[p.index]? = some a ∧ a.id = id := by
  unfold findActiveAttempt at h
  obtain ⟨⟨t, list⟩, hmem, hhit⟩ := List.exists_of_findSome?_eq_some h
  obtain ⟨⟨i, b⟩, hin, heq⟩ := Option.map_eq_some_iff.mp hhit
  cases heq
  rw [Std.ExtTreeMap.mem_toList_iff_getElem?_eq_some] at hmem
  rw [attemptsOf, hmem]
  exact findIn_eq_some hin

theorem findActiveAttempt_eq_none {l : Ledger D} {id : ExecutionAttemptId}
    (h : l.findActiveAttempt id = none) {t : ComputeTaskId} {a : ExecutionAttempt D}
    (ha : a ∈ l.attemptsOf t) : a.id ≠ id := by
  unfold findActiveAttempt at h
  rw [List.findSome?_eq_none_iff] at h
  unfold attemptsOf at ha
  cases hl : l.attempts[t]? with
  | none => simp [hl] at ha
  | some list =>
      have := h (t, list) (Std.ExtTreeMap.mem_toList_iff_getElem?_eq_some.mpr hl)
      rw [Option.map_eq_none_iff] at this
      exact findIn_eq_none this (by simpa [hl] using ha)

end Ledger

end ComputeFabric
