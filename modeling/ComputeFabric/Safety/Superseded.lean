import ComputeFabric.Coordinator.Records

/-!
# `Safety.Superseded` — late messages of an old attempt

The handlers of the four attempt messages look the attempt up by id and then act on its task: they move the
task and release the reservation it holds, whichever attempt that belongs to. `superseded_inert_iff` says,
for every reachable state, when such a message of an attempt that has a successor is inert: exactly when the
handler refuses it, or the task holds no reservation and the lifecycle table refuses the state change. In
every other case an old attempt acts on the current one (`late_failure_disturbs`).
-/

namespace ComputeFabric

open Coordinator
open ExecutionAttempt (markStarted markCommitted markFailed markCancelled)

variable {D : Type}

/-! ## The statement -/

/-- `a` is an attempt of `t` that has a successor. -/
structure Ledger.Superseded (l : Ledger D) (t : ComputeTaskId) (i : Nat) (a : ExecutionAttempt D) : Prop where
  found : (l.attemptsOf t)[i]? = some a
  later : i + 1 < (l.attemptsOf t).length

/-- From `l` to `l'` at most the attempt at `i` of task `t` changed, and it was not committed. -/
structure Ledger.Inert (l l' : Ledger D) (t : ComputeTaskId) (i : Nat) : Prop where
  state : l'.graph.states[t]? = l.graph.states[t]?
  entry : l'.taskReservation[t]? = l.taskReservation[t]?
  released : ∀ rid : ReservationId, (l'.reservations[rid]?.map fun r => r.released) =
    l.reservations[rid]?.map fun r => r.released
  others : ∀ (u : ComputeTaskId) (j : Nat), (u, j) ≠ (t, i) → (l'.attemptsOf u)[j]? = (l.attemptsOf u)[j]?
  committed : ((l'.attemptsOf t)[i]?.map fun a => a.committed) =
    (l.attemptsOf t)[i]?.map fun a => a.committed

/-- Ending an attempt of `t` and asking for `target` changes nothing: there is no reservation to release
    and the state change is refused. -/
def Ledger.undisturbed (l : Ledger D) (t : ComputeTaskId) (target : TaskState) : Bool :=
  l.taskReservation[t]?.isNone && (l.graph.state t = target || !(l.graph.state t).isLegal target)

/-- The message of attempt `a` is refused, or leaves its task undisturbed. -/
def Coordinator.ignores (s : Coordinator D) (a : ExecutionAttempt D) : Command D → Bool
  | .attemptStarted _ =>
      a.coordinatorEpoch ≠ s.durable.epoch || s.graph.state a.taskId ≠ .dispatching
  | .attemptComplete _ _ co =>
      a.committed ||
      if s.isCancelRequested a.taskId then s.undisturbed a.taskId .preempted
      else (s.completionError a co).isSome
  | .attemptFailed _ _ fa =>
      a.coordinatorEpoch ≠ s.durable.epoch || a.state = .succeeded || a.committed ||
      s.undisturbed a.taskId
        (if s.retriesFailure a (.ofUInt8 fa.failureKind) then .retryPending else .failed)
  | .attemptCancelled _ =>
      a.coordinatorEpoch ≠ s.durable.epoch || s.undisturbed a.taskId .preempted
  | _ => true

/-! ## Releases and moves -/

theorem Ledger.Inert.refl (l : Ledger D) (t : ComputeTaskId) (i : Nat) : l.Inert l t i :=
  ⟨rfl, rfl, fun _ => rfl, fun _ _ _ => rfl, rfl⟩

theorem TaskState.next_eq_self_iff {st target : TaskState} :
    st.next target = st ↔ (st = target ∨ st.isLegal target = false) := by
  unfold TaskState.next
  split_ifs with h
  · simp [h, eq_comm]
  · simp [h]

/-- A move changes nothing when it is refused or asks for the state the task is in. -/
theorem Ledger.map_next_eq_iff (l : Ledger D) (t : ComputeTaskId) {target : TaskState}
    (htarget : TaskState.submitted.isLegal target = false) :
    (l.graph.states[t]?.map fun cur => cur.next target) = l.graph.states[t]? ↔
      (l.graph.state t = target || !(l.graph.state t).isLegal target) = true := by
  cases hst : l.graph.states[t]? with
  | none =>
      have hstate : l.graph.state t = .submitted := by
        show l.graph.states[t]?.getD _ = _
        rw [hst]
        rfl
      simp [hstate, htarget]
  | some st =>
      rw [Ledger.state_of_view hst]
      simp [TaskState.next_eq_self_iff]

/-- The row a transition of task `t` writes. -/
theorem row_of_view {l l' : Ledger D} {t : ComputeTaskId} {v : ComputeTaskId → TaskView D}
    (hview : ∀ u, l'.view u = if t = u then v u else l.view u) (u : ComputeTaskId) :
    l'.view u = if t = u then v t else l.view u := by
  rw [hview]
  split_ifs with htu
  · rw [htu]
  · rfl

section Rows

variable {l l' : Ledger D} {t : ComputeTaskId} {i : Nat} {v : TaskView D}
  {f : ExecutionAttempt D → ExecutionAttempt D}

/-- A rewrite of the attempt at `i` that keeps its commit flag touches no other record. -/
theorem attempts_of_rewrite (hview : ∀ u, l'.view u = if t = u then v else l.view u)
    (hattempts : v.attempts = (l.attemptsOf t).modify i f) (hf : ∀ a, (f a).committed = a.committed) :
    (∀ (u : ComputeTaskId) (j : Nat), (u, j) ≠ (t, i) →
      (l'.attemptsOf u)[j]? = (l.attemptsOf u)[j]?) ∧
    ((l'.attemptsOf t)[i]?.map fun a => a.committed) = (l.attemptsOf t)[i]?.map fun a => a.committed := by
  have hlist : ∀ u, l'.attemptsOf u = if t = u then (l.attemptsOf t).modify i f else l.attemptsOf u := by
    intro u
    have h := congrArg TaskView.attempts (hview u)
    split_ifs at h ⊢
    · exact h.trans hattempts
    · exact h
  constructor
  · intro u j hne
    rw [hlist]
    split_ifs with htu
    · subst htu
      have hij : i ≠ j := fun hij => hne (by rw [hij])
      rw [List.getElem?_modify]
      simp [hij]
    · rfl
  · rw [hlist, if_pos rfl, List.getElem?_modify]
    cases (l.attemptsOf t)[i]? with
    | none => rfl
    | some a => simp [hf]

end Rows

theorem Ledger.releaseTaskReservation_of_none {l : Ledger D} {t : ComputeTaskId}
    (h : l.taskReservation[t]? = none) : l.releaseTaskReservation t = l := by
  unfold Ledger.releaseTaskReservation
  rw [h]

section Ends

variable (l : Ledger D) {t : ComputeTaskId} {i : Nat} {a : ExecutionAttempt D} (htask : a.taskId = t)

/-- Ending an attempt, releasing what its task holds and asking for `target` is inert exactly when it
    leaves the task undisturbed. -/
theorem inert_iff_of_release {l' : Ledger D} {target : TaskState} {v : TaskView D}
    {f : ExecutionAttempt D → ExecutionAttempt D}
    (hview : ∀ u, l'.view u = if t = u then v else l.view u)
    (hv : v.attempts = (l.attemptsOf t).modify i f) (hf : ∀ a, (f a).committed = a.committed)
    (hstate : v.state = l.graph.states[t]?.map fun cur => cur.next target) (hresv : v.resv = none)
    (hreg : l.taskReservation[t]? = none → l'.reservations = l.reservations)
    (htarget : TaskState.submitted.isLegal target = false) :
    l.Inert l' t i ↔ l.undisturbed t target = true := by
  have hrow : l'.view t = v := (hview t).trans (if_pos rfl)
  have hstate' : l'.graph.states[t]? = l.graph.states[t]?.map fun cur => cur.next target :=
    (congrArg TaskView.state hrow).trans hstate
  have hentry : l'.taskReservation[t]? = none := (congrArg TaskView.resv hrow).trans hresv
  obtain ⟨hothers, hcommitted⟩ := attempts_of_rewrite hview hv hf
  have hiff := l.map_next_eq_iff t htarget
  constructor
  · intro h
    have hnone : l.taskReservation[t]? = none := h.entry.symm.trans hentry
    have hsame := hiff.mp (hstate'.symm.trans h.state)
    simp only [Ledger.undisturbed, hnone, Option.isNone_none, Bool.true_and]
    exact hsame
  · intro h
    simp only [Ledger.undisturbed, Bool.and_eq_true, Option.isNone_iff_eq_none] at h
    obtain ⟨hnone, hsame⟩ := h
    exact ⟨hstate'.trans (hiff.mpr hsame), hentry.trans hnone.symm, fun rid => by rw [hreg hnone],
      hothers, hcommitted⟩

include htask

theorem cancelAttempt_inert_iff (ca : AttemptCancelled) (time : Int64) :
    l.Inert (l.cancelAttempt ⟨t, i⟩ a ca time) t i ↔ l.undisturbed t .preempted = true := by
  refine inert_iff_of_release l (f := markCancelled ca.reason time)
    (row_of_view fun u => l.view_cancelAttempt u (p := ⟨t, i⟩) htask ca time) rfl (fun _ => rfl) rfl rfl ?_
    (by decide)
  intro hnone
  show ((l.updateAttempt ⟨t, i⟩ _).releaseTaskReservation a.taskId).reservations = _
  rw [htask, Ledger.releaseTaskReservation_of_none (by exact hnone)]
  rfl

theorem abandonAttempt_inert_iff (time : Int64) :
    l.Inert (l.abandonAttempt ⟨t, i⟩ a time) t i ↔ l.undisturbed t .preempted = true := by
  refine inert_iff_of_release l (f := markCancelled (text "cancelled") time)
    (row_of_view fun u => l.view_abandonAttempt u (p := ⟨t, i⟩) htask time) rfl (fun _ => rfl) rfl rfl ?_
    (by decide)
  intro hnone
  show (((l.updateAttempt ⟨t, i⟩ _).setState a.taskId _).releaseTaskReservation a.taskId).reservations = _
  rw [htask, Ledger.releaseTaskReservation_of_none (by exact hnone)]
  rfl

theorem failAttempt_inert_iff (kind : FailureKind) (reason : Text) (time : Int64)
    (retryAt : Option Int64) :
    l.Inert (l.failAttempt ⟨t, i⟩ a kind reason time retryAt) t i ↔
      l.undisturbed t (Ledger.afterFailure retryAt) = true := by
  refine inert_iff_of_release l (f := markFailed kind reason time)
    (row_of_view fun u => l.view_failAttempt u (p := ⟨t, i⟩) htask kind reason time retryAt)
    ?_ (fun _ => rfl) ?_ ?_ ?_ (by rcases Ledger.afterFailure_eq retryAt with h | h <;> rw [h] <;> decide)
  · dsimp only
    split_ifs <;> rfl
  · dsimp only
    split_ifs with hsucceeded
    · -- a task that has succeeded stays so, whatever is asked for
      have hst : l.graph.states[t]? = some .succeeded := hsucceeded
      rw [hst]
      rcases Ledger.afterFailure_eq retryAt with h | h <;> rw [h] <;> exact hst
    · rfl
  · dsimp only
    split_ifs <;> rfl
  · intro hnone
    have hrelease : (l.updateAttempt ⟨t, i⟩ (markFailed kind reason time)).releaseTaskReservation t =
        l.updateAttempt ⟨t, i⟩ (markFailed kind reason time) :=
      Ledger.releaseTaskReservation_of_none (by exact hnone)
    unfold Ledger.failAttempt
    dsimp only
    rw [htask, hrelease]
    split_ifs
    · rfl
    · rw [Ledger.retryOrFail_reservations]
      rfl

end Ends

/-! ## The four messages -/

section Messages

variable {env : Env} {s : Coordinator D} {t : ComputeTaskId} {i : Nat} {a : ExecutionAttempt D}

theorem attemptStarted_inert_iff (st : AttemptStarted)
    (hfind : s.findActiveAttempt st.attemptId = some (⟨t, i⟩, a)) (htask : a.taskId = t) :
    s.Inert (s.handleAttemptStarted env st).toLedger t i ↔ s.ignores a (.attemptStarted st) = true := by
  unfold handleAttemptStarted
  rw [hfind]
  dsimp only
  by_cases hepoch : a.coordinatorEpoch = s.durable.epoch
  · rw [if_neg (not_not.mpr hepoch), persist_toLedger]
    have hview := row_of_view fun u => s.toLedger.view_startAttempt u (p := ⟨t, i⟩) htask st
    obtain ⟨hothers, hcommitted⟩ := attempts_of_rewrite (f := markStarted st) hview rfl fun _ => rfl
    have hstate : (s.toLedger.startAttempt ⟨t, i⟩ a st).graph.states[t]? =
        s.graph.states[t]?.map fun cur => cur.next .running := by
      have h := congrArg TaskView.state (hview t)
      rwa [if_pos rfl] at h
    have hignores : s.ignores a (.attemptStarted st) = true ↔
        (s.graph.states[t]?.map fun cur => cur.next .running) = s.graph.states[t]? := by
      rw [s.toLedger.map_next_eq_iff t (by decide)]
      have hrunning : ∀ st : TaskState, st ≠ .dispatching ↔
          (st = .running || !st.isLegal .running) = true := by
        intro st
        cases st <;> first | decide | simp [TaskState.isLegal]
      simp [ignores, hepoch, htask, hrunning]
    rw [hignores]
    constructor
    · intro h
      exact hstate.symm.trans h.state
    · intro h
      exact ⟨hstate.trans h, rfl, fun _ => rfl, hothers, hcommitted⟩
  · rw [if_pos hepoch]
    exact iff_of_true (.refl _ t i) (by simp [ignores, hepoch])

theorem attemptCancelled_inert_iff (ca : AttemptCancelled)
    (hfind : s.findActiveAttempt ca.attemptId = some (⟨t, i⟩, a)) (htask : a.taskId = t) :
    s.Inert (s.handleAttemptCancelled env ca).toLedger t i ↔
      s.ignores a (.attemptCancelled ca) = true := by
  unfold handleAttemptCancelled
  rw [hfind]
  dsimp only
  by_cases hepoch : a.coordinatorEpoch = s.durable.epoch
  · rw [if_neg (not_not.mpr hepoch), persist_toLedger]
    refine (cancelAttempt_inert_iff s.toLedger htask ca (s.now env)).trans ?_
    simp [ignores, hepoch, htask]
  · rw [if_pos hepoch]
    exact iff_of_true (.refl _ t i) (by simp [ignores, hepoch])

theorem attemptFailed_inert_iff (conn : ConnId) (req : UInt64) (fa : AttemptFailed D)
    (hfind : s.findActiveAttempt fa.attemptId = some (⟨t, i⟩, a)) (htask : a.taskId = t) :
    s.Inert (s.handleAttemptFailed env conn req fa).toLedger t i ↔
      s.ignores a (.attemptFailed conn req fa) = true := by
  unfold handleAttemptFailed
  dsimp only
  rw [hfind]
  dsimp only
  by_cases hepoch : a.coordinatorEpoch = s.durable.epoch
  · by_cases hdone : a.state = .succeeded ∨ a.committed = true
    · rw [if_neg (not_not.mpr hepoch), if_pos hdone]
      refine iff_of_true (.refl _ t i) ?_
      rcases hdone with hdone | hdone <;> simp [ignores, hdone]
    · rw [if_neg (not_not.mpr hepoch), if_neg hdone, persist_toLedger, queueOutbound_toLedger]
      have hsome := isSome_retryAfter env s.tick a (.ofUInt8 fa.failureKind)
      generalize s.tick.retryAfter env a (.ofUInt8 fa.failureKind) = retryAt at hsome
      have hretry : s.retriesFailure a (.ofUInt8 fa.failureKind) = retryAt.isSome := hsome.symm
      refine (failAttempt_inert_iff s.toLedger htask _ _ (s.now env) retryAt).trans ?_
      rw [not_or] at hdone
      simp [ignores, hepoch, htask, hdone, hretry, Ledger.afterFailure]
  · rw [if_pos hepoch]
    exact iff_of_true (.refl _ t i) (by simp [ignores, hepoch])

variable [DoubleArith D]

theorem attemptComplete_inert_iff (hwf : s.WellFormed) (conn : ConnId) (req : UInt64)
    (co : AttemptComplete D) (hfind : s.findActiveAttempt co.attemptId = some (⟨t, i⟩, a))
    (htask : a.taskId = t) :
    s.Inert (s.handleAttemptComplete env conn req co).toLedger t i ↔
      s.ignores a (.attemptComplete conn req co) = true := by
  by_cases hcommit : a.committed = false ∧ s.isCancelRequested a.taskId = false ∧
      s.completionError a co = none
  · obtain ⟨hc, hcancel, hvalid⟩ := hcommit
    refine iff_of_false ?_ (by simp [ignores, hc, hcancel, hvalid])
    intro hinert
    have hset := hinert.committed
    rw [handleAttemptComplete_commits hwf conn req co hfind htask hc hcancel hvalid,
      (Ledger.findActiveAttempt_eq_some hfind).1] at hset
    simp [hc] at hset
  · unfold handleAttemptComplete
    simp only [hfind]
    by_cases hc : a.committed = true
    · rw [if_pos hc, queueOutbound_toLedger]
      exact iff_of_true (.refl _ t i) (by simp [ignores, hc])
    · rw [if_neg hc]
      by_cases hcancel : s.isCancelRequested a.taskId = true
      · rw [if_pos hcancel, queueOutbound_toLedger, persist_toLedger]
        refine (abandonAttempt_inert_iff s.toLedger htask (s.now env)).trans ?_
        rw [htask] at hcancel
        simp [ignores, hc, hcancel, htask]
      · rw [if_neg hcancel]
        cases hvalid : s.completionError a co with
        | some reason =>
            dsimp only
            rw [queueOutbound_toLedger]
            rw [htask] at hcancel
            exact iff_of_true (.refl _ t i) (by simp [ignores, hcancel, htask, hvalid])
        | none => exact absurd ⟨by simpa using hc, by simpa using hcancel, hvalid⟩ hcommit

/-- **Superseded attempts.** In every reachable state, a message of an attempt that has a successor leaves
    the task's state, its reservation entry, every `released` flag and every other attempt record as they
    were and commits nothing, exactly when the state says that the message is ignored. -/
theorem superseded_inert_iff {events : List (Event D)} (hrun : run env events = some s)
    (hfresh : Set.InjOn env.random (Set.Iio s.drawn)) (ha : s.Superseded t i a) (c : Command D)
    (hc : c.attemptId? = some a.id) :
    s.Inert (s.process env c).toLedger t i ↔ s.ignores a c = true := by
  have hwf := (run_sound hrun).wellFormed
  have hfind := (run_distinctIds hrun hfresh).findActiveAttempt ha.found
  have htask := hwf.taskId_eq hfind
  cases c with
  | attemptStarted st =>
      rw [← Option.some.inj hc] at hfind
      exact attemptStarted_inert_iff st hfind htask
  | attemptComplete conn req co =>
      rw [← Option.some.inj hc] at hfind
      exact attemptComplete_inert_iff hwf conn req co hfind htask
  | attemptFailed conn req fa =>
      rw [← Option.some.inj hc] at hfind
      exact attemptFailed_inert_iff conn req fa hfind htask
  | attemptCancelled ca =>
      rw [← Option.some.inj hc] at hfind
      exact attemptCancelled_inert_iff ca hfind htask
  | _ => cases hc

end Messages

/-- The first attempt failed and a second one was dispatched. -/
def Demo.retried : List (Event ℚ) :=
  [Demo.register 1, Demo.submit 3, .sweep, Demo.started 2, Demo.failed 2, .sweep]

/-- A duplicate of the failure report, after the second dispatch. -/
theorem superseded_inert_iff_retried :
    ∃ s a, run (Demo.env 100000 8) Demo.retried = some s ∧ s.Superseded Demo.taskId 0 a ∧
      (s.Inert (s.process (Demo.env 100000 8) (Demo.failure 2)).toLedger Demo.taskId 0 ↔
        s.ignores a (Demo.failure 2) = true) := by
  have hfacts : ((run (Demo.env 100000 8) Demo.retried).map fun s =>
      (s.drawn, (s.attemptsOf Demo.taskId).map fun a => a.id)) = some (5, [Demo.id 2, Demo.id 4]) := by
    decide +kernel
  obtain ⟨s, hs, hvals⟩ := Option.map_eq_some_iff.mp hfacts
  obtain ⟨hdrawn, hids⟩ := Prod.mk.inj hvals
  have hfirst := congrArg (fun l => l[0]?) hids
  rw [List.getElem?_map] at hfirst
  obtain ⟨a, ha, hid⟩ := Option.map_eq_some_iff.mp hfirst
  have hlength := congrArg List.length hids
  rw [List.length_map] at hlength
  have hsuper : s.Superseded Demo.taskId 0 a := ⟨ha, by rw [hlength]; decide⟩
  have hfresh : Set.InjOn (Demo.env 100000 8).random (Set.Iio s.drawn) := by
    rw [hdrawn]
    exact Demo.injOn_random _ _ (by decide)
  exact ⟨s, a, hs, hsuper, superseded_inert_iff hs hfresh hsuper (Demo.failure 2) (by rw [hid]; rfl)⟩

/-- That duplicate takes the reservation of the second attempt away. -/
theorem late_failure_disturbs :
    ((run (Demo.env 100000 8) Demo.retried).map fun s =>
      (s.taskReservation[Demo.taskId]?,
        (s.process (Demo.env 100000 8) (Demo.failure 2)).taskReservation[Demo.taskId]?)) =
    some (some (Demo.id 3), none) := by
  decide +kernel

end ComputeFabric
