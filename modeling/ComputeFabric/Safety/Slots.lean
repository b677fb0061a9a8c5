import ComputeFabric.Coordinator.Records

/-!
# `Safety.Slots` — reservations and the tasks that hold them

The registry grants a reservation to a task, `task_reservation_` remembers which one, and the task's state
says whether it should hold any. Two properties tie the three together.

- **No leak** (`no_reservation_leak`). A reservation that has not been given back is the one its task's entry
  names, and the task is `Reserved`, `Dispatching` or `Running`. Every transition that takes a task out of
  these states also releases what its entry names, in one order or the other (`Accounted.settle`).
- **Executing tasks hold their slots** (`executing_tasks_hold_slots`). The converse fails: a completion or a
  failure report for a task that is still `Dispatching` releases the reservation, and the lifecycle table
  then refuses to move the task (`early_failure_frees_slots`). It holds in every run without such a message.
-/

namespace ComputeFabric

open Coordinator
open ExecutionAttempt (markStarted markCommitted markFailed markCancelled)
open ReservationRegistry (GivenBack)

variable {D : Type}

/-! ## No leak -/

/-- Every reservation in use is named by the entry of its task, and its task holds slots. -/
def Ledger.Accounted (l : Ledger D) : Prop :=
  ∀ (rid : ReservationId) (r : Reservation), l.reservations[rid]? = some r → r.released = false →
    r.id = rid ∧ l.taskReservation[r.taskId]? = some rid ∧ (l.graph.state r.taskId).holdsSlots = true

/-- No reservation of the task is in use. -/
def Ledger.Free (l : Ledger D) (t : ComputeTaskId) : Prop :=
  ∀ (rid : ReservationId) (r : Reservation), l.reservations[rid]? = some r → r.released = false → r.taskId ≠ t

namespace Ledger

theorem reservations_release_congr {l l' : Ledger D} (hres : l'.reservations = l.reservations)
    (hentry : l'.taskReservation = l.taskReservation) (t : ComputeTaskId) :
    (l'.releaseTaskReservation t).reservations = (l.releaseTaskReservation t).reservations := by
  unfold releaseTaskReservation
  rw [hentry]
  split
  · exact hres
  · dsimp only
    rw [hres]

@[simp] theorem retryOrFail_taskReservation (l : Ledger D) (t : ComputeTaskId) (r : Option Int64) :
    (l.retryOrFail t r).taskReservation = l.taskReservation := by
  cases r <;> rfl

namespace Accounted

variable {l l' : Ledger D}

theorem free (h : l.Accounted) {t : ComputeTaskId} (ht : (l.graph.state t).holdsSlots = false) :
    l.Free t := by
  rintro rid r hr hheld rfl
  rw [(h rid r hr hheld).2.2] at ht
  cases ht

/-- A reservation the entry of its task names does not survive the release of the task. -/
theorem free_release (h : l.Accounted) (t : ComputeTaskId) : (l.releaseTaskReservation t).Free t := by
  rintro rid r hr hheld rfl
  have hold := (l.givenBack_releaseTaskReservation r.taskId).of_unreleased hr hheld
  have hentry := (h rid r hold hheld).2.1
  unfold releaseTaskReservation at hr
  rw [hentry] at hr
  dsimp only at hr
  rw [ReservationRegistry.getElem?_tryRelease, if_pos rfl, hold] at hr
  have hreleased : r.released = true := (congrArg Reservation.released (Option.some.inj hr)).symm
  rw [hreleased] at hheld
  cases hheld

/-- A transition that releases what one task holds may do anything else with that task. -/
theorem settle (h : l.Accounted) (t : ComputeTaskId)
    (hres : l'.reservations = (l.releaseTaskReservation t).reservations)
    (hview : ∀ u, t ≠ u → l'.view u = l.view u) : l'.Accounted := by
  intro rid r hr hheld
  rw [hres] at hr
  have hne : t ≠ r.taskId := fun heq => h.free_release t rid r hr hheld heq.symm
  obtain ⟨hid, hentry, hstate⟩ :=
    h rid r ((l.givenBack_releaseTaskReservation t).of_unreleased hr hheld) hheld
  have hrow := hview r.taskId hne
  refine ⟨hid, (congrArg TaskView.resv hrow).trans hentry, ?_⟩
  have hst : l'.graph.state r.taskId = l.graph.state r.taskId :=
    congrArg (fun v : TaskView D => v.state.getD .submitted) hrow
  rwa [hst]

/-- A transition that gives reservations back and moves only tasks that stay among the holders, or hold
    nothing. -/
theorem move (h : l.Accounted) (hback : GivenBack l.reservations l'.reservations)
    (hentry : l'.taskReservation = l.taskReservation)
    (hstate : ∀ u, (l.graph.state u).holdsSlots = true → (l'.graph.state u).holdsSlots = true) :
    l'.Accounted := by
  intro rid r hr hheld
  obtain ⟨hid, hentry', hholds⟩ := h rid r (hback.of_unreleased hr hheld) hheld
  exact ⟨hid, hentry ▸ hentry', hstate r.taskId hholds⟩

theorem loseTask (h : l.Accounted) (t : ComputeTaskId) (r : Option Int64) : (l.loseTask t r).Accounted := by
  refine h.settle t (reservations_release_congr (by simp [setState]) (by simp [setState]) t) ?_
  intro u hu
  rw [view_loseTask, if_neg hu]

theorem failAttempt (h : l.Accounted) {p : AttemptPtr} {a : ExecutionAttempt D} (htask : a.taskId = p.task)
    (kind : FailureKind) (reason : Text) (now : Int64) (r : Option Int64) :
    (l.failAttempt p a kind reason now r).Accounted := by
  refine h.settle p.task ?_ ?_
  · rw [← htask]
    unfold Ledger.failAttempt
    dsimp only
    split_ifs
    · exact reservations_release_congr (by rfl) (by rfl) _
    · rw [retryOrFail_reservations]
      exact reservations_release_congr (by rfl) (by rfl) _
  · intro u hu
    rw [view_failAttempt _ _ htask, if_neg hu]

end Accounted

end Ledger

/-- A move between states that both hold no slots, or both do. -/
theorem Ledger.holdsSlots_setState {l : Ledger D} {t : ComputeTaskId} {dst : TaskState}
    (hdst : ∀ cur, l.graph.states[t]? = some cur → cur.holdsSlots = true →
      (cur.next dst).holdsSlots = true) {u : ComputeTaskId} (hu : (l.graph.state u).holdsSlots = true) :
    ((l.setState t dst).graph.state u).holdsSlots = true := by
  unfold TaskGraph.state at hu ⊢
  rw [Ledger.setState, TaskGraph.getElem?_states_trySetState]
  split_ifs with htu
  · subst htu
    cases hcur : l.graph.states[t]? with
    | none =>
        rw [hcur] at hu
        cases hu
    | some cur =>
        rw [hcur] at hu
        exact hdst cur hcur hu
  · exact hu

section Transitions

variable [DoubleArith D] {env : Env} {s₀ : Coordinator D} {e : Event D} {l l' : Ledger D}

theorem LedgerStep.accounted (h : LedgerStep env s₀ e l l') (hwf : l.WellFormed) (hl : l.Accounted) :
    l'.Accounted := by
  cases h with
  | start hfind hepoch =>
      refine hl.move (.refl _) rfl fun u hu => Ledger.holdsSlots_setState ?_ hu
      intro cur _ hcur
      cases cur <;> first | rfl | cases hcur
  | commit hfind hcommitted hcancel hvalid =>
      have htask := hwf.taskId_eq hfind
      refine hl.settle _ (Ledger.reservations_release_congr (by rfl) (by rfl) _) fun u hu => ?_
      rw [Ledger.view_commitAttempt _ _ htask, if_neg (htask ▸ hu)]
  | abandon hfind hcommitted hcancel =>
      have htask := hwf.taskId_eq hfind
      refine hl.settle _ (Ledger.reservations_release_congr (by rfl) (by rfl) _) fun u hu => ?_
      rw [Ledger.view_abandonAttempt _ _ htask, if_neg (htask ▸ hu)]
  | @unblock conn req co l t time hblocked hsat =>
      refine hl.move (.refl _) rfl fun u hu => Ledger.holdsSlots_setState ?_ hu
      intro cur hcur hholds
      rw [hblocked] at hcur
      cases hcur
      cases hholds
  | fail hfind hepoch hstate hcommitted hretry => exact hl.failAttempt (hwf.taskId_eq hfind) _ _ _ _
  | cancelAttempt hfind hepoch =>
      have htask := hwf.taskId_eq hfind
      refine hl.settle _ (Ledger.reservations_release_congr (by rfl) (by rfl) _) fun u hu => ?_
      rw [Ledger.view_cancelAttempt _ _ htask, if_neg (htask ▸ hu)]
  | release hfind hepoch => exact hl.move (.tryRelease _ _) rfl fun u hu => hu
  | @submit client conn req sub g time hdeps hadd =>
      have hnew := hwf.coherent.states_none (TaskGraph.addTask_ok hadd).1
      refine hl.move (.refl _) rfl fun u hu => ?_
      have hrow := s₀.toLedger.view_submitTask u hadd time
      split_ifs at hrow with htu
      · -- a task the graph does not know holds nothing
        subst htu
        rw [TaskGraph.state, hnew] at hu
        cases hu
      · have hst : (s₀.toLedger.submitTask g sub.task time).graph.state u = s₀.graph.state u :=
          congrArg (fun v : TaskView D => v.state.getD .submitted) hrow
        rwa [hst]
  | refuse hadd =>
      obtain ⟨-, hstates, -⟩ := TaskGraph.addTask_error hwf.coherent hadd
      refine hl.move (.refl _) rfl fun u hu => ?_
      unfold TaskGraph.state at hu ⊢
      rwa [hstates]
  | cancelTask hstate hterminal hrunning hlegal =>
      refine hl.settle _ (Ledger.reservations_release_congr (by rfl) (by rfl) _) fun u hu => ?_
      rw [Ledger.view_cancelTask, if_neg hu]
  | @loseNode l n tasks hlost hattempts hgraph htasks hall =>
      have hdrop : (l.dropNode n).Accounted := hl.move (.releaseAllForNode _ n) rfl fun u hu => hu
      exact Ledger.foldl_loseTask_induction (l.dropNode n) tasks hdrop fun _ t r hl₁ => hl₁.loseTask t r
  | timeout hstale hattempts hstate =>
      refine hl.settle _ rfl fun u hu => ?_
      rw [Ledger.view_timeoutDispatch, if_neg hu]
  | @requeue l t time hstate =>
      refine hl.move (.refl _) rfl fun u hu => Ledger.holdsSlots_setState ?_ hu
      intro cur hcur hholds
      rw [hstate] at hcur
      cases hcur
      cases hholds
  | expire hstate hst =>
      refine hl.settle _ rfl fun u hu => ?_
      rw [Ledger.view_expireTask, if_neg hu]
  | @expireReady l t hstate =>
      refine hl.move (.refl _) rfl fun u hu => Ledger.holdsSlots_setState ?_ hu
      intro cur hcur hholds
      rw [hstate] at hcur
      cases hcur
      cases hholds
  | @dispatch l t task nodeId node executor slots device time time' resv a hstate htask hnode hconnected
      hgrant hresv ha =>
      have hfree : l.Free t := hl.free (by rw [Ledger.state_of_view hstate]; rfl)
      intro rid r hr hheld
      have hr' : (l.reservations.insert resv.id resv)[rid]? = some r := hr
      rw [Std.ExtTreeMap.getElem?_insert] at hr'
      have hrow := l.view_dispatch t r.taskId hstate resv (a := a)
      split_ifs at hr' with hk
      · rw [Std.compare_eq_iff_eq] at hk
        obtain rfl := Option.some.inj hr'
        have htid : t = resv.taskId := by rw [hresv]; rfl
        rw [if_pos htid] at hrow
        exact ⟨hk, (congrArg TaskView.resv hrow).trans (congrArg some hk),
          by rw [Ledger.state_of_view (congrArg TaskView.state hrow)]; rfl⟩
      · obtain ⟨hid, hentry, hholds⟩ := hl rid r hr' hheld
        rw [if_neg (fun htid => hfree rid r hr' hheld htid.symm)] at hrow
        have hst : (l.dispatch t resv a).graph.state r.taskId = l.graph.state r.taskId :=
          congrArg (fun v : TaskView D => v.state.getD .submitted) hrow
        exact ⟨hid, (congrArg TaskView.resv hrow).trans hentry, by rwa [hst]⟩
  | _ => exact hl

/-- **No reservation leak.** In every reachable state a reservation in use is the one its task's entry
    names, and its task is reserved, dispatching or running. So a task has at most one, and a task that is
    terminal, ready, blocked or waiting for a retry has none. -/
theorem no_reservation_leak {events : List (Event D)} {s : Coordinator D} (hrun : run env events = some s) :
    (∀ (rid : ReservationId) (r : Reservation), s.reservations[rid]? = some r → r.released = false →
      s.taskReservation[r.taskId]? = some r.id ∧
        (s.graph.state r.taskId = .reserved ∨ s.graph.state r.taskId = .dispatching ∨
          s.graph.state r.taskId = .running)) ∧
    (∀ (rid rid' : ReservationId) (r r' : Reservation), s.reservations[rid]? = some r →
      s.reservations[rid']? = some r' → r.released = false → r'.released = false → r.taskId = r'.taskId →
      rid = rid') ∧
    ∀ t : ComputeTaskId, (s.graph.state t).isTerminal = true ∨ s.graph.state t = .ready ∨
        s.graph.state t = .blocked ∨ s.graph.state t = .retryPending →
      ∀ (rid : ReservationId) (r : Reservation), s.reservations[rid]? = some r → r.taskId = t →
        r.released = true := by
  have hacc : s.Accounted := by
    refine run_ledger_invariant (C := fun _ _ => True) ?_ (fun _ _ _ _ _ hwf hl hstep => hstep.accounted hwf hl)
      (.of_forall (fun _ _ => trivial) events) hrun
    intro w d s hs _ rid r hr
    rw [hs.reservations] at hr
    simp at hr
  refine ⟨?_, ?_, ?_⟩
  · intro rid r hr hheld
    obtain ⟨hid, hentry, hholds⟩ := hacc rid r hr hheld
    refine ⟨hid ▸ hentry, ?_⟩
    revert hholds
    cases s.graph.state r.taskId <;> simp [TaskState.holdsSlots]
  · intro rid rid' r r' hr hr' hheld hheld' htask
    have hentry := (hacc rid r hr hheld).2.1
    rw [htask, (hacc rid' r' hr' hheld').2.1] at hentry
    exact (Option.some.inj hentry).symm
  · rintro t hst rid r hr rfl
    have hnone : (s.graph.state r.taskId).holdsSlots = false := by
      revert hst
      cases s.graph.state r.taskId <;> simp [TaskState.isTerminal, TaskState.holdsSlots]
    by_contra hheld
    exact hacc.free hnone rid r hr (by simpa using hheld) rfl

end Transitions

/-- A task that runs on its first attempt. -/
theorem no_reservation_leak_running :
    ∃ s : Coordinator ℚ,
      run (Demo.env 3000 100) [Demo.register 1, Demo.submit 1, .sweep, Demo.started 2] = some s ∧
      (∀ (rid : ReservationId) (r : Reservation), s.reservations[rid]? = some r → r.released = false →
        s.taskReservation[r.taskId]? = some r.id ∧
          (s.graph.state r.taskId = .reserved ∨ s.graph.state r.taskId = .dispatching ∨
            s.graph.state r.taskId = .running)) := by
  obtain ⟨s, hs⟩ := Option.isSome_iff_exists.mp (show (run (Demo.env 3000 100) [Demo.register 1,
    Demo.submit 1, .sweep, Demo.started 2]).isSome = true by decide +kernel)
  exact ⟨s, hs, (no_reservation_leak hs).1⟩

/-! ## Executing tasks -/

/-- The event does not end an attempt of a task that is still `Dispatching`. -/
def Coordinator.keepsSlots (s : Coordinator D) : Event D → Bool
  | .command (.attemptComplete _ _ co) =>
      (s.commits co).all fun a => s.graph.state a.taskId ≠ .dispatching
  | .command (.attemptFailed _ _ fa) =>
      match s.findActiveAttempt fa.attemptId with
      | none => true
      | some (_, a) =>
          a.coordinatorEpoch ≠ s.durable.epoch || a.state = .succeeded || a.committed ||
          s.graph.state a.taskId ≠ .dispatching
  | _ => true

/-- The entry of the task names the reservation of one of its live attempts, and the reservation is in use
    unless `R` says that it was given back on request. -/
def Ledger.HoldsSlots (R : ReservationId → Prop) (l : Ledger D) (t : ComputeTaskId) : Prop :=
  ∃ (rid : ReservationId) (r : Reservation) (a : ExecutionAttempt D), l.taskReservation[t]? = some rid ∧
    l.reservations[rid]? = some r ∧ (r.released = true → R rid) ∧ a ∈ l.attemptsOf t ∧ a.isLive = true ∧
    a.reservationId = rid ∧ a.nodeId = r.nodeId

/-- Entries name reservations of their own task, and executing tasks hold their slots, apart from those in
    `pending`. -/
structure Ledger.SlotsHeld (R : ReservationId → Prop) (pending : List ComputeTaskId) (l : Ledger D) :
    Prop where
  entries : ∀ (t : ComputeTaskId) (rid : ReservationId), l.taskReservation[t]? = some rid →
    ∃ r, l.reservations[rid]? = some r ∧ r.taskId = t
  held : ∀ (t : ComputeTaskId) (st : TaskState), l.graph.states[t]? = some st → st.isExecuting = true →
    l.HoldsSlots R t ∨ t ∈ pending

namespace TaskState

theorem isExecuting_of_next {src dst : TaskState} (hdst : dst ≠ dispatching)
    (h : (src.next dst).isExecuting = true) : src.isExecuting = true := by
  unfold next at h
  split_ifs at h with hlegal
  · cases src <;> cases dst <;> first | rfl | exact absurd rfl hdst | (cases h; done) | cases hlegal
  · exact h

/-- Where an attempt ends, the task stops executing, unless it is `Dispatching`. -/
theorem isExecuting_next_end {src dst : TaskState} (hsrc : src ≠ dispatching)
    (hdst : dst = succeeded ∨ dst = retryPending ∨ dst = failed) : (src.next dst).isExecuting = false := by
  rcases hdst with rfl | rfl | rfl <;> cases src <;> first | rfl | exact absurd rfl hsrc

theorem isExecuting_next_stop (src : TaskState) {dst : TaskState}
    (hdst : dst = preempted ∨ dst = cancelled) : (src.next dst).isExecuting = false := by
  rcases hdst with rfl | rfl <;> cases src <;> rfl

theorem isExecuting_next_lost (src : TaskState) {dst : TaskState} (hdst : dst ≠ dispatching) :
    ((src.next lost).next dst).isExecuting = false := by
  by_contra h
  rw [Bool.not_eq_false] at h
  have hlost := isExecuting_of_next hdst h
  cases src <;> cases hlost

end TaskState

namespace Ledger.SlotsHeld

variable {R : ReservationId → Prop} {pending pending' : List ComputeTaskId} {l l' : Ledger D}

/-- A transition that releases what one task holds and takes it out of execution. -/
theorem settle (h : l.SlotsHeld R pending) (u : ComputeTaskId)
    (hres : l'.reservations = (l.releaseTaskReservation u).reservations)
    (hview : ∀ t, u ≠ t → l'.view t = l.view t) (hentry : (l'.view u).resv = none)
    (hidle : ∀ st, (l'.view u).state = some st → st.isExecuting = false)
    (hpending : ∀ t ∈ pending, t = u ∨ t ∈ pending') : l'.SlotsHeld R pending' := by
  -- what another task's entry names is not what the entry of `u` names
  have hother : ∀ (t : ComputeTaskId) (rid : ReservationId) (r : Reservation), u ≠ t →
      l.taskReservation[t]? = some rid → l.reservations[rid]? = some r → l'.reservations[rid]? = some r := by
    intro t rid r hne ht hr
    rw [hres]
    unfold Ledger.releaseTaskReservation
    split
    · exact hr
    · next rid' hrid' =>
        dsimp only
        rw [ReservationRegistry.getElem?_tryRelease, if_neg ?_]
        · exact hr
        · rintro rfl
          obtain ⟨r₁, hr₁, hu⟩ := h.entries u rid' hrid'
          obtain ⟨r₂, hr₂, ht'⟩ := h.entries t rid' ht
          rw [hr₁] at hr₂
          cases hr₂
          exact hne (hu.symm.trans ht')
  constructor
  · intro t rid ht
    by_cases hut : u = t
    · subst hut
      rw [show l'.taskReservation[u]? = none from hentry] at ht
      cases ht
    · have ht' : l.taskReservation[t]? = some rid := (congrArg TaskView.resv (hview t hut)).symm.trans ht
      obtain ⟨r, hr, htask⟩ := h.entries t rid ht'
      exact ⟨r, hother t rid r hut ht' hr, htask⟩
  · intro t st hst hexec
    by_cases hut : u = t
    · subst hut
      rw [hidle st hst] at hexec
      cases hexec
    · have hrow := hview t hut
      rcases h.held t st ((congrArg TaskView.state hrow).symm.trans hst) hexec with hheld | hmem
      · obtain ⟨rid, r, a, ht, hr, hreleased, ha, hrest⟩ := hheld
        have ha' : a ∈ (l'.view t).attempts := by rwa [hrow]
        exact .inl ⟨rid, r, a, (congrArg TaskView.resv hrow).trans ht, hother t rid r hut ht hr, hreleased,
          ha', hrest⟩
      · exact .inr ((hpending t hmem).resolve_left (Ne.symm hut))

/-- A transition that starts no execution, ends no live attempt, and gives nothing back unless `R` says
    so. -/
theorem move (h : l.SlotsHeld R pending) (hentry : l'.taskReservation = l.taskReservation)
    (hres : ∀ (rid : ReservationId) (r : Reservation), l.reservations[rid]? = some r →
      ∃ r', l'.reservations[rid]? = some r' ∧ r'.taskId = r.taskId ∧ r'.nodeId = r.nodeId ∧
        (r'.released = true → r.released = true ∨ R rid))
    (hexec : ∀ (t : ComputeTaskId) (st : TaskState), l'.graph.states[t]? = some st → st.isExecuting = true →
      ∃ st₀, l.graph.states[t]? = some st₀ ∧ st₀.isExecuting = true)
    (hattempts : ∀ t, ∀ a ∈ l.attemptsOf t, a.isLive = true →
      ∃ a' ∈ l'.attemptsOf t, a'.isLive = true ∧ a'.key = a.key) : l'.SlotsHeld R pending := by
  constructor
  · intro t rid ht
    rw [hentry] at ht
    obtain ⟨r, hr, htask⟩ := h.entries t rid ht
    obtain ⟨r', hr', htask', -, -⟩ := hres rid r hr
    exact ⟨r', hr', htask'.trans htask⟩
  · intro t st hst hst'
    obtain ⟨st₀, hst₀, hexec₀⟩ := hexec t st hst hst'
    refine (h.held t st₀ hst₀ hexec₀).imp_left ?_
    rintro ⟨rid, r, a, ht, hr, hreleased, ha, hlive, hrid, hnode⟩
    obtain ⟨r', hr', -, hnode', hreleased'⟩ := hres rid r hr
    obtain ⟨a', ha', hlive', hkey⟩ := hattempts t a ha hlive
    exact ⟨rid, r', a', hentry ▸ ht, hr', fun hrel => (hreleased' hrel).elim hreleased id, ha', hlive',
      (congrArg AttemptKey.reservationId hkey).trans hrid,
      (congrArg AttemptKey.nodeId hkey).trans (hnode.trans hnode'.symm)⟩

/-- A transition that only moves tasks, and none to `Dispatching`. -/
theorem moveStates (h : l.SlotsHeld R pending) (hentry : l'.taskReservation = l.taskReservation)
    (hres : l'.reservations = l.reservations) (hattempts : ∀ t, l'.attemptsOf t = l.attemptsOf t)
    (hexec : ∀ (t : ComputeTaskId) (st : TaskState), l'.graph.states[t]? = some st → st.isExecuting = true →
      ∃ st₀, l.graph.states[t]? = some st₀ ∧ st₀.isExecuting = true) : l'.SlotsHeld R pending :=
  h.move hentry (fun _ r hr => ⟨r, by rwa [hres], rfl, rfl, .inl⟩) hexec
    fun t a ha hlive => ⟨a, by rwa [hattempts], hlive, rfl⟩

theorem loseTask {t : ComputeTaskId} (h : l.SlotsHeld R (t :: pending)) (r : Option Int64) :
    (l.loseTask t r).SlotsHeld R pending := by
  have hrow := l.view_loseTask t t r
  rw [if_pos rfl] at hrow
  refine h.settle t (reservations_release_congr (by simp [setState]) (by simp [setState]) t) ?_ ?_ ?_ ?_
  · intro u hu
    rw [view_loseTask, if_neg hu]
  · rw [hrow]
    rfl
  · intro st hst
    rw [hrow] at hst
    simp only [TaskView.release_state, TaskView.move_state, Option.map_map] at hst
    obtain ⟨cur, -, rfl⟩ := Option.map_eq_some_iff.mp hst
    refine TaskState.isExecuting_next_lost cur ?_
    rcases afterFailure_eq r with hr | hr <;> rw [hr] <;> decide
  · intro u hu
    exact List.mem_cons.mp hu

theorem foldl_loseTask (tasks : List (ComputeTaskId × Option Int64)) (h : l.SlotsHeld R (tasks.map Prod.fst)) :
    (tasks.foldl (fun l x => l.loseTask x.1 x.2) l).SlotsHeld R [] := by
  induction tasks generalizing l with
  | nil => exact h
  | cons x rest ih => exact ih (h.loseTask x.2)

/-- Losing a node takes the slots of the tasks with a live attempt there, and of no others. -/
theorem dropNode (h : l.SlotsHeld R []) (hwf : l.WellFormed) {n : NodeId}
    (hpending : ∀ t ∈ l.affectedBy n, (l.graph.find t).isSome → t ∈ pending) :
    (l.dropNode n).SlotsHeld R pending := by
  have hlookup : ∀ rid : ReservationId, (l.dropNode n).reservations[rid]? =
      l.reservations[rid]?.map fun r => if r.nodeId = n then ReservationRegistry.giveBack r else r :=
    fun rid => ReservationRegistry.getElem?_releaseAllForNode _ _ _
  constructor
  · intro t rid ht
    obtain ⟨r, hr, htask⟩ := h.entries t rid ht
    rw [hlookup, hr]
    refine ⟨_, rfl, ?_⟩
    dsimp only
    split_ifs <;> exact htask
  · intro t st hst hexec
    obtain ⟨rid, r, a, ht, hr, hreleased, ha, hlive, hrid, hnode⟩ :=
      (h.held t st hst hexec).resolve_right (by simp)
    by_cases hn : r.nodeId = n
    · have hknown : (l.graph.find t).isSome = true := by
        show l.graph.tasks[t]?.isSome = true
        rw [← hwf.coherent.isSome_states t, show l.graph.states[t]? = some st from hst]
        rfl
      exact .inr (hpending t (mem_affectedBy.mpr ⟨a, ha, hnode.trans hn, hlive⟩) hknown)
    · refine .inl ⟨rid, r, a, ht, ?_, hreleased, ha, hlive, hrid, hnode⟩
      rw [hlookup, hr, Option.map_some, if_neg hn]

end Ledger.SlotsHeld

section Transitions

variable {env : Env} {s₀ : Coordinator D} {e : Event D} {l l' : Ledger D} {R : ReservationId → Prop}

theorem Ledger.exec_setState {t : ComputeTaskId} {dst : TaskState} (hdst : dst ≠ .dispatching)
    {u : ComputeTaskId} {st : TaskState} (hst : (l.setState t dst).graph.states[u]? = some st)
    (hexec : st.isExecuting = true) : ∃ st₀, l.graph.states[u]? = some st₀ ∧ st₀.isExecuting = true := by
  rw [Ledger.setState, TaskGraph.getElem?_states_trySetState] at hst
  split_ifs at hst with htu
  · obtain ⟨cur, hcur, rfl⟩ := Option.map_eq_some_iff.mp hst
    exact ⟨cur, htu ▸ hcur, TaskState.isExecuting_of_next hdst hexec⟩
  · exact ⟨st, hst, hexec⟩

/-- The transitions that end an attempt release the task and move it. -/
theorem Ledger.SlotsHeld.endAttempt {pending : List ComputeTaskId} (h : l.SlotsHeld R pending)
    {t : ComputeTaskId} {v : ComputeTaskId → TaskView D}
    (hview : ∀ u, l'.view u = if t = u then v u else l.view u)
    (hres : l'.reservations = (l.releaseTaskReservation t).reservations) (hresv : (v t).resv = none)
    (hidle : ∀ st, (v t).state = some st → st.isExecuting = false) : l'.SlotsHeld R pending := by
  have hrow : l'.view t = v t := (hview t).trans (if_pos rfl)
  refine h.settle t hres (fun u hu => (hview u).trans (if_neg hu)) ?_ ?_ fun u hu => .inr hu
  · rw [hrow]
    exact hresv
  · rw [hrow]
    exact hidle

/-- A dispatch under a new reservation id. -/
theorem Ledger.SlotsHeld.dispatch (h : l.SlotsHeld R []) {t : ComputeTaskId}
    (hstate : l.graph.states[t]? = some .ready) {resv : Reservation} {a : ExecutionAttempt D}
    (hnew : l.reservations[resv.id]? = none) (htask : resv.taskId = t) (hheld : resv.released = false)
    (hlive : a.isLive = true) (hrid : a.reservationId = resv.id) (hnode : a.nodeId = resv.nodeId) :
    (l.dispatch t resv a).SlotsHeld R [] := by
  have hview := fun u => l.view_dispatch t u hstate resv (a := a)
  have hlookup : ∀ rid : ReservationId, (l.dispatch t resv a).reservations[rid]? =
      if resv.id = rid then some resv else l.reservations[rid]? := by
    intro rid
    show (l.reservations.insert resv.id resv)[rid]? = _
    rw [Std.ExtTreeMap.getElem?_insert]
    simp only [Std.compare_eq_iff_eq]
  -- every reservation that was there before has another id
  have hold : ∀ (rid : ReservationId) (r : Reservation), l.reservations[rid]? = some r →
      (l.dispatch t resv a).reservations[rid]? = some r := by
    intro rid r hr
    rw [hlookup, if_neg ?_]
    · exact hr
    · rintro rfl
      rw [hnew] at hr
      cases hr
  constructor
  · intro u rid hu
    have hrow := congrArg TaskView.resv (hview u)
    rw [show ((l.dispatch t resv a).view u).resv = some rid from hu] at hrow
    split_ifs at hrow with htu
    · obtain rfl : rid = resv.id := Option.some.inj hrow
      exact ⟨resv, by rw [hlookup, if_pos rfl], htask.trans htu⟩
    · obtain ⟨r, hr, hru⟩ := h.entries u rid hrow.symm
      exact ⟨r, hold rid r hr, hru⟩
  · intro u st hst hexec
    left
    have hrow := hview u
    by_cases htu : t = u
    · rw [if_pos htu] at hrow
      refine ⟨resv.id, resv, a, congrArg TaskView.resv hrow, by rw [hlookup, if_pos rfl], ?_, ?_, hlive, hrid,
        hnode⟩
      · rw [hheld]
        nofun
      · show a ∈ ((l.dispatch t resv a).view u).attempts
        rw [hrow]
        exact List.mem_append_right _ (List.mem_singleton_self a)
    · rw [if_neg htu] at hrow
      obtain ⟨rid, r, b, hu, hr, hreleased, hb, hrest⟩ :=
        (h.held u st ((congrArg TaskView.state hrow).symm.trans hst) hexec).resolve_right (by simp)
      have hb' : b ∈ ((l.dispatch t resv a).view u).attempts := by rwa [hrow]
      exact ⟨rid, r, b, (congrArg TaskView.resv hrow).trans hu, hold rid r hr, hreleased, hb', hrest⟩

variable [DoubleArith D]

theorem LedgerStep.slotsHeld (h : LedgerStep env s₀ e l l') (hwf : l.WellFormed)
    (hcond : s₀.keepsSlots e = true)
    (hR : ∀ c rid, e = .command c → c.reservationId? = some rid → R rid)
    (hkeys : ∀ (rid : ReservationId) (r : Reservation), l.reservations[rid]? = some r → env.Drew 0 l.drawn rid)
    (hfresh : Set.InjOn env.random (Set.Iio l'.drawn)) (hl : l.SlotsHeld R []) : l'.SlotsHeld R [] := by
  cases h with
  | @start st p a hfind hepoch =>
      refine hl.move rfl (fun _ r hr => ⟨r, hr, rfl, rfl, .inl⟩)
        (fun u st' hst hexec => Ledger.exec_setState (l := s₀.updateAttempt p (markStarted st)) (by decide) hst hexec)
        ?_
      intro t b hb hlive
      show ∃ b' ∈ (s₀.toLedger.updateAttempt p (markStarted st)).attemptsOf t, _
      rw [Ledger.attemptsOf_updateAttempt]
      split_ifs
      · obtain ⟨j, hj⟩ := List.mem_iff_getElem?.mp hb
        refine ⟨if p.index = j then markStarted st b else b, List.mem_of_getElem? (i := j) ?_, ?_, ?_⟩
        · rw [List.getElem?_modify, hj]
          rfl
        · have hc : b.committed = false := by
            simp only [ExecutionAttempt.isLive, Bool.and_eq_true, Bool.not_eq_true'] at hlive
            exact hlive.1
          split_ifs
          · rw [isLive_markStarted, hc]
            rfl
          · exact hlive
        · split_ifs <;> rfl
      · exact ⟨b, hb, hlive, rfl⟩
  | @commit conn req co p a time hfind hcommitted hcancel hvalid =>
      have htask := hwf.taskId_eq hfind
      refine hl.endAttempt (fun u => s₀.toLedger.view_commitAttempt u htask co time)
        (by rw [← htask]; exact Ledger.reservations_release_congr (by rfl) (by rfl) _) rfl ?_
      intro st hst
      obtain ⟨cur, hcur, rfl⟩ := Option.map_eq_some_iff.mp hst
      have hne : s₀.graph.state p.task ≠ .dispatching := by
        simpa [keepsSlots, commits_eq_some hfind hcommitted hcancel hvalid, htask] using hcond
      rw [Ledger.state_of_view hcur] at hne
      exact TaskState.isExecuting_next_end hne (.inl rfl)
  | @abandon conn req co p a time hfind hcommitted hcancel =>
      have htask := hwf.taskId_eq hfind
      refine hl.endAttempt (fun u => s₀.toLedger.view_abandonAttempt u htask time)
        (by rw [← htask]; exact Ledger.reservations_release_congr (by rfl) (by rfl) _) rfl ?_
      intro st hst
      obtain ⟨cur, -, rfl⟩ := Option.map_eq_some_iff.mp hst
      exact TaskState.isExecuting_next_stop cur (.inl rfl)
  | unblock hblocked hsat =>
      exact hl.moveStates rfl rfl (fun _ => rfl) fun u st hst hexec =>
        Ledger.exec_setState (by decide) hst hexec
  | @fail conn req fa p a time retryAt hfind hepoch hstate hcommitted hretry =>
      have htask := hwf.taskId_eq hfind
      have hne : s₀.graph.state p.task ≠ .dispatching := by
        simpa [keepsSlots, hfind, hepoch, hstate, hcommitted, htask] using hcond
      refine hl.endAttempt (fun u => s₀.toLedger.view_failAttempt u htask _ _ time retryAt) ?_ ?_ ?_
      · rw [← htask]
        unfold Ledger.failAttempt
        dsimp only
        split_ifs
        · exact Ledger.reservations_release_congr (by rfl) (by rfl) _
        · rw [Ledger.retryOrFail_reservations]
          exact Ledger.reservations_release_congr (by rfl) (by rfl) _
      · dsimp only
        split_ifs <;> rfl
      · intro st hst
        dsimp only at hst
        split_ifs at hst with hsucceeded
        · rw [hsucceeded] at hst
          cases hst
          rfl
        · obtain ⟨cur, hcur, rfl⟩ := Option.map_eq_some_iff.mp hst
          rw [Ledger.state_of_view (l := s₀.toLedger) hcur] at hne
          exact TaskState.isExecuting_next_end hne (.inr (Ledger.afterFailure_eq retryAt))
  | @cancelAttempt ca p a time hfind hepoch =>
      have htask := hwf.taskId_eq hfind
      refine hl.endAttempt (fun u => s₀.toLedger.view_cancelAttempt u htask ca time)
        (by rw [← htask]; exact Ledger.reservations_release_congr (by rfl) (by rfl) _) rfl ?_
      intro st hst
      obtain ⟨cur, -, rfl⟩ := Option.map_eq_some_iff.mp hst
      exact TaskState.isExecuting_next_stop cur (.inl rfl)
  | @release conn req rel r hfind hepoch =>
      refine hl.move rfl ?_ (fun u st hst hexec => ⟨st, hst, hexec⟩) fun t b hb hlive => ⟨b, hb, hlive, rfl⟩
      intro rid r' hr'
      show ∃ r'', (s₀.reservations.tryRelease rel.reservationId)[rid]? = some r'' ∧ _
      rw [ReservationRegistry.getElem?_tryRelease, hr']
      split_ifs with hid
      · exact ⟨_, rfl, rfl, rfl, fun _ => .inr (hid ▸ hR _ _ rfl rfl)⟩
      · exact ⟨r', rfl, rfl, rfl, .inl⟩
  | @submit client conn req sub g time hdeps hadd =>
      have hnew := hwf.coherent.states_none (TaskGraph.addTask_ok hadd).1
      refine hl.moveStates rfl rfl (fun _ => rfl) ?_
      intro u st hst hexec
      have hrow := congrArg TaskView.state (s₀.toLedger.view_submitTask u hadd time)
      rw [show ((s₀.toLedger.submitTask g sub.task time).view u).state = some st from hst] at hrow
      split_ifs at hrow with htu
      · obtain rfl := Option.some.inj hrow
        unfold Ledger.initialState at hexec
        split_ifs at hexec <;> cases hexec
      · exact ⟨st, hrow.symm, hexec⟩
  | refuse hadd =>
      obtain ⟨-, hstates, -⟩ := TaskGraph.addTask_error hwf.coherent hadd
      refine hl.moveStates rfl rfl (fun _ => rfl) ?_
      intro u st hst hexec
      exact ⟨st, by rwa [hstates] at hst, hexec⟩
  | touchAttempts =>
      exact hl.moveStates rfl rfl (fun u => Ledger.attemptsOf_touchAttempts _ _ u)
        fun u st hst hexec => ⟨st, hst, hexec⟩
  | @cancelTask client conn req t st hstate hterminal hrunning hlegal =>
      refine hl.endAttempt (fun u => s₀.toLedger.view_cancelTask t u)
        (Ledger.reservations_release_congr (by rfl) (by rfl) _) rfl ?_
      intro st hst
      obtain ⟨cur, -, rfl⟩ := Option.map_eq_some_iff.mp hst
      exact TaskState.isExecuting_next_stop cur (.inr rfl)
  | @loseNode l n tasks hlost hattempts hgraph htasks hall =>
      refine Ledger.SlotsHeld.foldl_loseTask tasks (hl.dropNode hwf ?_)
      intro t ht hknown
      rw [Ledger.affectedBy_congr hattempts] at ht
      exact hall t ht (by rwa [TaskGraph.find, ← hgraph])
  | @timeout l t time hstale hattempts hstate =>
      refine hl.endAttempt (fun u => l.view_timeoutDispatch t u time) rfl rfl ?_
      intro st hst
      obtain ⟨cur, hcur, rfl⟩ := Option.map_eq_some_iff.mp hst
      rw [show l.graph.states[t]? = some cur from hcur] at hstate
      cases hstate
      rfl
  | requeue hstate =>
      exact hl.moveStates rfl rfl (fun _ => rfl) fun u st hst hexec =>
        Ledger.exec_setState (by decide) hst hexec
  | @expire l t st hstate hst =>
      refine hl.endAttempt (fun u => l.view_expireTask t u) rfl rfl ?_
      intro st' hst'
      obtain ⟨cur, hcur, rfl⟩ := Option.map_eq_some_iff.mp hst'
      rw [show l.graph.states[t]? = some cur from hcur] at hstate
      cases hstate
      rcases hst with rfl | rfl | rfl <;> rfl
  | expireReady hstate =>
      exact hl.moveStates rfl rfl (fun _ => rfl) fun u st hst hexec =>
        Ledger.exec_setState (by decide) hst hexec
  | @dispatch l t task nodeId node executor slots device time time' resv a hstate htask hnode hconnected
      hgrant hresv ha =>
      have hid : node.id = nodeId := hwf.nodes nodeId node hnode
      refine hl.dispatch hstate ?_ (by rw [hresv]; rfl) (by rw [hresv]; rfl) (by rw [ha]; rfl) (by rw [ha]; rfl)
        (by rw [ha, hresv, ← hid]; rfl)
      -- the id of the new reservation was not drawn before
      cases hr : l.reservations[resv.id]? with
      | none => rfl
      | some r =>
          refine ((hkeys _ r hr).not_drew le_rfl hfresh ⟨l.drawn, le_rfl, ?_, by rw [hresv]; rfl⟩).elim
          show l.drawn < l.drawn + 1 + 1
          omega
  | _ => exact ⟨hl.entries, hl.held⟩

omit [DoubleArith D] in
/-- Recovery leaves no task executing. -/
theorem Started.slotsHeld {w : World D} {d : DurableState D} {s : Coordinator D} (h : Started w d s) :
    s.toLedger.SlotsHeld R [] where
  entries t rid ht := by
    rw [h.taskReservation] at ht
    simp at ht
  held t st hst hexec := by
    rw [h.states] at hst
    obtain ⟨task, -, rfl⟩ := Option.map_eq_some_iff.mp hst
    unfold recoveredState at hexec
    split_ifs at hexec with hactive
    · cases hexec
    · cases hexec
    · revert hexec hactive
      cases d.taskStates[t]?.getD .submitted <;> simp [TaskState.isExecuting, TaskState.isActive]

/-- Executing tasks hold their slots, as long as no id was drawn twice. -/
theorem run_slotsHeld {events : List (Event D)} {s : Coordinator D} (hrun : run env events = some s)
    (hfresh : Set.InjOn env.random (Set.Iio s.drawn))
    (hcond : RunMeets env (fun s e => s.keepsSlots e = true) events)
    (hR : ∀ c rid, .command c ∈ events → c.reservationId? = some rid → R rid) : s.toLedger.SlotsHeld R [] := by
  let I : Coordinator D → Prop := fun s =>
    s.Drawn env ∧ (Set.InjOn env.random (Set.Iio s.drawn) → s.toLedger.SlotsHeld R [])
  refine (run_invariant (I := I) (fun s hs => ⟨boot_drawn hs, fun _ => (boot_spec hs).slotsHeld⟩) ?_
    hcond.and_mem hrun).2.2 hfresh
  rintro s e s' hsound hI ⟨hc, hmem⟩ he
  refine step_invariant (I := I) ?_ (fun _ hs => ⟨.of_started hs hI.1.le hI.1.file, fun _ => hs.slotsHeld⟩)
    hsound hI he
  rintro x x' hx ⟨hdrawn, hheld⟩ hcore
  refine ⟨.coreStep (fun _ _ _ _ h => h) hcore hx hdrawn, ?_⟩
  rcases hcore.ledger with hledger | hact
  · rw [hledger]
    exact hheld
  · intro hfresh'
    refine hact.slotsHeld hx.wellFormed hc ?_ hdrawn.reservations hfresh'
      (hheld (hfresh'.mono (Set.Iio_subset_Iio hact.drawn_le)))
    rintro c rid rfl
    exact hR c rid hmem

/-- **Executing tasks hold their slots.** In a run that never ends an attempt of a `Dispatching` task, the
    entry of every task in `Dispatching` or `Running` names a reservation of the task that is in use, unless
    the node asked for the reservation of an attempt of the task that is still outstanding to be released. -/
theorem executing_tasks_hold_slots {events : List (Event D)} {s : Coordinator D}
    (hrun : run env events = some s) (hfresh : Set.InjOn env.random (Set.Iio s.drawn))
    (hcond : RunMeets env (fun s e => s.keepsSlots e = true) events) (t : ComputeTaskId)
    (hexec : s.graph.state t = .dispatching ∨ s.graph.state t = .running)
    (hoffered : ∀ a ∈ s.attemptsOf t, a.isLive = true → ∀ (conn : ConnId) (req : UInt64)
      (rel : ReservationRelease), .command (.reservationRelease conn req rel) ∈ events →
      rel.reservationId ≠ a.reservationId) :
    ∃ (rid : ReservationId) (r : Reservation), s.taskReservation[t]? = some rid ∧
      s.reservations[rid]? = some r ∧ r.taskId = t ∧ r.released = false := by
  have hinv := run_slotsHeld (R := fun rid => ∃ c, .command c ∈ events ∧ c.reservationId? = some rid) hrun
    hfresh hcond fun c rid hmem hid => ⟨c, hmem, hid⟩
  obtain ⟨st, hst, hst'⟩ : ∃ st, s.graph.states[t]? = some st ∧ st.isExecuting = true := by
    rcases hexec with h | h <;> exact ⟨_, (Ledger.state_eq_iff (by decide)).mp h, rfl⟩
  obtain ⟨rid, r, a, ht, hr, hreleased, ha, hlive, hrid, -⟩ := (hinv.held t st hst hst').resolve_right (by simp)
  obtain ⟨r', hr', htask⟩ := hinv.entries t rid ht
  obtain rfl : r = r' := Option.some.inj (hr.symm.trans hr')
  refine ⟨rid, r, ht, hr, htask, ?_⟩
  by_contra hrel
  obtain ⟨c, hmem, hid⟩ := hreleased (by simpa using hrel)
  cases c with
  | reservationRelease conn req rel =>
      exact hoffered a ha hlive conn req rel hmem ((Option.some.inj hid).trans hrid.symm)
  | _ => cases hid

end Transitions

/-- A task that has just been sent to its node. -/
theorem executing_tasks_hold_slots_dispatched :
    ∃ s : Coordinator ℚ, run (Demo.env 3000 100) [Demo.register 1, Demo.submit 1, .sweep] = some s ∧
      s.graph.state Demo.taskId = .dispatching ∧
      ∃ (rid : ReservationId) (r : Reservation), s.taskReservation[Demo.taskId]? = some rid ∧
        s.reservations[rid]? = some r ∧ r.taskId = Demo.taskId ∧ r.released = false := by
  have hfacts : ((run (Demo.env 3000 100) [Demo.register 1, Demo.submit 1, .sweep]).map fun s =>
      (s.drawn, s.graph.state Demo.taskId)) = some (3, .dispatching) := by
    decide +kernel
  obtain ⟨s, hs, hvals⟩ := Option.map_eq_some_iff.mp hfacts
  obtain ⟨hdrawn, hstate⟩ := Prod.mk.inj hvals
  refine ⟨s, hs, hstate, executing_tasks_hold_slots hs ?_ (by decide +kernel) Demo.taskId (.inl hstate) ?_⟩
  · rw [hdrawn]
    exact Demo.injOn_random _ _ (by decide)
  · intro a _ _ conn req rel hmem
    simp [Demo.register, Demo.submit] at hmem

/-- A failure report that overtakes the start report frees the slots of a task that stays `Dispatching`. -/
theorem early_failure_frees_slots :
    ((run (Demo.env 3000 100) [Demo.register 1, Demo.submit 3, .sweep, Demo.failed 2]).map fun s =>
      (s.graph.state Demo.taskId, s.taskReservation[Demo.taskId]?,
        s.reservations[Demo.id 1]?.map fun r => r.released)) =
    some (.dispatching, none, some true) := by
  decide +kernel

end ComputeFabric
