import ComputeFabric.Coordinator.Invariants

/-!
# `Safety.Authority` — one attempt at a time

An attempt is live while it is handed out and uncommitted. A task should have at most one live attempt, the
last one in its list, and hold that attempt's reservation.

The attempt record, the task state and the reservation entry are written in different places, and several
paths write only some of them: a dispatch timeout, a node loss and a cancellation take the task away from an
attempt and leave its record live; a late report of an old attempt releases the reservation of the current
one; `AttemptStarted` revives a record that had ended. `keepsAuthority` names exactly these events, by what
the state says before them, and `single_authority` shows that there is no other way to break the property.
-/

namespace ComputeFabric

open Coordinator
open ExecutionAttempt (markStarted markCommitted markFailed markCancelled)

variable {D : Type}

/-! ## The condition -/

/-- The task has a live attempt. -/
def Ledger.hasLive (l : Ledger D) (t : ComputeTaskId) : Bool :=
  (l.attemptsOf t).any fun a => a.isLive

/-- The task of this attempt has another attempt that is live. -/
def Ledger.otherLive (l : Ledger D) (p : AttemptPtr) : Bool :=
  (l.attemptsOf p.task).zipIdx.any fun x => x.1.isLive && x.2 != p.index

/-- No live attempt loses its task or its reservation, and no attempt that has ended becomes live. -/
def Coordinator.keepsAuthority (env : Env) (s : Coordinator D) : Event D → Bool
  | .command (.attemptStarted st) =>
      match s.findActiveAttempt st.attemptId with
      | none => true
      | some (_, a) => a.coordinatorEpoch ≠ s.durable.epoch || a.isLive || a.committed
  | .command (.attemptComplete _ _ co) =>
      match s.findActiveAttempt co.attemptId with
      | none => true
      | some (p, a) => a.committed || !s.isCancelRequested a.taskId || !s.otherLive p
  | .command (.attemptFailed _ _ fa) =>
      match s.findActiveAttempt fa.attemptId with
      | none => true
      | some (p, a) =>
          a.coordinatorEpoch ≠ s.durable.epoch || a.state = .succeeded || a.committed || !s.otherLive p
  | .command (.attemptCancelled ca) =>
      match s.findActiveAttempt ca.attemptId with
      | none => true
      | some (p, a) => a.coordinatorEpoch ≠ s.durable.epoch || !s.otherLive p
  | .command (.taskCancel _ _ _ t) =>
      let st := s.graph.state t
      st.isTerminal || st = .running || !st.isLegal .cancelled || !s.hasLive t
  | .sweep =>
      (s.lostNodes env (s.now env)).all (fun n => (s.affectedBy n).isEmpty) &&
      (s.staleDispatches (s.now env)).all fun t => !s.hasLive t
  | _ => true

/-! ## The invariant of one task -/

namespace TaskView

/-- No attempt is live. -/
def Idle (v : TaskView D) : Prop := ∀ a ∈ v.attempts, a.isLive = false

/-- A live attempt is the last one, its reservation is held, and the task is executing. -/
def SoleAuthority (v : TaskView D) : Prop :=
  ∀ (i : Nat) (a : ExecutionAttempt D), v.attempts[i]? = some a → a.isLive = true →
    i + 1 = v.attempts.length ∧ v.resv = some a.reservationId ∧
      ∃ st, v.state = some st ∧ st.isExecuting = true

variable {v v' : TaskView D}

theorem Idle.soleAuthority (h : v.Idle) : v.SoleAuthority := by
  intro i a ha hlive
  rw [h a (List.mem_of_getElem? ha)] at hlive
  cases hlive

theorem SoleAuthority.idle (h : v.SoleAuthority) (hstate : ∀ st, v.state = some st → st.isExecuting = false) :
    v.Idle := by
  intro a ha
  obtain ⟨i, hi⟩ := List.mem_iff_getElem?.mp ha
  by_contra hlive
  obtain ⟨-, -, st, hst, hexec⟩ := h i a hi (by simpa using hlive)
  rw [hstate st hst] at hexec
  cases hexec

/-- Two live attempts are the same one. -/
theorem SoleAuthority.index_eq (h : v.SoleAuthority) {i j : Nat} {a b : ExecutionAttempt D}
    (ha : v.attempts[i]? = some a) (hb : v.attempts[j]? = some b) (hla : a.isLive = true)
    (hlb : b.isLive = true) : j = i := by
  have hi := (h i a ha hla).1
  have hj := (h j b hb hlb).1
  omega

/-- Ending the only live attempt leaves the task idle. -/
theorem idle_rewrite {i : Nat} {f : ExecutionAttempt D → ExecutionAttempt D}
    (hf : ∀ a, (f a).isLive = false)
    (hothers : ∀ (j : Nat) (b : ExecutionAttempt D), v.attempts[j]? = some b → b.isLive = true → j = i) :
    (v.rewrite i f).Idle := by
  intro b hb
  obtain ⟨j, hj⟩ := List.mem_iff_getElem?.mp hb
  rw [rewrite_attempts, List.getElem?_modify] at hj
  obtain ⟨a, ha, rfl⟩ := Option.map_eq_some_iff.mp hj
  split_ifs with hij
  · exact hf a
  · by_contra hlive
    exact hij (hothers j a ha (by simpa using hlive)).symm

end TaskView

theorem Ledger.index_eq_of_otherLive {l : Ledger D} {p : AttemptPtr} (h : l.otherLive p = false) {j : Nat}
    {b : ExecutionAttempt D} (hb : (l.attemptsOf p.task)[j]? = some b) (hlive : b.isLive = true) :
    j = p.index := by
  by_contra hne
  rw [Ledger.otherLive, List.any_eq_false] at h
  have hmem : (b, j) ∈ (l.attemptsOf p.task).zipIdx := by
    rw [List.mem_zipIdx_iff_getElem?]
    exact hb
  exact h (b, j) hmem (by simp [hlive, hne])

/-- An attempt whose completion passes validation is outstanding. -/
theorem Coordinator.isOutstanding_of_valid {s : Coordinator D} {a : ExecutionAttempt D}
    {co : AttemptComplete D} (h : s.completionError a co = none) : a.isOutstanding = true := by
  unfold completionError at h
  split_ifs at h with hepoch hout
  simpa using hout

/-- The start report of a live attempt keeps it the only one. -/
theorem TaskView.SoleAuthority.start {v : TaskView D} (h : v.SoleAuthority) {i : Nat}
    {a : ExecutionAttempt D} (ha : v.attempts[i]? = some a) (hcond : a.isLive = true ∨ a.committed = true)
    (st : AttemptStarted) : ((v.rewrite i (markStarted st)).move .running).SoleAuthority := by
  intro j b hb hlive
  simp only [move_attempts, rewrite_attempts, List.getElem?_modify] at hb
  obtain ⟨b₀, hb₀, rfl⟩ := Option.map_eq_some_iff.mp hb
  -- the record was live before: a committed one does not become live
  have hlive₀ : b₀.isLive = true := by
    split_ifs at hlive with hij
    · subst hij
      rw [ha] at hb₀
      cases hb₀
      rcases hcond with hcond | hcond
      · exact hcond
      · simp [markStarted, ExecutionAttempt.isLive, hcond] at hlive
    · exact hlive
  obtain ⟨hlast, hresv, cur, hcur, hexec⟩ := h j b₀ hb₀ hlive₀
  refine ⟨by simpa using hlast, ?_, cur.next .running, by simp [hcur], ?_⟩
  · split_ifs <;> exact hresv
  · cases cur <;> first | rfl | cases hexec

section Steps

variable {env : Env} {s : Coordinator D} {t : ComputeTaskId} {e : Event D} {v v' : TaskView D}

theorem Ledger.idle_view {l : Ledger D} (h : l.hasLive t = false) : (l.view t).Idle := by
  intro a ha
  simpa using List.any_eq_false.mp h a ha

/-- Reports that end an attempt, when no other attempt of the task is live. -/
theorem Ledger.idle_rewrite_view {l : Ledger D} {i : Nat} {f : ExecutionAttempt D → ExecutionAttempt D}
    (h : l.otherLive ⟨t, i⟩ = false) (hf : ∀ a, (f a).isLive = false) : ((l.view t).rewrite i f).Idle :=
  TaskView.idle_rewrite hf fun _ _ hb hlive => Ledger.index_eq_of_otherLive h hb hlive

theorem TaskStep.soleAuthority [DoubleArith D] (hstep : TaskStep env s t e v v')
    (hcond : s.keepsAuthority env e = true)
    (h : v.SoleAuthority) : v'.SoleAuthority := by
  cases hstep with
  | submit hid hnew =>
      have hidle : v.Idle := h.idle (by simp [hnew])
      exact TaskView.Idle.soleAuthority hidle
  | start hfind htask hepoch =>
      refine h.start (Ledger.findActiveAttempt_eq_some hfind).1 ?_ _
      simpa [keepsAuthority, hfind, hepoch] using hcond
  | @commit conn req co i a time hfind htask hcommitted hcancel hvalid =>
      have ha := (Ledger.findActiveAttempt_eq_some hfind).1
      have hlive : a.isLive = true := by
        simp [ExecutionAttempt.isLive, hcommitted, isOutstanding_of_valid hvalid]
      have hidle : ((s.view t).rewrite i (markCommitted co time)).Idle :=
        TaskView.idle_rewrite (isLive_markCommitted co time) fun _ _ hb hlb => h.index_eq ha hb hlive hlb
      exact TaskView.Idle.soleAuthority hidle
  | @abandon conn req co i a time hfind htask hcommitted hcancel =>
      have hother : s.otherLive ⟨t, i⟩ = false := by
        simpa [keepsAuthority, hfind, htask, hcommitted, hcancel] using hcond
      have hidle := Ledger.idle_rewrite_view hother (isLive_markCancelled (text "cancelled") time)
      exact TaskView.Idle.soleAuthority hidle
  | unblock hstate =>
      have hidle : v.Idle := h.idle (by simp [hstate, TaskState.isExecuting])
      exact TaskView.Idle.soleAuthority hidle
  | @fail conn req fa i a time retryAt hfind htask hepoch hstate hcommitted hretry =>
      have hother : s.otherLive ⟨t, i⟩ = false := by
        simpa [keepsAuthority, hfind, hepoch, hstate, hcommitted] using hcond
      have hidle := Ledger.idle_rewrite_view hother
        (isLive_markFailed (.ofUInt8 fa.failureKind) fa.failureReason time)
      dsimp only
      split_ifs <;> exact TaskView.Idle.soleAuthority hidle
  | @cancelAttempt ca i a time hfind htask hepoch =>
      have hother : s.otherLive ⟨t, i⟩ = false := by
        simpa [keepsAuthority, hfind, hepoch] using hcond
      have hidle := Ledger.idle_rewrite_view hother (isLive_markCancelled ca.reason time)
      exact TaskView.Idle.soleAuthority hidle
  | requestCancel hstate => exact h
  | cancelTask hstate hterminal hrunning hlegal =>
      have hst := Ledger.state_of_view hstate
      have hnone : s.hasLive t = false := by
        simpa [keepsAuthority, hst, hterminal, hrunning, hlegal] using hcond
      exact TaskView.Idle.soleAuthority (Ledger.idle_view hnone)
  | @lose v n task retryAt hlost haffected hattempts htask hretry =>
      have hnone : (s.affectedBy n).isEmpty = true := by
        simp only [keepsAuthority, Bool.and_eq_true, List.all_eq_true] at hcond
        exact hcond.1 n hlost
      rw [List.isEmpty_iff.mp hnone] at haffected
      cases haffected
  | timeout hstale hattempts hstate =>
      have hnone : s.hasLive t = false := by
        simp only [keepsAuthority, Bool.and_eq_true, List.all_eq_true] at hcond
        simpa using hcond.2 t (stale_of_lossPhase hstale)
      have hidle : v.Idle := by
        intro a ha
        rw [hattempts] at ha
        exact Ledger.idle_view hnone a ha
      exact TaskView.Idle.soleAuthority hidle
  | requeue hstate =>
      have hidle : v.Idle := h.idle (by simp [hstate, TaskState.isExecuting])
      exact TaskView.Idle.soleAuthority hidle
  | expire hstate hst =>
      have hidle : v.Idle := h.idle (by
        rcases hst with rfl | rfl | rfl <;> simp [hstate, TaskState.isExecuting])
      exact TaskView.Idle.soleAuthority hidle
  | expireReady hstate =>
      have hidle : v.Idle := h.idle (by simp [hstate, TaskState.isExecuting])
      exact TaskView.Idle.soleAuthority hidle
  | @dispatch v a hstate hlive hcommitted =>
      have hidle : v.Idle := h.idle (by simp [hstate, TaskState.isExecuting])
      intro i b hb hlb
      rw [List.getElem?_append] at hb
      split_ifs at hb with hi
      · rw [hidle b (List.mem_of_getElem? hb)] at hlb
        cases hlb
      · obtain rfl : b = a := List.mem_singleton.mp (List.mem_of_getElem? hb)
        have hidx : i - v.attempts.length < 1 := (List.getElem?_eq_some_iff.mp hb).1
        refine ⟨?_, rfl, .dispatching, rfl, rfl⟩
        simp only [List.length_append, List.length_singleton]
        omega

end Steps

theorem TaskView.SoleAuthority.unknown : (TaskView.unknown : TaskView D).SoleAuthority := by
  intro i a ha hlive
  simp [TaskView.unknown] at ha

/-- After a restart every attempt a task has is a committed one. -/
theorem TaskView.idle_restored (v : TaskView D) (retry : Bool) (n : Nat) : (v.restored retry n).Idle := by
  intro a ha
  have hcommitted : a.committed = true := List.of_mem_filter ha
  simp [ExecutionAttempt.isLive, hcommitted]

/-- If only the last element can satisfy `p`, at most one does. -/
theorem countP_le_one_of_last {α : Type} {p : α → Bool} {l : List α}
    (h : ∀ (i : Nat) (a : α), l[i]? = some a → p a = true → i + 1 = l.length) : l.countP p ≤ 1 := by
  rcases List.eq_nil_or_concat l with rfl | ⟨older, b, rfl⟩
  · simp
  · have hzero : older.countP p = 0 := by
      rw [List.countP_eq_zero]
      intro a ha hp
      obtain ⟨i, hi⟩ := List.mem_iff_getElem?.mp ha
      have hlt := (List.getElem?_eq_some_iff.mp hi).1
      have := h i a (by rw [List.concat_eq_append, List.getElem?_append_left hlt, hi]) hp
      simp at this
      omega
    rw [List.concat_eq_append, List.countP_append, hzero]
    simp only [List.countP_singleton]
    split_ifs <;> simp

section Runs

variable [DoubleArith D] {env : Env}

/-- **Single execution authority.** In a run whose every event keeps authority, a task has at most one live
    attempt, and that one is its last and holds its reservation. -/
theorem single_authority {events : List (Event D)} {s : Coordinator D} (hrun : run env events = some s)
    (hcond : RunMeets env (fun s e => s.keepsAuthority env e = true) events) (t : ComputeTaskId) :
    (s.attemptsOf t).countP (fun a => a.isLive) ≤ 1 ∧
      ∀ a ∈ s.attemptsOf t, a.isLive = true →
        (s.attemptsOf t).getLast? = some a ∧ s.taskReservation[t]? = some a.reservationId := by
  have hinv : (s.view t).SoleAuthority :=
    run_view_invariant t .unknown (fun _ _ _ _ _ hc hv hstep => hstep.soleAuthority hc hv)
      (fun retry n v _ => (v.idle_restored retry n).soleAuthority) hcond hrun
  refine ⟨countP_le_one_of_last fun i a ha hlive => (hinv i a ha hlive).1, ?_⟩
  intro a ha hlive
  obtain ⟨i, hi⟩ := List.mem_iff_getElem?.mp ha
  obtain ⟨hlast, hresv, -⟩ := hinv i a hi hlive
  refine ⟨?_, hresv⟩
  have hidx : (s.attemptsOf t).length - 1 = i := by
    have : i + 1 = (s.attemptsOf t).length := hlast
    omega
  rw [List.getLast?_eq_getElem?, hidx, hi]

end Runs

/-- A first attempt that fails and a second one that starts. -/
theorem single_authority_retry :
    ∃ s, run (Demo.env 100000 8) [Demo.register 1, Demo.submit 3, .sweep, Demo.started 2, Demo.failed 2,
        .sweep, Demo.started 4] = some s ∧
      (s.attemptsOf Demo.taskId).countP (fun a => a.isLive) ≤ 1 ∧
      ∀ a ∈ s.attemptsOf Demo.taskId, a.isLive = true →
        (s.attemptsOf Demo.taskId).getLast? = some a ∧
          s.taskReservation[Demo.taskId]? = some a.reservationId := by
  obtain ⟨s, hs⟩ := Option.isSome_iff_exists.mp (show (run (Demo.env 100000 8) [Demo.register 1,
    Demo.submit 3, .sweep, Demo.started 2, Demo.failed 2, .sweep, Demo.started 4]).isSome = true by
      decide +kernel)
  exact ⟨s, hs, single_authority hs (by decide +kernel) Demo.taskId⟩

/-- A dispatch that times out keeps its record live: the next one makes two. -/
theorem timeout_leaves_two_live :
    ((run (Demo.env 100000 6) [Demo.register 1, Demo.submit 1, .sweep, .sweep]).map fun s =>
      (s.attemptsOf Demo.taskId).map fun a => a.isLive) = some [true, true] := by
  decide +kernel

end ComputeFabric
