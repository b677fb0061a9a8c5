import ComputeFabric.Coordinator.Cascade
import ComputeFabric.Coordinator.Records
import ComputeFabric.Safety.Authority

/-!
# `Safety.Finished` — messages for attempts that have ended

The four attempt messages are looked up by the id of the attempt, and the record found may have ended already.
Each of the four handlers checks something else before it writes: the epoch, the commit flag, the state.
`finished_immutable_iff` says for every state and every such message when all records of ended attempts stay as
they are: the record found has not ended, the handler refuses the message, or what it writes is what the record
says. No other event of a process writes to a record, so that ended records stay through any run of such messages.
Otherwise the record is overwritten, and an attempt that failed can be started again (`finished_overwritten`).
-/

namespace ComputeFabric

open Coordinator
open ExecutionAttempt (markStarted markCommitted markFailed markCancelled)

variable {D : Type}

/-! ## The statement -/

namespace ExecutionAttempt

def isFinished (a : ExecutionAttempt D) : Bool :=
  a.state = .succeeded || a.state = .failed || a.state = .cancelled

/-- The record says that the attempt ended like this. -/
def EndedBy (st : AttemptState) (kind : FailureKind) (reason : Text) (time : Int64) (a : ExecutionAttempt D) : Prop :=
  a.state = st ∧ a.failureKind = kind ∧ a.failureReason = reason ∧ a.completedAtMs = time

end ExecutionAttempt

/-- No field of a record of an ended attempt changed. -/
def Ledger.KeepsFinished (l l' : Ledger D) : Prop :=
  ∀ (t : ComputeTaskId) (i : Nat) (a : ExecutionAttempt D), (l.attemptsOf t)[i]? = some a → a.isFinished = true →
    (l'.attemptsOf t)[i]? = some a

/-- The message, read at `time`, is refused for the ended attempt `a` or writes nothing new. -/
def Coordinator.Refuses (s : Coordinator D) (time : Int64) (a : ExecutionAttempt D) : Command D → Prop
  | .attemptStarted _ => a.coordinatorEpoch ≠ s.durable.epoch
  | .attemptComplete _ _ _ =>
      a.committed = true ∨ s.isCancelRequested a.taskId = false ∨
        a.EndedBy .cancelled .cancelled (text "cancelled") time
  | .attemptFailed _ _ fa =>
      a.coordinatorEpoch ≠ s.durable.epoch ∨ a.state = .succeeded ∨ a.committed = true ∨
        a.EndedBy .failed (.ofUInt8 fa.failureKind) fa.failureReason time
  | .attemptCancelled ca =>
      a.coordinatorEpoch ≠ s.durable.epoch ∨ a.EndedBy .cancelled .cancelled ca.reason time
  | _ => True

/-- An event of one process in which no message writes to a record of an ended attempt. -/
def Coordinator.Spares (env : Env) (s : Coordinator D) : Event D → Prop
  | .command c => ∀ id p a, c.attemptId? = some id → s.findActiveAttempt id = some (p, a) → a.isFinished = true →
      s.Refuses (s.now env) a c
  | e => e.isLocal = true

/-! ## Rewrites -/

section Rewrites

variable {l l' : Ledger D} {p : AttemptPtr} {a : ExecutionAttempt D} {f : ExecutionAttempt D → ExecutionAttempt D}

theorem Ledger.KeepsFinished.of_attempts (h : l'.attempts = l.attempts) : l.KeepsFinished l' := by
  intro t i a ha _
  show (l'.attempts[t]?.getD [])[i]? = some a
  rw [h]
  exact ha

/-- A rewrite of the record at `p` keeps the ended records exactly if it does nothing to one that has ended. -/
theorem Ledger.keepsFinished_rewrite_iff (ha : (l.attemptsOf p.task)[p.index]? = some a)
    (hl' : l'.attempts = (l.updateAttempt p f).attempts) :
    l.KeepsFinished l' ↔ (a.isFinished = true → f a = a) := by
  have hlist : ∀ u, l'.attemptsOf u = if p.task = u then (l.attemptsOf u).modify p.index f else l.attemptsOf u := by
    intro u
    show l'.attempts[u]?.getD [] = _
    rw [hl']
    exact l.attemptsOf_updateAttempt u p f
  constructor
  · intro hkeeps hfinished
    have hsame := hkeeps p.task p.index a ha hfinished
    rw [hlist, if_pos rfl, List.getElem?_modify, ha] at hsame
    simpa using hsame
  · intro hf t i b hb hfinished
    rw [hlist]
    split_ifs with ht
    · subst ht
      rw [List.getElem?_modify, hb]
      by_cases hi : p.index = i
      · subst hi
        obtain rfl := Option.some.inj (ha.symm.trans hb)
        simp [hf hfinished]
      · simp [hi]
    · exact hb

theorem ExecutionAttempt.markFailed_eq_iff {kind : FailureKind} {reason : Text} {time : Int64} :
    markFailed kind reason time a = a ↔ a.EndedBy .failed kind reason time := by
  cases a
  simp only [markFailed, EndedBy, mk.injEq]
  tauto

theorem ExecutionAttempt.markCancelled_eq_iff {reason : Text} {time : Int64} :
    markCancelled reason time a = a ↔ a.EndedBy .cancelled .cancelled reason time := by
  cases a
  simp only [markCancelled, EndedBy, mk.injEq]
  tauto

theorem ExecutionAttempt.markStarted_ne (st : AttemptStarted) (h : a.isFinished = true) : markStarted st a ≠ a := by
  intro hsame
  have hstate : a.state = .started := (congrArg ExecutionAttempt.state hsame).symm
  simp [isFinished, hstate] at h

/-- An attempt that has ended is not active. -/
theorem ExecutionAttempt.isOutstanding_of_finished (h : a.isFinished = true) : a.isOutstanding = false := by
  unfold isFinished at h
  unfold isOutstanding
  cases hst : a.state <;> simp [hst] at h ⊢

end Rewrites

/-! ## The four handlers -/

section Messages

variable {env : Env} {s : Coordinator D} {p : AttemptPtr} {a : ExecutionAttempt D}

theorem attemptStarted_finished_iff (st : AttemptStarted) (hfind : s.findActiveAttempt st.attemptId = some (p, a)) :
    s.KeepsFinished (s.handleAttemptStarted env st).toLedger ↔
      (a.isFinished = true → a.coordinatorEpoch ≠ s.durable.epoch) := by
  unfold handleAttemptStarted
  rw [hfind]
  dsimp only
  by_cases hepoch : a.coordinatorEpoch = s.durable.epoch
  · rw [if_neg (not_not.mpr hepoch), persist_toLedger]
    refine (Ledger.keepsFinished_rewrite_iff (Ledger.findActiveAttempt_eq_some hfind).1
      (f := markStarted st) rfl).trans ?_
    refine imp_congr_right fun hfinished => iff_of_false ?_ (not_not.mpr hepoch)
    exact ExecutionAttempt.markStarted_ne st hfinished
  · rw [if_pos hepoch]
    exact iff_of_true (.of_attempts rfl) fun _ => hepoch

theorem attemptCancelled_finished_iff (ca : AttemptCancelled) (hfind : s.findActiveAttempt ca.attemptId = some (p, a)) :
    s.KeepsFinished (s.handleAttemptCancelled env ca).toLedger ↔
      (a.isFinished = true → s.Refuses (s.now env) a (.attemptCancelled ca)) := by
  unfold handleAttemptCancelled
  rw [hfind]
  dsimp only
  by_cases hepoch : a.coordinatorEpoch = s.durable.epoch
  · rw [if_neg (not_not.mpr hepoch), persist_toLedger]
    refine (Ledger.keepsFinished_rewrite_iff (Ledger.findActiveAttempt_eq_some hfind).1
      (f := markCancelled ca.reason (s.now env)) (Ledger.releaseTaskReservation_attempts _ _)).trans ?_
    refine imp_congr_right fun _ => ?_
    rw [ExecutionAttempt.markCancelled_eq_iff]
    simp [Refuses, hepoch]
  · rw [if_pos hepoch]
    exact iff_of_true (.of_attempts rfl) fun _ => .inl hepoch

theorem attemptFailed_finished_iff (conn : ConnId) (req : UInt64) (fa : AttemptFailed D)
    (hfind : s.findActiveAttempt fa.attemptId = some (p, a)) :
    s.KeepsFinished (s.handleAttemptFailed env conn req fa).toLedger ↔
      (a.isFinished = true → s.Refuses (s.now env) a (.attemptFailed conn req fa)) := by
  unfold handleAttemptFailed
  dsimp only
  rw [hfind]
  dsimp only
  by_cases hepoch : a.coordinatorEpoch = s.durable.epoch
  · by_cases hdone : a.state = .succeeded ∨ a.committed = true
    · rw [if_neg (not_not.mpr hepoch), if_pos hdone]
      exact iff_of_true (.of_attempts rfl) fun _ => .inr (or_assoc.mp (.inl hdone))
    · rw [if_neg (not_not.mpr hepoch), if_neg hdone, persist_toLedger, queueOutbound_toLedger]
      generalize s.tick.retryAfter env a (.ofUInt8 fa.failureKind) = retryAt
      have hattempts :
          (s.toLedger.failAttempt p a (.ofUInt8 fa.failureKind) fa.failureReason (s.now env) retryAt).attempts =
            (s.toLedger.updateAttempt p
              (markFailed (.ofUInt8 fa.failureKind) fa.failureReason (s.now env))).attempts := by
        unfold Ledger.failAttempt
        dsimp only
        split_ifs <;> simp
      refine (Ledger.keepsFinished_rewrite_iff (Ledger.findActiveAttempt_eq_some hfind).1 hattempts).trans ?_
      refine imp_congr_right fun _ => ?_
      rw [ExecutionAttempt.markFailed_eq_iff]
      rw [not_or] at hdone
      simp [Refuses, hepoch, hdone]
  · rw [if_pos hepoch]
    exact iff_of_true (.of_attempts rfl) fun _ => .inl hepoch

variable [DoubleArith D]

theorem attemptComplete_finished_iff (conn : ConnId) (req : UInt64) (co : AttemptComplete D)
    (hfind : s.findActiveAttempt co.attemptId = some (p, a)) :
    s.KeepsFinished (s.handleAttemptComplete env conn req co).toLedger ↔
      (a.isFinished = true → s.Refuses (s.now env) a (.attemptComplete conn req co)) := by
  unfold handleAttemptComplete
  simp only [hfind]
  by_cases hc : a.committed = true
  · rw [if_pos hc, queueOutbound_toLedger]
    exact iff_of_true (.of_attempts rfl) fun _ => .inl hc
  rw [if_neg hc]
  by_cases hcancel : s.isCancelRequested a.taskId = true
  · rw [if_pos hcancel, queueOutbound_toLedger, persist_toLedger]
    have hattempts : (s.toLedger.abandonAttempt p a (s.now env)).attempts =
        (s.toLedger.updateAttempt p (markCancelled (text "cancelled") (s.now env))).attempts :=
      Ledger.releaseTaskReservation_attempts _ _
    refine (Ledger.keepsFinished_rewrite_iff (Ledger.findActiveAttempt_eq_some hfind).1 hattempts).trans ?_
    refine imp_congr_right fun _ => ?_
    rw [ExecutionAttempt.markCancelled_eq_iff]
    simp [Refuses, hc, hcancel]
  rw [if_neg hcancel]
  refine iff_of_true ?_ fun _ => .inr (.inl (by simpa using hcancel))
  cases hvalid : s.completionError a co with
  | some reason =>
      dsimp only
      rw [queueOutbound_toLedger]
      exact .of_attempts rfl
  | none =>
      -- a commit writes to an active attempt only, and the cascade to none
      dsimp only
      rw [persist_toLedger]
      refine (Ledger.keepsFinished_rewrite_iff (Ledger.findActiveAttempt_eq_some hfind).1
        (f := markCommitted co (s.now env)) ?_).mpr fun hfinished => ?_
      · refine (onTaskSucceededRecursive_cascaded env _ _ _).attempts.trans ?_
        have hcommit := commitAndReply_toLedger env conn req co p a s
        refine (congrArg Ledger.attempts hcommit).trans ?_
        exact Ledger.releaseTaskReservation_attempts _ _
      · have hidle := ExecutionAttempt.isOutstanding_of_finished hfinished
        cases hidle.symm.trans (isOutstanding_of_valid hvalid)

/-- One message. -/
theorem process_keepsFinished_iff (s : Coordinator D) (c : Command D) (hc : c.attemptId?.isSome = true) :
    s.KeepsFinished (s.process env c).toLedger ↔ s.Spares env (.command c) := by
  obtain ⟨id, hid⟩ := Option.isSome_iff_exists.mp hc
  cases hfind : s.findActiveAttempt id with
  | none =>
      refine iff_of_true (.of_attempts ?_) ?_
      · cases c with
        | attemptStarted st =>
            obtain rfl := Option.some.inj hid
            show (s.handleAttemptStarted env st).attempts = _
            simp [handleAttemptStarted, hfind]
        | attemptComplete conn req co =>
            obtain rfl := Option.some.inj hid
            show (s.handleAttemptComplete env conn req co).attempts = _
            simp [handleAttemptComplete, hfind]
        | attemptFailed conn req fa =>
            obtain rfl := Option.some.inj hid
            show (s.handleAttemptFailed env conn req fa).attempts = _
            simp [handleAttemptFailed, hfind]
        | attemptCancelled ca =>
            obtain rfl := Option.some.inj hid
            show (s.handleAttemptCancelled env ca).attempts = _
            simp [handleAttemptCancelled, hfind]
        | _ => cases hid
      · intro id' p a hid' hfound
        obtain rfl := Option.some.inj (hid.symm.trans hid')
        cases hfind.symm.trans hfound
  | some found =>
      obtain ⟨p, a⟩ := found
      have hone : s.Spares env (.command c) ↔ (a.isFinished = true → s.Refuses (s.now env) a c) := by
        refine ⟨fun h => h id p a hid hfind, fun h id' p' a' hid' hfound => ?_⟩
        obtain rfl := Option.some.inj (hid.symm.trans hid')
        obtain ⟨rfl, rfl⟩ := Prod.mk.inj (Option.some.inj (hfind.symm.trans hfound))
        exact h
      rw [hone]
      cases c with
      | attemptStarted st =>
          obtain rfl := Option.some.inj hid
          exact attemptStarted_finished_iff st hfind
      | attemptComplete conn req co =>
          obtain rfl := Option.some.inj hid
          exact attemptComplete_finished_iff conn req co hfind
      | attemptFailed conn req fa =>
          obtain rfl := Option.some.inj hid
          exact attemptFailed_finished_iff conn req fa hfind
      | attemptCancelled ca =>
          obtain rfl := Option.some.inj hid
          exact attemptCancelled_finished_iff ca hfind
      | _ => cases hid

end Messages

/-! ## Runs -/

/-- Only messages about attempts write to a record. -/
theorem TaskStep.attempt_kept {env : Env} {s₀ : Coordinator D} {t : ComputeTaskId} {e : Event D} {v v' : TaskView D}
    (h : TaskStep env s₀ t e v v') (he : ∀ c, e = .command c → c.attemptId? = none) {i : Nat} {a : ExecutionAttempt D}
    (hi : v.attempts[i]? = some a) : v'.attempts[i]? = some a := by
  cases h with
  | start => cases he _ rfl
  | commit => cases he _ rfl
  | abandon => cases he _ rfl
  | fail => cases he _ rfl
  | cancelAttempt => cases he _ rfl
  | dispatch => exact (List.getElem?_append_left (List.getElem?_eq_some_iff.mp hi).1).trans hi
  | _ => exact hi

section Runs

variable [DoubleArith D] {env : Env} {s s' : Coordinator D}

theorem step_keepsFinished {e : Event D} (hsound : s.Sound) (hspares : s.Spares env e) (h : step env s e = some s') :
    s.KeepsFinished s'.toLedger := by
  by_cases hmessage : ∃ c, e = .command c ∧ c.attemptId?.isSome = true
  · obtain ⟨c, rfl, hc⟩ := hmessage
    obtain rfl : s.process env c = s' := Option.some.inj h
    exact (process_keepsFinished_iff s c hc).mpr hspares
  · intro t i a ha _
    have hlocal : e.isLocal = true := by
      cases e with
      | command c => rfl
      | _ => exact hspares
    have hother : ∀ c, e = .command c → c.attemptId? = none :=
      fun c hc => Option.not_isSome_iff_eq_none.mp fun hid => hmessage ⟨c, hc, hid⟩
    exact CoreSteps.view_invariant (J := fun v => v.attempts[i]? = some a) t
      (fun _ _ hv hstep => hstep.attempt_kept hother hv) hsound.wellFormed (step_steps hlocal h) ha

theorem runFrom_keepsFinished {later : List (Event D)} (hsound : s.Sound)
    (hspares : Lts.Along (step env) (fun x e => x.Spares env e) s later) (h : runFrom env s later = some s') :
    s.KeepsFinished s'.toLedger := by
  refine (Lts.run_invariant (I := fun x : Coordinator D => x.Sound ∧ s.KeepsFinished x.toLedger) ?_
    ⟨hsound, .of_attempts rfl⟩ hspares h).2
  rintro x e x' ⟨hx, hkeeps⟩ hc hstep
  exact ⟨step_sound hx hstep, fun t i a ha hfinished =>
    step_keepsFinished hx hc hstep t i a (hkeeps t i a ha hfinished) hfinished⟩

/-- **When ended attempts are immutable.** In every state, a message about an attempt leaves every record of an
    ended attempt as it is, exactly when the record it finds has not ended, the handler refuses the message, or it
    writes what the record says already. Through any run of one process from a reachable state in which every such
    message does so, the records of ended attempts stay as they are. -/
theorem finished_immutable_iff (env : Env) :
    (∀ (s : Coordinator D) (c : Command D), c.attemptId?.isSome = true →
      (s.KeepsFinished (s.process env c).toLedger ↔
        ∀ id p a, c.attemptId? = some id → s.findActiveAttempt id = some (p, a) → a.isFinished = true →
          s.Refuses (s.now env) a c)) ∧
    ∀ (events later : List (Event D)) (s s' : Coordinator D), run env events = some s →
      runFrom env s later = some s' → Lts.Along (step env) (fun x e => x.Spares env e) s later →
      s.KeepsFinished s'.toLedger :=
  ⟨process_keepsFinished_iff, fun _ _ _ _ hrun hlater hspares => runFrom_keepsFinished (run_sound hrun) hspares hlater⟩

end Runs

/-- The first attempt has failed. -/
def Demo.afterFailure : List (Event ℚ) := [Demo.register 1, Demo.submit 3, .sweep, Demo.started 2, Demo.failed 2]

def Demo.completion : Command ℚ :=
  .attemptComplete 1 0 { attemptId := Demo.id 2, reservationId := Demo.id 1, durationMs := 0, cpuMillis := 0 }

/-- A completion report that comes after the failure is refused, and the record stays through the next sweep. -/
theorem finished_immutable_completion :
    ∃ s s', run (Demo.env 100000 8) Demo.afterFailure = some s ∧
      s.KeepsFinished (s.process (Demo.env 100000 8) Demo.completion).toLedger ∧
      runFrom (Demo.env 100000 8) s [.command Demo.completion, .sweep] = some s' ∧ s.KeepsFinished s'.toLedger := by
  have hfacts : ((run (Demo.env 100000 8) Demo.afterFailure).map fun s =>
      (s.findActiveAttempt (Demo.id 2)).map fun found => (found.2.isFinished, s.isCancelRequested found.2.taskId)) =
      some (some (true, false)) := by
    decide +kernel
  obtain ⟨s, hs, hfound⟩ := Option.map_eq_some_iff.mp hfacts
  have hspares : s.Spares (Demo.env 100000 8) (.command Demo.completion) := by
    intro id p a hid hfind _
    obtain rfl : Demo.id 2 = id := Option.some.inj hid
    rw [hfind, Option.map_some, Option.some.injEq, Prod.mk.injEq] at hfound
    exact .inr (.inl hfound.2)
  obtain ⟨hmessage, hrun⟩ := finished_immutable_iff (D := ℚ) (Demo.env 100000 8)
  exact ⟨s, _, hs, (hmessage s Demo.completion rfl).mpr hspares, rfl,
    hrun _ [.command Demo.completion, .sweep] s _ hs rfl ⟨hspares, rfl, trivial⟩⟩

/-- **An attempt that failed is started again** by a duplicate of the message that it was started. -/
theorem finished_overwritten :
    ((run (Demo.env 100000 8) Demo.afterFailure).map fun s =>
      ((s.attemptsOf Demo.taskId).map fun a => a.state,
        ((s.process (Demo.env 100000 8) (.attemptStarted { attemptId := Demo.id 2 })).attemptsOf Demo.taskId).map
          fun a => a.state)) = some ([.failed], [.started]) := by
  decide +kernel

end ComputeFabric
