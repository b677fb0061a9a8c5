import ComputeFabric.Coordinator.Outbox
import ComputeFabric.Coordinator.Records

/-!
# `Coordinator.Dispatches` — what is sent and what is recorded

A dispatch writes an attempt record and puts a `DispatchAttempt` on the node's connection. The two are read by
different processes at different times, so what matters is that they agree for ever: the frame stays in the log
of effects, the record may be saved, lost in a restart, or live on.

`Sent` is this agreement. In every run in which no id is drawn twice, each dispatch frame names an attempt id of
its own, and every record of that attempt — in memory and in the file — is filed under the task the frame
carries, with the frame's reservation and epoch (`run_traced`). `output_origin` is the other half: the output
fields of a record are written by a commit and by nothing else.
-/

namespace ComputeFabric

open Coordinator
open ExecutionAttempt (markStarted markCommitted markFailed markCancelled)

variable {D : Type}

/-! ## Dispatch frames -/

def Message.dispatch? : Message D → Option (DispatchAttempt D)
  | .dispatchAttempt msg => some msg
  | _ => none

/-- The dispatches among the frames, with their connections. -/
def dispatchesIn (frames : List (ConnId × UInt64 × Message D)) : List (ConnId × DispatchAttempt D) :=
  frames.filterMap fun f => f.2.2.dispatch?.map fun msg => (f.1, msg)

theorem dispatchesIn_append (xs ys : List (ConnId × UInt64 × Message D)) :
    dispatchesIn (xs ++ ys) = dispatchesIn xs ++ dispatchesIn ys := List.filterMap_append

theorem mem_dispatchesIn {frames : List (ConnId × UInt64 × Message D)} {conn : ConnId} {msg : DispatchAttempt D} :
    (conn, msg) ∈ dispatchesIn frames ↔ ∃ req, (conn, req, .dispatchAttempt msg) ∈ frames := by
  unfold dispatchesIn
  rw [List.mem_filterMap]
  constructor
  · rintro ⟨⟨c, req, m⟩, hmem, hf⟩
    obtain ⟨msg', hm, heq⟩ := Option.map_eq_some_iff.mp hf
    cases m with
    | dispatchAttempt da =>
        cases hm
        cases heq
        exact ⟨req, hmem⟩
    | _ => cases hm
  · rintro ⟨req, hmem⟩
    exact ⟨_, hmem, rfl⟩

/-- Replies, cancellations and requests to exit are no dispatches. -/
theorem Answered.dispatchesIn {c : Command D} {frames : List (ConnId × UInt64 × Message D)} (h : Answered c frames) :
    dispatchesIn frames = [] := by
  rw [ComputeFabric.dispatchesIn, List.filterMap_eq_nil_iff]
  rintro ⟨conn, req, m⟩ hmem
  cases m with
  | dispatchAttempt msg =>
      have horder := (h.orders _ hmem rfl).2
      cases c <;> cases horder
  | _ => rfl

/-! ## Outputs -/

/-- The two records are of one attempt and agree on its result. -/
structure ExecutionAttempt.SameResult (a b : ExecutionAttempt D) : Prop where
  key : a.key = b.key
  committed : a.committed = b.committed
  outputSize : a.outputSize = b.outputSize
  outputIntegrity : a.outputIntegrity = b.outputIntegrity
  bytesTransferred : a.bytesTransferred = b.bytesTransferred

section Output

variable {env : Env} {s₀ : Coordinator D} {e : Event D} {l l' : Ledger D} {t : ComputeTaskId}

theorem ExecutionAttempt.SameResult.refl (a : ExecutionAttempt D) : a.SameResult a := ⟨rfl, rfl, rfl, rfl, rfl⟩

/-- A rewrite that leaves the result alone. -/
theorem sameResult_of_rewrite {p : AttemptPtr} {f : ExecutionAttempt D → ExecutionAttempt D} {v : TaskView D}
    (hview : l'.view t = if p.task = t then v else l.view t)
    (hv : v.attempts = (l.attemptsOf t).modify p.index f) (hf : ∀ b, (f b).SameResult b)
    {a : ExecutionAttempt D} (ha : a ∈ l'.attemptsOf t) : ∃ b ∈ l.attemptsOf t, a.SameResult b := by
  rcases mem_of_rewrite hview hv ha with hold | ⟨b, hb, rfl, rfl⟩
  · exact ⟨a, hold, .refl a⟩
  · exact ⟨b, List.mem_of_getElem? hb, hf b⟩

variable [DoubleArith D]

/-- **Only a commit writes a result.** -/
theorem LedgerStep.output_origin (h : LedgerStep env s₀ e l l') (hwf : l.WellFormed)
    {a : ExecutionAttempt D} (ha : a ∈ l'.attemptsOf t) :
    (∃ b ∈ l.attemptsOf t, a.SameResult b) ∨ a.committed = false ∨
      ∃ conn req co time b, e = .command (.attemptComplete conn req co) ∧ b ∈ l.attemptsOf t ∧
        b.id = co.attemptId ∧ a = markCommitted co time b := by
  have hsame : l'.attemptsOf t = l.attemptsOf t → ∃ b ∈ l.attemptsOf t, a.SameResult b :=
    fun heq => ⟨a, heq ▸ ha, .refl a⟩
  cases h with
  | start hfind hepoch =>
      exact .inl (sameResult_of_rewrite (Ledger.view_startAttempt _ t (hwf.taskId_eq hfind) _) rfl
        (fun _ => ⟨rfl, rfl, rfl, rfl, rfl⟩) ha)
  | @commit conn req co p b time hfind hcommitted hcancel hvalid =>
      rcases mem_of_rewrite (f := markCommitted co time)
        (Ledger.view_commitAttempt _ t (hwf.taskId_eq hfind) _ _) rfl ha with hold | ⟨b', hb', rfl, rfl⟩
      · exact .inl ⟨a, hold, .refl a⟩
      · obtain ⟨hat, hid⟩ := Ledger.findActiveAttempt_eq_some hfind
        rw [hat] at hb'
        cases hb'
        exact .inr (.inr ⟨conn, req, co, time, b, rfl, List.mem_of_getElem? hat, hid, rfl⟩)
  | @abandon conn req co p b time hfind hcommitted hcancel =>
      exact .inl (sameResult_of_rewrite (f := markCancelled (text "cancelled") time)
        (Ledger.view_abandonAttempt _ t (hwf.taskId_eq hfind) _) rfl (fun _ => ⟨rfl, rfl, rfl, rfl, rfl⟩) ha)
  | @fail conn req fa p b time retryAt hfind hepoch hstate hcommitted hretry =>
      refine .inl (sameResult_of_rewrite (f := markFailed (.ofUInt8 fa.failureKind) fa.failureReason time)
        (Ledger.view_failAttempt _ t (hwf.taskId_eq hfind) _ _ _ _) ?_ (fun _ => ⟨rfl, rfl, rfl, rfl, rfl⟩) ha)
      dsimp only
      split_ifs <;> rfl
  | @cancelAttempt ca p b time hfind hepoch =>
      exact .inl (sameResult_of_rewrite (f := markCancelled ca.reason time)
        (Ledger.view_cancelAttempt _ t (hwf.taskId_eq hfind) _ _) rfl (fun _ => ⟨rfl, rfl, rfl, rfl, rfl⟩) ha)
  | @dispatch l u task nodeId node executor slots device time time' resv b hstate htask hnode hconnected
      hgrant hresv hb =>
      have hattempts : (l.dispatch u resv b).attemptsOf t =
          if u = t then l.attemptsOf t ++ [b] else l.attemptsOf t := by
        have hview := congrArg TaskView.attempts (l.view_dispatch u t hstate resv (a := b))
        split_ifs at hview ⊢ <;> exact hview
      rw [hattempts] at ha
      split_ifs at ha with hu
      · rcases List.mem_append.mp ha with hold | hnew
        · exact .inl ⟨a, hold, .refl a⟩
        · rw [List.mem_singleton.mp hnew, hb]
          exact .inr (.inl rfl)
      · exact .inl ⟨a, ha, .refl a⟩
  | touchAttempts => exact .inl (hsame (Ledger.attemptsOf_touchAttempts _ _ _))
  | @loseNode l n tasks hlost hattempts hgraph htasks hall =>
      refine .inl (hsame ?_)
      refine Ledger.foldl_loseTask_induction (P := fun x => x.attemptsOf t = l.attemptsOf t)
        (l.dropNode n) tasks rfl ?_
      intro l₁ u r hl₁
      rw [← hl₁, Ledger.attemptsOf, Ledger.loseTask_attempts]
      rfl
  | _ =>
      refine .inl (hsame ?_)
      simp [Ledger.attemptsOf, Ledger.registerNode, Ledger.updateNode, Ledger.unblockTask,
        Ledger.releaseReservation, Ledger.submitTask, Ledger.requestCancel, Ledger.cancelTask,
        Ledger.timeoutDispatch, Ledger.requeueTask, Ledger.expireTask, Ledger.setState]

end Output

/-! ## Frames and records agree -/

/-- Every record of an attempt that was sent is filed under the task that was sent, and has the reservation and
    the epoch that were sent. -/
def RecordsMatch (msgs : List (ConnId × DispatchAttempt D)) (tasks : IdMap (ComputeTask D))
    (list : ComputeTaskId → List (ExecutionAttempt D)) : Prop :=
  ∀ t, ∀ a ∈ list t, ∀ x ∈ msgs, x.2.attemptId = a.id → tasks[t]? = some x.2.task ∧ x.2.task.id = t ∧
    x.2.reservationId = a.reservationId ∧ x.2.coordinatorEpoch = a.coordinatorEpoch

/-- The frames sent so far and the books agree. -/
structure Coordinator.Sent (env : Env) (msgs : List (ConnId × DispatchAttempt D)) (s : Coordinator D) : Prop where
  drawn : ∀ x ∈ msgs, env.Drew 0 s.drawn x.2.attemptId
  nodup : (msgs.map fun x => x.2.attemptId).Nodup
  records : RecordsMatch msgs s.graph.tasks s.attemptsOf
  file : RecordsMatch msgs (s.file.getD {}).tasks fun t => (s.file.getD {}).attempts[t]?.getD []

namespace Coordinator.Sent

variable {env : Env} {msgs : List (ConnId × DispatchAttempt D)} {s₀ s s' : Coordinator D} {e : Event D}

theorem of_started {w : World D} {d : DurableState D} (h : Started w d s)
    (hdrawn : ∀ x ∈ msgs, env.Drew 0 w.drawn x.2.attemptId)
    (hnodup : (msgs.map fun x => x.2.attemptId).Nodup)
    (hd : RecordsMatch msgs d.tasks fun t => d.attempts[t]?.getD []) : s.Sent env msgs := by
  have hrecords : RecordsMatch msgs s.graph.tasks s.attemptsOf := by
    intro t a ha x hx hid
    rw [Ledger.attemptsOf, h.attempts] at ha
    obtain ⟨htask, hrest⟩ := hd t a ha x hx hid
    exact ⟨(h.tasks t).trans htask, hrest⟩
  refine ⟨by rw [h.drawn]; exact hdrawn, hnodup, hrecords, ?_⟩
  rcases h.file with hfile | hfile
  · rw [hfile]
    exact hd
  · rw [hfile]
    intro t a ha
    dsimp only [Option.getD_some] at ha
    rw [getD_attempts_snapshot] at ha
    exact hrecords t a (List.mem_of_mem_filter ha)

variable [DoubleArith D]

/-- A core step keeps the agreement with the frames there were before it: a new attempt has a new id. -/
theorem coreStep (hstep : CoreStep env s₀ e s s') (hsound : s.Sound)
    (h : Set.InjOn env.random (Set.Iio s.drawn) → s.Sent env msgs)
    (hfresh : Set.InjOn env.random (Set.Iio s'.drawn)) : s'.Sent env msgs := by
  obtain ⟨hdrawn, hnodup, hrecords, hfile⟩ := hstep.books_invariant
    (R := fun l d => Set.InjOn env.random (Set.Iio l.drawn) →
      (∀ x ∈ msgs, env.Drew 0 l.drawn x.2.attemptId) ∧ (msgs.map fun x => x.2.attemptId).Nodup ∧
        RecordsMatch msgs l.graph.tasks l.attemptsOf ∧
        RecordsMatch msgs d.tasks fun t => d.attempts[t]?.getD [])
    (fun d hd hact hfresh' => by
      obtain ⟨hdrawn, hnodup, hrecords, hfile⟩ := hd (hfresh'.mono (Set.Iio_subset_Iio hact.drawn_le))
      refine ⟨fun x hx => (hdrawn x hx).mono hact.drawn_le, hnodup, ?_, hfile⟩
      intro t a ha x hx hid
      rcases hact.attempt_origin hsound.wellFormed ha with ⟨b, hb, hkey, -⟩ | ⟨hnew, -, -, hnext⟩
      · obtain ⟨htask, htid, hresv, hepoch⟩ :=
          hrecords t b hb x hx (hid.trans (congrArg AttemptKey.id hkey))
        exact ⟨hact.tasks_mono hsound.wellFormed.coherent htask, htid,
          hresv.trans (congrArg AttemptKey.reservationId hkey).symm,
          hepoch.trans (congrArg AttemptKey.coordinatorEpoch hkey).symm⟩
      · exact ((hdrawn x hx).not_drew (Nat.le_succ _) hfresh' ⟨_, le_rfl, by omega, hid.trans hnew⟩).elim)
    (fun hd hfresh' => by
      obtain ⟨hdrawn, hnodup, hrecords, -⟩ := hd hfresh'
      refine ⟨hdrawn, hnodup, hrecords, fun t a ha => ?_⟩
      dsimp only at ha
      rw [getD_attempts_snapshot] at ha
      exact hrecords t a (List.mem_of_mem_filter ha))
    (fun hf => ⟨(h hf).drawn, (h hf).nodup, (h hf).records, (h hf).file⟩) hfresh
  exact ⟨hdrawn, hnodup, hrecords, hfile⟩

end Coordinator.Sent

section Runs

variable [DoubleArith D] {env : Env}

/-- What is kept about ids and frames, all of it as long as no id is drawn twice. -/
structure Coordinator.Traced (env : Env) (msgs : List (ConnId × DispatchAttempt D)) (s : Coordinator D) : Prop where
  sound : s.Sound
  drawn : s.Drawn env
  distinct : s.Distinct env
  sent : Set.InjOn env.random (Set.Iio s.drawn) → s.Sent env msgs

theorem Coordinator.Traced.coreStep {msgs : List (ConnId × DispatchAttempt D)} {s₀ s s' : Coordinator D}
    {e : Event D} (h : s.Traced env msgs) (hstep : CoreStep env s₀ e s s') : s'.Traced env msgs where
  sound := hstep.sound h.sound
  drawn := .coreStep (fun _ _ _ _ h => h) hstep h.sound h.drawn
  distinct := .coreStep hstep h.sound h.drawn h.distinct
  sent := fun hfresh => .coreStep hstep h.sound h.sent hfresh

theorem Coordinator.Traced.coreSteps {msgs : List (ConnId × DispatchAttempt D)} {s₀ s s' : Coordinator D}
    {e : Event D} (h : s.Traced env msgs) (hsteps : CoreSteps env s₀ e s s') : s'.Traced env msgs :=
  Lts.steps_invariant (fun _ _ hx hstep => hx.coreStep hstep) h hsteps

omit [DoubleArith D] in
/-- A dispatch that is recorded and sent. -/
theorem Coordinator.Traced.dispatch {msgs : List (ConnId × DispatchAttempt D)} {s s' : Coordinator D}
    (hs : s.Traced env msgs) (hs' : s'.Traced env msgs) {t : ComputeTaskId} {task : ComputeTask D}
    {resv : Reservation} {a : ExecutionAttempt D} (hready : s.graph.states[t]? = some .ready)
    (htask : s.graph.find t = some task) (hledger : s'.toLedger = s.toLedger.dispatch t resv a)
    (hid : a.id = env.random (s.drawn + 1)) (hcommitted : a.committed = false)
    (hfile : s'.file = s.file ∨ ∃ z : Coordinator D, z.toLedger = s'.toLedger ∧ s'.file = some z.snapshot)
    (conn : ConnId) : s'.Traced env (msgs ++ [(conn, dispatchMessage task a)]) := by
  refine ⟨hs'.sound, hs'.drawn, hs'.distinct, fun hfresh => ?_⟩
  have hdrawn : s'.drawn = s.drawn + 2 := by
    rw [hledger]
    rfl
  have hattempts : ∀ u, s'.attemptsOf u = if t = u then s.attemptsOf u ++ [a] else s.attemptsOf u := by
    intro u
    rw [hledger]
    have hview := congrArg TaskView.attempts (s.toLedger.view_dispatch t u hready resv (a := a))
    split_ifs at hview ⊢ <;> exact hview
  have hfresh₀ : Set.InjOn env.random (Set.Iio s.drawn) := hfresh.mono (Set.Iio_subset_Iio (by omega))
  have hold := hs.sent hfresh₀
  have hnow := hs'.sent hfresh
  obtain ⟨hdistinct, -⟩ := hs'.distinct hfresh
  -- The id is newer than everything there was before the dispatch.
  have hnew : ∀ {id : Id128}, env.Drew 0 s.drawn id → id ≠ a.id := by
    intro id hdrew heq
    exact hdrew.not_drew (Nat.le_succ _) hfresh ⟨_, le_rfl, by omega, heq.trans hid⟩
  -- So the record that was just written is the only one of its id, and it is not committed.
  have hself : a ∈ s'.attemptsOf t := by
    rw [hattempts, if_pos rfl]
    exact List.mem_append_right _ List.mem_cons_self
  have honly : ∀ u, ∀ b ∈ s'.attemptsOf u, b.id = a.id → t = u ∧ b = a := by
    intro u b hb heq
    refine ⟨hdistinct.task_eq hself hb heq.symm, ?_⟩
    rw [hattempts] at hb
    split_ifs at hb with hu
    · rcases List.mem_append.mp hb with hb | hb
      · exact absurd heq (hnew (hs.drawn.attempt hb))
      · exact List.mem_singleton.mp hb
    · exact absurd heq (hnew (hs.drawn.attempt hb))
  have htasks : s'.graph.tasks[t]? = some task := by
    have hstep : s'.graph.tasks = s.graph.tasks := by
      rw [hledger]
      simp [Ledger.dispatch, Ledger.setState, Ledger.pushAttempt, Ledger.holdReservation, Ledger.addReservation]
    rw [hstep]
    exact htask
  refine ⟨?_, ?_, ?_, ?_⟩
  · intro x hx
    rcases List.mem_append.mp hx with hx | hx
    · exact hnow.drawn x hx
    · rw [List.mem_singleton.mp hx]
      exact ⟨s.drawn + 1, Nat.zero_le _, by omega, hid⟩
  · rw [List.map_append, List.nodup_append]
    refine ⟨hold.nodup, List.nodup_singleton _, ?_⟩
    intro id hmem id' hmem' heq
    obtain ⟨x, hx, rfl⟩ := List.mem_map.mp hmem
    rw [List.mem_singleton.mp hmem'] at heq
    exact hnew (hold.drawn x hx) heq
  · intro u b hb x hx heq
    rcases List.mem_append.mp hx with hx | hx
    · exact hnow.records u b hb x hx heq
    · rw [List.mem_singleton.mp hx] at heq ⊢
      obtain ⟨rfl, rfl⟩ := honly u b hb heq.symm
      exact ⟨htasks, hs'.sound.wellFormed.coherent.id_eq htasks, rfl, rfl⟩
  · intro u b hb x hx heq
    rcases List.mem_append.mp hx with hx | hx
    · exact hnow.file u b hb x hx heq
    · rw [List.mem_singleton.mp hx] at heq
      rcases hfile with hsame | ⟨z, hz, hsnap⟩
      · rw [hsame] at hb
        exact absurd heq.symm (hnew ((hs.drawn.file u b hb).resolve_left id))
      · rw [hsnap] at hb
        dsimp only [Option.getD_some] at hb
        rw [getD_attempts_snapshot, hz] at hb
        obtain ⟨-, rfl⟩ := honly u b (List.mem_of_mem_filter hb) heq.symm
        have hyes := List.of_mem_filter hb
        rw [hcommitted] at hyes
        cases hyes

theorem placeTask_traced {s : Coordinator D} (hs : s.Traced env (dispatchesIn s.outbox)) {t : ComputeTaskId}
    {task : ComputeTask D} {s₀ : Coordinator D} (hepoch : s.durable.epoch = s₀.durable.epoch)
    (hready : s.graph.states[t]? = some .ready) (htask : s.graph.find t = some task) :
    (s.placeTask env t task).Traced env (dispatchesIn (s.placeTask env t task).outbox) := by
  have hs' := hs.coreSteps (placeTask_steps hepoch hready htask)
  rcases placeTask_outbox env task hready with ⟨-, hsame⟩ |
    ⟨resv, a, hledger, -, hid, hcommitted, hfile, hsame | ⟨conn, -, hnew⟩⟩
  · rw [hsame]
    exact hs'
  · rw [hsame]
    exact hs'
  · rw [hnew, dispatchesIn_append]
    exact hs.dispatch hs' hready htask hledger hid hcommitted hfile conn

theorem scheduleTask_traced {s₀ s : Coordinator D} (hs : s.Traced env (dispatchesIn s.outbox))
    (hepoch : s.durable.epoch = s₀.durable.epoch) (t : ComputeTaskId) :
    (scheduleTask env s t).Traced env (dispatchesIn (scheduleTask env s t).outbox) := by
  have hall := hs.coreSteps (scheduleTask_steps hepoch t)
  rcases scheduleTask_cases env s t with
    heq | ⟨task, -, htask, hready, ⟨-, -, heq⟩ | ⟨-, -, heq⟩ | ⟨-, heq⟩⟩ <;> rw [heq] at hall ⊢
  · exact hs
  · rw [outbox_persist]
    exact hall
  · have htick : CoreStep env s₀ .sweep s s.tick := .of_same rfl rfl rfl rfl
    exact placeTask_traced (s := s.tick) (hs.coreStep htick) hepoch hready htask
  · exact placeTask_traced hs hepoch hready htask

theorem sweep_traced {s : Coordinator D} (hs : s.Traced env (dispatchesIn s.outbox)) :
    (s.sweep env).Traced env (dispatchesIn (s.sweep env).outbox) := by
  have htimers : CoreSteps env s .sweep s (s.timersDone env) := timersDone_steps
  have hbefore : (s.timersDone env).Traced env (dispatchesIn (s.timersDone env).outbox) := by
    rw [timersDone_outbox]
    exact hs.coreSteps htimers
  rw [sweep_eq, scheduleReadyTasks]
  refine (List.foldlRecOn (motive := fun x : Coordinator D => x.durable.epoch = s.durable.epoch ∧
    x.Traced env (dispatchesIn x.outbox)) _ _ ⟨htimers.epoch_eq, hbefore⟩ ?_).2
  rintro x ⟨hepoch, hx⟩ t -
  have hsteps : CoreSteps env s .sweep x (scheduleTask env x t) := scheduleTask_steps hepoch t
  exact ⟨hsteps.epoch_eq.trans hepoch, scheduleTask_traced hx hepoch t⟩

/-- **One event keeps the agreement** of frames and records. -/
theorem step_traced {s s' : Coordinator D} {e : Event D} (hs : s.Traced env (dispatchesIn s.outbox))
    (h : step env s e = some s') : s'.Traced env (dispatchesIn s'.outbox) := by
  cases e with
  | command c =>
      obtain rfl : s.process env c = s' := Option.some.inj h
      obtain ⟨frames, hframes, hanswered⟩ := process_answered env c s
      rw [hframes, dispatchesIn_append, hanswered.dispatchesIn, List.append_nil]
      exact hs.coreSteps (process_steps c)
  | sweep =>
      obtain rfl : s.sweep env = s' := Option.some.inj h
      exact sweep_traced hs
  | connectionStopped conn =>
      obtain rfl : s.stopConnection conn = s' := Option.some.inj h
      have hstep : CoreStep env s (.connectionStopped conn) s (s.stopConnection conn) := stopConnection_step s conn
      exact hs.coreStep hstep
  | stopRequested =>
      obtain rfl : s.requestStop = s' := Option.some.inj h
      have hstep : CoreStep env s .stopRequested s s.requestStop := requestStop_step s
      exact hs.coreStep hstep
  | restart =>
      have hstarted := step_restart hs.sound h
      have houtbox : s'.outbox = s.outbox := start_outbox (start_of_restart h)
      rw [houtbox]
      refine ⟨step_sound hs.sound h, .of_started hstarted hs.drawn.le hs.drawn.file,
        .of_started hstarted fun hf => (hs.distinct hf).2, fun hfresh => ?_⟩
      have hsent := hs.sent (by rw [hstarted.drawn] at hfresh; exact hfresh)
      exact .of_started hstarted hsent.drawn hsent.nodup hsent.file

theorem boot_traced {s : Coordinator D} (h : boot env = some s) : s.Traced env (dispatchesIn s.outbox) := by
  have hempty : s.outbox = [] := start_outbox (start_of_boot h)
  have hstarted := boot_spec h
  rw [hempty]
  refine ⟨hstarted.sound .empty, boot_drawn h, .of_started hstarted fun _ => .of_index (by simp), fun _ => ?_⟩
  exact .of_started hstarted (by simp [dispatchesIn]) List.nodup_nil (by intro t a ha; simp at ha)

theorem run_traced {events : List (Event D)} {s : Coordinator D} (hrun : run env events = some s) :
    s.Traced env (dispatchesIn s.outbox) := by
  refine (run_invariant (I := fun s => s.Traced env (dispatchesIn s.outbox)) (C := fun _ _ => True)
    (fun _ hs => boot_traced hs) (fun _ _ _ _ hI _ he => step_traced hI he)
    (.of_forall (fun _ _ => trivial) events) hrun).2

/-- **What is sent is what is recorded.** In every run in which no id is drawn twice, restarts included: no two
    dispatches name the same attempt, and every record of an attempt that was dispatched is filed under the
    very task that was sent, with the reservation and the epoch that were sent. -/
theorem dispatches_match_records {events : List (Event D)} {s : Coordinator D} (hrun : run env events = some s)
    (hfresh : Set.InjOn env.random (Set.Iio s.drawn)) :
    ((dispatchesIn s.outbox).map fun x => x.2.attemptId).Nodup ∧
      ∀ t, ∀ a ∈ s.attemptsOf t, ∀ conn msg, (conn, msg) ∈ dispatchesIn s.outbox → msg.attemptId = a.id →
        s.graph.find t = some msg.task ∧ msg.task.id = t ∧ msg.reservationId = a.reservationId ∧
          msg.coordinatorEpoch = a.coordinatorEpoch := by
  have hsent := (run_traced hrun).sent hfresh
  exact ⟨hsent.nodup, fun t a ha conn msg hmem hid => hsent.records t a ha (conn, msg) hmem hid⟩

end Runs

/-- An attempt that fails is followed by a second one, and the coordinator is restarted in between. -/
theorem dispatches_match_records_retry :
    ∃ s, run (Demo.env 100000 8)
        [Demo.register 1, .command (.clientConnected ⟨0, 9⟩ 2), Demo.submit 2, .sweep, Demo.failed 3, .restart,
          Demo.register 1, .sweep, .sweep] = some s ∧
      (dispatchesIn s.outbox).length = 2 ∧ Set.InjOn (Demo.env 100000 8).random (Set.Iio s.drawn) ∧
      ((dispatchesIn s.outbox).map fun x => x.2.attemptId).Nodup ∧
      ∀ t, ∀ a ∈ s.attemptsOf t, ∀ conn msg, (conn, msg) ∈ dispatchesIn s.outbox → msg.attemptId = a.id →
        s.graph.find t = some msg.task ∧ msg.task.id = t ∧ msg.reservationId = a.reservationId ∧
          msg.coordinatorEpoch = a.coordinatorEpoch := by
  have hfacts : ((run (Demo.env 100000 8)
      [Demo.register 1, .command (.clientConnected ⟨0, 9⟩ 2), Demo.submit 2, .sweep, Demo.failed 3, .restart,
        Demo.register 1, .sweep, .sweep]).map fun s =>
          ((dispatchesIn s.outbox).length, decide (s.drawn ≤ 1000))) = some (2, true) := by
    decide +kernel
  obtain ⟨s, hs, hfacts⟩ := Option.map_eq_some_iff.mp hfacts
  obtain ⟨hlen, hle⟩ := Prod.mk.inj hfacts
  have hfresh := Demo.injOn_random 100000 8 (of_decide_eq_true hle)
  obtain ⟨hnodup, hmatch⟩ := dispatches_match_records hs hfresh
  exact ⟨s, hs, hlen, hfresh, hnodup, hmatch⟩

end ComputeFabric
