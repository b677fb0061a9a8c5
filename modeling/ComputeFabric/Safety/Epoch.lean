import ComputeFabric.Coordinator.Records

/-!
# `Safety.Epoch` — fencing across restarts

Every start bumps the coordinator epoch and saves it. After a restart, the attempts and reservations of
earlier incarnations fall into two classes: the committed attempts, which are loaded again and carry an
older epoch, and all the rest, which is gone. A message that names one of them finds nothing, or finds a
record that its handler refuses; either way the ledger stays as it is (`epoch_fencing`).

The epoch is a `uint64_t`. It strictly increases until it wraps, which takes `2 ^ 64 - 2` restarts
(`epoch_wraps`).
-/

namespace ComputeFabric

open Coordinator

variable {D : Type}

/-! ## The statement -/

def Event.isRestart (e : Event D) : Bool := !e.isLocal

/-- A restart saves the epoch it bumps. -/
def Coordinator.bumpSaved (env : Env) (s : Coordinator D) : Event D → Bool
  | .restart => env.saveOk (bumpSave s.world)
  | _ => true

/-- The message names an attempt or a reservation that exists in `l`. -/
def Command.Names (c : Command D) (l : Ledger D) : Prop :=
  (∃ t, ∃ a ∈ l.attemptsOf t, c.attemptId? = some a.id) ∨
    ∃ rid, c.reservationId? = some rid ∧ l.reservations[rid]?.isSome = true

/-! ## Epochs -/

theorem toNat_nextEpoch {epoch : CoordinatorEpoch} (h : epoch.toNat + 1 < 2 ^ 64) :
    (nextEpoch epoch).toNat = epoch.toNat + 1 := by
  unfold nextEpoch
  split_ifs with hzero
  · rw [hzero]
    rfl
  · rw [UInt64.toNat_add, UInt64.toNat_one, Nat.mod_eq_of_lt h]

/-- After `k` restarts: the epoch counts them, the file has it, and no attempt is ahead of it. -/
structure Coordinator.Epochs (s : Coordinator D) (k : Nat) : Prop where
  epoch : s.durable.epoch.toNat = k + 2
  file : (s.file.getD {}).epoch = s.durable.epoch
  attempts : ∀ t, ∀ a ∈ s.attemptsOf t, a.coordinatorEpoch ≤ s.durable.epoch
  saved : ∀ t : ComputeTaskId, ∀ a ∈ (s.file.getD {}).attempts[t]?.getD [],
    a.coordinatorEpoch ≤ s.durable.epoch

theorem Started.epochs {w : World D} {d : DurableState D} {s : Coordinator D} {k : Nat} (h : Started w d s)
    (hfile : s.file = some s.snapshot) (hepoch : d.epoch.toNat = k + 1) (hk : k + 2 < 2 ^ 64)
    (hd : ∀ t : ComputeTaskId, ∀ a ∈ d.attempts[t]?.getD [], a.coordinatorEpoch ≤ d.epoch) : s.Epochs k := by
  have hnext : s.durable.epoch.toNat = k + 2 := by
    rw [h.epoch, toNat_nextEpoch (by omega)]
    omega
  have hattempts : ∀ t, ∀ a ∈ s.attemptsOf t, a.coordinatorEpoch ≤ s.durable.epoch := by
    intro t a ha
    rw [Ledger.attemptsOf, h.attempts] at ha
    have hle := hd t a ha
    rw [UInt64.le_iff_toNat_le] at hle ⊢
    omega
  refine ⟨hnext, ?_, hattempts, ?_⟩
  · rw [hfile]
    rfl
  · intro t a ha
    rw [hfile, Option.getD_some, getD_attempts_snapshot] at ha
    exact hattempts t a (List.mem_of_mem_filter ha)

section Runs

variable [DoubleArith D] {env : Env}

theorem CoreStep.epochs {s₀ s s' : Coordinator D} {e : Event D} {k : Nat} (h : CoreStep env s₀ e s s')
    (hs₀ : s₀.durable.epoch.toNat = k + 2) (hsound : s.Sound) (hs : s.Epochs k) : s'.Epochs k := by
  have hnow : s.durable.epoch = s₀.durable.epoch := UInt64.toNat_inj.mp (hs.epoch.trans hs₀.symm)
  have hepoch := h.epoch_eq
  obtain ⟨hfile, hattempts, hsaved⟩ := h.books_invariant
    (R := fun l d => d.epoch = s.durable.epoch ∧
      (∀ t, ∀ a ∈ l.attemptsOf t, a.coordinatorEpoch ≤ s.durable.epoch) ∧
      ∀ t : ComputeTaskId, ∀ a ∈ d.attempts[t]?.getD [], a.coordinatorEpoch ≤ s.durable.epoch)
    (fun d hd hact => by
      obtain ⟨hfile, hattempts, hsaved⟩ := hd
      refine ⟨hfile, ?_, hsaved⟩
      intro t a ha
      rcases hact.attempt_origin hsound.wellFormed ha with ⟨b, hb, hkey, -⟩ | ⟨-, hnew, -, -⟩
      · rw [show a.coordinatorEpoch = b.coordinatorEpoch from congrArg AttemptKey.coordinatorEpoch hkey]
        exact hattempts t b hb
      · rw [hnew, hnow]
        exact UInt64.le_refl _)
    (fun hd => by
      refine ⟨rfl, hd.2.1, fun t a ha => ?_⟩
      rw [getD_attempts_snapshot] at ha
      exact hd.2.1 t a (List.mem_of_mem_filter ha))
    ⟨hs.file, hs.attempts, hs.saved⟩
  exact ⟨hepoch ▸ hs.epoch, hepoch ▸ hfile, hepoch ▸ hattempts, hepoch ▸ hsaved⟩

/-- One event: a restart bumps the epoch, nothing else changes it. -/
theorem step_epochs {s s' : Coordinator D} {e : Event D} {k : Nat} (hsound : s.Sound)
    (hsaved : s.bumpSaved env e = true) (he : step env s e = some s')
    (hk : (if e.isRestart then k + 1 else k) + 2 < 2 ^ 64) (hs : s.Epochs k) :
    s'.Epochs (if e.isRestart then k + 1 else k) := by
  cases hlocal : e.isLocal with
  | true =>
      rw [if_neg (by simp [Event.isRestart, hlocal])]
      refine step_invariant (I := fun x => x.Epochs k) ?_ ?_ hsound hs he
      · intro x x' hx hI hcore
        exact hcore.epochs hs.epoch hx hI
      · rintro rfl
        cases hlocal
  | false =>
      cases e with
      | restart =>
          refine (step_restart hsound he).epochs (start_saved (start_of_restart he) hsaved) ?_ hk ?_
          · rw [hs.file, hs.epoch]
            rfl
          · rw [hs.file]
            exact hs.saved
      | _ => cases hlocal

theorem boot_epochs {s : Coordinator D} (hboot : boot env = some s)
    (hsave : env.saveOk (bumpSave ({} : World D)) = true) : s.Epochs 0 :=
  (boot_spec hboot).epochs (start_saved (start_of_boot hboot) hsave) rfl (by decide) (by simp)

/-- **The epoch counts the restarts.** -/
theorem runFrom_epochs {s s' : Coordinator D} {events : List (Event D)} {k : Nat}
    (hrun : runFrom env s events = some s') (hsound : s.Sound) (hs : s.Epochs k)
    (hsaved : Lts.Along (step env) (fun s e => s.bumpSaved env e = true) s events)
    (hfew : k + events.countP Event.isRestart + 2 < 2 ^ 64) :
    s'.Sound ∧ s'.Epochs (k + events.countP Event.isRestart) := by
  have h := Lts.run_count_invariant (p := Event.isRestart) (k := k)
    (I := fun k s => s.Sound ∧ (k + 2 < 2 ^ 64 → s.Epochs k)) ?_ ⟨hsound, fun _ => hs⟩ hsaved hrun
  · exact ⟨h.1, h.2 hfew⟩
  · rintro k s e s' ⟨hs, hI⟩ hc he
    refine ⟨step_sound hs he, ?_⟩
    intro hk
    refine step_epochs hs hc he hk (hI ?_)
    split_ifs at hk <;> omega

theorem run_epochs {s : Coordinator D} {events : List (Event D)} (hrun : run env events = some s)
    (hsave : env.saveOk (bumpSave ({} : World D)) = true)
    (hsaved : RunMeets env (fun s e => s.bumpSaved env e = true) events)
    (hfew : events.countP Event.isRestart + 2 < 2 ^ 64) : s.Epochs (events.countP Event.isRestart) := by
  obtain ⟨s₀, hs₀, hrun'⟩ := Option.bind_eq_some_iff.mp hrun
  simp only [RunMeets, hs₀] at hsaved
  have h := (runFrom_epochs hrun' ((boot_spec hs₀).sound .empty) (boot_epochs hs₀ hsave) hsaved
    (by rwa [Nat.zero_add])).2
  rwa [Nat.zero_add] at h

/-! ## The fence -/

/-- The attempts of an earlier epoch that a restart loads. -/
def ExecutionAttempt.Closed (epoch : CoordinatorEpoch) (a : ExecutionAttempt D) : Prop :=
  a.committed = true ∧ a.coordinatorEpoch < epoch

omit [DoubleArith D] in
theorem ExecutionAttempt.closedUnder (epoch : CoordinatorEpoch) :
    ClosedUnder (ExecutionAttempt.Closed (D := D) epoch) := by
  rintro a b hkey hcommitted ⟨hc, hlt⟩
  refine ⟨hcommitted hc, ?_⟩
  rwa [show a.coordinatorEpoch = b.coordinatorEpoch from congrArg AttemptKey.coordinatorEpoch hkey]

/-- A message whose attempt is closed or unknown, and whose reservation is unknown, leaves the ledger
    alone. -/
theorem process_toLedger_of_closed {s : Coordinator D} {c : Command D} {id : Id128}
    (hc : c.attemptId? = some id ∨ c.reservationId? = some id)
    (hattempts : ∀ t, ∀ a ∈ s.attemptsOf t, a.id = id → a.Closed s.durable.epoch)
    (hreservations : s.reservations[id]? = none) : (s.process env c).toLedger = s.toLedger := by
  have hfound : ∀ p a, s.findActiveAttempt id = some (p, a) →
      a.committed = true ∧ a.coordinatorEpoch ≠ s.durable.epoch := by
    intro p a hfind
    obtain ⟨ha, hid⟩ := Ledger.findActiveAttempt_eq_some hfind
    obtain ⟨hcommitted, hlt⟩ := hattempts p.task a (List.mem_of_getElem? ha) hid
    exact ⟨hcommitted, UInt64.ne_of_lt hlt⟩
  cases c with
  | attemptStarted st =>
      obtain rfl : st.attemptId = id := by simpa [Command.attemptId?, Command.reservationId?] using hc
      show (s.handleAttemptStarted env st).toLedger = _
      unfold handleAttemptStarted
      cases hfind : s.findActiveAttempt st.attemptId with
      | none => rfl
      | some hit =>
          dsimp only
          rw [if_pos (hfound hit.1 hit.2 hfind).2]
  | attemptComplete conn req co =>
      obtain rfl : co.attemptId = id := by simpa [Command.attemptId?, Command.reservationId?] using hc
      show (s.handleAttemptComplete env conn req co).toLedger = _
      unfold handleAttemptComplete
      cases hfind : s.findActiveAttempt co.attemptId with
      | none => exact queueOutbound_toLedger env _ _ _ _
      | some hit =>
          dsimp only
          rw [if_pos (hfound hit.1 hit.2 hfind).1, queueOutbound_toLedger]
  | attemptFailed conn req fa =>
      obtain rfl : fa.attemptId = id := by simpa [Command.attemptId?, Command.reservationId?] using hc
      show (s.handleAttemptFailed env conn req fa).toLedger = _
      unfold handleAttemptFailed
      cases hfind : s.findActiveAttempt fa.attemptId with
      | none => exact queueOutbound_toLedger env _ _ _ _
      | some hit =>
          dsimp only
          rw [if_pos (hfound hit.1 hit.2 hfind).2]
  | attemptCancelled ca =>
      obtain rfl : ca.attemptId = id := by simpa [Command.attemptId?, Command.reservationId?] using hc
      show (s.handleAttemptCancelled env ca).toLedger = _
      unfold handleAttemptCancelled
      cases hfind : s.findActiveAttempt ca.attemptId with
      | none => rfl
      | some hit =>
          dsimp only
          rw [if_pos (hfound hit.1 hit.2 hfind).2]
  | reservationRelease conn req rel =>
      obtain rfl : rel.reservationId = id := by simpa [Command.attemptId?, Command.reservationId?] using hc
      show (s.handleReservationRelease env conn req rel).toLedger = _
      unfold handleReservationRelease
      rw [hreservations]
      exact queueOutbound_toLedger env _ _ _ _
  | _ => simp [Command.attemptId?, Command.reservationId?] at hc

theorem runFrom_drawn_le {s s' : Coordinator D} {events : List (Event D)}
    (hrun : runFrom env s events = some s') (hsound : s.Sound) : s.drawn ≤ s'.drawn := by
  refine (Lts.run_invariant (I := fun x => x.Sound ∧ s.drawn ≤ x.drawn) (C := fun _ _ => True) ?_
    ⟨hsound, le_rfl⟩ (.of_forall fun _ _ => trivial) hrun).2
  rintro x e x' ⟨hx, hle⟩ - he
  refine ⟨step_sound hx he, step_invariant (I := fun x => s.drawn ≤ x.drawn) ?_ ?_ hx hle he⟩
  · intro y y' hy hle hcore
    rcases hcore.ledger with hledger | hact
    · exact hledger ▸ hle
    · exact hle.trans hact.drawn_le
  · intro _ hstarted
    exact hstarted.drawn ▸ hle

/-- What a restart loads is closed, and everything else is drawn after it. -/
theorem restart_drawnSince {s s' : Coordinator D} {k : Nat} (hsound : s.Sound) (hs : s.Epochs k)
    (he : step env s .restart = some s') (hlt : s.durable.epoch < s'.durable.epoch) :
    s'.DrawnSince env s.drawn (ExecutionAttempt.Closed s'.durable.epoch) := by
  refine .of_started (step_restart hsound he) le_rfl ?_
  intro t a ha
  exact .inl ⟨hsound.fileOk.committed t a ha, UInt64.lt_of_le_of_lt (hs.saved t a ha) hlt⟩

theorem runFrom_drawnSince {s s' : Coordinator D} {events : List (Event D)} {N : Nat}
    {epoch : CoordinatorEpoch} (hrun : runFrom env s events = some s') (hsound : s.Sound)
    (hs : s.DrawnSince env N (ExecutionAttempt.Closed epoch)) :
    s'.DrawnSince env N (ExecutionAttempt.Closed epoch) := by
  refine (Lts.run_invariant (I := fun x => x.Sound ∧ x.DrawnSince env N (ExecutionAttempt.Closed epoch))
    (C := fun _ _ => True) ?_ ⟨hsound, hs⟩ (.of_forall fun _ _ => trivial) hrun).2
  rintro x e x' ⟨hx, hI⟩ - he
  exact ⟨step_sound hx he, step_drawnSince (ExecutionAttempt.closedUnder epoch) hx hI he⟩

/-- **Epoch fencing.** A restart increases the epoch; and once it has happened, a message that names an
    attempt or a reservation from before it leaves the ledger as it is, whatever happened in between. -/
theorem epoch_fencing {pre mid post : List (Event D)} {s₀ s₁ s₂ s : Coordinator D}
    (hpre : run env pre = some s₀) (hmid : runFrom env s₀ mid = some s₁)
    (hrestart : step env s₁ .restart = some s₂) (hpost : runFrom env s₂ post = some s)
    (hsave : env.saveOk (bumpSave ({} : World D)) = true)
    (hsaved : RunMeets env (fun s e => s.bumpSaved env e = true) (pre ++ mid ++ .restart :: post))
    (hfew : (pre ++ mid ++ .restart :: post).countP Event.isRestart < 2 ^ 64 - 2)
    (hfresh : Set.InjOn env.random (Set.Iio s.drawn)) :
    s₁.durable.epoch < s₂.durable.epoch ∧
      ∀ c : Command D, c.Names s₀.toLedger → (s.process env c).toLedger = s.toLedger := by
  have hrun₁ : run env (pre ++ mid) = some s₁ := run_append.mpr ⟨s₀, hpre, hmid⟩
  have hsound₁ := run_sound hrun₁
  obtain ⟨hsaved₁, hbump, hsaved₂⟩ := (RunMeets.append hrun₁).mp hsaved
  rw [List.countP_append, List.countP_cons_of_pos (by rfl)] at hfew
  simp only [hrestart] at hsaved₂
  have hepochs₁ := run_epochs hrun₁ hsave hsaved₁ (by omega)
  have hepochs₂ : s₂.Epochs ((pre ++ mid).countP Event.isRestart + 1) :=
    step_epochs hsound₁ hbump hrestart (by show _ + 1 + 2 < _; omega) hepochs₁
  have hlt : s₁.durable.epoch < s₂.durable.epoch := by
    rw [UInt64.lt_iff_toNat_lt, hepochs₁.epoch, hepochs₂.epoch]
    omega
  refine ⟨hlt, ?_⟩
  have hsound₂ := step_sound hsound₁ hrestart
  have hdrawn := runFrom_drawnSince hpost hsound₂ (restart_drawnSince hsound₁ hepochs₁ hrestart hlt)
  have hle : s₂.durable.epoch ≤ s.durable.epoch := by
    rw [UInt64.le_iff_toNat_le, hepochs₂.epoch,
      (runFrom_epochs hpost hsound₂ hepochs₂ hsaved₂ (by omega)).2.epoch]
    omega
  intro c hc
  -- the id was drawn before the restart
  obtain ⟨id, hid, hold⟩ : ∃ id, (c.attemptId? = some id ∨ c.reservationId? = some id) ∧
      env.Drew 0 s₁.drawn id := by
    have hdrawn₀ := run_drawn hpre
    have hle₀ := runFrom_drawn_le hmid (run_sound hpre)
    rcases hc with ⟨t, a, ha, hid⟩ | ⟨rid, hid, hsome⟩
    · exact ⟨a.id, .inl hid, (hdrawn₀.attempt ha).mono hle₀⟩
    · obtain ⟨r, hr⟩ := Option.isSome_iff_exists.mp hsome
      exact ⟨rid, .inr hid, (hdrawn₀.reservations rid r hr).mono hle₀⟩
  refine process_toLedger_of_closed hid ?_ ?_
  · intro t a ha haid
    rcases hdrawn.attempts t a ha with ⟨hcommitted, hepoch⟩ | hdrew
    · exact ⟨hcommitted, UInt64.lt_of_lt_of_le hepoch hle⟩
    · exact (hold.not_drew le_rfl hfresh (haid ▸ hdrew)).elim
  · cases hr : s.reservations[id]? with
    | none => rfl
    | some r => exact (hold.not_drew le_rfl hfresh (hdrawn.reservations id r hr)).elim

end Runs

/-- A commit, a restart, and a late failure report of the attempt that committed. -/
theorem epoch_fencing_restarted :
    ∃ s₁ s₂ : Coordinator ℚ,
      run (Demo.env 3000 100) [Demo.register 1, Demo.submit 1, .sweep, Demo.started 2, Demo.complete 2 1] =
        some s₁ ∧
      step (Demo.env 3000 100) s₁ .restart = some s₂ ∧ s₁.durable.epoch < s₂.durable.epoch ∧
      (s₂.process (Demo.env 3000 100) (Demo.failure 2)).toLedger = s₂.toLedger := by
  have hfacts : ((run (Demo.env 3000 100) [Demo.register 1, Demo.submit 1, .sweep, Demo.started 2,
      Demo.complete 2 1]).map fun s =>
        ((s.attemptsOf Demo.taskId).map fun a => a.id,
          (step (Demo.env 3000 100) s .restart).map fun s' => s'.drawn)) = some ([Demo.id 2], some 3) := by
    decide +kernel
  obtain ⟨s₁, hs₁, hvals⟩ := Option.map_eq_some_iff.mp hfacts
  obtain ⟨hids, hstep⟩ := Prod.mk.inj hvals
  obtain ⟨s₂, hs₂, hdrawn⟩ := Option.map_eq_some_iff.mp hstep
  obtain ⟨a, ha, hid⟩ : ∃ a ∈ s₁.attemptsOf Demo.taskId, a.id = Demo.id 2 :=
    List.mem_map.mp (hids ▸ List.mem_singleton_self _)
  have hfence := epoch_fencing hs₁ (show runFrom (Demo.env 3000 100) s₁ [] = some s₁ from rfl) hs₂
    (show runFrom (Demo.env 3000 100) s₂ [] = some s₂ from rfl) rfl (by decide +kernel) (by decide)
    (by rw [hdrawn]; exact Demo.injOn_random _ _ (by decide))
  exact ⟨s₁, s₂, hs₁, hs₂, hfence.1, hfence.2 (Demo.failure 2) (.inl ⟨_, a, ha, by rw [hid]; rfl⟩)⟩

/-! ## The end of the counter -/

section Wrap

variable [DoubleArith D] (env : Env)

theorem start_of_no_tasks {w : World D} {d : DurableState D} (hfile : w.file = some d)
    (htasks : d.tasks = ∅) : ∃ s, start env w = .ok s := by
  have hlist : d.tasks.toList = [] := by
    rw [htasks]
    rfl
  unfold start openStore
  simp [hfile, hlist, rebuild]

omit [DoubleArith D] in
theorem Started.no_tasks {w : World D} {d : DurableState D} {s : Coordinator D} (h : Started w d s)
    (htasks : d.tasks = ∅) : ∃ d', s.file = some d' ∧ d'.tasks = ∅ := by
  rcases h.file with hfile | hfile
  · exact ⟨d, hfile, htasks⟩
  · refine ⟨s.snapshot, hfile, ?_⟩
    apply Std.ExtTreeMap.ext_getElem?
    intro t
    show s.graph.tasks[t]? = _
    rw [h.tasks, htasks]

/-- An idle coordinator can be restarted any number of times. -/
theorem run_restarts (hboot : (boot (D := D) env).isSome = true) (n : Nat) :
    ∃ (s : Coordinator D) (d : DurableState D), run env (List.replicate n .restart) = some s ∧
      s.file = some d ∧ d.tasks = ∅ := by
  induction n with
  | zero =>
      obtain ⟨s, hs⟩ := Option.isSome_iff_exists.mp hboot
      obtain ⟨d, hfile, htasks⟩ := (boot_spec hs).no_tasks rfl
      exact ⟨s, d, by rw [run, hs]; rfl, hfile, htasks⟩
  | succ n ih =>
      obtain ⟨s, d, hrun, hfile, htasks⟩ := ih
      obtain ⟨s', hs'⟩ := start_of_no_tasks env (w := s.world) hfile htasks
      have hstep : step env s .restart = some s' := by
        show (start env s.world).toOption = _
        rw [hs']
        rfl
      obtain ⟨d', hfile', htasks'⟩ := (step_restart (run_sound hrun) hstep).no_tasks (by rwa [hfile])
      refine ⟨s', d', ?_, hfile', htasks'⟩
      rw [List.replicate_succ', run_append]
      exact ⟨s, hrun, Lts.run_cons.mpr ⟨s', hstep, rfl⟩⟩

end Wrap

/-- After `2 ^ 64 - 3` restarts the epoch is the largest one, and the next restart makes it `0`. -/
theorem epoch_wraps :
    ∃ s s' : Coordinator ℚ, run (Demo.env 3000 100) (List.replicate (2 ^ 64 - 3) .restart) = some s ∧
      step (Demo.env 3000 100) s .restart = some s' ∧ s'.durable.epoch < s.durable.epoch := by
  obtain ⟨s, d, hrun, hfile, htasks⟩ :=
    run_restarts (D := ℚ) (Demo.env 3000 100) (by decide +kernel) (2 ^ 64 - 3)
  obtain ⟨s', hs'⟩ := start_of_no_tasks (Demo.env 3000 100) (w := s.world) hfile htasks
  have hstep : step (Demo.env 3000 100) s .restart = some s' := by
    show (start _ s.world).toOption = _
    rw [hs']
    rfl
  have hcount : (List.replicate (2 ^ 64 - 3) (Event.restart (D := ℚ))).countP Event.isRestart =
      2 ^ 64 - 3 := by
    rw [List.countP_replicate]
    exact if_pos rfl
  have hepochs := run_epochs hrun rfl (.of_forall (fun _ e => by cases e <;> rfl) _)
    (by rw [hcount]; decide)
  have hlast : s.durable.epoch = 18446744073709551615 := by
    rw [← UInt64.toNat_inj, hepochs.epoch, hcount]
    rfl
  refine ⟨s, s', hrun, hstep, ?_⟩
  rw [(step_restart (run_sound hrun) hstep).epoch, hepochs.file, hlast]
  decide

end ComputeFabric
