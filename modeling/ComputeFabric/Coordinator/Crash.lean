import ComputeFabric.Coordinator.Invariants

/-!
# `Coordinator.Crash` — processes that die inside a handler

What a process does to the outside world is, in order, the frames it queues and the saves it makes; what it
writes in memory is gone when it dies. A crash inside an event is therefore a point in the effects of that
event: everything after the point has not happened, and a new process is started on the file that the last
successful save before it wrote.

- `lastSaved` — the file on disk, read off the effects.
- `crashRun` — runs in which the process may die between any two effects of any event.
- `crashRun_invariant` — the induction over such runs: what every start establishes and every core step
  keeps. `Logged` holds in all of them: the file is the last one saved, and all saves wrote proper files.
-/

namespace ComputeFabric

open Coordinator

variable {D : Type}

/-- What the last successful save wrote; the newest effect comes first. -/
def lastSaved : List (Effect D) → Option (DurableState D)
  | [] => none
  | .saved d :: _ => some d
  | .saveFailed :: rest => lastSaved rest
  | .queued _ _ _ :: rest => lastSaved rest

theorem lastSaved_append (new old : List (Effect D)) :
    lastSaved (new ++ old) = (lastSaved new).or (lastSaved old) := by
  induction new with
  | nil => rfl
  | cons effect rest ih =>
      cases effect with
      | saved d => rfl
      | saveFailed => exact ih
      | queued conn req m => exact ih

theorem mem_of_lastSaved {effects : List (Effect D)} {d : DurableState D} (h : lastSaved effects = some d) :
    .saved d ∈ effects := by
  induction effects with
  | nil => cases h
  | cons effect rest ih =>
      cases effect with
      | saved d' =>
          cases h
          exact List.mem_cons_self
      | saveFailed => exact List.mem_cons_of_mem _ (ih h)
      | queued conn req m => exact List.mem_cons_of_mem _ (ih h)

/-! ## Runs with crashes -/

inductive CrashEvent (D : Type) where
  | event (e : Event D)
  /-- The process dies inside the event `e`, when its last `lost` effects have not happened yet, and a new one
      is started. `rest` says how far the telemetry and the oracles have got. -/
  | crash (e : Event D) (lost : Nat) (rest : World D)

/-- The event that happens, to its end or up to a crash. -/
def CrashEvent.inner : CrashEvent D → Event D
  | .event e => e
  | .crash e _ _ => e

namespace Coordinator

variable [DoubleArith D]

/-- The world a process leaves behind that dies when it has had the effects `effects`. -/
def crashWorld (effects : List (Effect D)) (rest : World D) : World D :=
  { rest with file := lastSaved effects, effects := effects }

def crashStep (env : Env) (s : Coordinator D) : CrashEvent D → Option (Coordinator D)
  | .event e => step env s e
  | .crash e lost rest => (step env s e).bind fun s' =>
      -- the effects of earlier events have happened
      if s.effects.length + lost ≤ s'.effects.length then
        (start env (crashWorld (s'.effects.drop lost) rest)).toOption
      else none

def crashRun (env : Env) (events : List (CrashEvent D)) : Option (Coordinator D) :=
  (boot env).bind fun s => Lts.run (crashStep env) s events

end Coordinator

/-! ## The log and the file -/

/-- Every save wrote a proper file. -/
def Proper (effects : List (Effect D)) : Prop := ∀ d, .saved d ∈ effects → FileOk d

theorem Proper.fileOk {effects : List (Effect D)} (h : Proper effects) : FileOk ((lastSaved effects).getD {}) := by
  cases hlast : lastSaved effects with
  | none => exact .empty
  | some d => exact h d (mem_of_lastSaved hlast)

theorem Proper.cons {effects : List (Effect D)} (h : Proper effects) {effect : Effect D}
    (heffect : ∀ d, effect = .saved d → FileOk d) : Proper (effect :: effects) := by
  intro d hd
  rcases List.mem_cons.mp hd with hnew | hold
  · exact heffect d hnew.symm
  · exact h d hold

/-- The file is the last one saved, and every save wrote a proper file. -/
structure Coordinator.Logged (s : Coordinator D) : Prop where
  file : s.file = lastSaved s.effects
  proper : Proper s.effects

section Logged

variable {env : Env} {s s' : Coordinator D}

theorem Coordinator.Logged.persist (h : s.Logged) (hwf : s.WellFormed) : (s.persist env).Logged := by
  unfold Coordinator.persist
  split_ifs
  · refine ⟨rfl, h.proper.cons ?_⟩
    rintro d ⟨⟩
    exact .snapshot hwf
  · exact ⟨h.file, h.proper.cons (by rintro d ⟨⟩)⟩

variable {e : Event D}

theorem Coordinator.Logged.sends (h : s.Logged) (hfile : s'.file = s.file) (hsends : s.Sends e s') :
    s'.Logged := by
  rcases hsends with hsame | ⟨conn, req, m, hqueued, -⟩
  · exact ⟨by rw [hfile, hsame, h.file], hsame ▸ h.proper⟩
  · refine ⟨by rw [hfile, hqueued, h.file]; rfl, ?_⟩
    rw [hqueued]
    exact h.proper.cons (by rintro d ⟨⟩)

variable [DoubleArith D]

theorem CoreStep.logged {s₀ : Coordinator D} (h : CoreStep env s₀ e s s') (hwf : s.WellFormed)
    (hs : s.Logged) : s'.Logged := by
  cases h with
  | quiet _ _ hfile hsends => exact hs.sends hfile hsends
  | save => exact hs.persist hwf
  | act _ _ hfile hsends => exact hs.sends hfile hsends

omit [DoubleArith D] in
theorem openStore_logged {w w' : World D} {d : DurableState D} (h : openStore env w = .ok (w', d))
    (hw : w.file = lastSaved w.effects) (hproper : Proper w.effects) :
    w'.file = lastSaved w'.effects ∧ Proper w'.effects := by
  obtain ⟨hd, hfile, -, -, -, -, ⟨heffects, hsame⟩ | ⟨heffects, hnone⟩⟩ := openStore_spec h
  · rw [hsame, heffects]
    exact ⟨hw, hproper⟩
  · rw [hfile, hd, hnone, heffects]
    refine ⟨rfl, hproper.cons ?_⟩
    rintro d ⟨⟩
    exact .empty

/-- A start on a logged world: the store is opened, and what was recovered is saved. -/
theorem start_logged {w : World D} (h : start env w = .ok s) (hw : w.file = lastSaved w.effects)
    (hproper : Proper w.effects) : s.Logged := by
  have hfile : FileOk (w.file.getD {}) := hw ▸ hproper.fileOk
  obtain ⟨w', g, hopen, hrebuild, rfl⟩ := start_ok h
  obtain ⟨-, hw', -⟩ := openStore_spec hopen
  obtain ⟨hlast, hproper'⟩ := openStore_logged hopen hw hproper
  have hwf := (recovered_spec env hw' hfile hrebuild).wellFormed
  have hbooks := recovery_books env w' (w.file.getD {}) g
  generalize (w.file.getD {}).tasks.toList.foldl (recoverTask env) (loaded env w' (w.file.getD {}) g) = x
    at hbooks hwf
  have hx : x.Logged := by
    refine ⟨?_, ?_⟩
    · rw [hbooks.file, hbooks.effects]
      exact hlast
    · rw [hbooks.effects]
      exact hproper'
  exact hx.persist hwf

end Logged

/-! ## What an event adds to the log -/

section Adds

variable {env : Env} {s s' : Coordinator D} {e : Event D}

/-- Every acknowledgement queued between `s` and `s'` answers the event. -/
def Coordinator.Adds (e : Event D) (s s' : Coordinator D) : Prop :=
  ∃ new, s'.effects = new ++ s.effects ∧
    ∀ conn req m, .queued conn req m ∈ new → m.acknowledges = true → m.answers e = true

theorem Coordinator.Adds.cons {x x' : Coordinator D} (h : s.Adds e x) {effect : Effect D}
    (heffects : x'.effects = effect :: x.effects)
    (heffect : ∀ conn req m, effect = .queued conn req m → m.acknowledges = true → m.answers e = true) :
    s.Adds e x' := by
  obtain ⟨new, hnew, hacks⟩ := h
  refine ⟨effect :: new, by rw [heffects, hnew, List.cons_append], ?_⟩
  intro conn req m hm
  rcases List.mem_cons.mp hm with rfl | hold
  · exact heffect conn req m rfl
  · exact hacks conn req m hold

theorem persist_effects (env : Env) (s : Coordinator D) :
    (s.persist env).effects = (if env.saveOk s.saves then .saved s.snapshot else .saveFailed) :: s.effects := by
  unfold persist
  split_ifs <;> rfl

theorem snapshot_persist (env : Env) (s : Coordinator D) : (s.persist env).snapshot = s.snapshot := by
  unfold persist
  split_ifs <;> rfl

theorem Coordinator.Adds.persist {x : Coordinator D} (h : s.Adds e x) : s.Adds e (x.persist env) := by
  refine h.cons (persist_effects env x) ?_
  intro conn req m hm
  split_ifs at hm

theorem Coordinator.Adds.sends {x x' : Coordinator D} (h : s.Adds e x) (hsends : x.Sends e x') : s.Adds e x' := by
  rcases hsends with hsame | ⟨conn, req, m, hqueued, hm⟩
  · rwa [Coordinator.Adds, hsame]
  · refine h.cons hqueued ?_
    rintro conn' req' m' ⟨⟩
    exact hm

variable [DoubleArith D]

/-- **The acknowledgements queued during an event answer it.** -/
theorem step_adds (h : step env s e = some s') : s.Adds e s' := by
  have hrefl : s.Adds e s := ⟨[], rfl, fun _ _ _ hm => absurd hm List.not_mem_nil⟩
  cases hlocal : e.isLocal with
  | true =>
      refine Lts.steps_invariant (P := fun x => s.Adds e x) ?_ hrefl (step_steps hlocal h)
      intro x x' hx hstep
      cases hstep with
      | quiet _ _ _ hsends => exact hx.sends hsends
      | save => exact hx.persist
      | act _ _ _ hsends => exact hx.sends hsends
  | false =>
      cases e with
      | restart =>
          obtain ⟨w', g, hopen, -, rfl⟩ := start_ok (start_of_restart h)
          have hbooks := recovery_books env w' (s.world.file.getD {}) g
          refine Coordinator.Adds.persist ?_
          -- before its save, a start has written at most the empty store
          obtain ⟨-, -, -, -, -, -, ⟨heffects, -⟩ | ⟨heffects, -⟩⟩ := openStore_spec hopen
          · exact hrefl.sends (.inl (hbooks.effects.trans heffects))
          · refine hrefl.cons (hbooks.effects.trans heffects) ?_
            rintro conn req m ⟨⟩
      | _ => cases hlocal

end Adds

/-! ## The induction over runs with crashes -/

section Runs

variable [DoubleArith D] {env : Env}

/-- **The induction over runs with crashes.** `K` is a property of logs that every part of a log inherits, `I`
    what a start on such a log establishes and every core step keeps, and `C` what all events have in common. -/
theorem crashRun_invariant {I : Coordinator D → Prop} {K : List (Effect D) → Prop} {C : Event D → Prop}
    (hnil : K []) (hsuffix : ∀ log log', log' <:+ log → K log → K log') (hlog : ∀ s, I s → K s.effects)
    (hstart : ∀ w s, FileOk (w.file.getD {}) → w.file = lastSaved w.effects → K w.effects →
      start env w = .ok s → I s)
    (hcore : ∀ s e x x', C e → x.Sound → x.Logged → I x → CoreStep env s e x x' → I x')
    {events : List (CrashEvent D)} {s : Coordinator D} (hevents : ∀ ce ∈ events, C ce.inner)
    (hrun : crashRun env events = some s) : s.Sound ∧ s.Logged ∧ I s := by
  let J : Coordinator D → Prop := fun s => s.Sound ∧ s.Logged ∧ I s
  have hstarted : ∀ w s, w.file = lastSaved w.effects → Proper w.effects → K w.effects →
      start env w = .ok s → J s := by
    intro w s hw hproper hK h
    have hfile : FileOk (w.file.getD {}) := hw ▸ hproper.fileOk
    exact ⟨(start_spec h hfile).sound hfile, start_logged h hw hproper, hstart w s hfile hw hK h⟩
  have hevent : ∀ s e s', C e → J s → step env s e = some s' → J s' := by
    intro s e s' he hs h
    cases hlocal : e.isLocal with
    | true =>
        refine Lts.steps_invariant (P := J) ?_ hs (step_steps hlocal h)
        rintro x x' ⟨hx, hxlogged, hxI⟩ hstep
        exact ⟨hstep.sound hx, hstep.logged hx.wellFormed hxlogged, hcore s e x x' he hx hxlogged hxI hstep⟩
    | false =>
        cases e with
        | restart =>
            obtain ⟨-, hlogged, hI⟩ := hs
            exact hstarted _ _ hlogged.file hlogged.proper (hlog s hI) (start_of_restart h)
        | _ => cases hlocal
  obtain ⟨s₀, hs₀, hrun'⟩ := Option.bind_eq_some_iff.mp hrun
  have halong : Lts.Along (crashStep env) (fun _ ce => True ∧ C (CrashEvent.inner ce)) s₀ events :=
    Lts.Along.and_mem (.of_forall fun _ _ => trivial) hevents
  refine Lts.run_invariant (I := J) ?_ ?_ halong hrun'
  · rintro s ce s' hs ⟨-, hC⟩ h
    cases ce with
    | event e => exact hevent s e s' hC hs h
    | crash e lost rest =>
        obtain ⟨s₁, hs₁, hstart'⟩ := Option.bind_eq_some_iff.mp h
        split_ifs at hstart'
        obtain ⟨-, hlogged, hI⟩ := hevent s e s₁ hC hs hs₁
        -- the effects that did happen are a part of the log of the event
        refine hstarted _ _ rfl ?_ (hsuffix _ _ (List.drop_suffix lost _) (hlog s₁ hI)) (ok_of_toOption hstart')
        intro d hd
        exact hlogged.proper d (List.mem_of_mem_drop hd)
  · refine hstarted _ _ rfl ?_ hnil (start_of_boot hs₀)
    intro d hd
    cases hd

theorem crashRun_logged {events : List (CrashEvent D)} {s : Coordinator D} (hrun : crashRun env events = some s) :
    s.Sound ∧ s.Logged := by
  obtain ⟨hsound, hlogged, -⟩ := crashRun_invariant (I := fun _ => True) (K := fun _ => True)
    (C := fun _ => True) trivial (fun _ _ _ _ => trivial) (fun _ _ => trivial) (fun _ _ _ _ _ _ => trivial)
    (fun _ _ _ _ _ _ _ _ _ => trivial) (fun _ _ => trivial) hrun
  exact ⟨hsound, hlogged⟩

/-- **The rule for what is saved.** When a start on a file that has `P` gives a process that has `Q`, every step
    keeps `Q`, and a process that has `Q` saves a file that has `P`, then every file ever saved has `P`. -/
theorem crashRun_saved {P : DurableState D → Prop} {Q : Coordinator D → Prop} {C : Event D → Prop} (hempty : P {})
    (hstart : ∀ w s, FileOk (w.file.getD {}) → P (w.file.getD {}) → start env w = .ok s → Q s)
    (hcore : ∀ s e x x', C e → x.Sound → Q x → CoreStep env s e x x' → Q x')
    (hsave : ∀ x, x.Sound → Q x → P x.snapshot)
    {events : List (CrashEvent D)} {s : Coordinator D} (hevents : ∀ ce ∈ events, C ce.inner)
    (hrun : crashRun env events = some s) :
    Q s ∧ ∀ d, .saved d ∈ s.effects → P d := by
  let K : List (Effect D) → Prop := fun log => ∀ d, .saved d ∈ log → P d
  refine (crashRun_invariant (I := fun x => Q x ∧ K x.effects) (K := K) (C := C) ?_ ?_ (fun _ h => h.2) ?_ ?_
    hevents hrun).2.2
  · intro d hd
    cases hd
  · intro log log' hsub hlog d hd
    exact hlog d (hsub.subset hd)
  · intro w x hfile hw hK hx
    have hP : P (w.file.getD {}) := by
      cases hlast : w.file with
      | none => exact hempty
      | some d => exact hK d (mem_of_lastSaved (hw ▸ hlast))
    have hQ := hstart w x hfile hP hx
    refine ⟨hQ, ?_⟩
    have hsnap : P x.snapshot := hsave x ((start_spec hx hfile).sound hfile) hQ
    -- a start saves what it found and, on a first start, the empty store before it
    obtain ⟨w', g, hopen, -, rfl⟩ := start_ok hx
    have hbooks := recovery_books env w' (w.file.getD {}) g
    have hopened : K w'.effects := by
      obtain ⟨-, -, -, -, -, -, ⟨heffects, -⟩ | ⟨heffects, -⟩⟩ := openStore_spec hopen <;> rw [heffects]
      · exact hK
      · intro d hd
        rcases List.mem_cons.mp hd with hnew | hold
        · cases hnew
          exact hempty
        · exact hK d hold
    intro d hd
    rw [persist_effects, hbooks.effects] at hd
    rcases List.mem_cons.mp hd with hnew | hold
    · split_ifs at hnew
      cases hnew
      rwa [← snapshot_persist env]
    · exact hopened d hold
  · rintro s₀ e x x' hC hsound - ⟨hQ, hK⟩ hstep
    refine ⟨hcore s₀ e x x' hC hsound hQ hstep, ?_⟩
    have hsends : x.Sends e x' → K x'.effects := by
      intro h d hd
      rcases h with hsame | ⟨conn, req, m, hqueued, -⟩
      · exact hK d (hsame ▸ hd)
      · rw [hqueued] at hd
        rcases List.mem_cons.mp hd with hnew | hold
        · cases hnew
        · exact hK d hold
    cases hstep with
    | quiet _ _ _ h => exact hsends h
    | act _ _ _ h => exact hsends h
    | save =>
        intro d hd
        rw [persist_effects] at hd
        rcases List.mem_cons.mp hd with hnew | hold
        · split_ifs at hnew
          cases hnew
          exact hsave x hsound hQ
        · exact hK d hold

/-- A run is a run with crashes in which no process dies inside an event. -/
theorem crashRun_event (events : List (Event D)) : crashRun env (events.map .event) = run env events := by
  have hfrom : ∀ s : Coordinator D, Lts.run (crashStep env) s (events.map .event) = runFrom env s events := by
    induction events with
    | nil => exact fun _ => rfl
    | cons e events ih =>
        intro s
        show (step env s e).bind _ = (step env s e).bind _
        exact congrArg _ (funext ih)
  exact congrArg _ (funext hfrom)

theorem crashRun_append {events events' : List (CrashEvent D)} {s : Coordinator D} :
    crashRun env (events ++ events') = some s ↔
      ∃ s₁, crashRun env events = some s₁ ∧ Lts.run (crashStep env) s₁ events' = some s := by
  unfold crashRun
  cases boot (D := D) env with
  | none => simp
  | some s₀ => exact Lts.run_append

end Runs

/-! ## What is saved stays saved -/

/-- The file at the moment when the log was `log`, as a start would load it. -/
def fileAt (log : List (Effect D)) : DurableState D := (lastSaved log).getD {}

/-- `P` says of a file, and `Q` of a process, that something is so; no step takes it back, a save writes it, and
    a start reads it. -/
structure Lasting [DoubleArith D] (env : Env) (P : DurableState D → Prop) (Q : Coordinator D → Prop) : Prop where
  step : ∀ s e x x', x.Sound → CoreStep env s e x x' → Q x → Q x'
  save : ∀ x, x.graph.Coherent → (P x.snapshot ↔ Q x)
  start : ∀ w s, FileOk (w.file.getD {}) → start env w = .ok s → (Q s ↔ P (w.file.getD {}))

namespace Lasting

variable [DoubleArith D] {env : Env} {P P' : DurableState D → Prop} {Q Q' : Coordinator D → Prop}

theorem const (p : Prop) : Lasting (D := D) env (fun _ => p) fun _ => p :=
  ⟨fun _ _ _ _ _ _ hp => hp, fun _ _ => Iff.rfl, fun _ _ _ _ => Iff.rfl⟩

theorem congr (h : Lasting env P Q) (hP : ∀ d, P' d ↔ P d) : Lasting env P' Q where
  step := h.step
  save x hx := (hP x.snapshot).trans (h.save x hx)
  start w s hw hs := (h.start w s hw hs).trans (hP _).symm

theorem and (h : Lasting env P Q) (h' : Lasting env P' Q') :
    Lasting env (fun d => P d ∧ P' d) fun s => Q s ∧ Q' s where
  step s e x x' hx hstep hQ := ⟨h.step s e x x' hx hstep hQ.1, h'.step s e x x' hx hstep hQ.2⟩
  save x hx := and_congr (h.save x hx) (h'.save x hx)
  start w s hw hs := and_congr (h.start w s hw hs) (h'.start w s hw hs)

/-- What a start finds on the disk it has in memory. -/
theorem of_start (h : Lasting env P Q) {w : World D} {s : Coordinator D} (hfile : FileOk (w.file.getD {}))
    (hstart : Coordinator.start env w = .ok s) (hs : P (s.file.getD {})) : Q s := by
  have hstarted := start_spec hstart hfile
  rcases hstarted.file with hold | hnew
  · rw [hold] at hs
    exact (h.start w s hfile hstart).mpr hs
  · rw [hnew] at hs
    exact (h.save s hstarted.wellFormed.coherent).mp hs

/-- A step keeps the disk from getting ahead of memory. -/
theorem of_core (h : Lasting env P Q) {s₀ x x' : Coordinator D} {e : Event D} (hsound : x.Sound)
    (hx : P (x.file.getD {}) → Q x) (hcore : CoreStep env s₀ e x x') (hx' : P (x'.file.getD {})) : Q x' := by
  refine h.step s₀ e x x' hsound hcore ?_
  cases hcore with
  | quiet _ _ hsame => exact hx (hsame ▸ hx')
  | save =>
      rcases persist_file env x with hsame | hsaved
      · exact hx (hsame ▸ hx')
      · rw [hsaved] at hx'
        exact (h.save x hsound.wellFormed.coherent).mp hx'
  | act _ _ hsame => exact hx (hsame ▸ hx')

/-- At every later moment the file has what it has at the moment `base`. -/
def Kept (P : DurableState D → Prop) (log : List (Effect D)) : Prop :=
  ∀ base later, base <:+ later → later <:+ log → P (fileAt base) → P (fileAt later)

omit [DoubleArith D] in
/-- One more effect. -/
theorem Kept.cons {log : List (Effect D)} {effect : Effect D} (h : Kept P log)
    (hlast : P (fileAt log) → P (fileAt (effect :: log))) : Kept P (effect :: log) := by
  intro base later hbase hlater hP
  rcases List.suffix_cons_iff.mp hlater with rfl | hlater
  · rcases List.suffix_cons_iff.mp hbase with rfl | hbase
    · exact hP
    · exact hlast (h base log hbase List.suffix_rfl hP)
  · exact h base later hbase hlater hP

omit [DoubleArith D] in
theorem Kept.suffix {log log' : List (Effect D)} (hlog : log' <:+ log) (h : Kept P log) : Kept P log' :=
  fun base later hbase hlater hP => h base later hbase (hlater.trans hlog) hP

omit [DoubleArith D] in
theorem Kept.persist {x : Coordinator D} (h : Kept P x.effects) (hfile : P (fileAt x.effects) → P x.snapshot) :
    Kept P (x.persist env).effects := by
  rw [persist_effects]
  refine h.cons ?_
  split_ifs
  · exact hfile
  · exact id

/-- The log of a start: it opens the store and saves what it found. -/
theorem Kept.start (h : Lasting env P Q) {w : World D} {s : Coordinator D} (hfile : FileOk (w.file.getD {}))
    (hw : w.file = lastSaved w.effects) (hkept : Kept P w.effects) (hstart : Coordinator.start env w = .ok s) :
    Kept P s.effects := by
  have hQ := h.start w s hfile hstart
  have hsave := h.save s (start_spec hstart hfile).wellFormed.coherent
  obtain ⟨w', g, hopen, -, rfl⟩ := start_ok hstart
  have hbooks := recovery_books env w' (w.file.getD {}) g
  generalize (w.file.getD {}).tasks.toList.foldl (recoverTask env) (loaded env w' (w.file.getD {}) g) = x
    at hbooks hQ hsave
  have heffects : x.effects = w'.effects := hbooks.effects
  -- an empty store is written before the first save, and loads as no file does
  have hopened : fileAt w'.effects = w.file.getD {} ∧ Kept P w'.effects := by
    obtain ⟨-, -, -, -, -, -, ⟨heffects, -⟩ | ⟨heffects, hnone⟩⟩ := openStore_spec hopen <;> rw [heffects]
    · exact ⟨by rw [fileAt, hw], hkept⟩
    · refine ⟨by rw [hnone]; rfl, hkept.cons ?_⟩
      intro hP
      rwa [fileAt, ← hw, hnone] at hP
  refine Kept.persist (heffects ▸ hopened.2) ?_
  intro hP
  rw [heffects, hopened.1] at hP
  rw [← snapshot_persist env x]
  exact hsave.mpr (hQ.mpr hP)

omit [DoubleArith D] in
theorem Kept.sends {e : Event D} {x x' : Coordinator D} (h : Kept P x.effects) (hsends : x.Sends e x') :
    Kept P x'.effects := by
  rcases hsends with hsame | ⟨conn, req, m, hqueued, -⟩
  · rwa [hsame]
  · rw [hqueued]
    exact h.cons id

theorem Kept.of_core (h : Lasting env P Q) {s₀ x x' : Coordinator D} {e : Event D} (hsound : x.Sound)
    (hlogged : x.Logged) (hx : P (x.file.getD {}) → Q x) (hkept : Kept P x.effects)
    (hcore : CoreStep env s₀ e x x') : Kept P x'.effects := by
  cases hcore with
  | quiet _ _ _ hsends => exact hkept.sends hsends
  | save =>
      refine hkept.persist ?_
      intro hP
      rw [fileAt, ← hlogged.file] at hP
      exact (h.save x hsound.wellFormed.coherent).mpr (hx hP)
  | act _ _ _ hsends => exact hkept.sends hsends

/-- **What is saved stays saved**, through any run with crashes, and the disk is never ahead of memory. -/
theorem kept (h : Lasting env P Q) {events : List (CrashEvent D)} {s : Coordinator D}
    (hrun : crashRun env events = some s) : (P (s.file.getD {}) → Q s) ∧ Kept P s.effects := by
  refine (crashRun_invariant (I := fun x => (P (x.file.getD {}) → Q x) ∧ Kept P x.effects) (K := Kept P)
    (C := fun _ => True) ?_ (fun _ _ hlog hkept => hkept.suffix hlog) (fun _ hx => hx.2) ?_ ?_
    (fun _ _ => trivial) hrun).2.2
  · intro base later hbase hlater hP
    rw [List.suffix_nil.mp hlater] at hbase ⊢
    rwa [List.suffix_nil.mp hbase] at hP
  · intro w x hfile hw hkept hstart
    exact ⟨h.of_start hfile hstart, .start h hfile hw hkept hstart⟩
  · rintro s₀ e x x' - hsound hlogged ⟨hx, hkept⟩ hcore
    exact ⟨h.of_core hsound hx hcore, .of_core h hsound hlogged hx hkept hcore⟩

end Lasting

end ComputeFabric
