import ComputeFabric.Lib.Interleaving
import ComputeFabric.Lib.Lts

/-!
# `Net.Socket` — closing a socket that others use

`SocketState` is shared by the threads that send, receive, accept and close. The descriptor is only a number: once
it is closed, the system may give the same number to another connection, so a `send` that comes too late writes
into somebody else's stream. The code counts the operations that hold the descriptor
(`ActiveSocketOperation`), refuses new ones as soon as somebody closes, and closes when the count is zero.

A step is what a thread does in one locked region, or one native call. The condition variable is modelled as it
is: a thread that finds its predicate false sleeps, a notification wakes all sleepers, and a sleeper may wake for
no reason. Both notifications are made after the mutex is released, so between the change and the
notification other threads may run.

- `socket_closed_once` — safety: the descriptor is closed at most once, after every other native call on it, and
  no call of `close` returns before that.
- `close_completes` — progress without spurious wakeups: no sleeper is forgotten, and everybody gets out.
-/

namespace ComputeFabric

open Interleaving

/-- `using SocketHandle = int`. -/
abbrev SocketHandle := Int32

/-- `kInvalid`. -/
def SocketHandle.invalid : SocketHandle := -1

/-- The calls into the system on the descriptor. `io` stands for `send`, `recv`, `accept` and `setsockopt`. -/
inductive NativeCall where
  | io (h : SocketHandle)
  | shutdown (h : SocketHandle)
  | close (h : SocketHandle)
deriving DecidableEq

namespace SocketState

/-- Where a thread is. -/
inductive Pc where
  /-- In none of the functions. -/
  | out
  /-- Inside an operation, with the descriptor it has copied. -/
  | operating (h : SocketHandle)
  /-- In the destructor of the operation, between the locked region and `notify_all`. -/
  | released
  /-- In `close_state`, after the first locked region. -/
  | shutting (h : SocketHandle) (unblockActiveIo : Bool)
  /-- About to test `active_operations == 0`. -/
  | draining (h : SocketHandle)
  | drainSleeps (h : SocketHandle)
  /-- In `close_state`, between the second locked region and `notify_all`. -/
  | closed
  /-- In `close_state` while another thread closes, about to test `handle == kInvalid`. -/
  | awaiting
  | awaitSleeps
deriving DecidableEq

end SocketState

open SocketState (Pc)

/-- The socket and the threads. `calls` and `returned` are kept for the statements only: the native calls so far,
    and how many calls of `close_state` have returned. -/
structure SocketState (T : Type) where
  handle : SocketHandle
  activeOperations : Nat := 0
  closing : Bool := false
  pc : T → Pc := fun _ => .out
  calls : List NativeCall := []
  returned : Nat := 0

namespace SocketState

variable {T : Type}

inductive Action (T : Type) where
  /-- The constructor of `ActiveSocketOperation`. -/
  | acquire (t : T)
  | io (t : T)
  /-- The destructor: the locked region, then the notification. -/
  | release (t : T)
  | notifyReleased (t : T)
  /-- `close_state` begins. -/
  | close (t : T) (unblockActiveIo : Bool)
  | shutdown (t : T)
  | drain (t : T)
  | notifyClosed (t : T)
  | await (t : T)
  /-- A sleeper wakes for no reason. -/
  | wake (t : T)

/-- The step continues a call that has begun. -/
def Action.isInternal : Action T → Bool
  | .release _ | .notifyReleased _ | .shutdown _ | .drain _ | .notifyClosed _ | .await _ => true
  | .acquire _ | .io _ | .close _ _ | .wake _ => false

/-- A notified thread is about to test its predicate again. -/
def Pc.woken : Pc → Pc
  | .drainSleeps h => .draining h
  | .awaitSleeps => .awaiting
  | .out => .out
  | .operating h => .operating h
  | .released => .released
  | .shutting h unblockActiveIo => .shutting h unblockActiveIo
  | .draining h => .draining h
  | .closed => .closed
  | .awaiting => .awaiting

/-- The thread is asleep on the condition variable. -/
def Pc.sleeps : Pc → Bool
  | .drainSleeps _ | .awaitSleeps => true
  | .out | .operating _ | .released | .shutting _ _ | .draining _ | .closed | .awaiting => false

/-- `notify_all`. -/
def notifyAll (s : SocketState T) : SocketState T := { s with pc := fun t => (s.pc t).woken }

/-- A call of `close_state` returns. -/
def returns (s : SocketState T) : SocketState T := { s with returned := s.returned + 1 }

variable [DecidableEq T]

def goto (s : SocketState T) (t : T) (pc : Pc) : SocketState T := { s with pc := Function.update s.pc t pc }

theorem goto_pc_self (s : SocketState T) (t : T) (pc : Pc) : (s.goto t pc).pc t = pc := by
  simp [goto]

theorem goto_pc_of_ne (s : SocketState T) {t u : T} (h : u ≠ t) (pc : Pc) : (s.goto t pc).pc u = s.pc u := by
  simp [goto, h]

/-- One atomic step, if the thread is at it. -/
def step (s : SocketState T) : Action T → Option (SocketState T)
  | .acquire t =>
      match s.pc t with
      | .out =>
          if s.closing || s.handle = .invalid then some s
          else some ({ s with activeOperations := s.activeOperations + 1 }.goto t (.operating s.handle))
      | _ => none
  | .io t =>
      match s.pc t with
      | .operating h => some { s with calls := s.calls ++ [NativeCall.io h] }
      | _ => none
  | .release t =>
      match s.pc t with
      | .operating _ => some ({ s with activeOperations := s.activeOperations - 1 }.goto t .released)
      | _ => none
  | .notifyReleased t =>
      match s.pc t with
      | .released => some (s.goto t .out).notifyAll
      | _ => none
  | .close t unblockActiveIo =>
      match s.pc t with
      | .out =>
          if s.handle = .invalid then some s.returns
          else if s.closing then some (s.goto t .awaitSleeps)
          else some ({ s with closing := true }.goto t (.shutting s.handle unblockActiveIo))
      | _ => none
  | .shutdown t =>
      match s.pc t with
      | .shutting h true => some ({ s with calls := s.calls ++ [NativeCall.shutdown h] }.goto t (.draining h))
      | .shutting h false => some (s.goto t (.draining h))
      | _ => none
  | .drain t =>
      match s.pc t with
      | .draining h =>
          if s.activeOperations = 0 then
            some ({ s with
              handle := .invalid
              closing := false
              calls := s.calls ++ [NativeCall.close h] }.goto t .closed)
          else some (s.goto t (.drainSleeps h))
      | _ => none
  | .notifyClosed t =>
      match s.pc t with
      | .closed => some (s.goto t .out).notifyAll.returns
      | _ => none
  | .await t =>
      match s.pc t with
      | .awaiting =>
          if s.handle = .invalid then some (s.goto t .out).returns else some (s.goto t .awaitSleeps)
      | _ => none
  | .wake t => if (s.pc t).sleeps then some (s.goto t (s.pc t).woken) else none

/-! ## What a step can do -/

/-- The outcomes of a step. -/
inductive Step (s : SocketState T) : Action T → SocketState T → Prop
  | refused (t : T) (hshut : s.closing = true ∨ s.handle = .invalid) : Step s (.acquire t) s
  | acquired (t : T) (hpc : s.pc t = .out) (hopen : s.closing = false) (hvalid : s.handle ≠ .invalid) :
      Step s (.acquire t)
        ({ s with activeOperations := s.activeOperations + 1 }.goto t (.operating s.handle))
  | io (t : T) (h : SocketHandle) (hpc : s.pc t = .operating h) :
      Step s (.io t) { s with calls := s.calls ++ [NativeCall.io h] }
  | released (t : T) (h : SocketHandle) (hpc : s.pc t = .operating h) :
      Step s (.release t) ({ s with activeOperations := s.activeOperations - 1 }.goto t .released)
  | notified (t : T) (hpc : s.pc t = .released) : Step s (.notifyReleased t) (s.goto t .out).notifyAll
  | found (t : T) (unblock : Bool) (hclosed : s.handle = .invalid) : Step s (.close t unblock) s.returns
  | joined (t : T) (unblock : Bool) (hpc : s.pc t = .out) (hvalid : s.handle ≠ .invalid)
      (hclosing : s.closing = true) : Step s (.close t unblock) (s.goto t .awaitSleeps)
  | began (t : T) (unblock : Bool) (hpc : s.pc t = .out) (hvalid : s.handle ≠ .invalid)
      (hclosing : s.closing = false) :
      Step s (.close t unblock) ({ s with closing := true }.goto t (.shutting s.handle unblock))
  | shut (t : T) (h : SocketHandle) (unblock : Bool) (calls : List NativeCall)
      (hpc : s.pc t = .shutting h unblock) (hcalls : calls = [] ∨ calls = [.shutdown h]) :
      Step s (.shutdown t) ({ s with calls := s.calls ++ calls }.goto t (.draining h))
  | drained (t : T) (h : SocketHandle) (hpc : s.pc t = .draining h) (hzero : s.activeOperations = 0) :
      Step s (.drain t)
        ({ s with handle := .invalid, closing := false, calls := s.calls ++ [NativeCall.close h] }.goto t .closed)
  | drainSlept (t : T) (h : SocketHandle) (hpc : s.pc t = .draining h) (hbusy : s.activeOperations ≠ 0) :
      Step s (.drain t) (s.goto t (.drainSleeps h))
  | announced (t : T) (hpc : s.pc t = .closed) : Step s (.notifyClosed t) (s.goto t .out).notifyAll.returns
  | awaited (t : T) (hpc : s.pc t = .awaiting) (hclosed : s.handle = .invalid) :
      Step s (.await t) (s.goto t .out).returns
  | awaitSlept (t : T) (hpc : s.pc t = .awaiting) (hvalid : s.handle ≠ .invalid) :
      Step s (.await t) (s.goto t .awaitSleeps)
  | woken (t : T) (hsleeps : (s.pc t).sleeps = true) : Step s (.wake t) (s.goto t (s.pc t).woken)

theorem step_cases {s s' : SocketState T} {a : Action T} (h : s.step a = some s') : Step s a s' := by
  cases a with
  | acquire t =>
      dsimp only [step] at h
      split at h
      · next hpc =>
          split_ifs at h with hshut
          · cases h
            exact .refused t (by simpa using hshut)
          · cases h
            have hopen : s.closing = false ∧ s.handle ≠ .invalid := by simpa using hshut
            exact .acquired t hpc hopen.1 hopen.2
      · cases h
  | io t =>
      dsimp only [step] at h
      split at h
      · next handle hpc =>
          cases h
          exact .io t handle hpc
      · cases h
  | release t =>
      dsimp only [step] at h
      split at h
      · next handle hpc =>
          cases h
          exact .released t handle hpc
      · cases h
  | notifyReleased t =>
      dsimp only [step] at h
      split at h
      · next hpc =>
          cases h
          exact .notified t hpc
      · cases h
  | close t unblock =>
      dsimp only [step] at h
      split at h
      · next hpc =>
          split_ifs at h with hclosed hclosing
          · cases h
            exact .found t unblock hclosed
          · cases h
            exact .joined t unblock hpc hclosed hclosing
          · cases h
            exact .began t unblock hpc hclosed (by simpa using hclosing)
      · cases h
  | shutdown t =>
      dsimp only [step] at h
      split at h
      · next handle hpc =>
          cases h
          exact .shut t handle true [.shutdown handle] hpc (.inr rfl)
      · next handle hpc =>
          have hstep := Step.shut t handle false [] hpc (.inl rfl)
          rw [List.append_nil] at hstep
          cases h
          exact hstep
      · cases h
  | drain t =>
      dsimp only [step] at h
      split at h
      · next handle hpc =>
          split_ifs at h with hzero
          · cases h
            exact .drained t handle hpc hzero
          · cases h
            exact .drainSlept t handle hpc hzero
      · cases h
  | notifyClosed t =>
      dsimp only [step] at h
      split at h
      · next hpc =>
          cases h
          exact .announced t hpc
      · cases h
  | await t =>
      dsimp only [step] at h
      split at h
      · next hpc =>
          split_ifs at h with hclosed
          · cases h
            exact .awaited t hpc hclosed
          · cases h
            exact .awaitSlept t hpc hclosed
      · cases h
  | wake t =>
      dsimp only [step] at h
      split_ifs at h with hsleeps
      cases h
      exact .woken t hsleeps

/-! ## Places in the program -/

namespace Pc

/-- The thread is inside an operation. -/
def operations : Pc → Nat
  | .operating _ => 1
  | _ => 0

/-- The thread is the one that closes. -/
def closers : Pc → Nat
  | .shutting _ _ | .draining _ | .drainSleeps _ => 1
  | _ => 0

/-- The copy of the descriptor the thread may still use. -/
def holds : Pc → Option SocketHandle
  | .operating h | .shutting h _ | .draining h | .drainSleeps h => some h
  | _ => none

/-- The thread waits for another one to close. -/
def waits : Pc → Bool
  | .awaiting | .awaitSleeps => true
  | _ => false

variable (pc : Pc)

@[simp] theorem operations_woken : pc.woken.operations = pc.operations := by cases pc <;> rfl

@[simp] theorem closers_woken : pc.woken.closers = pc.closers := by cases pc <;> rfl

@[simp] theorem holds_woken : pc.woken.holds = pc.holds := by cases pc <;> rfl

@[simp] theorem waits_woken : pc.woken.waits = pc.waits := by cases pc <;> rfl

theorem woken_ne_drainSleeps (h : SocketHandle) : pc.woken ≠ .drainSleeps h := by cases pc <;> nofun

theorem woken_ne_awaitSleeps : pc.woken ≠ .awaitSleeps := by cases pc <;> nofun

theorem woken_eq_closed : pc.woken = .closed ↔ pc = .closed := by
  cases pc <;> constructor <;> intro h <;> first | rfl | cases h

end Pc

/-! ## Safety -/

section Safety

variable [Fintype T]

/-- What every interleaving keeps about the descriptor `h₀` the socket was made with. -/
structure Guarded (h₀ : SocketHandle) (s : SocketState T) : Prop where
  active : s.activeOperations = total Pc.operations s.pc
  closers : total Pc.closers s.pc = if s.closing then 1 else 0
  handle : s.handle = h₀ ∨ s.handle = .invalid
  closing : s.closing = true → s.handle = h₀
  /-- Whoever can still use the descriptor keeps it open. -/
  holds : ∀ t h, (s.pc t).holds = some h → s.handle = h₀ ∧ h = h₀
  announcing : ∀ t, s.pc t = .closed → s.handle = .invalid
  returned : 0 < s.returned → s.handle = .invalid
  calls : ∃ earlier, (∀ c ∈ earlier, c = .io h₀ ∨ c = .shutdown h₀) ∧
    s.calls = earlier ++ if s.handle = .invalid then [.close h₀] else []

variable {h₀ : SocketHandle} {s s' : SocketState T}

theorem total_goto (w : Pc → Nat) (s : SocketState T) (t : T) (pc : Pc) :
    total w (s.goto t pc).pc + w (s.pc t) = total w s.pc + w pc :=
  total_update w s.pc t pc

omit [Fintype T] in
/-- A thread moves to a place where it holds no descriptor that it did not hold. -/
theorem holds_goto {Q : SocketHandle → Prop} (hs : ∀ t h, (s.pc t).holds = some h → Q h) {t : T} {pc : Pc}
    (hpc : ∀ h, pc.holds = some h → Q h) : ∀ u h, ((s.goto t pc).pc u).holds = some h → Q h := by
  intro u h hu
  by_cases hut : u = t
  · subst hut
    rw [goto_pc_self] at hu
    exact hpc h hu
  · rw [goto_pc_of_ne _ hut] at hu
    exact hs u h hu

omit [Fintype T] in
theorem closed_goto (hs : ∀ t, s.pc t = .closed → s.handle = .invalid) {t : T} {pc : Pc}
    (hpc : pc ≠ .closed) : ∀ u, (s.goto t pc).pc u = .closed → s.handle = .invalid := by
  intro u hu
  by_cases hut : u = t
  · rw [hut, goto_pc_self] at hu
    exact absurd hu hpc
  · rw [goto_pc_of_ne _ hut] at hu
    exact hs u hu

/-- A step of one thread from `x` that leaves the flags and the log alone, and takes no descriptor. -/
theorem Guarded.goto (hs : s.Guarded h₀) {t : T} {x : Pc} (pc : Pc) (hat : s.pc t = x)
    (hoperations : pc.operations = x.operations) (hclosers : pc.closers = x.closers)
    (hholds : ∀ h, pc.holds = some h → x.holds = some h) (hpc : pc ≠ .closed) : (s.goto t pc).Guarded h₀ where
  active := by
    have hsum := total_goto Pc.operations s t pc
    have hactive := hs.active
    rw [hat] at hsum
    show s.activeOperations = _
    omega
  closers := by
    have hsum := total_goto Pc.closers s t pc
    have hcount := hs.closers
    rw [hat] at hsum
    show _ = if s.closing then 1 else 0
    omega
  handle := hs.handle
  closing := hs.closing
  holds := holds_goto hs.holds fun h hh => hs.holds t h (by rw [hat, hholds h hh])
  announcing := closed_goto hs.announcing hpc
  returned := hs.returned
  calls := hs.calls

omit [DecidableEq T] in
theorem Guarded.notifyAll (hs : s.Guarded h₀) : s.notifyAll.Guarded h₀ where
  active := by
    rw [show total Pc.operations s.notifyAll.pc = total Pc.operations s.pc from
      total_congr fun t => (s.pc t).operations_woken]
    exact hs.active
  closers := by
    rw [show total Pc.closers s.notifyAll.pc = total Pc.closers s.pc from
      total_congr fun t => (s.pc t).closers_woken]
    exact hs.closers
  handle := hs.handle
  closing := hs.closing
  holds := fun t h hh => hs.holds t h (by rwa [← Pc.holds_woken])
  announcing := fun t ht => hs.announcing t ((s.pc t).woken_eq_closed.mp ht)
  returned := hs.returned
  calls := hs.calls

omit [DecidableEq T] in
theorem Guarded.returns (hs : s.Guarded h₀) (hclosed : s.handle = .invalid) : s.returns.Guarded h₀ :=
  ⟨hs.active, hs.closers, hs.handle, hs.closing, hs.holds, hs.announcing, fun _ => hclosed, hs.calls⟩

omit [DecidableEq T] in
/-- Somebody holds the descriptor, so it is open and nothing was closed. -/
theorem Guarded.calls_open (hs : s.Guarded h₀) (hvalid : h₀ ≠ .invalid) {t : T} {h : SocketHandle}
    (hholds : (s.pc t).holds = some h) :
    s.handle = h₀ ∧ h = h₀ ∧ ∀ c ∈ s.calls, c = .io h₀ ∨ c = .shutdown h₀ := by
  obtain ⟨hhandle, hh⟩ := hs.holds t h hholds
  obtain ⟨earlier, hearlier, hcalls⟩ := hs.calls
  rw [hhandle, if_neg hvalid, List.append_nil] at hcalls
  exact ⟨hhandle, hh, by rw [hcalls]; exact hearlier⟩

omit [DecidableEq T] in
/-- Further calls on an open descriptor. -/
theorem Guarded.log (hs : s.Guarded h₀) (hvalid : h₀ ≠ .invalid) {t : T} {h : SocketHandle}
    (hholds : (s.pc t).holds = some h) {calls : List NativeCall}
    (hcalls : ∀ c ∈ calls, c = .io h ∨ c = .shutdown h) :
    Guarded h₀ { s with calls := s.calls ++ calls } := by
  obtain ⟨hhandle, rfl, hbefore⟩ := hs.calls_open hvalid hholds
  refine ⟨hs.active, hs.closers, hs.handle, hs.closing, hs.holds, hs.announcing, hs.returned,
    s.calls ++ calls, ?_, ?_⟩
  · intro c hc
    rcases List.mem_append.mp hc with hc | hc
    · exact hbefore c hc
    · exact hcalls c hc
  · rw [hhandle, if_neg hvalid, List.append_nil]

/-- **Every step keeps the descriptor guarded.** -/
theorem Guarded.step (hs : s.Guarded h₀) (hvalid : h₀ ≠ .invalid) {a : Action T} (hstep : Step s a s') :
    s'.Guarded h₀ := by
  cases hstep with
  | refused t hshut => exact hs
  | acquired t hpc hopen hnot =>
      have hhandle : s.handle = h₀ := hs.handle.resolve_right hnot
      have hsum := total_goto Pc.operations s t (.operating s.handle)
      have hcount := total_goto Pc.closers s t (.operating s.handle)
      rw [hpc] at hsum hcount
      refine ⟨?_, ?_, hs.handle, hs.closing, holds_goto hs.holds ?_,
        closed_goto hs.announcing nofun, hs.returned, hs.calls⟩
      · have hactive := hs.active
        show s.activeOperations + 1 = total Pc.operations (s.goto t _).pc
        simp only [Pc.operations] at hsum
        omega
      · simp only [Pc.closers, Nat.add_zero] at hcount
        exact hcount.trans hs.closers
      · rintro h hh
        exact ⟨hhandle, (Option.some.inj hh).symm.trans hhandle⟩
  | io t h hpc => exact hs.log hvalid (t := t) (by rw [hpc]; rfl) fun c hc => .inl (List.mem_singleton.mp hc)
  | released t h hpc =>
      have hsum := total_goto Pc.operations s t .released
      have hcount := total_goto Pc.closers s t .released
      rw [hpc] at hsum hcount
      refine ⟨?_, ?_, hs.handle, hs.closing, holds_goto hs.holds nofun,
        closed_goto hs.announcing nofun, hs.returned, hs.calls⟩
      · have hactive := hs.active
        show s.activeOperations - 1 = total Pc.operations (s.goto t _).pc
        simp only [Pc.operations] at hsum
        omega
      · simp only [Pc.closers, Nat.add_zero] at hcount
        exact hcount.trans hs.closers
  | notified t hpc => exact (hs.goto .out hpc rfl rfl nofun nofun).notifyAll
  | found t unblock hclosed => exact hs.returns hclosed
  | joined t unblock hpc hnot hclosing => exact hs.goto .awaitSleeps hpc rfl rfl nofun nofun
  | began t unblock hpc hnot hclosing =>
      have hhandle : s.handle = h₀ := hs.handle.resolve_right hnot
      have hsum := total_goto Pc.operations s t (.shutting s.handle unblock)
      have hcount := total_goto Pc.closers s t (.shutting s.handle unblock)
      rw [hpc] at hsum hcount
      refine ⟨?_, ?_, hs.handle, fun _ => hhandle, holds_goto hs.holds ?_,
        closed_goto hs.announcing nofun, hs.returned, hs.calls⟩
      · simp only [Pc.operations, Nat.add_zero] at hsum
        exact hs.active.trans hsum.symm
      · have hnone := hs.closers
        rw [hclosing] at hnone
        simp only [Pc.closers] at hcount
        show total Pc.closers (s.goto t _).pc = 1
        simp only [Bool.false_eq_true, if_false] at hnone
        omega
      · rintro h hh
        exact ⟨hhandle, (Option.some.inj hh).symm.trans hhandle⟩
  | shut t h unblock calls hpc hcalls =>
      have hlogged : Guarded h₀ { s with calls := s.calls ++ calls } := by
        refine hs.log hvalid (t := t) (by rw [hpc]; rfl) fun c hc => ?_
        rcases hcalls with rfl | rfl
        · exact absurd hc List.not_mem_nil
        · exact .inr (List.mem_singleton.mp hc)
      exact hlogged.goto (.draining h) hpc rfl rfl (fun _ hh => hh) nofun
  | drained t h hpc hzero =>
      obtain ⟨hhandle, rfl, hbefore⟩ := hs.calls_open hvalid (t := t) (h := h) (by rw [hpc]; rfl)
      have hsum := total_goto Pc.operations s t .closed
      have hcount := total_goto Pc.closers s t .closed
      rw [hpc] at hsum hcount
      simp only [Pc.operations, Nat.add_zero] at hsum
      simp only [Pc.closers, Nat.add_zero] at hcount
      have hactive := hs.active
      have hone := hs.closers
      have hnobody : total Pc.closers (s.goto t .closed).pc = 0 := by
        split_ifs at hone <;> omega
      refine ⟨?_, hnobody, .inr rfl, nofun, ?_, fun _ _ => rfl, fun _ => rfl, s.calls, hbefore, ?_⟩
      · show s.activeOperations = total Pc.operations (s.goto t _).pc
        omega
      · -- Nobody is left with a copy of the descriptor: no operation, and no second closer.
        intro u h' hu
        have hop := le_total Pc.operations (s.goto t .closed).pc u
        have hcl := le_total Pc.closers (s.goto t .closed).pc u
        have hu' : ((s.goto t .closed).pc u).holds = some h' := hu
        revert hop hcl hu'
        cases (s.goto t .closed).pc u <;> simp only [Pc.operations, Pc.closers, Pc.holds] <;> intros <;>
          first
            | omega
            | contradiction
      · show s.calls ++ [.close h] = s.calls ++ if SocketHandle.invalid = .invalid then [.close h] else []
        rw [if_pos rfl]
  | drainSlept t h hpc hbusy => exact hs.goto (.drainSleeps h) hpc rfl rfl (fun _ hh => hh) nofun
  | announced t hpc => exact (hs.goto .out hpc rfl rfl nofun nofun).notifyAll.returns (hs.announcing t hpc)
  | awaited t hpc hclosed => exact (hs.goto .out hpc rfl rfl nofun nofun).returns hclosed
  | awaitSlept t hpc hnot => exact hs.goto .awaitSleeps hpc rfl rfl nofun nofun
  | woken t hsleeps =>
      refine hs.goto (s.pc t).woken rfl (by simp) (by simp) (fun h hh => by rwa [← Pc.holds_woken]) fun heq => ?_
      rw [(s.pc t).woken_eq_closed.mp heq] at hsleeps
      cases hsleeps

omit [DecidableEq T] in
theorem guarded_fresh (h₀ : SocketHandle) (hvalid : h₀ ≠ .invalid) : Guarded h₀ ({ handle := h₀ } : SocketState T) where
  active := (total_eq_zero fun _ => rfl).symm
  closers := total_eq_zero fun _ => rfl
  handle := .inl rfl
  closing := fun _ => rfl
  holds := nofun
  announcing := nofun
  returned := nofun
  calls := ⟨[], by simp, by simp [hvalid]⟩

theorem run_guarded (hvalid : h₀ ≠ .invalid) {actions : List (Action T)} (hs : s.Guarded h₀)
    (hrun : Lts.run step s actions = some s') : s'.Guarded h₀ :=
  Lts.run_preserves (fun _ _ _ hx hstep => hx.step hvalid (step_cases hstep)) hs hrun

/-- **A descriptor is closed once, and last.** However the threads that operate on a socket and those that close it
    interleave: every native call is on the socket's own descriptor; the descriptor is closed at most once, and
    no call follows; when it is closed, no thread is left that holds a copy; and a call of `close` has returned
    only if it is closed. -/
theorem socket_closed_once (hvalid : h₀ ≠ .invalid) {actions : List (Action T)}
    (hrun : Lts.run step { handle := h₀ } actions = some s) :
    (∃ earlier, (∀ c ∈ earlier, c = .io h₀ ∨ c = .shutdown h₀) ∧
      s.calls = earlier ++ if s.handle = .invalid then [.close h₀] else []) ∧
    (s.handle = .invalid → ∀ t, (s.pc t).holds = none) ∧ (0 < s.returned → s.handle = .invalid) := by
  have hs := run_guarded hvalid (guarded_fresh h₀ hvalid) hrun
  refine ⟨hs.calls, fun hclosed t => ?_, hs.returned⟩
  cases hholds : (s.pc t).holds with
  | none => rfl
  | some h =>
      obtain ⟨hhandle, -⟩ := hs.holds t h hholds
      exact absurd (hhandle.symm.trans hclosed) hvalid

end Safety

namespace Demo

/-- Thread 0 is receiving when threads 1 and 2 close the socket, and thread 3 comes too late. -/
def closedWhileReceiving : List (Action (Fin 4)) :=
  [.acquire 0, .io 0, .close 1 true, .close 2 true, .acquire 3]

/-- Thread 1 has to wait for thread 0, and thread 2 for thread 1. -/
def everybodyLeaves : List (Action (Fin 4)) :=
  [.shutdown 1, .drain 1, .release 0, .notifyReleased 0, .drain 1, .await 2, .notifyClosed 1]

end Demo

theorem socket_closed_once_receiving :
    ∃ s : SocketState (Fin 4),
      Lts.run step { handle := 5 } (Demo.closedWhileReceiving ++ Demo.everybodyLeaves) = some s ∧
      s.returned = 2 ∧ s.calls = [.io 5, .shutdown 5, .close 5] ∧ s.handle = .invalid ∧
      ∀ t, (s.pc t).holds = none := by
  have hfacts : ((Lts.run step ({ handle := 5 } : SocketState (Fin 4))
      (Demo.closedWhileReceiving ++ Demo.everybodyLeaves)).map fun s => (s.returned, s.calls)) =
        some (2, [.io 5, .shutdown 5, .close 5]) := by
    decide +kernel
  obtain ⟨s, hs, hfacts⟩ := Option.map_eq_some_iff.mp hfacts
  obtain ⟨hreturned, hcalls⟩ := Prod.mk.inj hfacts
  have hvalid : (5 : SocketHandle) ≠ .invalid := by decide
  obtain ⟨-, hnobody, hreturn⟩ := socket_closed_once hvalid hs
  have hclosed := hreturn (by omega)
  exact ⟨s, hs, hreturned, hcalls, hclosed, hnobody hclosed⟩

/-! ## Progress -/

section Progress

variable [Fintype T] {h₀ : SocketHandle} {s s' : SocketState T}

/-- No sleeper is forgotten: what it sleeps for is not there yet, or somebody is about to notify. -/
structure Attended (s : SocketState T) : Prop where
  drainers : ∀ t h, s.pc t = .drainSleeps h → 0 < s.activeOperations ∨ ∃ u, s.pc u = .released
  waiters : ∀ t, (s.pc t).waits = true → s.closing = true ∨ s.handle = .invalid
  sleepers : ∀ t, s.pc t = .awaitSleeps → s.handle = .invalid → ∃ u, s.pc u = .closed

omit [Fintype T] in
theorem exists_goto {t : T} {x pc : Pc} (hne : s.pc t ≠ x) (h : ∃ u, s.pc u = x) :
    ∃ u, (s.goto t pc).pc u = x := by
  obtain ⟨u, hu⟩ := h
  refine ⟨u, ?_⟩
  rw [goto_pc_of_ne _ (by rintro rfl; exact hne hu)]
  exact hu

omit [Fintype T] in
/-- A thread that is not about to notify takes a step to `pc`; `s'` may differ from `s` in the flags as well. -/
theorem Attended.goto (t : T) (pc : Pc) (hs : s.Attended) (hpc : s'.pc = (s.goto t pc).pc)
    (hreleased : s.pc t ≠ .released) (hclosed : s.pc t ≠ .closed)
    (hactive : 0 < s.activeOperations → 0 < s'.activeOperations ∨ pc = .released)
    (hflags : s.closing = true ∨ s.handle = .invalid → s'.closing = true ∨ s'.handle = .invalid)
    (hhandle : s'.handle = .invalid → s.handle = .invalid ∨ pc = .closed)
    (hdrain : ∀ h, pc = .drainSleeps h → 0 < s'.activeOperations)
    (hwaits : pc.waits = true → s'.closing = true ∨ s'.handle = .invalid)
    (hsleeps : pc = .awaitSleeps → s'.handle ≠ .invalid) : s'.Attended := by
  have hself : (s.goto t pc).pc t = pc := goto_pc_self s t pc
  refine ⟨fun u h hu => ?_, fun u hu => ?_, fun u hu hinvalid => ?_⟩
  · rw [hpc] at hu ⊢
    by_cases hut : u = t
    · rw [hut, hself] at hu
      exact .inl (hdrain h hu)
    · rw [goto_pc_of_ne _ hut] at hu
      rcases hs.drainers u h hu with hpos | hnotifier
      · exact (hactive hpos).imp_right fun heq => ⟨t, hself.trans heq⟩
      · exact .inr (exists_goto hreleased hnotifier)
  · rw [hpc] at hu
    by_cases hut : u = t
    · rw [hut, hself] at hu
      exact hwaits hu
    · rw [goto_pc_of_ne _ hut] at hu
      exact hflags (hs.waiters u hu)
  · rw [hpc] at hu ⊢
    by_cases hut : u = t
    · rw [hut, hself] at hu
      exact absurd hinvalid (hsleeps hu)
    · rw [goto_pc_of_ne _ hut] at hu
      rcases hhandle hinvalid with hbefore | heq
      · exact exists_goto hclosed (hs.sleepers u hu hbefore)
      · exact ⟨t, hself.trans heq⟩

omit [Fintype T] [DecidableEq T] in
/-- After a notification nobody sleeps. -/
theorem Attended.notifyAll (hwaiters : ∀ t, (s.pc t).waits = true → s.closing = true ∨ s.handle = .invalid) :
    s.notifyAll.Attended where
  drainers := fun t h ht => absurd ht ((s.pc t).woken_ne_drainSleeps h)
  waiters := fun t ht => hwaiters t (by rwa [← Pc.waits_woken])
  sleepers := fun t ht => absurd ht (s.pc t).woken_ne_awaitSleeps

omit [Fintype T] in
theorem Attended.waiters_goto (hs : s.Attended) (t : T) {pc : Pc} (hpc : pc.waits = false) :
    ∀ u, ((s.goto t pc).pc u).waits = true → s.closing = true ∨ s.handle = .invalid := by
  intro u hu
  by_cases hut : u = t
  · rw [hut, goto_pc_self, hpc] at hu
    cases hu
  · rw [goto_pc_of_ne _ hut] at hu
    exact hs.waiters u hu

omit [Fintype T] in
/-- **Every step keeps the sleepers attended.** -/
theorem Attended.step (hs : s.Attended) {a : Action T} (hstep : Step s a s') : s'.Attended := by
  cases hstep with
  | refused t hshut => exact hs
  | acquired t hpc hopen hnot =>
      exact .goto t (.operating s.handle) hs rfl (by simp [hpc]) (by simp [hpc])
        (fun _ => .inl (Nat.succ_pos _)) (fun h => h) .inl nofun nofun nofun
  | io t h hpc => exact ⟨hs.drainers, hs.waiters, hs.sleepers⟩
  | released t h hpc =>
      -- The count may be zero now, but this thread is about to notify.
      exact .goto t .released hs rfl (by simp [hpc]) (by simp [hpc]) (fun _ => .inr rfl) (fun h => h) .inl
        nofun nofun nofun
  | notified t hpc => exact .notifyAll (hs.waiters_goto t rfl)
  | found t unblock hclosed => exact ⟨hs.drainers, hs.waiters, hs.sleepers⟩
  | joined t unblock hpc hnot hclosing =>
      exact .goto t .awaitSleeps hs rfl (by simp [hpc]) (by simp [hpc]) .inl (fun h => h) .inl nofun
        (fun _ => .inl hclosing) fun _ => hnot
  | began t unblock hpc hnot hclosing =>
      exact .goto t (.shutting s.handle unblock) hs rfl (by simp [hpc]) (by simp [hpc]) .inl
        (fun _ => .inl rfl) .inl nofun nofun nofun
  | shut t h unblock calls hpc hcalls =>
      exact .goto t (.draining h) hs rfl (by simp [hpc]) (by simp [hpc]) .inl (fun h => h) .inl
        nofun nofun nofun
  | drained t h hpc hzero =>
      -- Those that wait for the descriptor to be closed are notified next.
      exact .goto t .closed hs rfl (by simp [hpc]) (by simp [hpc]) .inl (fun _ => .inr rfl)
        (fun _ => .inr rfl) nofun nofun nofun
  | drainSlept t h hpc hbusy =>
      exact .goto t (.drainSleeps h) hs rfl (by simp [hpc]) (by simp [hpc]) .inl (fun h => h) .inl
        (fun _ _ => Nat.pos_of_ne_zero hbusy) nofun nofun
  | announced t hpc =>
      have hnotified : (s.goto t .out).notifyAll.Attended := .notifyAll (hs.waiters_goto t rfl)
      exact ⟨hnotified.drainers, hnotified.waiters, hnotified.sleepers⟩
  | awaited t hpc hclosed =>
      exact .goto t .out hs rfl (by simp [hpc]) (by simp [hpc]) .inl (fun h => h) .inl nofun nofun nofun
  | awaitSlept t hpc hnot =>
      exact .goto t .awaitSleeps hs rfl (by simp [hpc]) (by simp [hpc]) .inl (fun h => h) .inl nofun
        (fun _ => hs.waiters t (by rw [hpc]; rfl)) fun _ => hnot
  | woken t hsleeps =>
      have hreleased : s.pc t ≠ .released := fun hpc => by simp [hpc, Pc.sleeps] at hsleeps
      have hclosed : s.pc t ≠ .closed := fun hpc => by simp [hpc, Pc.sleeps] at hsleeps
      exact .goto t (s.pc t).woken hs rfl hreleased hclosed .inl (fun h => h) .inl
        (fun h heq => absurd heq ((s.pc t).woken_ne_drainSleeps h))
        (fun hw => hs.waiters t (by rwa [← Pc.waits_woken]))
        fun heq => absurd heq (s.pc t).woken_ne_awaitSleeps

omit [Fintype T] [DecidableEq T] in
theorem attended_fresh (h₀ : SocketHandle) : Attended ({ handle := h₀ } : SocketState T) :=
  ⟨nofun, nofun, nofun⟩

/-- What is left to do for a thread, where a notification may give each of `n` sleepers one more thing to do. -/
def Pc.work (n : Nat) : Pc → Nat
  | .out | .awaitSleeps => 0
  | .awaiting => 1
  | .released | .closed => n + 1
  | .operating _ | .drainSleeps _ => n + 2
  | .draining _ => n + 3
  | .shutting _ _ => n + 4

theorem Pc.work_woken (n : Nat) (pc : Pc) : pc.woken.work n ≤ pc.work n + 1 := by
  cases pc <;> simp [woken, work]

/-- What is left to do for all threads. -/
def work (s : SocketState T) : Nat := total (Pc.work (Fintype.card T)) s.pc

theorem work_goto (s : SocketState T) (t : T) (pc : Pc) :
    (s.goto t pc).work + (s.pc t).work (Fintype.card T) = s.work + pc.work (Fintype.card T) :=
  total_goto (Pc.work (Fintype.card T)) s t pc

theorem work_goto_lt {t : T} {pc : Pc} (h : pc.work (Fintype.card T) < (s.pc t).work (Fintype.card T)) :
    (s.goto t pc).work < s.work := by
  have hsum := work_goto s t pc
  omega

/-- A thread that notifies is done, and each of the others may be woken by it. -/
theorem work_notify_lt {t : T} (h : (s.pc t).work (Fintype.card T) = Fintype.card T + 1) :
    (s.goto t .out).notifyAll.work < s.work := by
  have hsum := work_goto s t .out
  have hwoken : (s.goto t .out).notifyAll.work ≤ (s.goto t .out).work + Fintype.card T :=
    total_le_add_card fun u => ((s.goto t .out).pc u).work_woken (Fintype.card T)
  have hout : Pc.out.work (Fintype.card T) = 0 := rfl
  omega

/-- **Every step that continues a call leaves less to do.** -/
theorem Step.work_lt {a : Action T} (hstep : Step s a s') (ha : a.isInternal = true) : s'.work < s.work := by
  cases hstep with
  | released t h hpc =>
      show (s.goto t .released).work < s.work
      apply work_goto_lt
      simp [hpc, Pc.work]
  | notified t hpc =>
      apply work_notify_lt
      rw [hpc, Pc.work]
  | shut t h unblock calls hpc hcalls =>
      show (s.goto t (.draining h)).work < s.work
      apply work_goto_lt
      simp [hpc, Pc.work]
  | drained t h hpc hzero =>
      show (s.goto t .closed).work < s.work
      apply work_goto_lt
      simp [hpc, Pc.work]
  | drainSlept t h hpc hbusy =>
      apply work_goto_lt
      simp [hpc, Pc.work]
  | announced t hpc =>
      show (s.goto t .out).notifyAll.work < s.work
      apply work_notify_lt
      rw [hpc, Pc.work]
  | awaited t hpc hclosed =>
      show (s.goto t .out).work < s.work
      apply work_goto_lt
      simp [hpc, Pc.work]
  | awaitSlept t hpc hnot =>
      apply work_goto_lt
      simp [hpc, Pc.work]
  | _ => cases ha

/-- **Nobody is stuck.** When no call can be continued, no call is open. -/
theorem out_of_stuck (hg : s.Guarded h₀) (hs : s.Attended)
    (hstuck : ∀ a : Action T, a.isInternal = true → s.step a = none) (t : T) : s.pc t = .out := by
  -- A thread that is not asleep could take a step.
  have hrest : ∀ u, s.pc u = .out ∨ (∃ h, s.pc u = .drainSleeps h) ∨ s.pc u = .awaitSleeps := by
    intro u
    cases hpc : s.pc u with
    | out => exact .inl rfl
    | drainSleeps h => exact .inr (.inl ⟨h, rfl⟩)
    | awaitSleeps => exact .inr (.inr rfl)
    | operating h => simpa [step, hpc] using hstuck (.release u) rfl
    | released => simpa [step, hpc] using hstuck (.notifyReleased u) rfl
    | shutting h unblock =>
        have hnone := hstuck (.shutdown u) rfl
        cases unblock <;> simp [step, hpc] at hnone
    | draining h =>
        have hnone := hstuck (.drain u) rfl
        simp only [step, hpc] at hnone
        split_ifs at hnone
    | closed => simpa [step, hpc] using hstuck (.notifyClosed u) rfl
    | awaiting =>
        have hnone := hstuck (.await u) rfl
        simp only [step, hpc] at hnone
        split_ifs at hnone
  -- Nobody operates, so nobody sleeps in the drain.
  have hidle : s.activeOperations = 0 := by
    rw [hg.active]
    refine total_eq_zero fun u => ?_
    rcases hrest u with hu | ⟨h, hu⟩ | hu <;> rw [hu] <;> rfl
  have hnodrain : ∀ u h, s.pc u ≠ .drainSleeps h := by
    intro u h hu
    rcases hs.drainers u h hu with hpos | ⟨v, hv⟩
    · omega
    · rcases hrest v with hv' | ⟨h', hv'⟩ | hv' <;> rw [hv'] at hv <;> cases hv
  rcases hrest t with ht | ⟨h, ht⟩ | ht
  · exact ht
  · exact absurd ht (hnodrain t h)
  · -- Nobody closes, so the one this thread waits for is done, and about to notify.
    have hnobody : total Pc.closers s.pc = 0 := by
      refine total_eq_zero fun u => ?_
      rcases hrest u with hu | ⟨h, hu⟩ | hu
      · rw [hu]
        rfl
      · exact absurd hu (hnodrain u h)
      · rw [hu]
        rfl
    have hopen : s.closing ≠ true := by
      intro hclosing
      have hone := hg.closers
      rw [hclosing, hnobody] at hone
      cases hone
    have hclosed := (hs.waiters t (by rw [ht]; rfl)).resolve_left hopen
    obtain ⟨u, hu⟩ := hs.sleepers t ht hclosed
    rcases hrest u with hu' | ⟨h, hu'⟩ | hu' <;> rw [hu'] at hu <;> cases hu

omit [Fintype T] in
/-- A socket that is being closed is being closed until it is closed. -/
theorem Step.closing {a : Action T} (hstep : Step s a s') (h : s.closing = true ∨ s.handle = .invalid) :
    s'.closing = true ∨ s'.handle = .invalid := by
  cases hstep with
  | began t unblock hpc hnot hclosing => exact .inl rfl
  | drained t h hpc hzero => exact .inr rfl
  | _ => exact h

/-- **Closing completes.** From every state that the threads can reach, with any number of operations and calls of
    `close` under way and without a single spurious wakeup: the threads can only take finitely many steps to
    continue these calls, as many as `work` says; and when none of them can take a step, all of them are out,
    and a socket that was being closed is closed. -/
theorem close_completes (hvalid : h₀ ≠ .invalid) {actions rest : List (Action T)}
    (hrun : Lts.run SocketState.step { handle := h₀ } actions = some s)
    (hrest : ∀ a ∈ rest, a.isInternal = true) (hrun' : Lts.run SocketState.step s rest = some s') :
    rest.length ≤ s.work ∧
      ((∀ a : Action T, a.isInternal = true → s'.step a = none) → (∀ t, s'.pc t = .out) ∧
        (s.closing = true → s'.handle = .invalid ∧ .close h₀ ∈ s'.calls)) := by
  have hinv : ∀ {x y : SocketState T} {as : List (Action T)}, x.Attended →
      Lts.run SocketState.step x as = some y → y.Attended := fun hx hxy =>
    Lts.run_preserves (fun _ _ _ hz hstep => hz.step (step_cases hstep)) hx hxy
  have hg := run_guarded hvalid (guarded_fresh h₀ hvalid) hrun
  have hg' := run_guarded hvalid hg hrun'
  have hs := hinv (attended_fresh h₀) hrun
  have hlength := Lts.run_length_le (I := fun _ : SocketState T => True) (m := work)
    (fun _ _ _ _ ha hstep => ⟨trivial, (step_cases hstep).work_lt ha⟩) trivial hrest hrun'
  refine ⟨by omega, fun hstuck => ?_⟩
  have hout := out_of_stuck hg' (hinv hs hrun') hstuck
  refine ⟨hout, fun hclosing => ?_⟩
  have hflags : s'.closing = true ∨ s'.handle = .invalid :=
    Lts.run_preserves (I := fun x : SocketState T => x.closing = true ∨ x.handle = .invalid)
      (fun _ _ _ hx hstep => (step_cases hstep).closing hx) (.inl hclosing) hrun'
  -- Nobody is closing any more.
  have hopen : s'.closing ≠ true := by
    intro hstill
    have hone := hg'.closers
    rw [hstill, total_eq_zero fun t => by rw [hout t]; rfl] at hone
    cases hone
  have hclosed := hflags.resolve_left hopen
  obtain ⟨earlier, -, hcalls⟩ := hg'.calls
  refine ⟨hclosed, ?_⟩
  rw [hcalls, if_pos hclosed]
  exact List.mem_append_right _ List.mem_cons_self

end Progress

/-- Thread 1 sleeps until thread 0 is done, thread 2 until thread 1 is, and everybody gets out. -/
theorem close_completes_receiving :
    ∃ s s' : SocketState (Fin 4),
      Lts.run step { handle := 5 } Demo.closedWhileReceiving = some s ∧
      Lts.run step s Demo.everybodyLeaves = some s' ∧ s.closing = true ∧
      Demo.everybodyLeaves.length ≤ s.work ∧ s'.handle = .invalid ∧ .close 5 ∈ s'.calls := by
  have hfacts : ((Lts.run step ({ handle := 5 } : SocketState (Fin 4)) Demo.closedWhileReceiving).map fun s =>
      (s.closing, (Lts.run step s Demo.everybodyLeaves).map fun s' => decide (∀ t, s'.pc t = .out))) =
        some (true, some true) := by
    decide +kernel
  obtain ⟨s, hs, hfacts⟩ := Option.map_eq_some_iff.mp hfacts
  obtain ⟨hclosing, hrest⟩ := Prod.mk.inj hfacts
  obtain ⟨s', hs', hout⟩ := Option.map_eq_some_iff.mp hrest
  have hout := of_decide_eq_true hout
  have hvalid : (5 : SocketHandle) ≠ .invalid := by decide
  obtain ⟨hlength, hend⟩ := close_completes hvalid hs (by decide) hs'
  have hstuck : ∀ a : Action (Fin 4), a.isInternal = true → s'.step a = none := by
    intro a ha
    cases a <;> first | (cases ha; done) | simp [step, hout]
  obtain ⟨hclosed, hcall⟩ := (hend hstuck).2 hclosing
  exact ⟨s, s', hs, hs', hclosing, hlength, hclosed, hcall⟩

end SocketState

end ComputeFabric
