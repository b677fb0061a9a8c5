import ComputeFabric.Coordinator.Crash
import ComputeFabric.Persist.Format

/-!
# `Persist.Disk` — a save on the disk

To the coordinator a save is one effect: it happens or it does not (`Coordinator.Crash`). On the disk it is a
temporary file that is opened, filled piece by piece and renamed, and the process may die anywhere in between.
`Disk` is that level, with every failure `write_file_atomic` can meet and whatever earlier processes left in the
temporary file. A rename is atomic; what a power failure does to a file that was never synced is not modelled.

`saves_atomic` connects the levels: at every moment the file loads as the last of a list of effects that explains
how the calls of `save` ended.
-/

namespace ComputeFabric

variable {D : Type}

namespace Store

/-- How a call of `Store::save` ended. -/
inductive Outcome where
  | returned
  | failed
  /-- The process died in the call. -/
  | died
deriving DecidableEq

/-- Where the process is in `write_file_atomic`. -/
inductive WritePc (D : Type) where
  | idle
  /-- The temporary file is open, and `rest` has not got into it. -/
  | writing (d : DurableState D) (rest : List UInt8)
  /-- Between the rename and the return. -/
  | renamed (d : DurableState D)

/-- `path` and `path + ".tmp"`, the process, and the calls that have ended, the newest first. -/
structure Disk (D : Type) where
  file : Option (List UInt8) := none
  tmp : Option (List UInt8) := none
  pc : WritePc D := .idle
  calls : List (DurableState D × Outcome) := []

inductive DiskAction (D : Type) where
  /-- `save` is called and the temporary file opened, which truncates it. -/
  | opens (d : DurableState D)
  | openFails (d : DurableState D)
  /-- The next `n` bytes get into the temporary file. -/
  | writes (n : Nat)
  /-- The stream has failed. `late` is what gets out when it is destroyed. -/
  | writeFails (late : List UInt8)
  | renames
  | renameFails
  | returns
  | dies

namespace Disk

def ends (s : Disk D) (d : DurableState D) (outcome : Outcome) : Disk D :=
  { s with pc := .idle, calls := (d, outcome) :: s.calls }

/-- One step of `write_file_atomic`. The rename comes after the flush, so only when everything is written. -/
def step [DoubleBits D] (s : Disk D) : DiskAction D → Option (Disk D)
  | .opens d =>
      match s.pc with
      | .idle => some { s with tmp := some [], pc := .writing d (save d) }
      | _ => none
  | .openFails d =>
      match s.pc with
      | .idle => some (s.ends d .failed)
      | _ => none
  | .writes n =>
      match s.pc with
      | .writing d rest => some { s with
          tmp := s.tmp.map fun written => written ++ rest.take n
          pc := .writing d (rest.drop n) }
      | _ => none
  | .writeFails late =>
      match s.pc with
      | .writing d _ => some ({ s with tmp := s.tmp.map fun written => written ++ late }.ends d .failed)
      | _ => none
  | .renames =>
      match s.pc with
      | .writing d [] => some { s with file := s.tmp, tmp := none, pc := .renamed d }
      | _ => none
  | .renameFails =>
      match s.pc with
      | .writing d [] => some (s.ends d .failed)
      | _ => none
  | .returns =>
      match s.pc with
      | .renamed d => some (s.ends d .returned)
      | _ => none
  | .dies =>
      match s.pc with
      | .idle => some s
      | .writing d _ | .renamed d => some (s.ends d .died)

/-- The calls of `save`, if the process died now. -/
def interrupted (s : Disk D) : List (DurableState D × Outcome) :=
  match s.pc with
  | .idle => s.calls
  | .writing d _ | .renamed d => (d, .died) :: s.calls

end Disk

/-! ## The effects of the calls -/

/-- The effects a list of calls may have had. A call that returned has saved, a call that failed has not; and a call
    in which the process died has, or has not. -/
inductive Explains : List (DurableState D × Outcome) → List (Effect D) → Prop
  | nothing : Explains [] []
  | returned {calls effects} (d : DurableState D) (h : Explains calls effects) :
      Explains ((d, .returned) :: calls) (.saved d :: effects)
  | failed {calls effects} (d : DurableState D) (h : Explains calls effects) :
      Explains ((d, .failed) :: calls) (.saveFailed :: effects)
  | diedBefore {calls effects} (d : DurableState D) (h : Explains calls effects) :
      Explains ((d, .died) :: calls) effects
  | diedAfter {calls effects} (d : DurableState D) (h : Explains calls effects) :
      Explains ((d, .died) :: calls) (.saved d :: effects)

namespace Disk

variable [DoubleBits D] {s s' : Disk D}

/-- The file holds what the last effect of `calls` wrote, within the limits of the loader. -/
def HoldsLast (file : Option (List UInt8)) (calls : List (DurableState D × Outcome)) : Prop :=
  ∃ effects, Explains calls effects ∧ (∀ d, .saved d ∈ effects → Storable d) ∧ file = (lastSaved effects).map save

/-- **The disk between two steps.** Until the rename the file is the old one, and what is written to the temporary
    file and what is left to write make up the new one. -/
def Atomic (s : Disk D) : Prop :=
  match s.pc with
  | .idle => HoldsLast s.file s.calls
  | .writing d rest =>
      HoldsLast s.file s.calls ∧ Storable d ∧ ∃ written, s.tmp = some written ∧ written ++ rest = save d
  | .renamed d => (∃ old, HoldsLast old s.calls) ∧ Storable d ∧ s.file = some (save d)

theorem HoldsLast.failed {file : Option (List UInt8)} {calls : List (DurableState D × Outcome)}
    (h : HoldsLast file calls) (d : DurableState D) : HoldsLast file ((d, .failed) :: calls) := by
  obtain ⟨effects, hexplains, hstorable, hfile⟩ := h
  refine ⟨.saveFailed :: effects, .failed d hexplains, fun d' hd' => ?_, hfile⟩
  exact hstorable d' ((List.mem_cons.mp hd').resolve_left nofun)

theorem HoldsLast.diedBefore {file : Option (List UInt8)} {calls : List (DurableState D × Outcome)}
    (h : HoldsLast file calls) (d : DurableState D) : HoldsLast file ((d, .died) :: calls) := by
  obtain ⟨effects, hexplains, hrest⟩ := h
  exact ⟨effects, .diedBefore d hexplains, hrest⟩

/-- After the rename the call has saved, whether it returns or not. -/
theorem HoldsLast.renamed {old : Option (List UInt8)} {calls : List (DurableState D × Outcome)}
    (h : HoldsLast old calls) {d : DurableState D} (hd : Storable d) {outcome : Outcome}
    (houtcome : outcome = .returned ∨ outcome = .died) :
    HoldsLast (some (save d)) ((d, outcome) :: calls) := by
  obtain ⟨effects, hexplains, hstorable, -⟩ := h
  refine ⟨.saved d :: effects, ?_, fun d' hd' => ?_, rfl⟩
  · rcases houtcome with rfl | rfl
    · exact .returned d hexplains
    · exact .diedAfter d hexplains
  · rcases List.mem_cons.mp hd' with heq | hold
    · cases heq
      exact hd
    · exact hstorable d' hold

/-- **Every step keeps the disk atomic.** -/
theorem Atomic.step (hs : s.Atomic) {a : DiskAction D} (ha : ∀ d, a = .opens d → Storable d)
    (hstep : s.step a = some s') : s'.Atomic := by
  unfold Atomic at hs
  cases a with
  | opens d =>
      dsimp only [Disk.step] at hstep
      split at hstep
      · next hpc =>
          rw [hpc] at hs
          cases hstep
          exact ⟨hs, ha d rfl, [], rfl, rfl⟩
      · cases hstep
  | openFails d =>
      dsimp only [Disk.step] at hstep
      split at hstep
      · next hpc =>
          rw [hpc] at hs
          cases hstep
          exact hs.failed d
      · cases hstep
  | writes n =>
      dsimp only [Disk.step] at hstep
      split at hstep
      · next d rest hpc =>
          rw [hpc] at hs
          obtain ⟨hlast, hd, written, htmp, hall⟩ := hs
          cases hstep
          refine ⟨hlast, hd, written ++ rest.take n, by simp [htmp], ?_⟩
          rw [List.append_assoc, List.take_append_drop]
          exact hall
      · cases hstep
  | writeFails late =>
      dsimp only [Disk.step] at hstep
      split at hstep
      · next d rest hpc =>
          rw [hpc] at hs
          cases hstep
          exact hs.1.failed d
      · cases hstep
  | renames =>
      dsimp only [Disk.step] at hstep
      split at hstep
      · next d hpc =>
          rw [hpc] at hs
          obtain ⟨hlast, hd, written, htmp, hall⟩ := hs
          cases hstep
          rw [List.append_nil] at hall
          exact ⟨⟨_, hlast⟩, hd, by rw [htmp, hall]⟩
      · cases hstep
  | renameFails =>
      dsimp only [Disk.step] at hstep
      split at hstep
      · next d hpc =>
          rw [hpc] at hs
          cases hstep
          exact hs.1.failed d
      · cases hstep
  | returns =>
      dsimp only [Disk.step] at hstep
      split at hstep
      · next d hpc =>
          rw [hpc] at hs
          obtain ⟨⟨old, hlast⟩, hd, hfile⟩ := hs
          cases hstep
          show HoldsLast s.file _
          rw [hfile]
          exact hlast.renamed hd (.inl rfl)
      · cases hstep
  | dies =>
      dsimp only [Disk.step] at hstep
      split at hstep
      · next hpc =>
          rw [hpc] at hs
          cases hstep
          rw [Atomic, hpc]
          exact hs
      · next d rest hpc =>
          rw [hpc] at hs
          cases hstep
          exact hs.1.diedBefore d
      · next d hpc =>
          rw [hpc] at hs
          obtain ⟨⟨old, hlast⟩, hd, hfile⟩ := hs
          cases hstep
          show HoldsLast s.file _
          rw [hfile]
          exact hlast.renamed hd (.inr rfl)

/-- What a process would find that starts now. -/
theorem Atomic.interrupted (hs : s.Atomic) : HoldsLast s.file s.interrupted := by
  unfold Atomic at hs
  unfold Disk.interrupted
  cases hpc : s.pc with
  | idle =>
      rw [hpc] at hs
      exact hs
  | writing d rest =>
      rw [hpc] at hs
      exact hs.1.diedBefore d
  | renamed d =>
      rw [hpc] at hs
      obtain ⟨⟨old, hlast⟩, hd, hfile⟩ := hs
      rw [hfile]
      exact hlast.renamed hd (.inr rfl)

end Disk

/-- **A save is atomic.** Over every sequence of calls of `save`, with failures of every kind, processes that die
    anywhere and what they leave behind: at every moment, the file that the next process finds loads as the state
    that the last of the effects wrote, where a call has its effect if it returned, none if it failed, and either if
    the process died in it. -/
theorem saves_atomic [DoubleBits D] {leftover : Option (List UInt8)} {actions : List (DiskAction D)} {s : Disk D}
    (hrun : Lts.run Disk.step { tmp := leftover } actions = some s)
    (hstorable : ∀ d, .opens d ∈ actions → Storable d) :
    ∃ effects, Explains s.interrupted effects ∧ s.file.map load = (lastSaved effects).map Except.ok := by
  have hatomic : s.Atomic := by
    refine Lts.run_preserves_of_mem (I := Disk.Atomic) (P := fun a => ∀ d, a = .opens d → Storable d)
      (fun _ _ _ hx ha hstep => hx.step ha hstep) ?_ ?_ hrun
    · exact ⟨[], .nothing, fun _ hd => absurd hd List.not_mem_nil, rfl⟩
    · rintro a ha d rfl
      exact hstorable d ha
  obtain ⟨effects, hexplains, hall, hfile⟩ := hatomic.interrupted
  refine ⟨effects, hexplains, ?_⟩
  rw [hfile]
  cases hlast : lastSaved effects with
  | none => rfl
  | some d => exact congrArg some (load_save (hall d (mem_of_lastSaved hlast)))

/-- The first process dies while it writes, the second cannot write, and the third dies after the rename. -/
def Demo.interruptedSaves : List (DiskAction UInt64) :=
  [.opens sample, .writes 7, .dies, .opens sample, .writeFails [9], .opens sample, .writes 100000, .renames, .dies]

theorem saves_atomic_interruptedSaves :
    ∃ s effects, Lts.run Disk.step { tmp := some [1, 2] } Demo.interruptedSaves = some s ∧
      s.calls.map Prod.snd = [.died, .failed, .died] ∧ s.file.isSome = true ∧
      Explains s.interrupted effects ∧ s.file.map load = (lastSaved effects).map Except.ok := by
  have hfacts : ((Lts.run Disk.step { tmp := some [1, 2] } Demo.interruptedSaves).map fun s =>
      (s.calls.map Prod.snd, s.file.isSome)) = some ([.died, .failed, .died], true) := by
    decide +kernel
  obtain ⟨s, hs, hvalues⟩ := Option.map_eq_some_iff.mp hfacts
  obtain ⟨hcalls, hfile⟩ := Prod.mk.inj hvalues
  obtain ⟨effects, hexplains, hload⟩ := saves_atomic hs fun d hd => by
    have hsample : d = sample := by simpa [Demo.interruptedSaves] using hd
    exact hsample ▸ storable_sample
  exact ⟨s, effects, hs, hcalls, hfile, hexplains, hload⟩

end Store

end ComputeFabric
