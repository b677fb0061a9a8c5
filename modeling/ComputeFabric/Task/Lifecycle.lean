import Mathlib

/-!
# `Task.Lifecycle` — the task state machine

`TaskState` and the transition table `isLegal` of `TaskLifecycle`. A state is read from the store with an
unchecked `static_cast` from a byte, so `unlisted` stands for the bytes without a name. The table is the only gate
between states: `TaskGraph.setState` consults it on every runtime transition, and most callers ignore the error,
so what the table refuses silently does not happen. The lemmas below read off the shape of the table that the
coordinator invariants rest on — which states absorb, and by which states a set of states is entered.
-/

namespace ComputeFabric

inductive TaskState where
  | submitted | blocked | ready | planning | reserved | dispatching | running
  | succeeded | failed | retryPending | cancelled | lost | preempted | expired
  | unlisted (v : Fin 242)
deriving DecidableEq, Inhabited

namespace TaskState

/-- `task_state_name`. -/
def name : TaskState → String
  | submitted => "Submitted"
  | blocked => "Blocked"
  | ready => "Ready"
  | planning => "Planning"
  | reserved => "Reserved"
  | dispatching => "Dispatching"
  | running => "Running"
  | succeeded => "Succeeded"
  | failed => "Failed"
  | retryPending => "RetryPending"
  | cancelled => "Cancelled"
  | lost => "Lost"
  | preempted => "Preempted"
  | expired => "Expired"
  | unlisted _ => "Unknown"

/-- The states in the order of their numeric values (the loop of `parse_task_state`). -/
def all : List TaskState :=
  [submitted, blocked, ready, planning, reserved, dispatching, running,
   succeeded, failed, retryPending, cancelled, lost, preempted, expired]

def toUInt8 : TaskState → UInt8
  | submitted => 0
  | blocked => 1
  | ready => 2
  | planning => 3
  | reserved => 4
  | dispatching => 5
  | running => 6
  | succeeded => 7
  | failed => 8
  | retryPending => 9
  | cancelled => 10
  | lost => 11
  | preempted => 12
  | expired => 13
  | unlisted v => UInt8.ofNat (14 + v)

/-- `static_cast<TaskState>(byte)`. -/
def ofUInt8 (b : UInt8) : TaskState := all.getD b.toNat (unlisted (Fin.ofNat 242 (b.toNat - 14)))

/-- `is_terminal`. -/
def isTerminal : TaskState → Bool
  | succeeded | failed | cancelled | lost | preempted | expired => true
  | _ => false

/-- `is_active`: states that imply outstanding execution authority. -/
def isActive : TaskState → Bool
  | planning | reserved | dispatching | running => true
  | _ => false

/-- `TaskLifecycle::is_legal`. -/
def isLegal (src dst : TaskState) : Bool :=
  if src = dst then true else
  match src with
  | submitted => dst = blocked || dst = ready || dst = cancelled || dst = expired
  | blocked => dst = ready || dst = cancelled || dst = expired
  | ready => dst = planning || dst = cancelled || dst = expired
  | planning => dst = reserved || dst = ready || dst = cancelled || dst = lost || dst = expired
  | reserved =>
      dst = dispatching || dst = ready || dst = cancelled || dst = lost || dst = preempted ||
      dst = expired
  | dispatching =>
      dst = running || dst = ready || dst = lost || dst = cancelled || dst = preempted ||
      dst = expired
  | running =>
      dst = succeeded || dst = failed || dst = lost || dst = preempted || dst = retryPending ||
      dst = cancelled || dst = expired
  | failed => dst = retryPending
  | lost => dst = retryPending || dst = failed
  | preempted => dst = retryPending || dst = ready || dst = failed
  | retryPending => dst = ready || dst = cancelled || dst = expired
  | succeeded | cancelled | expired | unlisted _ => false

/-- The states no legal transition leaves. -/
def isAbsorbing : TaskState → Bool
  | succeeded | cancelled | expired => true
  | _ => false

/-- States of a task that holds execution slots: granted, sent or running. -/
def holdsSlots : TaskState → Bool
  | reserved | dispatching | running => true
  | _ => false

/-- States of a task considered executing on a node. -/
def isExecuting : TaskState → Bool
  | dispatching | running => true
  | _ => false

/-- States a task reaches only once its dependencies have committed. -/
def isPastGate : TaskState → Bool
  | ready | planning | reserved | dispatching | running | succeeded | failed | retryPending | lost
  | preempted => true
  | _ => false

/-- The states the coordinator asks for. `Submitted` is what `add_task` leaves, and no code names the others. -/
def isEntered : TaskState → Bool
  | submitted | unlisted _ => false
  | _ => true

/-- `next src dst`: what a `set_state` whose result is ignored leaves behind. -/
def next (src dst : TaskState) : TaskState := if isLegal src dst then dst else src

/-! ## The shape of the table -/

/-- A state that was not asked for was there before. -/
theorem eq_of_next_eq {src dst st : TaskState} (h : next src dst = st) (hne : dst ≠ st) : src = st := by
  unfold next at h
  split_ifs at h
  · exact absurd h hne
  · exact h

/-- A state that was asked for and is there could be asked for. -/
theorem isLegal_of_next_eq {src dst : TaskState} (h : next src dst = dst) : src.isLegal dst = true := by
  unfold next at h
  split_ifs at h with hlegal
  · exact hlegal
  · simp [h, isLegal]

theorem next_absorbing {src : TaskState} (h : src.isAbsorbing = true) (dst : TaskState) :
    next src dst = src := by
  cases src <;> cases dst <;> first | rfl | cases h

/-- A gated state other than `ready` is entered only from a gated state. -/
theorem isPastGate_of_next {src dst : TaskState} (hd : dst ≠ ready)
    (h : (next src dst).isPastGate = true) : src.isPastGate = true := by
  unfold next at h
  split_ifs at h with hlegal
  · cases src <;> cases dst <;> first | rfl | exact absurd rfl hd | (cases h; done) | cases hlegal
  · exact h

/-- `succeeded` is entered only from `running`. -/
theorem next_eq_succeeded {src dst : TaskState} :
    next src dst = succeeded ↔ src = succeeded ∨ (src = running ∧ dst = succeeded) := by
  unfold next
  split_ifs with hlegal
  · cases src <;> cases dst <;> first | (cases hlegal; done) | simp
  · cases src <;> cases dst <;> first | exact absurd rfl hlegal | simp

end TaskState

end ComputeFabric
