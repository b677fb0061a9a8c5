import ComputeFabric.Coordinator.Steps

/-!
# `Coordinator.Cascade` — what a success sets off

`on_task_succeeded_recursive` goes over the dependents of a task that has succeeded. It promotes those whose
dependencies have now all succeeded, and it tries to fail those with a poisoned dependency — which writes
nothing, since the lifecycle table leads from `Blocked` neither to `Lost` nor to `Failed`.

- `Cascaded` — the frame: blocked tasks may have become ready, and nothing else is touched.
- `onTaskSucceededRecursive_clears` — no dependent is left blocked with all its dependencies succeeded.
-/

namespace ComputeFabric

open Coordinator

variable {D : Type}

/-- Between `s` and `s'` some blocked tasks were promoted, and the clock was read. -/
structure Cascaded (s s' : Coordinator D) : Prop where
  tasks : s'.graph.tasks = s.graph.tasks
  deps : s'.graph.deps = s.graph.deps
  dependents : s'.graph.dependents = s.graph.dependents
  attempts : s'.attempts = s.attempts
  states : ∀ t : ComputeTaskId, s'.graph.states[t]? = s.graph.states[t]? ∨
    s.graph.states[t]? = some .blocked ∧ s'.graph.states[t]? = some .ready
  durable : s'.durable = s.durable
  placementRecords : s'.placementRecords = s.placementRecords
  file : s'.file = s.file
  effects : s'.effects = s.effects
  saves : s'.saves = s.saves

namespace Cascaded

variable {s s' s'' : Coordinator D}

theorem refl (s : Coordinator D) : Cascaded s s :=
  ⟨rfl, rfl, rfl, rfl, fun _ => .inl rfl, rfl, rfl, rfl, rfl, rfl⟩

theorem trans (h : Cascaded s s') (h' : Cascaded s' s'') : Cascaded s s'' where
  tasks := h'.tasks.trans h.tasks
  deps := h'.deps.trans h.deps
  dependents := h'.dependents.trans h.dependents
  attempts := h'.attempts.trans h.attempts
  states t := by
    rcases h'.states t with hsame | ⟨hblocked, hready⟩
    · rw [hsame]
      exact h.states t
    · rcases h.states t with hsame | ⟨hblocked', hready'⟩
      · exact .inr ⟨hsame ▸ hblocked, hready⟩
      · rw [hready'] at hblocked
        cases hblocked
  durable := h'.durable.trans h.durable
  placementRecords := h'.placementRecords.trans h.placementRecords
  file := h'.file.trans h.file
  effects := h'.effects.trans h.effects
  saves := h'.saves.trans h.saves

/-- A cascade neither makes a task succeed nor takes a success back. -/
theorem succeeded_iff (h : Cascaded s s') (t : ComputeTaskId) :
    s'.graph.states[t]? = some .succeeded ↔ s.graph.states[t]? = some .succeeded := by
  rcases h.states t with hsame | ⟨hblocked, hready⟩
  · rw [hsame]
  · rw [hblocked, hready]
    simp

theorem blocked (h : Cascaded s s') {t : ComputeTaskId} (ht : s'.graph.states[t]? = some .blocked) :
    s.graph.states[t]? = some .blocked := by
  rcases h.states t with hsame | ⟨hblocked, -⟩
  · rwa [hsame] at ht
  · exact hblocked

theorem dependenciesSatisfied (h : Cascaded s s') (t : ComputeTaskId) :
    s'.graph.dependenciesSatisfied t = s.graph.dependenciesSatisfied t := by
  unfold TaskGraph.dependenciesSatisfied TaskGraph.dependencies
  rw [h.deps]
  exact congrArg _ (funext fun d => decide_eq_decide.mpr (h.succeeded_iff d))

theorem coherent (h : Cascaded s s') (hs : s.graph.Coherent) : s'.graph.Coherent := by
  refine hs.congr h.tasks (fun t => ?_) h.deps
  rcases h.states t with hsame | ⟨hblocked, hready⟩
  · rw [hsame]
  · rw [hblocked, hready]
    rfl

end Cascaded

/-- The task is blocked although its dependencies have all succeeded. -/
def TaskGraph.Overdue (g : TaskGraph D) (t : ComputeTaskId) : Prop :=
  g.states[t]? = some .blocked ∧ g.dependenciesSatisfied t = true

theorem Cascaded.overdue {s s' : Coordinator D} (h : Cascaded s s') {t : ComputeTaskId}
    (ht : s'.graph.Overdue t) : s.graph.Overdue t :=
  ⟨h.blocked ht.1, (h.dependenciesSatisfied t) ▸ ht.2⟩

section Cascade

variable (env : Env)

theorem unblockTask_cascaded (s : Coordinator D) (t : ComputeTaskId) : Cascaded s (s.unblockTask env t) := by
  unfold unblockTask
  split_ifs with hready
  · have hblocked := (Ledger.state_eq_iff (by decide)).mp hready.1
    refine ⟨?_, ?_, ?_, rfl, ?_, rfl, rfl, rfl, rfl, rfl⟩
    · exact TaskGraph.trySetState_tasks _ _ _
    · exact TaskGraph.trySetState_deps _ _ _
    · exact TaskGraph.trySetState_dependents _ _ _
    · intro u
      show (s.graph.trySetState t .ready).states[u]? = _ ∨ _ ∧ (s.graph.trySetState t .ready).states[u]? = _
      rw [TaskGraph.getElem?_states_trySetState]
      split_ifs with hu
      · subst hu
        exact .inr ⟨hblocked, by rw [hblocked]; rfl⟩
      · exact .inl rfl
  · exact .refl s

/-- A promotion leaves its task ready, or waiting for a dependency. -/
theorem unblockTask_clears (s : Coordinator D) (t : ComputeTaskId) :
    ¬(s.unblockTask env t).graph.Overdue t := by
  rintro ⟨hblocked, hsat⟩
  have hcascaded := unblockTask_cascaded env s t
  have hready : s.graph.state t = .blocked ∧ s.graph.dependenciesSatisfied t = true :=
    ⟨(Ledger.state_eq_iff (by decide)).mpr (hcascaded.blocked hblocked),
      (hcascaded.dependenciesSatisfied t) ▸ hsat⟩
  unfold unblockTask at hblocked
  rw [if_pos hready] at hblocked
  have hmoved : (s.graph.trySetState t .ready).states[t]? = some .blocked := hblocked
  rw [TaskGraph.getElem?_states_trySetState, if_pos rfl, (Ledger.state_eq_iff (by decide)).mp hready.1] at hmoved
  cases hmoved

omit env in
theorem onLedger_eq_self {s : Coordinator D} {f : Ledger D → Ledger D} (h : f s.toLedger = s.toLedger) :
    s.onLedger f = s := by
  unfold onLedger
  rw [h]

/-- One round of the loop: promotion, then the attempt to poison. -/
def cascadeRound (fuel : Nat) (s : Coordinator D) (dep : ComputeTaskId) : Coordinator D :=
  let s := s.unblockTask env dep
  if s.graph.dependencyPoisoned dep = true ∧
      (s.graph.state dep = .blocked ∨ s.graph.state dep = .submitted) then
    onTaskSucceededRecursive env fuel dep
      (s.onLedger fun l => (l.setState dep .lost).setState dep .failed)
  else s

theorem onTaskSucceededRecursive_succ (fuel : Nat) (id : ComputeTaskId) (s : Coordinator D) :
    onTaskSucceededRecursive env (fuel + 1) id s = (s.graph.dependentsOf id).foldl (cascadeRound env fuel) s :=
  rfl

/-- Poisoning writes nothing, so a round is a promotion and perhaps a deeper cascade. -/
theorem cascadeRound_eq (fuel : Nat) (s : Coordinator D) (dep : ComputeTaskId) :
    cascadeRound env fuel s dep = s.unblockTask env dep ∨
      cascadeRound env fuel s dep = onTaskSucceededRecursive env fuel dep (s.unblockTask env dep) := by
  unfold cascadeRound
  dsimp only
  split_ifs with hpoison
  · rw [onLedger_eq_self (poison_ledger hpoison.2)]
    exact .inr rfl
  · exact .inl rfl

/-- The cascade only promotes, at every depth of its recursion. -/
theorem onTaskSucceededRecursive_cascaded (fuel : Nat) :
    ∀ (id : ComputeTaskId) (s : Coordinator D), Cascaded s (onTaskSucceededRecursive env fuel id s) := by
  induction fuel with
  | zero =>
      intro id s
      exact .refl s
  | succ fuel ih =>
      intro id s
      rw [onTaskSucceededRecursive_succ]
      refine List.foldlRecOn (motive := fun x => Cascaded s x) _ _ (.refl s) ?_
      intro x hx dep _
      refine hx.trans ((unblockTask_cascaded env x dep).trans ?_)
      rcases cascadeRound_eq env fuel x dep with hround | hround <;> rw [hround]
      · exact .refl _
      · exact ih dep _

theorem cascadeRound_cascaded (fuel : Nat) (s : Coordinator D) (dep : ComputeTaskId) :
    Cascaded (s.unblockTask env dep) (cascadeRound env fuel s dep) := by
  rcases cascadeRound_eq env fuel s dep with hround | hround <;> rw [hround]
  · exact .refl _
  · exact onTaskSucceededRecursive_cascaded env fuel dep _

/-- **The cascade is thorough**: it leaves no dependent blocked whose dependencies have all succeeded. -/
theorem onTaskSucceededRecursive_clears (fuel : Nat) (id : ComputeTaskId) (s : Coordinator D)
    {t : ComputeTaskId} (ht : t ∈ s.graph.dependentsOf id) :
    ¬(onTaskSucceededRecursive env (fuel + 1) id s).graph.Overdue t := by
  rw [onTaskSucceededRecursive_succ]
  -- the rounds before the task's own do not matter, and those after it cannot undo its promotion
  obtain ⟨before, after, hlist⟩ := List.append_of_mem ht
  rw [hlist, List.foldl_append, List.foldl_cons]
  generalize before.foldl (cascadeRound env fuel) s = x
  have hafter : Cascaded (cascadeRound env fuel x t)
      (after.foldl (cascadeRound env fuel) (cascadeRound env fuel x t)) := by
    refine List.foldlRecOn (motive := fun y => Cascaded (cascadeRound env fuel x t) y) _ _ (.refl _) ?_
    intro y hy dep _
    exact hy.trans ((unblockTask_cascaded env y dep).trans (cascadeRound_cascaded env fuel y dep))
  intro hoverdue
  exact unblockTask_clears env x t ((cascadeRound_cascaded env fuel x t).overdue (hafter.overdue hoverdue))

end Cascade

/-! ## The commit -/

section Commit

variable [DoubleArith D] (env : Env) (conn : ConnId) (req : UInt64) (co : AttemptComplete D)

/-- A commit up to its acknowledgement: the books, the scheduler's history, and the reply. -/
def Coordinator.commitAndReply (p : AttemptPtr) (a : ExecutionAttempt D) (s : Coordinator D) : Coordinator D :=
  ((s.tick.onLedger fun l => l.commitAttempt p a co (s.now env)).recordCompletion a co).queueOutbound env conn
    req (.attemptCompleteAck ⟨co.attemptId, true, []⟩)

theorem commitAndReply_toLedger (p : AttemptPtr) (a : ExecutionAttempt D) (s : Coordinator D) :
    (s.commitAndReply env conn req co p a).toLedger = s.toLedger.commitAttempt p a co (s.now env) := by
  unfold commitAndReply
  rw [queueOutbound_toLedger, recordCompletion_toLedger]
  rfl

theorem commitAndReply_store (p : AttemptPtr) (a : ExecutionAttempt D) (s : Coordinator D) :
    (s.commitAndReply env conn req co p a).file = s.file ∧
      (s.commitAndReply env conn req co p a).durable = s.durable := by
  unfold commitAndReply recordCompletion queueOutbound
  split <;> split_ifs <;> exact ⟨rfl, rfl⟩

/-- **A completion that commits**: the acknowledgement comes before the cascade, and the save comes last. -/
theorem handleAttemptComplete_of_commits {s : Coordinator D} {a : ExecutionAttempt D}
    (h : s.commits co = some a) : ∃ p, s.findActiveAttempt co.attemptId = some (p, a) ∧
      s.handleAttemptComplete env conn req co =
        (onTaskSucceededRecursive env ((s.commitAndReply env conn req co p a).graph.tasks.size + 1) a.taskId
          (s.commitAndReply env conn req co p a)).persist env := by
  obtain ⟨p, hfind, hcommitted, hcancel, hvalid⟩ := commits_eq_some_iff.mp h
  refine ⟨p, hfind, ?_⟩
  unfold handleAttemptComplete
  simp only [hfind, hcommitted, hcancel, hvalid, Bool.false_eq_true, if_false]
  rfl

end Commit

end ComputeFabric
