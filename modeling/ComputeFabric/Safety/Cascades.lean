import ComputeFabric.Coordinator.Cascade
import ComputeFabric.Safety.Gating
import ComputeFabric.Safety.Rebuild
import ComputeFabric.Task.Cycles

/-!
# `Safety.Cascades` — the success cascade ends

`on_task_succeeded_recursive` calls itself on dependents and marks nothing as visited, and the guard of the call
stays true when the lifecycle table refuses the states it asks for. What ends it is the graph: in every reachable
state `dependents_` has no edge that `deps_` lacks, and `deps_` has no cycle.

- `Cascades` — the recursion of the source as a relation, with no bound on its depth.
- `onTaskSucceededRecursive_cascades` — the bounded function of the model computes it as soon as the bound exceeds
  the rank of the task.
- `cascade_terminates` — in every state the coordinator passes through, from every id.
-/

namespace ComputeFabric

open Coordinator

variable {D : Type}

/-! ## The recursion -/

/-- The guard of the recursive call: a dependency of `dep` is poisoned and `dep` still waits. -/
def Coordinator.isPoisoned (s : Coordinator D) (dep : ComputeTaskId) : Prop :=
  s.graph.dependencyPoisoned dep = true ∧ (s.graph.state dep = .blocked ∨ s.graph.state dep = .submitted)

/-- The states asked for before the recursive call; a refusal goes unnoticed. -/
def Coordinator.poison (dep : ComputeTaskId) (s : Coordinator D) : Coordinator D :=
  s.onLedger fun l => (l.setState dep .lost).setState dep .failed

/-- **The loop of `on_task_succeeded_recursive` over a list of dependents**, from `s` to `s'`. A recursive call is
    the loop over the dependents of the poisoned task. -/
inductive CascadeLoop (env : Env) : List ComputeTaskId → Coordinator D → Coordinator D → Prop
  | done {s : Coordinator D} : CascadeLoop env [] s s
  | pass {dep : ComputeTaskId} {rest : List ComputeTaskId} {s s' : Coordinator D}
      (hguard : ¬(s.unblockTask env dep).isPoisoned dep)
      (hrest : CascadeLoop env rest (s.unblockTask env dep) s') : CascadeLoop env (dep :: rest) s s'
  | descend {dep : ComputeTaskId} {rest : List ComputeTaskId} {s s₁ s' : Coordinator D}
      (hguard : (s.unblockTask env dep).isPoisoned dep)
      (hcall : CascadeLoop env (((s.unblockTask env dep).poison dep).graph.dependentsOf dep)
        ((s.unblockTask env dep).poison dep) s₁)
      (hrest : CascadeLoop env rest s₁ s') : CascadeLoop env (dep :: rest) s s'

/-- `on_task_succeeded_recursive(id)` ends, with the state `s'`. -/
def Cascades (env : Env) (id : ComputeTaskId) (s s' : Coordinator D) : Prop :=
  CascadeLoop env (s.graph.dependentsOf id) s s'

/-- The recursion has one result. -/
theorem CascadeLoop.unique {env : Env} {deps : List ComputeTaskId} {s s₁ s₂ : Coordinator D}
    (h₁ : CascadeLoop env deps s s₁) (h₂ : CascadeLoop env deps s s₂) : s₁ = s₂ := by
  induction h₁ generalizing s₂ with
  | done =>
      cases h₂
      rfl
  | pass hguard hrest ih =>
      cases h₂ with
      | pass _ hrest' => exact ih hrest'
      | descend hguard' => exact absurd hguard' hguard
  | descend hguard hcall hrest ihcall ihrest =>
      cases h₂ with
      | pass hguard' => exact absurd hguard hguard'
      | descend _ hcall' hrest' =>
          rw [← ihcall hcall'] at hrest'
          exact ihrest hrest'

/-! ## Enough depth -/

section Depth

variable {env : Env} {dependents : IdMap IdSet} {rank : ComputeTaskId → Nat}

theorem poison_dependents (dep : ComputeTaskId) (s : Coordinator D) :
    (s.poison dep).graph.dependents = s.graph.dependents :=
  (TaskGraph.trySetState_dependents _ _ _).trans (TaskGraph.trySetState_dependents _ _ _)

/-- The bounded function computes the recursion when ranks fall from each task to its dependents and the bound
    exceeds the rank it starts from. -/
theorem onTaskSucceededRecursive_cascades
    (hrank : ∀ x u : ComputeTaskId, u ∈ (dependents.getD x ∅).toList → rank u < rank x) (fuel : Nat) :
    ∀ (id : ComputeTaskId) (s : Coordinator D), s.graph.dependents = dependents → rank id < fuel →
      Cascades env id s (onTaskSucceededRecursive env fuel id s) := by
  induction fuel with
  | zero => exact fun id s _ h => absurd h (Nat.not_lt_zero _)
  | succ fuel ih =>
      intro id s hs hfuel
      rw [onTaskSucceededRecursive_succ]
      -- the rest of the loop, from whatever state the earlier rounds left
      have hloop : ∀ (deps : List ComputeTaskId) (x : Coordinator D), x.graph.dependents = dependents →
          (∀ dep ∈ deps, rank dep < fuel) → CascadeLoop env deps x (deps.foldl (cascadeRound env fuel) x) := by
        intro deps
        induction deps with
        | nil => exact fun x _ _ => .done
        | cons dep rest ihrest =>
            intro x hx hdeps
            have hpromoted : (x.unblockTask env dep).graph.dependents = dependents :=
              (unblockTask_cascaded env x dep).dependents.trans hx
            have hround : (cascadeRound env fuel x dep).graph.dependents = dependents :=
              (cascadeRound_cascaded env fuel x dep).dependents.trans hpromoted
            have htail := ihrest _ hround fun d hd => hdeps d (List.mem_cons_of_mem dep hd)
            rw [List.foldl_cons]
            by_cases hguard : (x.unblockTask env dep).isPoisoned dep
            · have hcall := ih dep ((x.unblockTask env dep).poison dep)
                ((poison_dependents dep _).trans hpromoted) (hdeps dep List.mem_cons_self)
              have heq : cascadeRound env fuel x dep =
                  onTaskSucceededRecursive env fuel dep ((x.unblockTask env dep).poison dep) := if_pos hguard
              rw [heq] at htail ⊢
              exact .descend hguard hcall htail
            · have heq : cascadeRound env fuel x dep = x.unblockTask env dep := if_neg hguard
              rw [heq] at htail ⊢
              exact .pass hguard htail
      refine hloop _ s hs fun dep hdep => ?_
      have hfall : rank dep < rank id := hrank id dep (hs ▸ hdep)
      omega

end Depth

/-! ## The edges of a reachable graph -/

section Edges

variable {s₀ : Coordinator D} {e : Event D}

theorem GraphStep.reversed {g g' : TaskGraph D} (h : GraphStep s₀ e g g') (hcoh : g.Coherent) (hg : g.Reversed) :
    g'.Reversed := by
  have hmove : ∀ (g : TaskGraph D) (t : ComputeTaskId) (st : TaskState), g.Reversed →
      (g.trySetState t st).Reversed := by
    intro g t st hg x u hu
    rw [TaskGraph.hasEdge_iff, TaskGraph.trySetState_deps, ← TaskGraph.hasEdge_iff]
    rw [TaskGraph.dependentsOf, TaskGraph.trySetState_dependents] at hu
    exact hg x u hu
  cases h with
  | move hreq => exact hmove _ _ _ hg
  | submit hnew hdeps haccepts => exact hmove _ _ _ (hg.insertTask hcoh hnew)
  | refuse hadd => exact hg.addTask_error hcoh hadd

theorem rebuild_consistent {list : List (ComputeTask D)} {g g' : TaskGraph D} (h : rebuild list g = .ok g')
    (hg : g.Consistent) : g'.Consistent := by
  induction list generalizing g with
  | nil =>
      cases h
      exact hg
  | cons task rest ih =>
      unfold Coordinator.rebuild at h
      split at h
      · next g₁ hadd =>
          have hkept := hg.addTask task
          rw [hadd] at hkept
          exact ih h hkept
      · cases h

variable [DoubleArith D] {env : Env}

/-- A start rebuilds both ends of every edge. -/
theorem start_reversed {w : World D} {s : Coordinator D} (h : start env w = .ok s) : s.graph.Reversed := by
  obtain ⟨w', g, -, hrebuild, -⟩ := start_ok h
  obtain ⟨-, hdeps, hdependents⟩ := start_edges h hrebuild
  intro x u hu
  rw [TaskGraph.dependentsOf, hdependents] at hu
  rw [TaskGraph.hasEdge_iff, hdeps, ← TaskGraph.hasEdge_iff]
  exact (rebuild_consistent hrebuild .empty).reversed hu

theorem CoreStep.reversed {x x' : Coordinator D} (h : CoreStep env s₀ e x x') (hx : x.Sound)
    (hg : x.graph.Reversed) : x'.graph.Reversed := by
  rcases h.ledger with hsame | hact
  · rwa [hsame]
  · exact hact.graph_invariant (fun _ _ hcoh hg hstep => hstep.reversed hcoh hg) hx.wellFormed hg

/-- **The dependents of a reachable graph are edges, and its edges have no cycle**, in every state an event passes
    through. -/
theorem passes_reversed {events : List (CrashEvent D)} {s x : Coordinator D} (hrun : crashRun env events = some s)
    (hsteps : CoreSteps env s e s x) :
    x.Sound ∧ x.graph.Reversed ∧ Restartable x.graph.tasks := by
  have hreversed : s.graph.Reversed := by
    refine (crashRun_saved (P := fun _ => True) (Q := fun x => x.graph.Reversed) (C := fun _ => True) trivial
      (fun w x _ _ hx => start_reversed hx) (fun _ _ _ _ _ hx hg hstep => hstep.reversed hx hg)
      (fun _ _ _ => trivial) (fun _ _ => trivial) hrun).1
  refine Lts.steps_invariant (P := fun y => y.Sound ∧ y.graph.Reversed ∧ Restartable y.graph.tasks) ?_
    ⟨(crashRun_logged hrun).1, hreversed, (crashRun_restartable hrun).1⟩ hsteps
  rintro y y' ⟨hsound, hrev, hrestart⟩ hstep
  exact ⟨hstep.sound hsound, hstep.reversed hsound hrev, hstep.restartable hsound hrestart⟩

end Edges

/-! ## Every cascade ends -/

/-- The relation the recursion follows downwards. -/
def TaskGraph.IsDependentOf (g : TaskGraph D) (dep id : ComputeTaskId) : Prop := dep ∈ g.dependentsOf id

/-- The dependents of a graph can be ranked, with no rank above the number of tasks. -/
theorem TaskGraph.exists_dependent_rank {g : TaskGraph D} (hcoh : g.Coherent) (hrev : g.Reversed)
    (hranked : TaskGraph.Ranked g.tasks) :
    ∃ rank : ComputeTaskId → Nat, (∀ x u, u ∈ g.dependentsOf x → rank u < rank x) ∧
      ∀ x, rank x ≤ g.tasks.size := by
  have hacyclic : Acyclic fun x u => g.IsDependentOf u x := by
    obtain ⟨rank, hrank⟩ := hranked
    have hfalls := hcoh.falls hrank
    intro x hx
    -- read backwards, a cycle of dependents is a cycle of dependencies
    have hback : Relation.TransGen g.HasEdge x x := by
      rw [← Relation.transGen_swap] at hx
      exact Relation.TransGen.mono (fun u v h => hrev v u h) _ _ hx
    exact Acyclic.of_rank rank (r := g.HasEdge) (fun t d h => hfalls t d (TaskGraph.hasEdge_iff.mp h)) x hback
  have hends : {u | ∃ x, g.IsDependentOf u x} ⊆ ((g.tasks.toList.map Prod.fst).toFinset : Set ComputeTaskId) := by
    rintro u ⟨x, hu⟩
    rw [Finset.mem_coe, List.mem_toFinset]
    cases htask : g.tasks[u]? with
    | none => exact absurd (hrev x u hu) (hcoh.not_hasEdge htask)
    | some task =>
        exact List.mem_map.mpr ⟨(u, task), Std.ExtTreeMap.mem_toList_iff_getElem?_eq_some.mpr htask, rfl⟩
  obtain ⟨rank, hrank, hle⟩ := hacyclic.exists_rank_le ((Finset.finite_toSet _).subset hends)
  refine ⟨rank, hrank, fun x => (hle x).trans ?_⟩
  calc {u | ∃ x, g.IsDependentOf u x}.ncard
      ≤ (g.tasks.toList.map Prod.fst).toFinset.card := by
        rw [← Set.ncard_coe_finset]
        exact Set.ncard_le_ncard hends (Finset.finite_toSet _)
    _ ≤ (g.tasks.toList.map Prod.fst).length := List.toFinset_card_le _
    _ = g.tasks.size := by simp

/-- **The success cascade terminates.** In every state a run passes through, also in the middle of an event, the
    dependents relation is well-founded; from every id the recursion ends with one result, and the bounded function
    of the model computes it with any bound above the number of tasks. -/
theorem cascade_terminates [DoubleArith D] {env : Env} {events : List (CrashEvent D)} {s x : Coordinator D}
    {e : Event D} (hrun : crashRun env events = some s) (hsteps : CoreSteps env s e s x) (id : ComputeTaskId) :
    WellFounded x.graph.IsDependentOf ∧ (∃! x', Cascades env id x x') ∧
      ∀ fuel, x.graph.tasks.size < fuel → Cascades env id x (onTaskSucceededRecursive env fuel id x) := by
  obtain ⟨hsound, hrev, hrestart⟩ := passes_reversed hrun hsteps
  obtain ⟨rank, hrank, hle⟩ :=
    TaskGraph.exists_dependent_rank hsound.wellFormed.coherent hrev hrestart.ranked
  have hfuel : ∀ fuel, x.graph.tasks.size < fuel → Cascades env id x (onTaskSucceededRecursive env fuel id x) :=
    fun fuel h => onTaskSucceededRecursive_cascades hrank fuel id x rfl ((hle id).trans_lt h)
  refine ⟨?_, ⟨_, hfuel (x.graph.tasks.size + 1) (Nat.lt_succ_self _), ?_⟩, hfuel⟩
  · exact Subrelation.wf (fun {u v} h => hrank v u h) (measure rank).wf
  · exact fun x' hx' => hx'.unique (hfuel _ (Nat.lt_succ_self _))

/-- A task and one that depends on it. -/
theorem cascade_terminates_chain :
    ∃ s, crashRun (Demo.env 3000 100) [.event (Demo.submit 1), .event Demo.submitAfter] = some s ∧
      (s.graph.dependentsOf Demo.taskId).length = 1 ∧
      ∃! x', Cascades (Demo.env 3000 100) Demo.taskId s x' := by
  have hfacts : ((crashRun (Demo.env 3000 100) [.event (Demo.submit 1), .event Demo.submitAfter]).map fun s =>
      (s.graph.dependentsOf Demo.taskId).length) = some 1 := by
    decide +kernel
  obtain ⟨s, hs, hlength⟩ := Option.map_eq_some_iff.mp hfacts
  have hsteps : CoreSteps (Demo.env 3000 100) s .sweep s s := .refl
  exact ⟨s, hs, hlength, (cascade_terminates hs hsteps Demo.taskId).2.1⟩

end ComputeFabric
