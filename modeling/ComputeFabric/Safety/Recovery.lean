import ComputeFabric.Coordinator.Crash
import ComputeFabric.Task.Acyclic

/-!
# `Safety.Recovery` — starting again on a saved file

A start rebuilds the graph task by task in id order, which is not the order of submission, and gives up on the
first task that `addTask` refuses. It never does: a submission names known tasks only, so the tasks of every
saved file can be ranked (`Restartable`), and the cycle search of the rebuild accepts ranked tasks in any order.

- `crashRun_restartable` — the graph in memory and every file ever saved.
- `start_of_restartable` — a start on such a file succeeds.

What it saves again is another matter. `persist` recomputes the retry counts from the attempts in memory, of
which only the committed ones were saved, and the placements from the placement records, which a start does not
restore: `start_tables_iff` says which files come through.
-/

namespace ComputeFabric

open Coordinator

variable {D : Type}

/-! ## The graph can be rebuilt -/

/-- The tasks of a graph that a start can rebuild: no dependency is missing and none leads back. -/
structure Restartable (tasks : IdMap (ComputeTask D)) : Prop where
  closed : TaskGraph.Closed tasks
  ranked : TaskGraph.Ranked tasks

theorem Restartable.empty : Restartable (∅ : IdMap (ComputeTask D)) where
  closed t task h := by simp at h
  ranked := .empty

/-- An accepted submission: the id is free and the dependencies are tasks. -/
theorem Restartable.insert {tasks : IdMap (ComputeTask D)} (h : Restartable tasks) {task : ComputeTask D}
    (hnew : tasks[task.id]? = none) (hdeps : ∀ d ∈ task.dependencies, tasks[d]?.isSome = true) :
    Restartable (tasks.insert task.id task) where
  closed t tk htk d hd := by
    have hsome : tasks[d]?.isSome = true := by
      by_cases ht : task.id = t
      · subst ht
        obtain rfl : task = tk := by simpa using htk
        exact hdeps d hd
      · exact h.closed t tk (by simpa [Std.ExtTreeMap.getElem?_insert, ht] using htk) d hd
    by_cases hid : task.id = d
    · simp [hid]
    · simpa [Std.ExtTreeMap.getElem?_insert, hid] using hsome
  ranked := h.ranked.insert h.closed hnew hdeps

/-- **Ranked tasks are rebuilt in any order.** -/
theorem rebuild_of_ranked {rank : ComputeTaskId → Nat} (list : List (ComputeTask D)) {g : TaskGraph D}
    (hg : g.Coherent) (hgraph : TaskGraph.RankedBy rank g.tasks)
    (hlist : ∀ task ∈ list, ∀ d ∈ task.dependencies, rank d < rank task.id)
    (hnd : (list.map ComputeTask.id).Nodup) (hnew : ∀ task ∈ list, g.tasks[task.id]? = none) :
    rebuild list g = .ok (list.foldl TaskGraph.insertTask g) := by
  induction list generalizing g with
  | nil => rfl
  | cons task rest ih =>
      rw [List.map_cons, List.nodup_cons] at hnd
      have hfresh := hnew task List.mem_cons_self
      have hranked : TaskGraph.RankedBy rank (g.insertTask task).tasks := by
        intro t tk htk d hd
        rw [TaskGraph.getElem?_tasks_insertTask] at htk
        split_ifs at htk with ht
        · obtain rfl := Option.some.inj htk
          exact ht ▸ hlist task List.mem_cons_self d hd
        · exact hgraph t tk htk d hd
      rw [rebuild, TaskGraph.addTask_of_ranked hg hfresh hranked, List.foldl_cons]
      refine ih (hg.insertTask hfresh) hranked (fun tk htk => hlist tk (List.mem_cons_of_mem _ htk)) hnd.2 ?_
      intro tk htk
      rw [TaskGraph.getElem?_tasks_insertTask, if_neg ?_]
      · exact hnew tk (List.mem_cons_of_mem _ htk)
      · intro hid
        exact hnd.1 (hid ▸ List.mem_map_of_mem htk)

/-- **A start succeeds** on a file whose tasks can be rebuilt. -/
theorem start_of_restartable [DoubleArith D] (env : Env) {w : World D} {d : DurableState D}
    (hw : w.file = some d) (hfile : FileOk d) (h : Restartable d.tasks) : ∃ s, start env w = .ok s := by
  obtain ⟨rank, hrank⟩ := h.ranked
  have hentry : ∀ task ∈ d.tasks.toList.map Prod.snd, d.tasks[task.id]? = some task := by
    intro task htask
    obtain ⟨⟨t, tk⟩, hmem, rfl⟩ := List.mem_map.mp htask
    have hget := Std.ExtTreeMap.mem_toList_iff_getElem?_eq_some.mp hmem
    rwa [hfile.id_eq hget]
  have hids : (d.tasks.toList.map Prod.snd).map ComputeTask.id = d.tasks.toList.map Prod.fst := by
    rw [List.map_map]
    refine List.map_congr_left ?_
    intro e he
    exact hfile.id_eq (Std.ExtTreeMap.mem_toList_iff_getElem?_eq_some.mp he)
  have hg := rebuild_of_ranked (d.tasks.toList.map Prod.snd) (g := {}) .empty
    (fun t task htask => by simp at htask) (fun task htask => hrank task.id task (hentry task htask))
    (hids ▸ OrdMap.nodup_toList_keys _) (by simp)
  unfold start openStore
  rw [hw]
  dsimp only
  rw [hg]
  exact ⟨_, rfl⟩

/-! ## Every saved file -/

section Runs

variable [DoubleArith D] {env : Env}

theorem CoreStep.restartable {s₀ x x' : Coordinator D} {e : Event D} (h : CoreStep env s₀ e x x')
    (hx : x.Sound) (hr : Restartable x.graph.tasks) : Restartable x'.graph.tasks := by
  rcases h.ledger with hsame | hact
  · rwa [hsame]
  · rcases hact.tasks hx.wellFormed.coherent with hsame | ⟨client, conn, req, sub, -, haccepts, hl, hnew, hins⟩
    · rwa [hsame]
    · have hdeps : ∀ d ∈ sub.task.dependencies, x.graph.tasks[d]?.isSome = true := by
        intro d hd
        simp only [accepts, Bool.and_eq_true, List.all_eq_true] at haccepts
        have hhas := haccepts.1.2 d hd
        rw [← hl, TaskGraph.hasTask, Std.ExtTreeMap.contains_eq_isSome_getElem?] at hhas
        exact hhas
      have htasks : x'.graph.tasks = x.graph.tasks.insert sub.task.id sub.task := by
        refine Std.ExtTreeMap.ext_getElem? fun u => ?_
        rw [hins u, Std.ExtTreeMap.getElem?_insert]
        simp
      rw [htasks]
      exact hr.insert hnew hdeps

/-- **Every file the coordinator ever saves can be started on**, and so can what it would save now. -/
theorem crashRun_restartable {events : List (CrashEvent D)} {s : Coordinator D}
    (hrun : crashRun env events = some s) :
    Restartable s.graph.tasks ∧ ∀ d, .saved d ∈ s.effects → FileOk d ∧ Restartable d.tasks := by
  have hstart : ∀ w x, FileOk (w.file.getD {}) → Restartable (w.file.getD {}).tasks → start env w = .ok x →
      Restartable (D := D) x.graph.tasks := by
    intro w x hfile hP hx
    have htasks : x.graph.tasks = (w.file.getD {}).tasks :=
      Std.ExtTreeMap.ext_getElem? fun t => (start_spec hx hfile).tasks t
    rwa [htasks]
  obtain ⟨hs, hsaved⟩ := crashRun_saved (P := fun d => Restartable d.tasks)
    (Q := fun x => Restartable x.graph.tasks) (C := fun _ => True) .empty hstart
    (fun _ _ _ _ _ hx hr hstep => hstep.restartable hx hr) (fun _ _ hr => hr) (fun _ _ => trivial) hrun
  exact ⟨hs, fun d hd => ⟨(crashRun_logged hrun).2.proper d hd, hsaved d hd⟩⟩

/-! ## The tables a start saves -/

/-- The retry counts of the file are the numbers of its stored attempts. -/
def DurableState.CountsStored (d : DurableState D) : Prop :=
  d.retryCounts = d.attempts.map fun _ list => UInt32.ofNat list.length

/-- What a start saves: the counts of the stored attempts, and no placement. -/
theorem start_tables {w : World D} {s : Coordinator D} (hfile : FileOk (w.file.getD {}))
    (h : start env w = .ok s) :
    s.snapshot.retryCounts = (w.file.getD {}).attempts.map (fun _ list => UInt32.ofNat list.length) ∧
      s.snapshot.placements = [] := by
  refine ⟨?_, ?_⟩
  · show s.attempts.map _ = _
    rw [(start_spec h hfile).attempts]
  · show s.placementRecords.values = []
    rw [(start_forgets h).1]
    rfl

/-- **Retry counts and placements survive a start** on a saved file exactly when the file records no placement
    and counts no attempt that it does not store. -/
theorem start_tables_iff {events : List (CrashEvent D)} {s : Coordinator D} (hrun : crashRun env events = some s)
    {d : DurableState D} (hsaved : .saved d ∈ s.effects) {w : World D} (hw : w.file = some d)
    (hsave : env.saveOk w.saves = true) :
    ∃ s' d', start env w = .ok s' ∧ s'.file = some d' ∧
      (d'.retryCounts = d.retryCounts ∧ d'.placements = d.placements ↔ d.CountsStored ∧ d.placements = []) := by
  obtain ⟨hfile, hrestart⟩ := (crashRun_restartable hrun).2 d hsaved
  obtain ⟨s', hs'⟩ := start_of_restartable env hw hfile hrestart
  have hbump : env.saveOk (bumpSave w) = true := by
    rw [bumpSave, hw]
    exact hsave
  obtain ⟨hcounts, hplacements⟩ := start_tables (w := w) (by rwa [hw]) hs'
  refine ⟨s', s'.snapshot, hs', start_saved hs' hbump, ?_⟩
  rw [hcounts, hplacements, hw]
  exact and_congr eq_comm eq_comm

end Runs

/-- A task is run and the coordinator is restarted: the file it saves then, with the count of the committed attempt,
    comes through the next restart. -/
theorem start_tables_committed :
    ∃ s d, crashRun (Demo.env 3000 100) ([Demo.register 1, Demo.submit 1, .sweep, Demo.started 2, Demo.complete 2 1,
        .restart].map .event) = some s ∧
      s.file = some d ∧ d.retryCounts[Demo.taskId]? = some 1 ∧
      ∃ s' d', start (Demo.env 3000 100) s.world = .ok s' ∧ s'.file = some d' ∧
        d'.retryCounts = d.retryCounts ∧ d'.placements = d.placements := by
  have hfacts : ((crashRun (Demo.env 3000 100) ([Demo.register 1, Demo.submit 1, .sweep, Demo.started 2,
      Demo.complete 2 1, .restart].map .event)).map fun s => s.file.map fun d =>
        (d.retryCounts[Demo.taskId]?, d.placements.length,
          decide (d.retryCounts.toList = (d.attempts.map fun _ list => UInt32.ofNat list.length).toList))) =
        some (some (some 1, 0, true)) := by
    decide +kernel
  obtain ⟨s, hs, hfile⟩ := Option.map_eq_some_iff.mp hfacts
  obtain ⟨d, hd, hfacts⟩ := Option.map_eq_some_iff.mp hfile
  simp only [Prod.mk.injEq, decide_eq_true_iff] at hfacts
  obtain ⟨hcount, hplacements, htables⟩ := hfacts
  have hsaved : .saved d ∈ s.effects := mem_of_lastSaved ((crashRun_logged hs).2.file ▸ hd)
  obtain ⟨s', d', hs', hd', hiff⟩ := start_tables_iff hs hsaved (w := s.world) hd rfl
  exact ⟨s, d, hs, hd, hcount, s', d', hs', hd',
    hiff.mpr ⟨Std.ExtTreeMap.toList_inj.mp htables, List.length_eq_zero_iff.mp hplacements⟩⟩

/-- A task is dispatched; the coordinator is restarted. Its retry count and its placement are gone. -/
theorem start_loses_tables :
    ∃ s s' d d', run (Demo.env 3000 100) [Demo.register 1, Demo.submit 1, .sweep] = some s ∧
      s.file = some d ∧ step (Demo.env 3000 100) s .restart = some s' ∧ s'.file = some d' ∧
      d'.retryCounts ≠ d.retryCounts ∧ d'.placements ≠ d.placements := by
  have hfacts : ((run (Demo.env 3000 100) [Demo.register 1, Demo.submit 1, .sweep]).bind fun s =>
      (step (Demo.env 3000 100) s .restart).map fun s' =>
        (s.file.map fun d => (d.retryCounts.size, d.placements.length),
          s'.file.map fun d => (d.retryCounts.size, d.placements.length))) =
      some (some (1, 1), some (0, 0)) := by
    decide +kernel
  obtain ⟨s, hs, hfacts⟩ := Option.bind_eq_some_iff.mp hfacts
  obtain ⟨s', hs', hfacts⟩ := Option.map_eq_some_iff.mp hfacts
  obtain ⟨hbefore, hafter⟩ := Prod.mk.inj hfacts
  obtain ⟨d, hd, hbefore⟩ := Option.map_eq_some_iff.mp hbefore
  obtain ⟨d', hd', hafter⟩ := Option.map_eq_some_iff.mp hafter
  simp only [Prod.mk.injEq] at hbefore hafter
  refine ⟨s, s', d, d', hs, hd, hs', hd', ?_, ?_⟩
  · intro heq
    rw [heq, hbefore.1] at hafter
    cases hafter.1
  · intro heq
    rw [heq, hbefore.2] at hafter
    cases hafter.2

end ComputeFabric
