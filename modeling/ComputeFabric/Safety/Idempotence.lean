import ComputeFabric.Safety.Acknowledged
import ComputeFabric.Safety.Recovery

/-!
# `Safety.Idempotence` — a client command delivered twice

The header promises a cache of responses keyed by sender and request id. No handler asks it: a second delivery
is processed like the first, and what it answers and changes depends on everything that has happened in between.

- **What is answered.** Each of the three mutating client commands ends with one response, a function of the
  state before it (`replyTo_eq`).
- **What is changed.** A submission of a known task and a refused command change nothing; a cancellation that
  takes effect changes the graph; a drain rewrites the health.

`duplicate_idempotent_iff` says exactly when the second delivery is answered like the first and changes nothing.
-/

namespace ComputeFabric

open Coordinator

variable {D : Type}

/-! ## Responses -/

/-- The commands of clients that change state. -/
def Command.isMutating : Command D → Bool
  | .taskSubmit .. | .taskCancel .. | .nodeDrain .. => true
  | _ => false

/-- The same command of the same client, delivered on the connection. -/
def Command.deliveredOn (conn : ConnId) : Command D → Command D
  | .taskSubmit client _ req sub => .taskSubmit client conn req sub
  | .taskCancel client _ req t => .taskCancel client conn req t
  | .nodeDrain client _ req drain => .nodeDrain client conn req drain
  | c => c

theorem Command.isMutating_deliveredOn (conn : ConnId) (c : Command D) :
    (c.deliveredOn conn).isMutating = c.isMutating := by
  cases c <;> rfl

/-- The response payload an effect carries to a client. -/
def Effect.response? : Effect D → Option (Message D)
  | .queued _ _ (.taskSubmitResponse resp) => some (.taskSubmitResponse resp)
  | .queued _ _ (.taskCancelResponse resp) => some (.taskCancelResponse resp)
  | .queued _ _ (.nodeDrainResponse resp) => some (.nodeDrainResponse resp)
  | _ => none

/-- The response that processing the command queues, if its client can still be reached. -/
def Coordinator.replyTo [DoubleArith D] (env : Env) (c : Command D) (s : Coordinator D) : Option (Message D) :=
  let after := (s.process env c).effects
  (after.take (after.length - s.effects.length)).findSome? Effect.response?

/-- What the command must leave alone. -/
structure Coordinator.Unchanged (s s' : Coordinator D) : Prop where
  graph : s'.graph = s.graph
  reservations : s'.reservations = s.reservations
  attempts : s'.attempts = s.attempts
  nodes : s'.nodes = s.nodes
  durable : s'.durable = s.durable

/-- The reason a submission of an unknown task is refused for. -/
def Coordinator.submitRefusal (s : Coordinator D) (sub : TaskSubmit D) : Option Text :=
  if s.stopping then some (text "coordinator shutting down")
  else if sub.task.id.isZero then some (text "task id must be nonzero")
  else (sub.task.dependencies.find? fun d => !s.graph.hasTask d).map fun d =>
    text "missing dependency: " ++ d.toHex

/-- The answer of `handle_task_submit`. -/
def Coordinator.submitResponse (s : Coordinator D) (sub : TaskSubmit D) : TaskSubmitResponse :=
  let refusal := if s.graph.hasTask sub.task.id then none else s.submitRefusal sub
  { accepted := refusal.isNone, taskId := sub.task.id, error := refusal.getD [] }

/-- The answer of `handle_node_drain`. -/
def Coordinator.drainResponse (s : Coordinator D) (n : NodeId) : NodeDrainResponse :=
  match s.nodes[n]? with
  | none => ⟨false, false, text "node not found"⟩
  | some node => if node.health = .offline then ⟨true, false, text "node offline"⟩ else ⟨true, true, []⟩

/-- The response to a mutating client command. -/
def Coordinator.response (s : Coordinator D) : Command D → Option (Message D)
  | .taskSubmit _ _ _ sub => some (.taskSubmitResponse (s.submitResponse sub))
  | .taskCancel _ _ _ t => some (.taskCancelResponse (s.cancelResponse t))
  | .nodeDrain _ _ _ drain => some (.nodeDrainResponse (s.drainResponse drain.nodeId))
  | _ => none

/-! ## The handlers -/

section Handlers

variable (env : Env) {s x : Coordinator D} {client : Id128} {conn : ConnId} {req : UInt64}

/-- A handler that ends with `m`, and has queued no other response before, replies `m`. -/
theorem response_of_respondClient {m m' : Message D} {before : List (Effect D)} {after : Coordinator D}
    (hafter : after = x.respondClient env client conn req m) (hx : x.effects = before ++ s.effects)
    (hbefore : ∀ e ∈ before, e.response? = none) (hm : ∀ e, Effect.response? (.queued conn req m) = some e → e = m)
    (h : (after.effects.take (after.effects.length - s.effects.length)).findSome? Effect.response? = some m') :
    m' = m := by
  have hnone : before.findSome? Effect.response? = none := List.findSome?_eq_none_iff.mpr hbefore
  rw [hafter, respondClient_effects, hx] at h
  split_ifs at h
  · rw [List.length_cons, List.length_append, ← List.cons_append,
      show before.length + s.effects.length + 1 - s.effects.length =
        (.queued conn req m :: before : List (Effect D)).length
        by rw [List.length_cons]; omega, List.take_left, List.findSome?_cons] at h
    split at h
    · next e he => exact (Option.some.inj h).symm.trans (hm e he)
    · rw [hnone] at h
      cases h
  · rw [List.length_append, Nat.add_sub_cancel, List.take_left, hnone] at h
    cases h

theorem respondClient_durable (m : Message D) : (x.respondClient env client conn req m).durable = x.durable := by
  unfold respondClient queueOutbound
  split_ifs <;> rfl

theorem respondClient_unchanged (m : Message D) :
    s.Unchanged (x.respondClient env client conn req m) ↔ s.Unchanged x := by
  have hledger := respondClient_toLedger env x client conn req m
  have hdurable : (x.respondClient env client conn req m).durable = x.durable := respondClient_durable env m
  constructor
  · rintro ⟨hgraph, hresv, hattempts, hnodes, hdur⟩
    rw [hledger] at hgraph hresv hattempts hnodes
    exact ⟨hgraph, hresv, hattempts, hnodes, hdurable ▸ hdur⟩
  · rintro ⟨hgraph, hresv, hattempts, hnodes, hdur⟩
    exact ⟨by rw [hledger, hgraph], by rw [hledger, hresv], by rw [hledger, hattempts], by rw [hledger, hnodes],
      hdurable.trans hdur⟩

theorem Coordinator.Unchanged.refl (s : Coordinator D) : s.Unchanged s := ⟨rfl, rfl, rfl, rfl, rfl⟩

/-! ### Submissions -/

/-- A known task, or a refused one: only the answer is sent. -/
theorem handleTaskSubmit_of_idle {sub : TaskSubmit D}
    (h : s.graph.hasTask sub.task.id = true ∨ (s.submitRefusal sub).isSome = true) :
    s.handleTaskSubmit env client conn req sub =
      s.respondClient env client conn req (.taskSubmitResponse (s.submitResponse sub)) := by
  unfold handleTaskSubmit submitResponse
  dsimp only
  by_cases hknown : s.graph.hasTask sub.task.id = true
  · simp [hknown]
  · have hrefused := h.resolve_left hknown
    unfold submitRefusal at hrefused ⊢
    simp only [if_neg hknown]
    by_cases hstop : s.stopping = true
    · simp [hstop]
    by_cases hzero : sub.task.id.isZero = true
    · simp [hstop, hzero]
    simp only [if_neg hstop, if_neg hzero] at hrefused ⊢
    cases hfind : sub.task.dependencies.find? fun d => !s.graph.hasTask d with
    | none =>
        rw [hfind] at hrefused
        cases hrefused
    | some d => rfl

/-- Every other submission creates the task: the checks are complete, since the cycle search never fails. -/
theorem handleTaskSubmit_of_new [DoubleArith D] (hcoh : s.graph.Coherent) (hr : Restartable s.graph.tasks)
    {sub : TaskSubmit D} (hnew : s.graph.hasTask sub.task.id = false) (hnone : s.submitRefusal sub = none) :
    ∃ y : Coordinator D, y.graph.hasTask sub.task.id = true ∧ (∃ e, y.effects = [e] ++ s.effects ∧ e.response? = none) ∧
      s.handleTaskSubmit env client conn req sub =
        y.respondClient env client conn req (.taskSubmitResponse (s.submitResponse sub)) := by
  have hfree : s.graph.tasks[sub.task.id]? = none := TaskGraph.hasTask_eq_false.mp hnew
  have hresponse : s.submitResponse sub = { accepted := true, taskId := sub.task.id, error := [] } := by
    simp [submitResponse, hnew, hnone]
  unfold submitRefusal at hnone
  split_ifs at hnone with hstop hzero
  rw [Option.map_eq_none_iff, List.find?_eq_none] at hnone
  have hdeps : ∀ d ∈ sub.task.dependencies, s.graph.hasTask d = true := fun d hd => by simpa using hnone d hd
  obtain ⟨rank, hrank⟩ := (hr.insert hfree fun d hd => by
    rw [← Std.ExtTreeMap.contains_eq_isSome_getElem?]
    exact hdeps d hd).ranked
  have hadd := TaskGraph.addTask_of_ranked hcoh hfree hrank
  have haccepts : s.accepts sub = true := by
    simpa [accepts, hnew, hstop, hzero, hadd] using hdeps
  obtain ⟨g, hg, hhandler⟩ := handleTaskSubmit_of_accepts env client conn req haccepts
  obtain rfl : g = s.graph.insertTask sub.task := congrArg Prod.fst (hg.symm.trans hadd)
  refine ⟨s.acceptTask env sub _, ?_, ?_, by rw [hhandler, hresponse]⟩
  · unfold acceptTask
    rw [persist_toLedger]
    show (TaskGraph.tasks (TaskGraph.trySetState _ _ _)).contains _ = true
    simp [TaskGraph.insertTask]
  · unfold acceptTask
    rw [persist_effects]
    refine ⟨_, rfl, ?_⟩
    split_ifs <;> rfl

/-! ### Cancellations -/

/-- The answer of `handle_task_cancel`, as a function of the task's state. -/
def cancelAnswer : Option TaskState → TaskCancelResponse
  | none => ⟨false, false, text "task not found"⟩
  | some st =>
      if st.isTerminal then ⟨true, false, text ("task already " ++ st.name)⟩
      else if st = .running then ⟨true, true, text "cancel requested; will take effect cooperatively"⟩
      else if st.isLegal .cancelled then ⟨true, true, []⟩
      else ⟨true, false, text ("illegal task transition " ++ st.name ++ " -> " ++ TaskState.name .cancelled)⟩

/-- A cancellation takes effect at once. -/
def TaskState.cancellable (st : TaskState) : Bool := !st.isTerminal && st ≠ .running && st.isLegal .cancelled

theorem cancelResponse_eq (hcoh : s.graph.Coherent) (t : ComputeTaskId) :
    s.cancelResponse t = cancelAnswer s.graph.states[t]? := by
  unfold cancelResponse
  have hsome := hcoh.isSome_states t
  cases hst : s.graph.states[t]? with
  | none =>
      rw [hst] at hsome
      have hnone : s.graph.find t = none := Option.isNone_iff_eq_none.mp (Option.isSome_eq_false_iff.mp hsome.symm)
      rw [hnone]
      rfl
  | some st =>
      rw [hst] at hsome
      obtain ⟨task, htask⟩ := Option.isSome_iff_exists.mp hsome.symm
      have hfind : s.graph.find t = some task := htask
      have hstate : s.graph.state t = st := Ledger.state_of_view hst
      rw [hfind, hstate]
      unfold cancelAnswer TaskGraph.setState
      rw [hst]
      dsimp only
      split_ifs <;> rfl

/-- The answers of two states, of which the second is not cancelled at once, are the same when the states have the
    same name. -/
theorem cancelAnswer_eq_iff {o o' : Option TaskState} (h : o'.any TaskState.cancellable = false) :
    cancelAnswer o = cancelAnswer o' ↔ o.map TaskState.name = o'.map TaskState.name := by
  -- a state without a name is answered like any other such state, so finitely many cases are left
  let states : List (Option TaskState) := none :: (TaskState.all ++ [TaskState.unlisted 0]).map some
  have hrep : ∀ o : Option TaskState, ∃ r ∈ states, cancelAnswer r = cancelAnswer o ∧
      r.map TaskState.name = o.map TaskState.name ∧ r.any TaskState.cancellable = o.any TaskState.cancellable := by
    intro o
    cases o with
    | none => exact ⟨none, by decide, rfl, rfl, rfl⟩
    | some st =>
        cases st with
        | unlisted v => exact ⟨some (.unlisted 0), by decide, rfl, rfl, rfl⟩
        | _ => exact ⟨_, by decide, rfl, rfl, rfl⟩
  have hall : ∀ r ∈ states, ∀ r' ∈ states, r'.any TaskState.cancellable = false →
      ((cancelAnswer r).found = (cancelAnswer r').found ∧ (cancelAnswer r).cancelled = (cancelAnswer r').cancelled ∧
        (cancelAnswer r).error = (cancelAnswer r').error ↔ r.map TaskState.name = r'.map TaskState.name) := by
    decide +kernel
  obtain ⟨r, hr, hanswer, hname, -⟩ := hrep o
  obtain ⟨r', hr', hanswer', hname', hcancellable⟩ := hrep o'
  rw [← hanswer, ← hanswer', ← hname, ← hname', ← hall r hr r' hr' (hcancellable.trans h)]
  constructor
  · intro heq
    rw [heq]
    exact ⟨rfl, rfl, rfl⟩
  · rintro ⟨hfound, hcancelled, herror⟩
    cases hc : cancelAnswer r
    cases hc' : cancelAnswer r'
    rw [hc, hc'] at hfound hcancelled herror
    subst hfound hcancelled herror
    rfl

/-- A cancellation that takes effect changes the graph. -/
theorem cancelTask_graph {t : ComputeTaskId} {st : TaskState} (hst : s.graph.states[t]? = some st)
    (hne : st.isTerminal = false) (hlegal : st.isLegal .cancelled = true) :
    (s.toLedger.cancelTask t).graph ≠ s.graph := by
  intro hsame
  have hview := congrArg TaskView.state (s.toLedger.view_cancelTask t t)
  rw [if_pos rfl] at hview
  have hafter : (s.toLedger.cancelTask t).graph.states[t]? = some (st.next .cancelled) := by
    refine hview.trans ?_
    show (s.graph.states[t]?).map _ = _
    rw [hst]
    rfl
  rw [hsame, hst, TaskState.next, if_pos hlegal] at hafter
  rw [Option.some.inj hafter] at hne
  cases hne

end Handlers

/-! ## A running task has an attempt -/

def TaskView.Attempted (v : TaskView D) : Prop := v.state = some .running → 0 < v.attempts.length

theorem TaskView.running_of_move {v : TaskView D} {dst : TaskState} (hdst : dst ≠ .running)
    (h : (v.move dst).state = some .running) : v.state = some .running := by
  obtain ⟨cur, hcur, hnext⟩ := Option.map_eq_some_iff.mp h
  rw [hcur, TaskState.eq_of_next_eq hnext hdst]

section Attempted

variable [DoubleArith D] {env : Env} {s₀ : Coordinator D} {e : Event D} {t : ComputeTaskId} {v v' : TaskView D}

omit [DoubleArith D] in
theorem TaskStep.attempted (h : TaskStep env s₀ t e v v') (hv : v.Attempted) : v'.Attempted := by
  -- only a start leads to Running, and it has found an attempt
  have hmove : ∀ (x : TaskView D) (dst : TaskState), dst ≠ .running → x.Attempted → (x.move dst).Attempted :=
    fun x dst hdst hx h => hx (TaskView.running_of_move hdst h)
  have hrewrite : ∀ (x : TaskView D) (i : Nat) (f : ExecutionAttempt D → ExecutionAttempt D), x.Attempted →
      (x.rewrite i f).Attempted := by
    intro x i f hx h
    rw [TaskView.rewrite_attempts, List.length_modify]
    exact hx h
  have hfailure : ∀ r, Ledger.afterFailure r ≠ .running := by
    intro r
    rcases Ledger.afterFailure_eq r with h | h <;> rw [h] <;> decide
  cases h with
  | @submit client conn req sub v hid hnew haccepts =>
      intro h
      have hinitial : Ledger.initialState sub.task ≠ .running := by
        unfold Ledger.initialState
        split_ifs <;> decide
      exact absurd (Option.some.inj h) hinitial
  | @start st i a hfind htask hepoch =>
      intro _
      have hi := List.getElem?_eq_some_iff.mp (Ledger.findActiveAttempt_eq_some hfind).1
      rw [TaskView.move_attempts, TaskView.rewrite_attempts, List.length_modify]
      exact Nat.zero_lt_of_lt hi.1
  | commit => exact hmove _ _ (by decide) (hrewrite _ _ _ hv)
  | abandon => exact hmove _ _ (by decide) (hrewrite _ _ _ hv)
  | fail =>
      dsimp only
      split_ifs
      · exact hrewrite _ _ _ hv
      · exact hmove _ _ (hfailure _) (hrewrite _ _ _ hv)
  | cancelAttempt => exact hmove _ _ (by decide) (hrewrite _ _ _ hv)
  | requestCancel => exact hv
  | lose => exact hmove _ _ (hfailure _) (hmove _ _ (by decide) hv)
  | dispatch =>
      intro h
      cases h
  | _ => exact hmove _ _ (by decide) hv

theorem run_attempted {events : List (Event D)} {s : Coordinator D} (hrun : run env events = some s)
    (t : ComputeTaskId) : (s.view t).Attempted := by
  refine run_view_invariant (J := TaskView.Attempted) (C := fun _ _ => True) t (by rintro ⟨⟩)
    (fun _ _ _ _ _ _ hv hstep => hstep.attempted hv) ?_ (.of_forall (fun _ _ => trivial) events) hrun
  intro retry n v hv h
  -- recovery leaves no task running
  obtain ⟨st, -, hst⟩ := Option.map_eq_some_iff.mp h
  unfold recoveredState at hst
  split_ifs at hst with hactive
  all_goals first | cases hst; done | (rw [hst] at hactive; exact absurd rfl hactive)

end Attempted

/-! ## The second delivery -/

/-- The second delivery of the command, in `s'`, repeats the first, in `s`.

    - A submission finds the task and was accepted before, or is refused for the reason it was refused for.
    - A cancellation finds the task as it was, in a state in which it is only answered or only requested.
    - A drain finds the node unknown or offline as it was, or in the state of health it asks for. -/
def Coordinator.repeats (s s' : Coordinator D) : Command D → Bool
  | .taskSubmit _ _ _ sub =>
      if s'.graph.hasTask sub.task.id then s.graph.hasTask sub.task.id || (s.submitRefusal sub).isNone
      else !s.graph.hasTask sub.task.id && (s'.submitRefusal sub).isSome && s'.submitRefusal sub = s.submitRefusal sub
  | .taskCancel _ _ _ t =>
      s.graph.states[t]?.map TaskState.name = s'.graph.states[t]?.map TaskState.name &&
        !s'.graph.states[t]?.any TaskState.cancellable
  | .nodeDrain _ _ _ drain =>
      match s.nodes[drain.nodeId]?, s'.nodes[drain.nodeId]? with
      | none, none => true
      | some node, some node' =>
          if node'.health = .offline then node.health = .offline
          else node.health ≠ .offline && node'.health = if drain.drain then .draining else .online
      | _, _ => false
  | _ => true

section Second

variable [DoubleArith D] (env : Env) {s s' : Coordinator D} {client : Id128} {conn : ConnId} {req : UInt64}

/-- **Submissions.** -/
theorem submit_repeats_iff (hcoh : s'.graph.Coherent) (hr : Restartable s'.graph.tasks) (sub : TaskSubmit D) :
    s'.submitResponse sub = s.submitResponse sub ∧
        s'.Unchanged (s'.handleTaskSubmit env client conn req sub) ↔
      s.repeats s' (.taskSubmit client conn req sub) = true := by
  have hidle : s'.graph.hasTask sub.task.id = true ∨ (s'.submitRefusal sub).isSome = true →
      s'.Unchanged (s'.handleTaskSubmit env client conn req sub) := by
    intro h
    rw [handleTaskSubmit_of_idle env h, respondClient_unchanged]
    exact .refl s'
  unfold repeats submitResponse
  by_cases hknown' : s'.graph.hasTask sub.task.id = true
  · have hunchanged := hidle (.inl hknown')
    by_cases hknown : s.graph.hasTask sub.task.id = true
    · simp [hknown, hknown', hunchanged]
    · cases hrefusal : s.submitRefusal sub with
      | none => simp [hknown, hknown', hunchanged, hrefusal]
      | some r => simp [hknown, hknown', hrefusal]
  · cases hrefusal' : s'.submitRefusal sub with
    | none =>
        -- the task is created again
        have hchanged : ¬s'.Unchanged (s'.handleTaskSubmit env client conn req sub) := by
          obtain ⟨y, hy, -, hhandler⟩ := handleTaskSubmit_of_new env hcoh hr (Bool.not_eq_true _ ▸ hknown') hrefusal'
          rw [hhandler, respondClient_unchanged]
          intro h
          rw [h.graph] at hy
          exact hknown' hy
        simp [hknown', hchanged, hrefusal']
    | some r' =>
        have hunchanged := hidle (.inr (by rw [hrefusal']; rfl))
        by_cases hknown : s.graph.hasTask sub.task.id = true
        · simp [hknown, hknown']
        · cases hrefusal : s.submitRefusal sub with
          | none => simp [hknown, hknown', hrefusal, hrefusal']
          | some r => simp [hknown, hknown', hunchanged, hrefusal, hrefusal']

omit [DoubleArith D] in
/-- **Cancellations.** -/
theorem cancel_repeats_iff (hcoh : s.graph.Coherent) (hcoh' : s'.graph.Coherent) {t : ComputeTaskId}
    (hattempted : (s'.view t).Attempted) :
    s'.cancelResponse t = s.cancelResponse t ∧ s'.Unchanged (s'.handleTaskCancel env client conn req t) ↔
      s.repeats s' (.taskCancel client conn req t) = true := by
  have hrepeats : s.repeats s' (.taskCancel client conn req t) = true ↔
      s.graph.states[t]?.map TaskState.name = s'.graph.states[t]?.map TaskState.name ∧
        s'.graph.states[t]?.any TaskState.cancellable = false := by
    simp [repeats]
  rw [hrepeats, cancelResponse_eq hcoh, cancelResponse_eq hcoh', @eq_comm _ (cancelAnswer _)]
  by_cases hcancellable : s'.graph.states[t]?.any TaskState.cancellable = true
  · -- the task is cancelled again
    obtain ⟨st, hst, hst'⟩ := (Option.any_eq_true _ _).mp hcancellable
    simp only [TaskState.cancellable, Bool.and_eq_true, Bool.not_eq_true', decide_eq_true_eq] at hst'
    obtain ⟨⟨hterminal, hrunning⟩, hlegal⟩ := hst'
    have hchanged : ¬s'.Unchanged (s'.handleTaskCancel env client conn req t) := by
      have hfind : ∃ task, s'.graph.find t = some task := by
        rw [← Option.isSome_iff_exists]
        exact (hcoh'.isSome_states t).symm.trans (by rw [hst]; rfl)
      obtain ⟨task, htask⟩ := hfind
      have hstate : s'.graph.state t = st := Ledger.state_of_view hst
      have hset := TaskGraph.setState_of_legal (g := s'.graph) hst hlegal
      simp only [handleTaskCancel, htask, hstate, hterminal, Bool.false_eq_true, if_false, if_neg hrunning, hset]
      rw [respondClient_unchanged]
      intro h
      refine cancelTask_graph hst hterminal hlegal ?_
      have hgraph := h.graph
      rwa [persist_toLedger] at hgraph
    simp [hcancellable, hchanged]
  · have hcancellable' : s'.graph.states[t]?.any TaskState.cancellable = false := Bool.not_eq_true _ ▸ hcancellable
    rw [cancelAnswer_eq_iff hcancellable']
    have hunchanged : s'.Unchanged (s'.handleTaskCancel env client conn req t) := by
      rcases handleTaskCancel_cases env s' client conn req t with
        ⟨-, heq⟩ | ⟨-, hrunning, heq⟩ | ⟨-, st, hst, hterminal, hrunning, hlegal, -⟩
      · rw [heq, respondClient_unchanged]
        exact .refl s'
      · -- the request is repeated, and the list of attempts it touches is there
        rw [heq, respondClient_unchanged]
        have hledger := cancelNotice_toLedger env (s := s') t
        have hlist := hattempted hrunning
        have hattempts : s'.attempts.insert t (s'.attemptsOf t) = s'.attempts := by
          refine Std.ExtTreeMap.ext_getElem? fun u => ?_
          rw [Std.ExtTreeMap.getElem?_insert]
          split_ifs with hu
          · obtain rfl : t = u := by simpa using hu
            change 0 < (s'.attempts[t]?.getD []).length at hlist
            unfold Ledger.attemptsOf
            cases hentry : s'.attempts[t]? with
            | none =>
                rw [hentry] at hlist
                cases hlist
            | some list => rfl
          · rfl
        refine ⟨by rw [hledger]; rfl, by rw [hledger]; rfl, by rw [hledger]; exact hattempts, by rw [hledger]; rfl, ?_⟩
        unfold cancelNotice
        dsimp only
        split
        · exact (sendToNode_frame _ _ _ _).1
        · rfl
      · rw [hst] at hcancellable
        exact absurd (by simp [TaskState.cancellable, hterminal, hrunning, hlegal]) hcancellable
    simp [hunchanged, hcancellable']

omit [DoubleArith D] in
/-- **Drains.** -/
theorem drain_repeats_iff (drain : NodeDrain) :
    s'.drainResponse drain.nodeId = s.drainResponse drain.nodeId ∧
        s'.Unchanged (s'.handleNodeDrain env client conn req drain) ↔
      s.repeats s' (.nodeDrain client conn req drain) = true := by
  have hidle : (∀ node, s'.nodes[drain.nodeId]? = some node → node.health = .offline) →
      s'.Unchanged (s'.handleNodeDrain env client conn req drain) := by
    intro h
    unfold handleNodeDrain
    dsimp only
    split
    · rw [respondClient_unchanged]
      exact .refl s'
    · next node hnode =>
        rw [if_pos (h node hnode), respondClient_unchanged]
        exact .refl s'
  -- an accepted drain changes nothing exactly when the health is already what it asks for
  have hdrained : ∀ node, s'.nodes[drain.nodeId]? = some node → node.health ≠ .offline →
      (s'.Unchanged (s'.handleNodeDrain env client conn req drain) ↔
        node.health = if drain.drain then .draining else .online) := by
    intro node hnode hhealth
    simp only [handleNodeDrain, hnode, if_neg hhealth]
    rw [respondClient_unchanged]
    constructor
    · intro h
      have hnodes := congrArg (fun m : IdMap (NodeRecord D) => m[drain.nodeId]?) h.nodes
      simp only [onLedger, Ledger.updateNode, Std.ExtTreeMap.getElem?_modify_self, hnode, Option.map_some,
        Option.some.injEq] at hnodes
      exact (congrArg NodeRecord.health hnodes).symm
    · intro hsame
      refine ⟨rfl, rfl, rfl, ?_, rfl⟩
      refine Std.ExtTreeMap.ext_getElem? fun m => ?_
      simp only [onLedger, Ledger.updateNode, Std.ExtTreeMap.getElem?_modify]
      by_cases hm : compare drain.nodeId m = .eq
      · obtain rfl : drain.nodeId = m := by simpa using hm
        rw [if_pos hm, hnode, Option.map_some, ← hsame]
      · rw [if_neg hm]
  unfold repeats drainResponse
  cases hnode' : s'.nodes[drain.nodeId]? with
  | none =>
      have hunchanged := hidle (by rw [hnode']; rintro node ⟨⟩)
      cases hnode : s.nodes[drain.nodeId]? with
      | none => simp [hnode, hnode', hunchanged]
      | some node => by_cases hoffline : node.health = .offline <;> simp [hnode, hnode', hoffline]
  | some node' =>
      by_cases hoffline' : node'.health = .offline
      · have hunchanged := hidle (by rw [hnode']; rintro node ⟨⟩; exact hoffline')
        cases hnode : s.nodes[drain.nodeId]? with
        | none => simp [hnode, hnode', hoffline']
        | some node =>
            by_cases hoffline : node.health = .offline <;>
              simp [hnode, hnode', hoffline, hoffline', hunchanged]
      · have hsame := hdrained node' hnode' hoffline'
        cases hnode : s.nodes[drain.nodeId]? with
        | none => simp [hnode, hnode', hoffline']
        | some node => by_cases hoffline : node.health = .offline <;> simp [hnode, hnode', hoffline, hoffline', hsame]

variable {env}

/-- What a mutating client command is answered with depends on the state before it only. -/
theorem replyTo_eq (hcoh : s.graph.Coherent) (hr : Restartable s.graph.tasks) {c : Command D}
    (hc : c.isMutating = true) {m : Message D} (h : s.replyTo env c = some m) : s.response c = some m := by
  have hnil : ∀ e ∈ ([] : List (Effect D)), e.response? = none := fun _ he => absurd he List.not_mem_nil
  have hsingle : ∀ e₀ : Effect D, e₀.response? = none → ∀ e ∈ [e₀], e.response? = none := by
    intro e₀ he₀ e he
    rw [List.mem_singleton.mp he]
    exact he₀
  cases c with
  | taskSubmit client conn req sub =>
      by_cases hidle : s.graph.hasTask sub.task.id = true ∨ (s.submitRefusal sub).isSome = true
      · exact congrArg some (response_of_respondClient env (handleTaskSubmit_of_idle env hidle)
          (List.nil_append _).symm hnil (by rintro e ⟨⟩; rfl) h).symm
      · rw [not_or, Bool.not_eq_true, Bool.not_eq_true, Option.isSome_eq_false_iff, Option.isNone_iff_eq_none] at hidle
        obtain ⟨y, -, ⟨e₀, hy, he₀⟩, hhandler⟩ := handleTaskSubmit_of_new env hcoh hr hidle.1 hidle.2
        exact congrArg some (response_of_respondClient env hhandler hy (hsingle e₀ he₀) (by rintro e ⟨⟩; rfl) h).symm
  | taskCancel client conn req t =>
      rcases handleTaskCancel_cases env s client conn req t with
        ⟨-, heq⟩ | ⟨-, -, heq⟩ | ⟨-, st, -, -, -, -, heq⟩
      · exact congrArg some
          (response_of_respondClient env heq (List.nil_append _).symm hnil (by rintro e ⟨⟩; rfl) h).symm
      · -- the notice to the node is no response
        obtain ⟨before, hbefore, hnone⟩ : ∃ before, (s.cancelNotice env t).effects = before ++ s.effects ∧
            ∀ e ∈ before, e.response? = none := by
          rcases cancelNotice_eq env s t with ⟨-, hnotice⟩ | ⟨c, a, -, -, hnotice⟩
          · exact ⟨[], by rw [hnotice]; rfl, hnil⟩
          · rw [hnotice, queueOutbound_effects]
            split_ifs
            · exact ⟨[_], rfl, hsingle _ rfl⟩
            · exact ⟨[], rfl, hnil⟩
        exact congrArg some (response_of_respondClient env heq hbefore hnone (by rintro e ⟨⟩; rfl) h).symm
      · refine congrArg some (response_of_respondClient env heq (before_saveEffect rfl) (hsingle _ ?_)
          (by rintro e ⟨⟩; rfl) h).symm
        unfold saveEffect
        split_ifs <;> rfl
  | nodeDrain client conn req drain =>
      have hhandler : ∃ x : Coordinator D, x.effects = s.effects ∧ s.handleNodeDrain env client conn req drain =
          x.respondClient env client conn req (.nodeDrainResponse (s.drainResponse drain.nodeId)) := by
        unfold handleNodeDrain drainResponse
        cases hnode : s.nodes[drain.nodeId]? with
        | none => exact ⟨s, rfl, rfl⟩
        | some node =>
            dsimp only
            by_cases hoffline : node.health = .offline
            · rw [if_pos hoffline, if_pos hoffline]
              exact ⟨s, rfl, rfl⟩
            · rw [if_neg hoffline, if_neg hoffline]
              exact ⟨s.onLedger _, rfl, rfl⟩
      obtain ⟨x, hx, heq⟩ := hhandler
      exact congrArg some (response_of_respondClient env heq (hx.trans (List.nil_append _).symm) hnil
        (by rintro e ⟨⟩; rfl) h).symm
  | _ => cases hc

/-- **A duplicate client command is idempotent** exactly when the second delivery finds what the first left: for
    every reachable state, every mutating client command and everything that happens between its two deliveries,
    the second, on whatever connection, if both are answered, queues the same payload and leaves graph, reservations,
    attempts, nodes and durable state alone if and only if it `repeats` the first. -/
theorem duplicate_idempotent_iff {events between : List (Event D)} (hrun : run env events = some s) {c : Command D}
    (hc : c.isMutating = true) (hbetween : runFrom env (s.process env c) between = some s') {conn' : ConnId}
    {m m' : Message D} (hfirst : s.replyTo env c = some m) (hsecond : s'.replyTo env (c.deliveredOn conn') = some m') :
    m' = m ∧ s'.Unchanged (s'.process env (c.deliveredOn conn')) ↔ s.repeats s' c = true := by
  have hrun' : run env (events ++ .command c :: between) = some s' := run_append.mpr ⟨s, hrun, hbetween⟩
  have hcoh := (run_sound hrun).wellFormed.coherent
  have hcoh' := (run_sound hrun').wellFormed.coherent
  have hr := (crashRun_restartable (crashRun_event events ▸ hrun)).1
  have hr' := (crashRun_restartable (crashRun_event (events ++ Event.command c :: between) ▸ hrun')).1
  have hm := replyTo_eq hcoh hr hc hfirst
  have hm' := replyTo_eq hcoh' hr' ((Command.isMutating_deliveredOn conn' c).trans hc) hsecond
  -- the connection is asked only for where to send the answer
  cases c with
  | taskSubmit client conn req sub =>
      show _ ↔ s.repeats s' (.taskSubmit client conn' req sub) = true
      rw [← submit_repeats_iff env hcoh' hr' sub, ← Option.some.inj hm, ← Option.some.inj hm',
        Message.taskSubmitResponse.injEq]
      rfl
  | taskCancel client conn req t =>
      show _ ↔ s.repeats s' (.taskCancel client conn' req t) = true
      rw [← cancel_repeats_iff env hcoh hcoh' (run_attempted hrun' t), ← Option.some.inj hm,
        ← Option.some.inj hm', Message.taskCancelResponse.injEq]
      rfl
  | nodeDrain client conn req drain =>
      show _ ↔ s.repeats s' (.nodeDrain client conn' req drain) = true
      rw [← drain_repeats_iff env drain, ← Option.some.inj hm, ← Option.some.inj hm',
        Message.nodeDrainResponse.injEq]
      rfl
  | _ => cases hc

end Second

def Demo.connect : Event ℚ := .command (.clientConnected ⟨0, 9⟩ 2)

def Demo.submission : Command ℚ := .taskSubmit ⟨0, 9⟩ 2 0 { task := Demo.task 1 }

def Demo.cancellation : Command ℚ := .taskCancel ⟨0, 9⟩ 2 0 Demo.taskId

/-- Between the deliveries the task is dispatched and the client reconnects. -/
def Demo.reconnected : List (Event ℚ) :=
  [.sweep, .command (.clientDisconnected ⟨0, 9⟩ 2), .command (.clientConnected ⟨0, 9⟩ 3)]

/-- The same submission, delivered again on the new connection. -/
theorem duplicate_submit_idempotent :
    ∃ s s' m m', run (Demo.env 3000 100) [Demo.connect, Demo.register 1] = some s ∧
      runFrom (Demo.env 3000 100) (s.process (Demo.env 3000 100) Demo.submission) Demo.reconnected = some s' ∧
      s.replyTo (Demo.env 3000 100) Demo.submission = some m ∧
      s'.replyTo (Demo.env 3000 100) (Demo.submission.deliveredOn 3) = some m' ∧ m' = m ∧
      s'.Unchanged (s'.process (Demo.env 3000 100) (Demo.submission.deliveredOn 3)) := by
  have hfacts : ((run (Demo.env 3000 100) [Demo.connect, Demo.register 1]).bind fun s =>
      (runFrom (Demo.env 3000 100) (s.process (Demo.env 3000 100) Demo.submission) Demo.reconnected).map fun s' =>
        (s.replyTo (Demo.env 3000 100) Demo.submission |>.isSome,
          s'.replyTo (Demo.env 3000 100) (Demo.submission.deliveredOn 3) |>.isSome, s.repeats s' Demo.submission)) =
      some (true, true, true) := by
    decide +kernel
  obtain ⟨s, hs, hfacts⟩ := Option.bind_eq_some_iff.mp hfacts
  obtain ⟨s', hs', hfacts⟩ := Option.map_eq_some_iff.mp hfacts
  obtain ⟨hfirst, hfacts⟩ := Prod.mk.inj hfacts
  obtain ⟨hsecond, hrepeats⟩ := Prod.mk.inj hfacts
  obtain ⟨m, hm⟩ := Option.isSome_iff_exists.mp hfirst
  obtain ⟨m', hm'⟩ := Option.isSome_iff_exists.mp hsecond
  obtain ⟨hsame, hunchanged⟩ := (duplicate_idempotent_iff hs rfl hs' hm hm').mpr hrepeats
  exact ⟨s, s', m, m', hs, hs', hm, hm', hsame, hunchanged⟩

/-- The answer of a cancellation. -/
def Message.cancelResponse? : Message D → Option TaskCancelResponse
  | .taskCancelResponse resp => some resp
  | _ => none

/-- The second of two identical cancellations of a ready task is answered "task already Cancelled". -/
theorem duplicate_cancel_differs :
    ∃ s s' m m', run (Demo.env 3000 100) [Demo.connect, Demo.submit 1] = some s ∧
      runFrom (Demo.env 3000 100) (s.process (Demo.env 3000 100) Demo.cancellation) [] = some s' ∧
      s.replyTo (Demo.env 3000 100) Demo.cancellation = some m ∧
      s'.replyTo (Demo.env 3000 100) Demo.cancellation = some m' ∧ m' ≠ m ∧
      m'.cancelResponse?.map TaskCancelResponse.error = some (text "task already Cancelled") := by
  have hfacts : ((run (Demo.env 3000 100) [Demo.connect, Demo.submit 1]).bind fun s =>
      (runFrom (Demo.env 3000 100) (s.process (Demo.env 3000 100) Demo.cancellation) []).bind fun s' =>
        (s.replyTo (Demo.env 3000 100) Demo.cancellation).bind fun m =>
          (s'.replyTo (Demo.env 3000 100) Demo.cancellation).map fun m' =>
            (m.cancelResponse?.map TaskCancelResponse.error, m'.cancelResponse?.map TaskCancelResponse.error)) =
      some (some [], some (text "task already Cancelled")) := by
    decide +kernel
  obtain ⟨s, hs, hfacts⟩ := Option.bind_eq_some_iff.mp hfacts
  obtain ⟨s', hs', hfacts⟩ := Option.bind_eq_some_iff.mp hfacts
  obtain ⟨m, hm, hfacts⟩ := Option.bind_eq_some_iff.mp hfacts
  obtain ⟨m', hm', hfacts⟩ := Option.map_eq_some_iff.mp hfacts
  obtain ⟨herror, herror'⟩ := Prod.mk.inj hfacts
  refine ⟨s, s', m, m', hs, hs', hm, hm', ?_, herror'⟩
  rintro rfl
  have hempty := herror.symm.trans herror'
  revert hempty
  decide +kernel

end ComputeFabric
