import ComputeFabric.Lib.OrdMap
import ComputeFabric.Node.Accounting

/-!
# `Node.Verdicts` — what a node's reports say

A node's report decides what the coordinator believes about an attempt. Here is what stands behind it, in every
run of the node:

- a report of success carries the output of the kernel on the task as it was dispatched. The cancellation token
  may be requested while the kernel runs, but a kernel that ends with a result has computed what it computes
  undisturbed (`runCpuKernel_of_success`);
- a report of a cancellation, in either of its two forms, answers an `AttemptCancel` for that very attempt. The
  tokens are shared objects found through `active_tokens_`, and `stop` requests all of them; but after `stop`
  nothing is sent any more.

`Justified` is the invariant. It is about the messages the node may have heard, as a predicate, so that it also
serves a node inside the fabric.
-/

namespace ComputeFabric

variable {D : Type}

/-! ## A kernel that ends with a result has not been disturbed -/

theorem pollingLoop_eq_some {σ : Type} {looks : Nat → Bool} {seenAt : Option Nat} {body : Nat → σ → σ}
    {rounds i : Nat} {acc result : σ} (h : pollingLoop looks seenAt body rounds i acc = some result) :
    pollingLoop looks none body rounds i acc = some result := by
  induction rounds generalizing i acc with
  | zero => exact h
  | succ rounds ih =>
      rw [pollingLoop] at h ⊢
      split_ifs at h
      rw [if_neg (by simp)]
      exact ih h

theorem map_pollingLoop_eq_some {σ τ : Type} {f : σ → τ} {looks : Nat → Bool} {seenAt : Option Nat}
    {body : Nat → σ → σ} {rounds i : Nat} {acc : σ} {result : τ}
    (h : (pollingLoop looks seenAt body rounds i acc).map f = some result) :
    (pollingLoop looks none body rounds i acc).map f = some result := by
  obtain ⟨x, hx, rfl⟩ := Option.map_eq_some_iff.mp h
  rw [pollingLoop_eq_some hx]
  rfl

theorem kernelLoop_eq_some {task : ComputeTask D} {seenAt : Option Nat} {n : Nat} {acc : KernelAcc}
    (h : kernelLoop task seenAt n = some (some acc)) : kernelLoop task none n = some (some acc) := by
  unfold kernelLoop at h ⊢
  cases hkernel : task.kernel <;> rw [hkernel] at h <;> dsimp only at h ⊢
  case hashInteger => exact congrArg some (pollingLoop_eq_some (Option.some.inj h))
  case vectorTransform => exact congrArg some (pollingLoop_eq_some (Option.some.inj h))
  case checksum => exact congrArg some (map_pollingLoop_eq_some (Option.some.inj h))
  case syntheticLoop => exact congrArg some (map_pollingLoop_eq_some (Option.some.inj h))
  case stateDependent => exact congrArg some (map_pollingLoop_eq_some (Option.some.inj h))
  case tensorArithmetic => exact congrArg some (map_pollingLoop_eq_some (Option.some.inj h))
  all_goals cases h

/-- **A result does not depend on when a request became visible.** -/
theorem runCpuKernel_of_success {task : ComputeTask D} {seenAt : Option Nat}
    (h : (runCpuKernel task seenAt).success = true) : runCpuKernel task seenAt = runCpuKernel task none := by
  unfold runCpuKernel at h ⊢
  dsimp only at h ⊢
  by_cases hsize : kernelSize task > 64000000
  · rw [if_pos hsize] at h
    cases h
  · rw [if_neg hsize] at h
    rw [if_neg hsize, if_neg hsize]
    cases hloop : kernelLoop task seenAt (kernelSize task).toNat with
    | none =>
        rw [hloop] at h
        cases h
    | some result =>
        cases result with
        | none =>
            rw [hloop] at h
            cases h
        | some acc => rw [kernelLoop_eq_some hloop]

/-- A kernel that says it was cancelled has seen a request. -/
theorem isSome_of_notes_cancelled {task : ComputeTask D} {seenAt : Option Nat}
    (h : (runCpuKernel task seenAt).notes = text "cancelled") : seenAt.isSome = true := by
  obtain ⟨-, -, j, -, -, hseen⟩ := runCpuKernel_cancelled_iff.mp h
  cases seenAt with
  | none => cases hseen
  | some k => rfl

/-! ## What stands behind a report -/

/-- The report carries what the CPU computes for the task. -/
def AttemptComplete.Carries (co : AttemptComplete D) (task : ComputeTask D) : Prop :=
  (runCpuKernel task none).success = true ∧ co.outputIntegrity = (runCpuKernel task none).checksumHex ∧
    co.outputSize = UInt64.ofNat (runCpuKernel task none).output.length ∧
    co.bytesTransferred = (runCpuKernel task none).bytesProcessed ∧
    co.device = text "cpu" ∧ co.notes = [(runCpuKernel task none).notes]

/-- A frame is backed by what was heard. `H` are the messages the node may have heard, and `asked` the attempts
    whose cancellation was asked for. -/
def NodeFrame.Backed (H : Message D → Prop) (asked : ExecutionAttemptId → Prop) : NodeFrame D → Prop
  | .attemptComplete co => ∃ msg, H (.dispatchAttempt msg) ∧
      (⟨co.attemptId, co.taskId, co.reservationId⟩ : Assignment) = msg.assignment ∧ co.Carries msg.task
  | .attemptFailed fa => ∃ msg, H (.dispatchAttempt msg) ∧
      (⟨fa.attemptId, fa.taskId, fa.reservationId⟩ : Assignment) = msg.assignment ∧
      (fa.failureKind = FailureKind.cancelled.toUInt8 → asked fa.attemptId)
  | .attemptCancelled ca => ∃ msg, H (.dispatchAttempt msg) ∧
      (⟨ca.attemptId, ca.taskId, ca.reservationId⟩ : Assignment) = msg.assignment ∧ asked ca.attemptId
  | _ => True

theorem NodeFrame.Backed.mono {H H' : Message D → Prop} {asked asked' : ExecutionAttemptId → Prop}
    {frame : NodeFrame D} (h : frame.Backed H asked) (hH : ∀ m, H m → H' m) (ha : ∀ id, asked id → asked' id) :
    frame.Backed H' asked' := by
  cases frame with
  | attemptComplete co =>
      obtain ⟨msg, hmsg, hnames, hcarries⟩ := h
      exact ⟨msg, hH _ hmsg, hnames, hcarries⟩
  | attemptFailed fa =>
      obtain ⟨msg, hmsg, hnames, hkind⟩ := h
      exact ⟨msg, hH _ hmsg, hnames, fun hk => ha _ (hkind hk)⟩
  | attemptCancelled ca =>
      obtain ⟨msg, hmsg, hnames, hasked⟩ := h
      exact ⟨msg, hH _ hmsg, hnames, ha _ hasked⟩
  | _ => trivial

/-- A cancellation of the attempt was heard. -/
def CancelHeard (H : Message D → Prop) (id : ExecutionAttemptId) : Prop :=
  ∃ reason, H (.attemptCancel id reason)

namespace NodeRuntime

/-- The node was registered and has closed its channel. -/
def Closed (node : NodeRuntime D) : Prop := node.phase = .running ∧ node.channelOpen = false

/-- Why a token may be requested: the coordinator asked for it, or the node has been stopped. -/
def Asked (H : Message D → Prop) (node : NodeRuntime D) (id : ExecutionAttemptId) : Prop :=
  CancelHeard H id ∨ node.Closed

/-- `work` waits in the executor or is with a worker. -/
def Works (node : NodeRuntime D) (work : AttemptWork D) : Prop :=
  work ∈ node.cpu.queue ∨ ∃ w ∈ node.cpu.workers, w.work = work

/-- An outcome is backed by what was heard. -/
def ItemBacked (H : Message D → Prop) (asked : ExecutionAttemptId → Prop) (item : CompletionItem D) : Prop :=
  ∃ msg, H (.dispatchAttempt msg) ∧ item.assignment = msg.assignment ∧
    ((∃ seenAt durationMs, item.outcome = CpuExecutorBackend.kernelOutcome msg.task seenAt durationMs ∧
      (seenAt.isSome = true → asked item.attemptId)) ∨
    (∃ durationMs, item.outcome = CpuExecutorBackend.cancelledOutcome durationMs) ∧ asked item.attemptId)

/-- The frames that report a backed outcome are backed. -/
theorem ItemBacked.reportFrames {H : Message D → Prop} {asked : ExecutionAttemptId → Prop}
    {item : CompletionItem D} (h : ItemBacked H asked item) (node : NodeRuntime D) :
    ∀ frame ∈ node.reportFrames item, frame.Backed H asked := by
  obtain ⟨msg, hmsg, hnames, hcase⟩ := h
  intro frame hmem
  rcases hcase with ⟨seenAt, durationMs, hout, hseen⟩ | ⟨⟨durationMs, hout⟩, hasked⟩
  · -- The kernel was entered: the outcome is a success or a failure.
    unfold NodeRuntime.reportFrames at hmem
    rw [hout] at hmem
    rw [if_neg (CpuExecutorBackend.kernelOutcome_state_ne_cancelled msg.task seenAt durationMs)] at hmem
    unfold CpuExecutorBackend.kernelOutcome at hmem
    dsimp only at hmem
    cases hsuccess : (runCpuKernel msg.task seenAt).success with
    | true =>
        have hsame := runCpuKernel_of_success hsuccess
        rw [hsame] at hsuccess
        simp only [hsame, hsuccess, if_true] at hmem
        rcases List.mem_pair.mp hmem with rfl | rfl
        · exact ⟨msg, hmsg, hnames, hsuccess, rfl, rfl, rfl, rfl, rfl⟩
        · trivial
    | false =>
        simp only [hsuccess, Bool.false_eq_true, if_false, reduceCtorEq] at hmem
        rcases List.mem_pair.mp hmem with rfl | rfl
        · refine ⟨msg, hmsg, hnames, fun hkind => hseen ?_⟩
          by_cases hnotes : (runCpuKernel msg.task seenAt).notes = text "cancelled"
          · exact isSome_of_notes_cancelled hnotes
          · simp only [if_neg hnotes] at hkind
            exact absurd hkind (by decide)
        · trivial
  · rw [show node.reportFrames item = node.cancelledFrames item.attemptId item.taskId item.reservationId
      (text "cancelled before execution") by unfold NodeRuntime.reportFrames; rw [hout]; rfl] at hmem
    rcases List.mem_pair.mp hmem with rfl | rfl
    · exact ⟨msg, hmsg, hnames, hasked⟩
    · trivial

/-! ## Where things come from -/

variable [DoubleArith D] {node node' : NodeRuntime D} {heard : Option (Message D)}
  {frames : List (NodeFrame D)}

omit [DoubleArith D] in
theorem works_setPhase {i : Nat} {phase : WorkerPhase} {work : AttemptWork D}
    (h : { node with cpu := node.cpu.setPhase i phase }.Works work) : node.Works work := by
  rcases h with h | ⟨w, hw, rfl⟩
  · exact .inl h
  · obtain ⟨j, hj, rfl⟩ := List.mem_iff_getElem.mp hw
    right
    simp only [CpuExecutorBackend.setPhase, List.getElem_modify]
    split <;> exact ⟨_, List.getElem_mem _, rfl⟩

omit [DoubleArith D] in
theorem onComplete_cpu (node : NodeRuntime D) (work : AttemptWork D) (out : AttemptOutcome D) :
    (node.onComplete work out).cpu = node.cpu := by
  unfold onComplete
  dsimp only
  split
  · rfl
  · split <;> rfl

/-- A work item is older than the move, or it is the dispatch just heard. -/
theorem Moves.works (h : node.Moves heard node' frames) {work : AttemptWork D} (hwork : node'.Works work) :
    node.Works work ∨ ∃ msg, heard = some (.dispatchAttempt msg) ∧ msg.coordinatorEpoch = node'.epoch ∧
      node'.tokensMade = node.tokensMade + 1 ∧
      work = ⟨msg.task, msg.attemptId, msg.reservationId, node.tokensMade⟩ := by
  cases h with
  | accept msg hphase hstop hidle hepoch hcan hroom =>
      rcases hwork with hmem | hmem
      · rcases List.mem_append.mp hmem with hmem | hmem
        · exact .inl (.inl hmem)
        · exact .inr ⟨msg, rfl, hepoch, rfl, List.mem_singleton.mp hmem⟩
      · exact .inl (.inr hmem)
  | take work' rest hqueue hroom =>
      left
      rcases hwork with hmem | ⟨w, hmem, rfl⟩
      · exact .inl (by rw [hqueue]; exact List.mem_cons_of_mem _ hmem)
      · rcases List.mem_append.mp hmem with hmem | hmem
        · exact .inr ⟨w, hmem, rfl⟩
        · rw [List.mem_singleton.mp hmem]
          exact .inl (by rw [hqueue]; exact List.mem_cons_self)
  | «begin» i work' startedAtMs hworker => exact .inl (works_setPhase hwork)
  | check i work' phase hworker hphase => exact .inl (works_setPhase hwork)
  | finish i w seenAt durationMs out hworker hout =>
      left
      unfold Works at hwork
      rw [onComplete_cpu] at hwork
      rcases hwork with hmem | ⟨w', hmem, rfl⟩
      · exact .inl hmem
      · exact .inr ⟨w', List.mem_of_mem_eraseIdx hmem, rfl⟩
  | _ => exact .inl hwork

/-- An outcome is older than the move, or a worker has just come to it. -/
theorem Moves.items (h : node.Moves heard node' frames) {item : CompletionItem D}
    (hitem : item ∈ node'.compQueue) :
    item ∈ node.compQueue ∨ ∃ w ∈ node.cpu.workers, ∃ seenAt durationMs out,
      node.outcome w seenAt durationMs = some out ∧
      item = ⟨w.work.attemptId, w.work.task.id, w.work.reservationId, out⟩ := by
  cases h with
  | finish i w seenAt durationMs out hworker hout =>
      unfold onComplete at hitem
      dsimp only at hitem
      split at hitem
      · rcases List.mem_append.mp hitem with hmem | hmem
        · exact .inl hmem
        · exact .inr ⟨w, List.mem_of_getElem? hworker, seenAt, durationMs, out, hout,
            List.mem_singleton.mp hmem⟩
      · left
        split at hitem <;> exact hitem
  | report item' rest hstop hidle hqueue =>
      rw [hqueue]
      exact .inl (List.mem_cons_of_mem _ hitem)
  | _ => exact .inl hitem

/-- A frame that waits is older than the move, refuses the dispatch just heard, or reports an outcome. -/
theorem Moves.sends (h : node.Moves heard node' frames) {frame : NodeFrame D} (hframe : frame ∈ node'.pending) :
    frame ∈ node.pending ∨
      (∃ msg kind reason, heard = some (.dispatchAttempt msg) ∧
        kind.toUInt8 ≠ FailureKind.cancelled.toUInt8 ∧
        frame ∈ node.failedFrames msg.attemptId msg.task.id msg.reservationId kind reason 0.0) ∨
      ∃ item ∈ node.compQueue, frame ∈ node.reportFrames item := by
  cases h with
  | refuse msg made tokens kind reason hphase hstop hidle htokens hkind =>
      rcases List.mem_append.mp hframe with hmem | hmem
      · exact .inr (.inl ⟨msg, kind, reason, rfl, hkind, hmem⟩)
      · exact .inl (List.mem_append_right _ hmem)
  | report item rest hstop hidle hqueue =>
      rcases List.mem_append.mp hframe with hmem | hmem
      · exact .inl (List.mem_append_left _ hmem)
      · exact .inr (.inr ⟨item, by rw [hqueue]; exact List.mem_cons_self, hmem⟩)
  | sendReader frame' rest hsends =>
      left
      rw [pending, hsends]
      exact List.mem_append.mpr ((List.mem_append.mp hframe).imp_left (List.mem_cons_of_mem _))
  | sendReporter frame' rest hsends =>
      left
      rw [pending, hsends]
      exact List.mem_append.mpr ((List.mem_append.mp hframe).imp_right (List.mem_cons_of_mem _))
  | finish i w seenAt durationMs out hworker hout =>
      obtain ⟨h₁, h₂⟩ := onComplete_pending { node with cpu := node.cpu.release i } w.work out
      rw [pending, h₁, h₂] at hframe
      exact .inl hframe
  | _ => exact .inl hframe

omit [DoubleArith D] in
theorem onComplete_tokens (node : NodeRuntime D) (work : AttemptWork D) (out : AttemptOutcome D) :
    (node.onComplete work out).tokensMade = node.tokensMade ∧
      (node.onComplete work out).requested = node.requested ∧
      (node.onComplete work out).epoch = node.epoch ∧
      ∀ (id : ExecutionAttemptId) (token : Nat), (node.onComplete work out).activeTokens[id]? = some token →
        node.activeTokens[id]? = some token := by
  have herase : ∀ (id : ExecutionAttemptId) (token : Nat),
      (node.activeTokens.erase work.attemptId)[id]? = some token →
      node.activeTokens[id]? = some token := by
    intro id token h
    rw [Std.ExtTreeMap.getElem?_erase] at h
    split_ifs at h
    exact h
  unfold onComplete
  dsimp only
  split
  · exact ⟨rfl, rfl, rfl, fun _ _ h => h⟩
  · split <;> exact ⟨rfl, rfl, rfl, herase⟩

/-- Tokens are numbered in the order they are made, and each is kept under the attempt it was made for. -/
theorem Moves.tokens (h : node.Moves heard node' frames) :
    node.tokensMade ≤ node'.tokensMade ∧
      ∀ (id : ExecutionAttemptId) (token : Nat), node'.activeTokens[id]? = some token →
        node.activeTokens[id]? = some token ∨
        (∃ msg, heard = some (.dispatchAttempt msg) ∧ msg.attemptId = id ∧ token = node.tokensMade ∧
          node'.tokensMade = node.tokensMade + 1 ∧
          ⟨msg.task, msg.attemptId, msg.reservationId, node.tokensMade⟩ ∈ node'.cpu.queue) := by
  have herase : ∀ {tokens : IdMap Nat} {id' id : Id128} {token : Nat},
      (tokens.erase id')[id]? = some token → tokens[id]? = some token := by
    intro tokens id' id token h
    rw [Std.ExtTreeMap.getElem?_erase] at h
    split_ifs at h
    exact h
  cases h with
  | refuse msg made tokens kind reason hphase hstop hidle htokens hkind =>
      rcases htokens with ⟨rfl, rfl⟩ | ⟨rfl, rfl⟩
      · exact ⟨le_refl _, fun _ _ h => .inl h⟩
      · refine ⟨Nat.le_succ _, fun id token h => .inl ?_⟩
        rw [Std.ExtTreeMap.getElem?_erase] at h
        split_ifs at h with hne
        rw [Std.ExtTreeMap.getElem?_insert, if_neg hne] at h
        exact h
  | accept msg hphase hstop hidle hepoch hcan hroom =>
      refine ⟨Nat.le_succ _, fun id token h => ?_⟩
      rw [Std.ExtTreeMap.getElem?_insert] at h
      split_ifs at h with heq
      · exact .inr ⟨msg, rfl, Std.LawfulEqCmp.eq_of_compare heq, (Option.some.inj h).symm, rfl,
          List.mem_append_right _ List.mem_cons_self⟩
      · exact .inl h
  | finish i w seenAt durationMs out hworker hout =>
      obtain ⟨hmade, -, -, hkept⟩ := onComplete_tokens { node with cpu := node.cpu.release i } w.work out
      exact ⟨hmade.ge, fun id token h => .inl (hkept id token h)⟩
  | report item rest hstop hidle hqueue => exact ⟨le_refl _, fun _ _ h => .inl (herase h)⟩
  | _ => exact ⟨le_refl _, fun _ _ h => .inl h⟩

omit [DoubleArith D] in
theorem mem_foldl_insert (tokens : List Nat) (requested : Std.ExtTreeSet Nat compare) (token : Nat) :
    token ∈ tokens.foldl (fun tokens token => tokens.insert token) requested ↔
      token ∈ requested ∨ token ∈ tokens := by
  induction tokens generalizing requested with
  | nil => simp
  | cons t ts ih =>
      rw [List.foldl_cons, ih, Std.ExtTreeSet.mem_insert, List.mem_cons, compare_eq_iff_eq]
      constructor
      · rintro ((h | h) | h)
        · exact .inr (.inl h.symm)
        · exact .inl h
        · exact .inr (.inr h)
      · rintro (h | h | h)
        · exact .inl (.inr h)
        · exact .inl (.inl h.symm)
        · exact .inr h

/-- A request is older than the move, answers the message just heard, or is made by `stop`. -/
theorem Moves.requests (h : node.Moves heard node' frames) :
    (∀ token ∈ node.requested, token ∈ node'.requested) ∧
      ∀ token ∈ node'.requested, token ∈ node.requested ∨
        (∃ id reason, heard = some (.attemptCancel id reason) ∧ node.activeTokens[id]? = some token) ∨
        (node'.phase = node.phase ∧ node'.channelOpen = false ∧
          ((∃ id : ExecutionAttemptId, node.activeTokens[id]? = some token) ∨
            ∃ work, node.Works work ∧ work.token = token)) := by
  cases h with
  | cancel id reason token htoken =>
      refine ⟨fun t ht => Std.ExtTreeSet.mem_insert.mpr (.inr ht), fun t ht => ?_⟩
      rcases Std.ExtTreeSet.mem_insert.mp ht with heq | ht
      · rw [← compare_eq_iff_eq.mp heq]
        exact .inr (.inl ⟨id, reason, rfl, htoken⟩)
      · exact .inl ht
  | stop =>
      refine ⟨fun t ht => (mem_foldl_insert _ _ _).mpr (.inl ht), fun t ht => ?_⟩
      rcases (mem_foldl_insert _ _ _).mp ht with ht | ht
      · exact .inl ht
      · right
        right
        refine ⟨rfl, rfl, ?_⟩
        rcases List.mem_append.mp ht with ht | ht
        · exact .inl (OrdMap.mem_values.mp ht)
        · obtain ⟨work, hmem, rfl⟩ := List.mem_map.mp ht
          exact .inr ⟨work, .inl hmem, rfl⟩
  | finish i w seenAt durationMs out hworker hout =>
      obtain ⟨-, hreq, -⟩ := onComplete_tokens { node with cpu := node.cpu.release i } w.work out
      rw [hreq]
      exact ⟨fun _ h => h, fun _ h => .inl h⟩
  | _ => exact ⟨fun _ h => h, fun _ h => .inl h⟩

/-! ## The invariant -/

/-- **Everything in the node is backed by what it heard.** -/
structure Justified (H : Message D → Prop) (node : NodeRuntime D) : Prop where
  /-- Tokens are made for dispatches only. -/
  unregistered : node.phase ≠ .running → node.tokensMade = 0
  /-- Every token belongs to one attempt. -/
  tokens : ∃ owner : Nat → ExecutionAttemptId,
    (∀ (id : ExecutionAttemptId) (token : Nat), node.activeTokens[id]? = some token →
      token < node.tokensMade ∧ owner token = id) ∧
    (∀ work, node.Works work → work.token < node.tokensMade ∧ owner work.token = work.attemptId) ∧
    ∀ token ∈ node.requested, token < node.tokensMade ∧ node.Asked H (owner token)
  works : ∀ work, node.Works work → ∃ msg, H (.dispatchAttempt msg) ∧ work.task = msg.task ∧
    work.assignment = msg.assignment
  /-- A worker that turned away from the kernel found its token requested. -/
  turned : ∀ w ∈ node.cpu.workers, w.phase = .cancelled → w.work.token ∈ node.requested
  items : ∀ item ∈ node.compQueue, ItemBacked H (node.Asked H) item
  sends : ∀ frame ∈ node.pending, frame.Backed H (node.Asked H)

omit [DoubleArith D] in
theorem justified_create (H : Message D → Prop) (config : NodeConfig) (nodeId : NodeId) :
    Justified H (create config nodeId : NodeRuntime D) where
  unregistered := fun _ => rfl
  tokens := ⟨fun _ => .zero, by simp [create], by simp [create, Works, CpuExecutorBackend.create], by
    simp [create]⟩
  works := by simp [create, Works, CpuExecutorBackend.create]
  turned := by simp [create, CpuExecutorBackend.create]
  items := by simp [create]
  sends := by simp [create, pending]

omit [DoubleArith D] in
theorem ItemBacked.mono {H H' : Message D → Prop} {asked asked' : ExecutionAttemptId → Prop}
    {item : CompletionItem D} (h : ItemBacked H asked item) (hH : ∀ m, H m → H' m)
    (ha : ∀ id, asked id → asked' id) : ItemBacked H' asked' item := by
  obtain ⟨msg, hmsg, hnames, hcase⟩ := h
  refine ⟨msg, hH _ hmsg, hnames, ?_⟩
  rcases hcase with ⟨seenAt, durationMs, hout, hseen⟩ | ⟨hout, hasked⟩
  · exact .inl ⟨seenAt, durationMs, hout, fun hs => ha _ (hseen hs)⟩
  · exact .inr ⟨hout, ha _ hasked⟩

omit [DoubleArith D] in
theorem Asked.mono {H H' : Message D → Prop} (hH : ∀ m, H m → H' m) (hclosed : node.Closed → node'.Closed)
    {id : ExecutionAttemptId} (h : node.Asked H id) : node'.Asked H' id := by
  rcases h with ⟨reason, h⟩ | h
  · exact .inl ⟨reason, hH _ h⟩
  · exact .inr (hclosed h)

omit [DoubleArith D] in
/-- Hearing more keeps the node justified. -/
theorem Justified.mono {H H' : Message D → Prop} (hj : Justified H node) (hH : ∀ m, H m → H' m) :
    Justified H' node := by
  have hasked : ∀ id, node.Asked H id → node.Asked H' id := fun id h => h.mono hH fun h => h
  obtain ⟨hfresh, ⟨owner, hactive, hworks, hrequested⟩, hfrom, hturned, hitems, hsends⟩ := hj
  refine ⟨hfresh, ⟨owner, hactive, hworks, fun t ht => ?_⟩, fun work hwork => ?_, hturned, ?_, ?_⟩
  · obtain ⟨hlt, ha⟩ := hrequested t ht
    exact ⟨hlt, hasked _ ha⟩
  · obtain ⟨msg, hmsg, hsame⟩ := hfrom work hwork
    exact ⟨msg, hH _ hmsg, hsame⟩
  · exact fun item hitem => (hitems item hitem).mono hH hasked
  · exact fun frame hframe => (hsends frame hframe).mono hH hasked

theorem Moves.closed (h : node.Moves heard node' frames) (hc : node.Closed) : node'.Closed := by
  obtain ⟨hopen, hphase⟩ := h.keeps
  refine ⟨hphase hc.1, ?_⟩
  cases hn : node'.channelOpen with
  | false => rfl
  | true =>
      have hcopy := hopen hn
      rw [hc.2] at hcopy
      exact hcopy.symm

/-- A worker whose phase is `cancelled` had it before, or has just looked at its token. -/
theorem Moves.turned (h : node.Moves heard node' frames) {w : Worker D} (hw : w ∈ node'.cpu.workers)
    (hphase : w.phase = .cancelled) :
    (∃ w₀ ∈ node.cpu.workers, w₀.work = w.work ∧ w₀.phase = .cancelled) ∨ w.work.token ∈ node.requested := by
  have hset : ∀ {i : Nat} {phase : WorkerPhase}, w ∈ (node.cpu.setPhase i phase).workers →
      w ∈ node.cpu.workers ∨ (w.phase = phase ∧ ∃ w₀, node.cpu.workers[i]? = some w₀ ∧ w.work = w₀.work) := by
    intro i phase hmem
    obtain ⟨j, hj, rfl⟩ := List.mem_iff_getElem.mp hmem
    simp only [CpuExecutorBackend.setPhase, List.getElem_modify]
    split_ifs with hij
    · subst hij
      exact .inr ⟨rfl, _, List.getElem?_eq_getElem _, rfl⟩
    · exact .inl (List.getElem_mem _)
  cases h with
  | take work rest hqueue hroom =>
      rcases List.mem_append.mp hw with hmem | hmem
      · exact .inl ⟨w, hmem, rfl, hphase⟩
      · rw [List.mem_singleton.mp hmem] at hphase
        cases hphase
  | «begin» i work startedAtMs hworker =>
      rcases hset hw with hmem | ⟨hstarted, -⟩
      · exact .inl ⟨w, hmem, rfl, hphase⟩
      · rw [hphase] at hstarted
        cases hstarted
  | check i work phase hworker hcheck =>
      rcases hset hw with hmem | ⟨hnew, w₀, hw₀, hsame⟩
      · exact .inl ⟨w, hmem, rfl, hphase⟩
      · right
        rw [hphase, hcheck] at hnew
        split_ifs at hnew with hcancelled
        rw [hworker] at hw₀
        rw [hsame, ← Option.some.inj hw₀]
        exact Std.ExtTreeSet.contains_iff_mem.mp hcancelled
  | finish i w' seenAt durationMs out hworker hout =>
      rw [onComplete_cpu] at hw
      exact .inl ⟨w, List.mem_of_mem_eraseIdx hw, rfl, hphase⟩
  | _ => exact .inl ⟨w, hw, rfl, hphase⟩

omit [DoubleArith D] in
/-- A worker's outcome is backed when its work item is. -/
theorem Justified.outcome {H : Message D → Prop} (hj : Justified H node) {w : Worker D}
    (hw : w ∈ node.cpu.workers) {seenAt : Option Nat} {durationMs : D} {out : AttemptOutcome D}
    (hout : node.outcome w seenAt durationMs = some out) :
    ItemBacked H (node.Asked H) ⟨w.work.attemptId, w.work.task.id, w.work.reservationId, out⟩ := by
  obtain ⟨msg, hmsg, htask, hnames⟩ := hj.works w.work (.inr ⟨w, hw, rfl⟩)
  obtain ⟨owner, -, howner, hrequested⟩ := hj.tokens
  have hasked : w.work.token ∈ node.requested → node.Asked H w.work.attemptId := by
    intro hreq
    rw [← (howner w.work (.inr ⟨w, hw, rfl⟩)).2]
    exact (hrequested _ hreq).2
  refine ⟨msg, hmsg, hnames, ?_⟩
  unfold NodeRuntime.outcome at hout
  split at hout
  · rename_i hphase
    exact .inr ⟨⟨durationMs, (Option.some.inj hout).symm⟩, hasked (hj.turned w hw hphase)⟩
  · split_ifs at hout with hseen
    rw [htask] at hout
    refine .inl ⟨seenAt, durationMs, (Option.some.inj hout).symm, fun hsome => hasked ?_⟩
    rw [hsome, Bool.true_and, Bool.not_eq_true'] at hseen
    exact Std.ExtTreeSet.contains_iff_mem.mp (by simpa [isCancelled] using hseen)
  · cases hout

/-- **Every move keeps the node justified** by what it has heard, the message of the move included. -/
theorem Justified.moves {H : Message D → Prop} (hj : Justified H node) (h : node.Moves heard node' frames)
    (hheard : ∀ m ∈ heard, H m) : Justified H node' := by
  have hasked : ∀ id, node.Asked H id → node'.Asked H id := fun id ha => ha.mono (fun _ h => h) h.closed
  have hfresh : node'.phase ≠ .running → node'.tokensMade = 0 := by
    intro hphase
    have hbefore : node.phase ≠ .running := fun hr => hphase (h.keeps.2 hr)
    have hzero := hj.unregistered hbefore
    cases h with
    | refuse => exact absurd ‹_› hbefore
    | accept => exact absurd ‹_› hbefore
    | finish i w seenAt durationMs out hworker hout =>
        rw [(onComplete_tokens { node with cpu := node.cpu.release i } w.work out).1]
        exact hzero
    | _ => exact hzero
  refine ⟨hfresh, ?_, fun work hwork => ?_, fun w hw hphase => ?_, fun item hitem => ?_, fun frame hframe => ?_⟩
  · -- A dispatch gives the next token to its attempt.
    obtain ⟨owner, hactive, hworks, hrequested⟩ := hj.tokens
    obtain ⟨hmade, hnew⟩ := h.tokens
    obtain ⟨-, hreq⟩ := h.requests
    -- The tokens `stop` requests exist, so the node is registered, and its channel is closed.
    have hstopped : ∀ {token : Nat}, node'.phase = node.phase → node'.channelOpen = false →
        ((∃ id : ExecutionAttemptId, node.activeTokens[id]? = some token) ∨
          ∃ work, node.Works work ∧ work.token = token) → token < node.tokensMade ∧ node'.Closed := by
      intro token hph hclosed hfrom
      have hlt : token < node.tokensMade := by
        rcases hfrom with ⟨id, hid⟩ | ⟨work, hwork, rfl⟩
        · exact (hactive id token hid).1
        · exact (hworks work hwork).1
      refine ⟨hlt, ?_, hclosed⟩
      by_contra hphase
      rw [hph] at hphase
      have hzero := hj.unregistered hphase
      omega
    -- Nobody owns the next token yet, so it can be given to the attempt of a dispatch without asking for more.
    obtain ⟨next, hnext⟩ : ∃ id, ∀ msg, heard = some (.dispatchAttempt msg) → id = msg.attemptId := by
      by_cases hdispatch : ∃ msg, heard = some (.dispatchAttempt msg)
      · obtain ⟨msg, rfl⟩ := hdispatch
        exact ⟨msg.attemptId, fun msg' hmsg' => by cases hmsg'; rfl⟩
      · exact ⟨.zero, fun msg hmsg => absurd ⟨msg, hmsg⟩ hdispatch⟩
    have hold : ∀ {t : Nat}, t < node.tokensMade → Function.update owner node.tokensMade next t = owner t :=
      fun ht => Function.update_of_ne (Nat.ne_of_lt ht) _ _
    refine ⟨Function.update owner node.tokensMade next, ?_, ?_, ?_⟩
    · intro id token htoken
      rcases hnew id token htoken with hbefore | ⟨msg, hmsg, hid, rfl, hcount, -⟩
      · obtain ⟨hlt, howner⟩ := hactive id token hbefore
        exact ⟨by omega, by rw [hold hlt, howner]⟩
      · exact ⟨by omega, by rw [Function.update_self, hnext msg hmsg, hid]⟩
    · intro work hwork
      rcases h.works hwork with hbefore | ⟨msg, hmsg, -, hcount, rfl⟩
      · obtain ⟨hlt, howner⟩ := hworks work hbefore
        exact ⟨by omega, by rw [hold hlt, howner]⟩
      · exact ⟨by dsimp only; omega, by rw [Function.update_self, hnext msg hmsg]⟩
    · intro token htoken
      rcases hreq token htoken with hbefore | ⟨id, reason, hcancel, hid⟩ | ⟨hph, hclosed, hfrom⟩
      · obtain ⟨hlt, ha⟩ := hrequested token hbefore
        exact ⟨by omega, by rw [hold hlt]; exact hasked _ ha⟩
      · obtain ⟨hlt, howner⟩ := hactive id token hid
        exact ⟨by omega, .inl ⟨reason, by rw [hold hlt, howner]; exact hheard _ hcancel⟩⟩
      · obtain ⟨hlt, hclosed'⟩ := hstopped hph hclosed hfrom
        exact ⟨by omega, .inr hclosed'⟩
  · rcases h.works hwork with hbefore | ⟨msg, hmsg, -, -, rfl⟩
    · exact hj.works work hbefore
    · exact ⟨msg, hheard _ hmsg, rfl, rfl⟩
  · rcases h.turned hw hphase with ⟨w₀, hw₀, hsame, hphase₀⟩ | hreq
    · rw [← hsame]
      exact h.requests.1 _ (hj.turned w₀ hw₀ hphase₀)
    · exact h.requests.1 _ hreq
  · rcases h.items hitem with hbefore | ⟨w, hw, seenAt, durationMs, out, hout, rfl⟩
    · exact (hj.items item hbefore).mono (fun _ h => h) hasked
    · exact (hj.outcome hw hout).mono (fun _ h => h) hasked
  · rcases h.sends hframe with hbefore | ⟨msg, kind, reason, hmsg, hkind, hmem⟩ | ⟨item, hitem, hmem⟩
    · exact (hj.sends frame hbefore).mono (fun _ h => h) hasked
    · rcases List.mem_pair.mp hmem with rfl | rfl
      · exact ⟨msg, hheard _ hmsg, rfl, fun hk => absurd hk hkind⟩
      · trivial
    · exact ((hj.items item hitem).reportFrames node frame hmem).mono (fun _ h => h) hasked

/-- What gets onto the connection is backed by what was heard: a node whose channel is open has not been
    stopped. -/
theorem Justified.sent {H : Message D → Prop} (hj : Justified H node) (h : node.Moves heard node' frames) :
    ∀ frame ∈ frames, frame.Backed H (CancelHeard H) := by
  intro frame hmem
  have hsent : node.channelOpen = true → frame ∈ node.pending → frame.Backed H (CancelHeard H) := by
    intro hopen hp
    refine (hj.sends frame hp).mono (fun _ h => h) fun id ha => ?_
    rcases ha with ha | hclosed
    · exact ha
    · exact absurd (hopen.symm.trans hclosed.2) (by decide)
  have hopened : ∀ {f : NodeFrame D}, frame ∈ node.sendFrame f → node.channelOpen = true := by
    intro f hf
    unfold sendFrame at hf
    split_ifs at hf with hopen
    · exact hopen
    · exact absurd hf List.not_mem_nil
  cases h with
  | quiet heard frames hheard hframes =>
      have hann := hframes frame hmem
      cases frame <;> trivial
  | requestStop heard frames hheard hframes =>
      have hann := hframes frame hmem
      cases frame <;> trivial
  | «begin» i work startedAtMs hworker =>
      rw [mem_sendFrame hmem]
      trivial
  | sendReader f rest hsends =>
      refine hsent (hopened hmem) ?_
      rw [mem_sendFrame hmem, pending, hsends]
      exact List.mem_append_left _ List.mem_cons_self
  | sendReporter f rest hsends =>
      refine hsent (hopened hmem) ?_
      rw [mem_sendFrame hmem, pending, hsends]
      exact List.mem_append_right _ List.mem_cons_self
  | _ => exact absurd hmem List.not_mem_nil

theorem Justified.connect {H : Message D → Prop} (hj : Justified H node)
    (h : node.connect = some (node', frames)) : Justified H node' := by
  unfold NodeRuntime.connect at h
  split_ifs at h with hphase
  cases h
  have hnot : ¬ node.Closed := fun hc => absurd (hphase.symm.trans hc.1) (by decide)
  have hasked : ∀ id, node.Asked H id →
      { node with phase := .registering, channelOpen := true }.Asked H id :=
    fun id ha => ha.mono (fun _ h => h) fun hc => absurd hc hnot
  obtain ⟨hfresh, ⟨owner, hactive, hworks, hrequested⟩, hfrom, hturned, hitems, hsends⟩ := hj
  refine ⟨fun _ => hfresh (by rw [hphase]; decide), ⟨owner, hactive, hworks, fun t ht => ?_⟩, hfrom, hturned,
    fun item hitem => (hitems item hitem).mono (fun _ h => h) hasked,
    fun frame hframe => (hsends frame hframe).mono (fun _ h => h) hasked⟩
  obtain ⟨hlt, ha⟩ := hrequested t ht
  exact ⟨hlt, hasked _ ha⟩

end NodeRuntime

/-! ## Every report is backed -/

namespace NodeHistory

open NodeRuntime

variable [DoubleArith D] {h h' : NodeHistory D}

/-- The node is justified by what it heard, and so is everything it has sent or tried to send. -/
structure Truthful (h : NodeHistory D) : Prop where
  justified : Justified (fun m => m ∈ h.heard) h.node
  sent : ∀ frame ∈ h.sent ++ h.failed, frame.Backed (fun m => m ∈ h.heard) (CancelHeard fun m => m ∈ h.heard)

theorem Truthful.step (ht : Truthful h) {move : NodeMove D} (hstep : h.step move = some h') : Truthful h' := by
  rcases step_cases hstep with ⟨frames, hconnect, hh'⟩ | ⟨heard, frames, hmoves, hh'⟩
  · rw [hh']
    refine ⟨ht.justified.connect hconnect, fun frame hmem => ?_⟩
    unfold NodeRuntime.connect at hconnect
    split_ifs at hconnect
    obtain ⟨-, hframes⟩ := Prod.mk.injEq .. |>.mp (Option.some.inj hconnect)
    rw [← hframes] at hmem
    simp only [List.append_assoc, List.mem_append, List.mem_cons, List.not_mem_nil, or_false] at hmem
    rcases hmem with hmem | (rfl | rfl) | hmem
    · exact ht.sent frame (List.mem_append_left _ hmem)
    · trivial
    · trivial
    · exact ht.sent frame (List.mem_append_right _ hmem)
  · -- What the node hears now backs nothing it sends now, but everything afterwards.
    have hheard : ∀ m, m ∈ h.heard → m ∈ h'.heard := by
      intro m hm
      rcases hh' with hh' | ⟨-, hh'⟩ <;> rw [hh']
      · exact List.mem_append_left _ hm
      · exact hm
    have hnow : ∀ m ∈ heard, m ∈ h'.heard := by
      intro m hm
      rcases hh' with hh' | ⟨rfl, -⟩
      · rw [hh']
        exact List.mem_append_right _ (Option.mem_toList.mpr hm)
      · cases hm
    have hold : ∀ id, CancelHeard (fun m => m ∈ h.heard) id → CancelHeard (fun m => m ∈ h'.heard) id :=
      fun id hc => hc.imp fun reason hr => hheard _ hr
    refine ⟨(ht.justified.mono hheard).moves hmoves hnow, fun frame hmem => ?_⟩
    have hsplit : frame ∈ h.sent ++ h.failed ∨ frame ∈ frames := by
      rcases hh' with hh' | ⟨-, hh'⟩ <;> rw [hh'] at hmem <;> simp only [List.mem_append] at hmem ⊢ <;> tauto
    rcases hsplit with hmem | hmem
    · exact (ht.sent frame hmem).mono hheard hold
    · exact (ht.justified.sent hmoves frame hmem).mono hheard hold

variable {config : NodeConfig} {nodeId : NodeId} {moves : List (NodeMove D)}

/-- **Every report is backed.** In every run of a node, a report of success carries what the kernel computes,
    undisturbed, for the task of a dispatch the node heard; a report of failure or cancellation names such a
    dispatch; and a cancellation is reported only for an attempt whose `AttemptCancel` the node heard. -/
theorem reports_backed (hrun : run config nodeId moves = some h) {frame : NodeFrame D}
    (hframe : frame ∈ h.sent) :
    frame.Backed (fun m => m ∈ h.heard) (CancelHeard fun m => m ∈ h.heard) := by
  have ht : Truthful h :=
    Lts.run_preserves (fun _ _ _ hs hstep => Truthful.step hs hstep)
      ⟨justified_create _ config nodeId, fun _ hmem => absurd hmem List.not_mem_nil⟩ hrun
  exact ht.sent frame (List.mem_append_left _ hframe)

end NodeHistory

namespace Demo

/-- The kernel of the first attempt sees a request; the second attempt runs to its end. -/
def twoVerdicts : List (NodeMove ℚ) :=
  registration ++
    [.step (some (.dispatchAttempt (dispatch 1))) .receive, .step (some (.dispatchAttempt (dispatch 2))) .receive,
     .step none .take, .step none .take, .step none (.begin 0 0), .step none (.begin 1 0), .step none (.check 0),
     .step none (.check 1), .step (some (.attemptCancel ⟨1, 1⟩ [])) .receive, .step none (.finish 0 (some 1) 5),
     .step none (.finish 0 none 5), .step none .report, .step none (.send .reporter),
     .step none (.send .reporter), .step none .report, .step none (.send .reporter)]

end Demo

/-- Both reports of the run are backed. -/
theorem reports_backed_twoVerdicts :
    ∃ h, NodeHistory.run { cpuSlots := 2 } ⟨0, 7⟩ Demo.twoVerdicts = some h ∧
      h.sent.filterMap NodeFrame.reported = [(Demo.dispatch 1).assignment, (Demo.dispatch 2).assignment] ∧
      ∀ frame ∈ h.sent, frame.Backed (fun m => m ∈ h.heard) (CancelHeard fun m => m ∈ h.heard) := by
  have hfacts : ((NodeHistory.run { cpuSlots := 2 } ⟨0, 7⟩ Demo.twoVerdicts).map fun h =>
      h.sent.filterMap NodeFrame.reported) =
        some [(Demo.dispatch 1).assignment, (Demo.dispatch 2).assignment] := by
    decide +kernel
  obtain ⟨h, hrun, hreports⟩ := Option.map_eq_some_iff.mp hfacts
  exact ⟨h, hrun, hreports, fun frame hmem => NodeHistory.reports_backed hrun hmem⟩

end ComputeFabric
