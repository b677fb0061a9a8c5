import ComputeFabric.Coordinator.Invariants

/-!
# `Coordinator.Records` — attempts, reservations and sessions, one record at a time

What a ledger transition does to a single attempt record (`AttemptStep`), to the reservation registry
(`LedgerStep.reservations`) and to the session of a node (`LedgerStep.session`). An attempt's identity —
its id, node, session, epoch and reservation — is written once, when it is created; afterwards only its
progress changes. A reservation is created by a dispatch and given back, and nothing else about it changes.

`DrawnSince` is what this says about ids: every attempt and every reservation carries an id that was drawn
before, in memory as in the file.
-/

namespace ComputeFabric

open Coordinator
open ExecutionAttempt (markStarted markCommitted markFailed markCancelled)
open ReservationRegistry (giveBack)

variable {D : Type}

/-! ## Attempts -/

/-- The fields of an attempt that are written once, when it is created. -/
structure AttemptKey where
  id : ExecutionAttemptId
  taskId : ComputeTaskId
  nodeId : NodeId
  nodeSession : NodeSessionId
  coordinatorEpoch : CoordinatorEpoch
  reservationId : ReservationId
deriving DecidableEq

def ExecutionAttempt.key (a : ExecutionAttempt D) : AttemptKey :=
  ⟨a.id, a.taskId, a.nodeId, a.nodeSession, a.coordinatorEpoch, a.reservationId⟩

/-- The attempt an attempt message names. -/
def Command.attemptId? : Command D → Option ExecutionAttemptId
  | .attemptStarted st => some st.attemptId
  | .attemptComplete _ _ co => some co.attemptId
  | .attemptFailed _ _ fa => some fa.attemptId
  | .attemptCancelled ca => some ca.attemptId
  | _ => none

/-- The reservation a `ReservationRelease` names. -/
def Command.reservationId? : Command D → Option ReservationId
  | .reservationRelease _ _ rel => some rel.reservationId
  | _ => none

/-- `try_reserve` does not refuse the node for its health. -/
def NodeRecord.takesWork (node : NodeRecord D) : Bool := node.health ≠ .offline && node.health ≠ .draining

theorem takesWork_of_refusal {reg : ReservationRegistry} {node : NodeRecord D} {executor : ExecutorType}
    {slots : UInt32} {scratchBytes : UInt64} (h : reg.refusal node executor slots scratchBytes = none) :
    node.takesWork = true := by
  unfold ReservationRegistry.refusal at h
  by_cases hoffline : node.health = .offline
  · rw [if_pos hoffline] at h
    cases h
  · by_cases hdraining : node.health = .draining
    · rw [if_neg hoffline, if_pos hdraining] at h
      cases h
    · simp [NodeRecord.takesWork, hoffline, hdraining]

/-- What a transition from `l` to `l'` makes of the attempt at position `i` of task `t`. -/
inductive AttemptStep (env : Env) (s₀ : Coordinator D) (l l' : Ledger D) (t : ComputeTaskId) (i : Nat) :
    Event D → Option (ExecutionAttempt D) → ExecutionAttempt D → Prop
  | kept {e : Event D} {a : ExecutionAttempt D} : AttemptStep env s₀ l l' t i e (some a) a
  | started {st : AttemptStarted} {a : ExecutionAttempt D}
      (hfind : s₀.findActiveAttempt st.attemptId = some (⟨t, i⟩, a))
      (hepoch : a.coordinatorEpoch = s₀.durable.epoch) (hl : l = s₀.toLedger) :
      AttemptStep env s₀ l l' t i (.command (.attemptStarted st)) (some a) (markStarted st a)
  | ended {e : Event D} {a a' : ExecutionAttempt D} (hkey : a'.key = a.key) (hlive : a'.isLive = false)
      (hcommitted : a.committed = true → a'.committed = true) :
      AttemptStep env s₀ l l' t i e (some a) a'
  | created {a : ExecutionAttempt D} {node : NodeRecord D} (hid : a.id = env.random (l.drawn + 1))
      (hresv : a.reservationId = env.random l.drawn) (hepoch : a.coordinatorEpoch = s₀.durable.epoch)
      (hnode : l.nodes[a.nodeId]? = some node) (hsession : node.session = a.nodeSession)
      (hcommitted : a.committed = false) (hdrawn : l'.drawn = l.drawn + 2)
      (happend : ∀ u, l'.attemptsOf u = if t = u then l.attemptsOf u ++ [a] else l.attemptsOf u)
      (htakes : node.takesWork = true) :
      AttemptStep env s₀ l l' t i .sweep none a

section AttemptStep

variable {env : Env} {s₀ : Coordinator D} {e : Event D} {l l' : Ledger D} {t : ComputeTaskId} {i : Nat}

theorem attemptStep_of_eq (h : l'.attemptsOf t = l.attemptsOf t) {a' : ExecutionAttempt D}
    (ha' : (l'.attemptsOf t)[i]? = some a') :
    AttemptStep env s₀ l l' t i e (l.attemptsOf t)[i]? a' := by
  rw [h] at ha'
  rw [ha']
  exact .kept

theorem attemptsOf_of_view {p : AttemptPtr} {v : TaskView D}
    (hview : l'.view t = if p.task = t then v else l.view t) :
    l'.attemptsOf t = if p.task = t then v.attempts else l.attemptsOf t := by
  have hattempts := congrArg TaskView.attempts hview
  split_ifs at hattempts ⊢ <;> exact hattempts

/-- Where a transition that rewrites one record has a record from. -/
theorem mem_of_rewrite {p : AttemptPtr} {f : ExecutionAttempt D → ExecutionAttempt D} {v : TaskView D}
    (hview : l'.view t = if p.task = t then v else l.view t)
    (hv : v.attempts = (l.attemptsOf t).modify p.index f) {a : ExecutionAttempt D} (ha : a ∈ l'.attemptsOf t) :
    a ∈ l.attemptsOf t ∨ ∃ b, (l.attemptsOf p.task)[p.index]? = some b ∧ p.task = t ∧ a = f b := by
  rw [attemptsOf_of_view hview] at ha
  split_ifs at ha with ht
  · subst ht
    rw [hv] at ha
    obtain ⟨i, hi⟩ := List.mem_iff_getElem?.mp ha
    rw [List.getElem?_modify] at hi
    obtain ⟨b, hb, rfl⟩ := Option.map_eq_some_iff.mp hi
    split_ifs with hpi
    · subst hpi
      exact .inr ⟨b, hb, rfl, rfl⟩
    · exact .inl (List.mem_of_getElem? hb)
  · exact .inl ha

/-- A transition that rewrites the record a pointer leads to. -/
theorem attemptStep_of_rewrite {p : AttemptPtr} {f : ExecutionAttempt D → ExecutionAttempt D}
    {v : TaskView D} (hview : l'.view t = if p.task = t then v else l.view t)
    (hv : v.attempts = (l.attemptsOf t).modify p.index f)
    (hf : ∀ a, p = ⟨t, i⟩ → (l.attemptsOf t)[i]? = some a →
      AttemptStep env s₀ l l' t i e (some a) (f a))
    {a' : ExecutionAttempt D} (ha' : (l'.attemptsOf t)[i]? = some a') :
    AttemptStep env s₀ l l' t i e (l.attemptsOf t)[i]? a' := by
  have hattempts := attemptsOf_of_view hview
  by_cases ht : p.task = t
  · rw [hattempts, if_pos ht, hv, List.getElem?_modify] at ha'
    obtain ⟨a, ha, rfl⟩ := Option.map_eq_some_iff.mp ha'
    rw [ha]
    by_cases hi : p.index = i
    · rw [if_pos hi]
      exact hf a (by cases p; simp_all) ha
    · rw [if_neg hi]
      exact .kept
  · exact attemptStep_of_eq (by rw [hattempts, if_neg ht]) ha'

/-- A transition that ends the attempt it rewrites. -/
theorem attemptStep_of_end {p : AttemptPtr} {f : ExecutionAttempt D → ExecutionAttempt D}
    {v : TaskView D} (hview : l'.view t = if p.task = t then v else l.view t)
    (hv : v.attempts = (l.attemptsOf t).modify p.index f) (hkey : ∀ a, (f a).key = a.key)
    (hlive : ∀ a, (f a).isLive = false) (hcommitted : ∀ a, a.committed = true → (f a).committed = true)
    {a' : ExecutionAttempt D} (ha' : (l'.attemptsOf t)[i]? = some a') :
    AttemptStep env s₀ l l' t i e (l.attemptsOf t)[i]? a' :=
  attemptStep_of_rewrite hview hv (fun a _ _ => .ended (hkey a) (hlive a) (hcommitted a)) ha'

variable [DoubleArith D]

/-- **One attempt record.** -/
theorem LedgerStep.attemptStep (h : LedgerStep env s₀ e l l') (hwf : l.WellFormed)
    {a' : ExecutionAttempt D} (ha' : (l'.attemptsOf t)[i]? = some a') :
    AttemptStep env s₀ l l' t i e (l.attemptsOf t)[i]? a' := by
  cases h with
  | start hfind hepoch =>
      refine attemptStep_of_rewrite (Ledger.view_startAttempt _ t (hwf.taskId_eq hfind) _) rfl ?_ ha'
      rintro b rfl hb
      rw [(Ledger.findActiveAttempt_eq_some hfind).1] at hb
      cases hb
      exact .started hfind hepoch rfl
  | @commit conn req co p a time hfind hcommitted hcancel hvalid =>
      exact attemptStep_of_end (f := markCommitted co time)
        (Ledger.view_commitAttempt _ t (hwf.taskId_eq hfind) _ _) rfl (fun _ => rfl)
        (isLive_markCommitted co time) (fun _ _ => rfl) ha'
  | @abandon conn req co p a time hfind hcommitted hcancel =>
      exact attemptStep_of_end (f := markCancelled (text "cancelled") time)
        (Ledger.view_abandonAttempt _ t (hwf.taskId_eq hfind) _) rfl (fun _ => rfl)
        (isLive_markCancelled _ time) (fun _ hc => hc) ha'
  | @fail conn req fa p a time retryAt hfind hepoch hstate hcommitted hretry =>
      refine attemptStep_of_end (f := markFailed (.ofUInt8 fa.failureKind) fa.failureReason time)
        (Ledger.view_failAttempt _ t (hwf.taskId_eq hfind) _ _ _ _) ?_ (fun _ => rfl)
        (isLive_markFailed _ _ time) (fun _ hc => hc) ha'
      dsimp only
      split_ifs <;> rfl
  | @cancelAttempt ca p a time hfind hepoch =>
      exact attemptStep_of_end (f := markCancelled ca.reason time)
        (Ledger.view_cancelAttempt _ t (hwf.taskId_eq hfind) _ _) rfl (fun _ => rfl)
        (isLive_markCancelled _ time) (fun _ hc => hc) ha'
  | @dispatch l u task nodeId node executor slots device time time' resv a hstate htask hnode hconnected
      hgrant hresv ha =>
      have hattempts : ∀ t, (l.dispatch u resv a).attemptsOf t =
          if u = t then l.attemptsOf t ++ [a] else l.attemptsOf t := by
        intro t
        have hview := congrArg TaskView.attempts (l.view_dispatch u t hstate resv (a := a))
        split_ifs at hview ⊢ <;> exact hview
      by_cases hu : u = t
      · rw [hattempts, if_pos hu, List.getElem?_append] at ha'
        split_ifs at ha' with hi
        · rw [ha']
          exact .kept
        · obtain rfl : a' = a := List.mem_singleton.mp (List.mem_of_getElem? ha')
          rw [List.getElem?_eq_none (Nat.le_of_not_lt hi)]
          subst ha hresv hu
          exact .created rfl rfl rfl hnode rfl rfl rfl hattempts (takesWork_of_refusal hgrant)
      · exact attemptStep_of_eq (by rw [hattempts, if_neg hu]) ha'
  | touchAttempts => exact attemptStep_of_eq (Ledger.attemptsOf_touchAttempts _ _ _) ha'
  | @loseNode l n tasks hlost hattempts hgraph htasks hall =>
      refine attemptStep_of_eq ?_ ha'
      refine Ledger.foldl_loseTask_induction (P := fun x => x.attemptsOf t = l.attemptsOf t)
        (l.dropNode n) tasks rfl ?_
      intro l₁ u r hl₁
      rw [← hl₁, Ledger.attemptsOf, Ledger.loseTask_attempts]
      rfl
  | _ =>
      refine attemptStep_of_eq ?_ ha'
      simp [Ledger.attemptsOf, Ledger.registerNode, Ledger.updateNode, Ledger.unblockTask,
        Ledger.releaseReservation, Ledger.submitTask, Ledger.requestCancel, Ledger.cancelTask,
        Ledger.timeoutDispatch, Ledger.requeueTask, Ledger.expireTask, Ledger.setState]

/-- An attempt was there before, with the same key, or it is new. -/
theorem LedgerStep.attempt_origin (h : LedgerStep env s₀ e l l') (hwf : l.WellFormed)
    {a : ExecutionAttempt D} (ha : a ∈ l'.attemptsOf t) :
    (∃ b ∈ l.attemptsOf t, a.key = b.key ∧ (b.committed = true → a.committed = true)) ∨
      a.id = env.random (l.drawn + 1) ∧ a.coordinatorEpoch = s₀.durable.epoch ∧ a.committed = false ∧
        l'.drawn = l.drawn + 2 := by
  obtain ⟨i, hi⟩ := List.mem_iff_getElem?.mp ha
  have hrec := h.attemptStep hwf hi
  generalize hb : (l.attemptsOf t)[i]? = old at hrec
  cases hrec with
  | kept => exact .inl ⟨a, List.mem_of_getElem? hb, rfl, fun h => h⟩
  | started hfind hepoch hl => exact .inl ⟨_, List.mem_of_getElem? hb, rfl, fun h => h⟩
  | ended hkey hlive hcommitted => exact .inl ⟨_, List.mem_of_getElem? hb, hkey, hcommitted⟩
  | created hid hresv hepoch hnode hsession hcommitted hdrawn happend =>
      exact .inr ⟨hid, hepoch, hcommitted, hdrawn⟩

end AttemptStep

/-! ## Reservations -/

/-- Some reservations were given back, and nothing else happened to the registry. -/
def ReservationRegistry.GivenBack (reg reg' : ReservationRegistry) : Prop :=
  ∀ k : ReservationId, reg'[k]? = reg[k]? ∨ reg'[k]? = reg[k]?.map giveBack

namespace ReservationRegistry.GivenBack

variable {reg reg' reg'' : ReservationRegistry}

theorem refl (reg : ReservationRegistry) : GivenBack reg reg := fun _ => .inl rfl

theorem trans (h : GivenBack reg reg') (h' : GivenBack reg' reg'') : GivenBack reg reg'' := by
  intro k
  rcases h' k with hk' | hk' <;> rcases h k with hk | hk <;> rw [hk', hk]
  · exact .inl rfl
  · exact .inr rfl
  · exact .inr rfl
  · refine .inr ?_
    cases reg[k]? <;> rfl

theorem tryRelease (reg : ReservationRegistry) (id : ReservationId) : GivenBack reg (reg.tryRelease id) := by
  intro k
  rw [getElem?_tryRelease]
  split_ifs
  · exact .inr rfl
  · exact .inl rfl

theorem releaseAllForNode (reg : ReservationRegistry) (n : NodeId) :
    GivenBack reg (reg.releaseAllForNode n) := by
  intro k
  rw [getElem?_releaseAllForNode]
  cases reg[k]? with
  | none => exact .inl rfl
  | some r =>
      by_cases hn : r.nodeId = n
      · simp [hn]
      · simp [hn]

/-- A reservation that is still held was held before. -/
theorem of_unreleased (h : GivenBack reg reg') {k : ReservationId} {r : Reservation}
    (hr : reg'[k]? = some r) (hunreleased : r.released = false) : reg[k]? = some r := by
  rcases h k with hk | hk
  · rwa [← hk]
  · rw [hr] at hk
    obtain ⟨r₀, -, rfl⟩ := Option.map_eq_some_iff.mp hk.symm
    cases hunreleased

/-- The registry never forgets a reservation. -/
theorem isSome_eq (h : GivenBack reg reg') (k : ReservationId) : reg'[k]?.isSome = reg[k]?.isSome := by
  rcases h k with hk | hk <;> rw [hk]
  simp

end ReservationRegistry.GivenBack

open ReservationRegistry (GivenBack)

theorem Ledger.givenBack_releaseTaskReservation (l : Ledger D) (t : ComputeTaskId) :
    GivenBack l.reservations (l.releaseTaskReservation t).reservations := by
  unfold Ledger.releaseTaskReservation
  split
  · exact .refl _
  · exact .tryRelease _ _

@[simp] theorem Ledger.retryOrFail_reservations (l : Ledger D) (t : ComputeTaskId) (r : Option Int64) :
    (l.retryOrFail t r).reservations = l.reservations := by
  cases r <;> rfl

theorem Ledger.givenBack_loseTask (l : Ledger D) (t : ComputeTaskId) (r : Option Int64) :
    GivenBack l.reservations (l.loseTask t r).reservations := by
  have h := ((l.setState t .lost).retryOrFail t r).givenBack_releaseTaskReservation t
  rwa [Ledger.retryOrFail_reservations] at h

@[simp] theorem Ledger.failAttempt_nodes (l : Ledger D) (p : AttemptPtr) (a : ExecutionAttempt D)
    (kind : FailureKind) (reason : Text) (now : Int64) (r : Option Int64) :
    (l.failAttempt p a kind reason now r).nodes = l.nodes := by
  unfold Ledger.failAttempt
  dsimp only
  split_ifs <;> simp [Ledger.updateAttempt]

/-- The session of a node, if it is registered. -/
def Ledger.sessionOf (l : Ledger D) (n : NodeId) : Option NodeSessionId :=
  l.nodes[n]?.map fun node => node.session

@[simp] theorem Ledger.retryOrFail_drawn (l : Ledger D) (t : ComputeTaskId) (r : Option Int64) :
    (l.retryOrFail t r).drawn = l.drawn := by
  cases r <;> rfl

@[simp] theorem Ledger.loseTask_drawn (l : Ledger D) (t : ComputeTaskId) (r : Option Int64) :
    (l.loseTask t r).drawn = l.drawn := by
  simp [Ledger.loseTask, Ledger.setState]

@[simp] theorem Ledger.failAttempt_drawn (l : Ledger D) (p : AttemptPtr) (a : ExecutionAttempt D)
    (kind : FailureKind) (reason : Text) (now : Int64) (r : Option Int64) :
    (l.failAttempt p a kind reason now r).drawn = l.drawn := by
  unfold Ledger.failAttempt
  dsimp only
  split_ifs <;> simp [Ledger.updateAttempt]

section Ledger

variable {env : Env} {s₀ : Coordinator D} {e : Event D} {l l' : Ledger D} [DoubleArith D]

/-- **The registry.** Reservations are given back, or a dispatch adds one. -/
theorem LedgerStep.reservations (h : LedgerStep env s₀ e l l') (hwf : l.WellFormed) :
    GivenBack l.reservations l'.reservations ∨
      ∃ (r : Reservation) (node : NodeRecord D), e = .sweep ∧
        l'.reservations = l.reservations.insert r.id r ∧ r.id = env.random l.drawn ∧ l'.drawn = l.drawn + 2 ∧
        r.coordinatorEpoch = s₀.durable.epoch ∧ l.nodes[r.nodeId]? = some node ∧
        node.session = r.sessionId ∧ node.takesWork = true := by
  cases h with
  | commit hfind hcommitted hcancel hvalid => exact .inl (Ledger.givenBack_releaseTaskReservation _ _)
  | abandon hfind hcommitted hcancel => exact .inl (Ledger.givenBack_releaseTaskReservation _ _)
  | @fail conn req fa p a time retryAt hfind hepoch hstate hcommitted hretry =>
      have hrelease := (s₀.toLedger.updateAttempt p
        (markFailed (.ofUInt8 fa.failureKind) fa.failureReason time)).givenBack_releaseTaskReservation
        a.taskId
      left
      unfold Ledger.failAttempt
      dsimp only
      split_ifs
      · exact hrelease
      · rwa [Ledger.retryOrFail_reservations]
  | cancelAttempt hfind hepoch => exact .inl (Ledger.givenBack_releaseTaskReservation _ _)
  | release hfind hepoch => exact .inl (.tryRelease _ _)
  | cancelTask hstate hterminal hrunning hlegal =>
      exact .inl (Ledger.givenBack_releaseTaskReservation _ _)
  | @loseNode l n tasks hlost hattempts hgraph htasks hall =>
      left
      exact Ledger.foldl_loseTask_induction (P := fun x => GivenBack l.reservations x.reservations)
        (l.dropNode n) tasks (GivenBack.releaseAllForNode _ n)
        fun l₁ u r hl₁ => hl₁.trans (l₁.givenBack_loseTask u r)
  | timeout hstale hattempts hstate => exact .inl (Ledger.givenBack_releaseTaskReservation _ _)
  | expire hstate hst => exact .inl (Ledger.givenBack_releaseTaskReservation _ _)
  | @dispatch l u task nodeId node executor slots device time time' resv a hstate htask hnode hconnected
      hgrant hresv ha =>
      subst hresv
      have hid : node.id = nodeId := hwf.nodes nodeId node hnode
      exact .inr ⟨_, node, rfl, rfl, rfl, rfl, rfl, by rw [← hnode, ← hid]; rfl, rfl, takesWork_of_refusal hgrant⟩
  | _ => exact .inl (.refl _)

/-- **Node records.** A registration that opens a session replaces the record of its node, a message changes it
    within the bounds of `NodeUpdate`, and a sweep takes a lost node offline. Nothing else touches it. -/
theorem LedgerStep.node (h : LedgerStep env s₀ e l l') (n : NodeId) :
    l'.nodes[n]? = l.nodes[n]? ∨
      (∃ conn req reg node, e = .command (.nodeRegister conn req reg) ∧ reg.nodeId = n ∧
        s₀.opensSession conn n = true ∧ l = s₀.toLedger ∧ l'.nodes[n]? = some node ∧
        node.health = .online ∧ node.capacity = reg.capacity) ∨
      (∃ f, l'.nodes[n]? = l.nodes[n]?.map f ∧ ∀ node, NodeUpdate s₀ e n node (f node)) ∨
      l'.nodes[n]? = l.nodes[n]?.map fun node => { node with health := .offline, connected := false } := by
  cases h with
  | @register conn req reg node hopen hid hsession hhealth hcapacity =>
      by_cases hn : reg.nodeId = n
      · refine .inr (.inl ⟨conn, req, reg, node, rfl, hn, hn ▸ hopen, rfl, ?_, hhealth, hcapacity⟩)
        simp [Ledger.registerNode, hid, hn]
      · left
        simp [Ledger.registerNode, hid, hn, Std.ExtTreeMap.getElem?_insert]
  | @updateNode e l m f hf =>
      by_cases hn : m = n
      · subst hn
        exact .inr (.inr (.inl ⟨f, by simp [Ledger.updateNode], hf⟩))
      · left
        simp [Ledger.updateNode, Std.ExtTreeMap.getElem?_modify, hn]
  | @loseNode l m tasks hlost hattempts hgraph htasks hall =>
      have hdropped : (tasks.foldl (fun l x => l.loseTask x.1 x.2) (l.dropNode m)).nodes = (l.dropNode m).nodes := by
        refine Ledger.foldl_loseTask_induction (P := fun x => x.nodes = (l.dropNode m).nodes)
          (l.dropNode m) tasks rfl ?_
        intro l₁ u r hl₁
        rw [← hl₁, Ledger.loseTask_nodes]
      rw [hdropped]
      by_cases hn : m = n
      · subst hn
        exact .inr (.inr (.inr (by simp [Ledger.dropNode, Ledger.updateNode])))
      · left
        simp [Ledger.dropNode, Ledger.updateNode, Std.ExtTreeMap.getElem?_modify, hn]
  | _ =>
      left
      simp [Ledger.startAttempt, Ledger.commitAttempt, Ledger.abandonAttempt,
        Ledger.unblockTask, Ledger.cancelAttempt, Ledger.releaseReservation, Ledger.submitTask,
        Ledger.touchAttempts, Ledger.requestCancel, Ledger.cancelTask, Ledger.timeoutDispatch,
        Ledger.requeueTask, Ledger.expireTask, Ledger.dispatch, Ledger.setState, Ledger.updateAttempt,
        Ledger.pushAttempt, Ledger.holdReservation, Ledger.addReservation]

/-- **Sessions.** Only a registration changes the session of a node. -/
theorem LedgerStep.session (h : LedgerStep env s₀ e l l') (n : NodeId) :
    l'.sessionOf n = l.sessionOf n ∨
      ∃ (conn : ConnId) (req : UInt64) (reg : NodeRegister D),
        e = .command (.nodeRegister conn req reg) ∧ reg.nodeId = n ∧
        s₀.opensSession conn n = true ∧ l = s₀.toLedger := by
  unfold Ledger.sessionOf
  rcases h.node n with hsame | ⟨conn, req, reg, node, he, hn, hopen, hl, -⟩ | ⟨f, hf, hupdate⟩ | hlost
  · exact .inl (by rw [hsame])
  · exact .inr ⟨conn, req, reg, he, hn, hopen, hl⟩
  · left
    rw [hf]
    cases l.nodes[n]? with
    | none => rfl
    | some node => exact congrArg some (hupdate node).session
  · left
    rw [hlost]
    cases l.nodes[n]? <;> rfl

/-- Ids are only ever drawn. -/
theorem LedgerStep.drawn_le (h : LedgerStep env s₀ e l l') : l.drawn ≤ l'.drawn := by
  cases h with
  | @loseNode l m tasks hlost hattempts hgraph htasks hall =>
      refine Ledger.foldl_loseTask_induction (P := fun x => l.drawn ≤ x.drawn)
        (l.dropNode m) tasks le_rfl ?_
      intro l₁ u r hl₁
      rwa [Ledger.loseTask_drawn]
  | dispatch hstate htask hnode hconnected hgrant hresv ha => exact Nat.le_add_right _ 2
  | _ =>
      simp [Ledger.registerNode, Ledger.updateNode, Ledger.startAttempt, Ledger.commitAttempt,
        Ledger.abandonAttempt, Ledger.unblockTask, Ledger.cancelAttempt, Ledger.releaseReservation,
        Ledger.submitTask, Ledger.touchAttempts, Ledger.requestCancel, Ledger.cancelTask,
        Ledger.timeoutDispatch, Ledger.requeueTask, Ledger.expireTask, Ledger.setState,
        Ledger.updateAttempt]

end Ledger

/-! ## Drawn ids -/

/-- The id came out of one of the draws `N, …, n - 1`. -/
def Env.Drew (env : Env) (N n : Nat) (id : Id128) : Prop := ∃ j, N ≤ j ∧ j < n ∧ id = env.random j

theorem Env.Drew.mono {env : Env} {N n n' : Nat} {id : Id128} (h : env.Drew N n id) (hle : n ≤ n') :
    env.Drew N n' id := by
  obtain ⟨j, hN, hn, hid⟩ := h
  exact ⟨j, hN, Nat.lt_of_lt_of_le hn hle, hid⟩

/-- An id from an early draw is not one of a later draw. -/
theorem Env.Drew.not_drew {env : Env} {N N' n n' : Nat} {id : Id128} (h : env.Drew N n id) (hle : n ≤ N')
    (hfresh : Set.InjOn env.random (Set.Iio n')) (h' : env.Drew N' n' id) : False := by
  obtain ⟨i, -, hi, hid⟩ := h
  obtain ⟨j, hN', hj, hid'⟩ := h'
  have : i = j := hfresh (Set.mem_Iio.mpr (by omega)) (Set.mem_Iio.mpr hj) (hid.symm.trans hid')
  omega

/-- Every reservation, and every attempt that is not `closed`, carries an id drawn since draw `N`. -/
structure Coordinator.DrawnSince (env : Env) (N : Nat) (closed : ExecutionAttempt D → Prop)
    (s : Coordinator D) : Prop where
  le : N ≤ s.drawn
  attempts : ∀ t, ∀ a ∈ s.attemptsOf t, closed a ∨ env.Drew N s.drawn a.id
  reservations : ∀ (rid : ReservationId) (r : Reservation), s.reservations[rid]? = some r →
    env.Drew N s.drawn rid
  file : ∀ t : ComputeTaskId, ∀ a ∈ (s.file.getD {}).attempts[t]?.getD [], closed a ∨ env.Drew N s.drawn a.id

/-- Every attempt and every reservation carries an id that was drawn. -/
abbrev Coordinator.Drawn (env : Env) (s : Coordinator D) : Prop := s.DrawnSince env 0 fun _ => False

theorem Coordinator.Drawn.attempt {env : Env} {s : Coordinator D} (h : s.Drawn env) {t : ComputeTaskId}
    {a : ExecutionAttempt D} (ha : a ∈ s.attemptsOf t) : env.Drew 0 s.drawn a.id :=
  (h.attempts t a ha).resolve_left id

/-- A property of attempts that depends on the key, and that a commit does not end. -/
def ClosedUnder (closed : ExecutionAttempt D → Prop) : Prop :=
  ∀ a b : ExecutionAttempt D, a.key = b.key → (b.committed = true → a.committed = true) → closed b → closed a

namespace Coordinator.DrawnSince

variable {env : Env} {s₀ s s' : Coordinator D} {e : Event D} {N : Nat}
  {closed : ExecutionAttempt D → Prop}

theorem of_started {w : World D} {d : DurableState D} (h : Started w d s) (hle : N ≤ w.drawn)
    (hd : ∀ t : ComputeTaskId, ∀ a ∈ d.attempts[t]?.getD [], closed a ∨ env.Drew N w.drawn a.id) :
    s.DrawnSince env N closed where
  le := h.drawn ▸ hle
  attempts t a ha := by
    rw [Ledger.attemptsOf, h.attempts] at ha
    rw [h.drawn]
    exact hd t a ha
  reservations rid r hr := by
    rw [h.reservations] at hr
    simp at hr
  file t a ha := by
    rw [h.drawn]
    rcases h.file with hfile | hfile
    · rw [hfile] at ha
      exact hd t a ha
    · rw [hfile, Option.getD_some, getD_attempts_snapshot, Ledger.attemptsOf, h.attempts] at ha
      exact hd t a (List.mem_of_mem_filter ha)

variable [DoubleArith D]

theorem attempts_step {l l' : Ledger D} (hclosed : ClosedUnder closed) (hstep : LedgerStep env s₀ e l l')
    (hwf : l.WellFormed) (hle : N ≤ l.drawn)
    (hattempts : ∀ t, ∀ a ∈ l.attemptsOf t, closed a ∨ env.Drew N l.drawn a.id) :
    ∀ t, ∀ a ∈ l'.attemptsOf t, closed a ∨ env.Drew N l'.drawn a.id := by
  intro t a ha
  rcases hstep.attempt_origin hwf ha with ⟨b, hb, hkey, hcommitted⟩ | ⟨hid, -, -, hdrawn⟩
  · rcases hattempts t b hb with hc | hdrew
    · exact .inl (hclosed a b hkey hcommitted hc)
    · right
      rw [show a.id = b.id from congrArg AttemptKey.id hkey]
      exact hdrew.mono hstep.drawn_le
  · exact .inr ⟨l.drawn + 1, by omega, by omega, hid⟩

theorem reservations_step {l l' : Ledger D} (hstep : LedgerStep env s₀ e l l') (hwf : l.WellFormed)
    (hle : N ≤ l.drawn)
    (hreservations : ∀ (rid : ReservationId) (r : Reservation), l.reservations[rid]? = some r →
      env.Drew N l.drawn rid) (rid : ReservationId) (r : Reservation)
    (hr : l'.reservations[rid]? = some r) : env.Drew N l'.drawn rid := by
  rcases hstep.reservations hwf with hback | ⟨r', node, -, hinsert, hid, hdrawn, -⟩
  · have hsome := hback.isSome_eq rid
    rw [hr] at hsome
    obtain ⟨r₀, hr₀⟩ := Option.isSome_iff_exists.mp hsome.symm
    exact (hreservations rid r₀ hr₀).mono hstep.drawn_le
  · rw [hinsert, Std.ExtTreeMap.getElem?_insert] at hr
    split_ifs at hr with hk
    · rw [Std.compare_eq_iff_eq] at hk
      exact ⟨l.drawn, hle, by omega, hk.symm.trans hid⟩
    · exact (hreservations rid r hr).mono hstep.drawn_le

theorem coreStep (hclosed : ClosedUnder closed) (hstep : CoreStep env s₀ e s s') (hsound : s.Sound)
    (h : s.DrawnSince env N closed) : s'.DrawnSince env N closed := by
  obtain ⟨hle, hattempts, hreservations, hfile⟩ := hstep.books_invariant
    (R := fun l d => N ≤ l.drawn ∧ (∀ t, ∀ a ∈ l.attemptsOf t, closed a ∨ env.Drew N l.drawn a.id) ∧
      (∀ (rid : ReservationId) (r : Reservation), l.reservations[rid]? = some r → env.Drew N l.drawn rid) ∧
      ∀ t : ComputeTaskId, ∀ a ∈ d.attempts[t]?.getD [], closed a ∨ env.Drew N l.drawn a.id)
    (fun d hd hact => by
      obtain ⟨hle, hattempts, hreservations, hfile⟩ := hd
      exact ⟨hle.trans hact.drawn_le, attempts_step hclosed hact hsound.wellFormed hle hattempts,
        reservations_step hact hsound.wellFormed hle hreservations,
        fun t a ha => (hfile t a ha).imp_right fun hdrew => hdrew.mono hact.drawn_le⟩)
    (fun hd => by
      refine ⟨hd.1, hd.2.1, hd.2.2.1, fun t a ha => ?_⟩
      rw [getD_attempts_snapshot] at ha
      exact hd.2.1 t a (List.mem_of_mem_filter ha))
    ⟨h.le, h.attempts, h.reservations, h.file⟩
  exact ⟨hle, hattempts, hreservations, hfile⟩

end Coordinator.DrawnSince

section Runs

variable [DoubleArith D] {env : Env}

theorem step_drawnSince {s s' : Coordinator D} {e : Event D} {N : Nat} {closed : ExecutionAttempt D → Prop}
    (hclosed : ClosedUnder closed) (hsound : s.Sound) (h : s.DrawnSince env N closed)
    (he : step env s e = some s') : s'.DrawnSince env N closed :=
  step_invariant (fun _ _ hx hI hcore => .coreStep hclosed hcore hx hI) (fun _ hs => .of_started hs h.le h.file)
    hsound h he

theorem boot_drawn {s : Coordinator D} (h : boot env = some s) : s.Drawn env :=
  .of_started (boot_spec h) (Nat.zero_le _) (by simp)

theorem run_drawn {events : List (Event D)} {s : Coordinator D} (hrun : run env events = some s) :
    s.Drawn env :=
  (run_invariant (I := fun s => s.Drawn env) (C := fun _ _ => True) (fun _ hs => boot_drawn hs)
    (fun _ _ _ hsound hI _ he => step_drawnSince (fun _ _ _ _ h => h) hsound hI he)
    (.of_forall (fun _ _ => trivial) events) hrun).2

end Runs

/-! ## Distinct ids -/

/-- No two attempts share an id. -/
structure DistinctIds (list : ComputeTaskId → List (ExecutionAttempt D)) : Prop where
  nodup : ∀ t, ((list t).map ExecutionAttempt.id).Nodup
  task_eq : ∀ {t u : ComputeTaskId} {a b : ExecutionAttempt D}, a ∈ list t → b ∈ list u → a.id = b.id →
    t = u

theorem DistinctIds.sublist {list list' : ComputeTaskId → List (ExecutionAttempt D)} (h : DistinctIds list)
    (hsub : ∀ t, (list' t).Sublist (list t)) : DistinctIds list' where
  nodup t := (h.nodup t).sublist ((hsub t).map _)
  task_eq ha hb hid := h.task_eq ((hsub _).subset ha) ((hsub _).subset hb) hid

theorem DistinctIds.index_eq {list : ComputeTaskId → List (ExecutionAttempt D)} (h : DistinctIds list)
    {t u : ComputeTaskId} {i j : Nat} {a b : ExecutionAttempt D} (ha : (list t)[i]? = some a)
    (hb : (list u)[j]? = some b) (hid : a.id = b.id) : t = u ∧ i = j := by
  obtain rfl := h.task_eq (List.mem_of_getElem? ha) (List.mem_of_getElem? hb) hid
  have hlen : i < ((list t).map ExecutionAttempt.id).length := by
    simpa using (List.getElem?_eq_some_iff.mp ha).1
  exact ⟨rfl, (List.getElem?_inj hlen (h.nodup t)).mp (by simp [ha, hb, hid])⟩

theorem DistinctIds.of_index {list : ComputeTaskId → List (ExecutionAttempt D)}
    (h : ∀ {t u : ComputeTaskId} {i j : Nat} {a b : ExecutionAttempt D}, (list t)[i]? = some a →
      (list u)[j]? = some b → a.id = b.id → t = u ∧ i = j) : DistinctIds list where
  nodup t := by
    rw [List.nodup_iff_getElem?_ne_getElem?]
    intro i j hij hj heq
    rw [List.length_map] at hj
    rw [List.getElem?_map, List.getElem?_map, List.getElem?_eq_getElem hj, Option.map_some] at heq
    obtain ⟨a, ha, hid⟩ := Option.map_eq_some_iff.mp heq
    have := (h ha (List.getElem?_eq_getElem hj) hid).2
    omega
  task_eq ha hb hid := by
    obtain ⟨i, hi⟩ := List.mem_iff_getElem?.mp ha
    obtain ⟨j, hj⟩ := List.mem_iff_getElem?.mp hb
    exact (h hi hj hid).1

/-- Ids stay distinct as long as no id is drawn twice. -/
theorem DistinctIds.ledgerStep [DoubleArith D] {env : Env} {s₀ : Coordinator D} {e : Event D} {l l' : Ledger D}
    (hstep : LedgerStep env s₀ e l l') (hwf : l.WellFormed)
    (hdrawn : ∀ t, ∀ a ∈ l.attemptsOf t, env.Drew 0 l.drawn a.id)
    (hfresh : Set.InjOn env.random (Set.Iio l'.drawn)) (h : DistinctIds l.attemptsOf) :
    DistinctIds l'.attemptsOf := by
  -- an attempt of `l'` has the id of the one at its place in `l`, or a new one
  have horigin : ∀ {t : ComputeTaskId} {i : Nat} {a : ExecutionAttempt D},
      (l'.attemptsOf t)[i]? = some a → (∃ b : ExecutionAttempt D, (l.attemptsOf t)[i]? = some b ∧ a.id = b.id) ∨
      ((l.attemptsOf t)[i]? = none ∧ a.id = env.random (l.drawn + 1) ∧ l'.drawn = l.drawn + 2 ∧
        ∀ u, l'.attemptsOf u = if t = u then l.attemptsOf u ++ [a] else l.attemptsOf u) := by
    intro t i a ha
    have hrec := hstep.attemptStep hwf ha
    generalize hb : (l.attemptsOf t)[i]? = old at hrec
    cases hrec with
    | kept => exact .inl ⟨_, rfl, rfl⟩
    | started hfind hepoch hl => exact .inl ⟨_, rfl, rfl⟩
    | ended hkey hlive hcommitted => exact .inl ⟨_, rfl, congrArg AttemptKey.id hkey⟩
    | created hid hresv hepoch hnode hsession hcommitted hdrawn happend =>
        exact .inr ⟨rfl, hid, hdrawn, happend⟩
  -- an old id is not the new one
  have hne : ∀ {t : ComputeTaskId} {i : Nat} {b : ExecutionAttempt D},
      (l.attemptsOf t)[i]? = some b → l'.drawn = l.drawn + 2 → b.id ≠ env.random (l.drawn + 1) := by
    intro t i b hb hd heq
    exact (hdrawn t b (List.mem_of_getElem? hb)).not_drew (Nat.le_succ _) hfresh ⟨_, le_rfl, by omega, heq⟩
  refine .of_index ?_
  intro t u i j a b ha hb hid
  rcases horigin ha with ⟨a₀, ha₀, hida⟩ | ⟨hnone, hida, hd, happend⟩
  · rcases horigin hb with ⟨b₀, hb₀, hidb⟩ | ⟨-, hidb, hd, -⟩
    · exact h.index_eq ha₀ hb₀ (hida.symm.trans (hid.trans hidb))
    · exact absurd (hida.symm.trans (hid.trans hidb)) (hne ha₀ hd)
  · rcases horigin hb with ⟨b₀, hb₀, hidb⟩ | ⟨hnone', -, -, -⟩
    · exact absurd (hidb.symm.trans (hid.symm.trans hida)) (hne hb₀ hd)
    · -- a dispatch appends one attempt, to one list
      by_cases htu : t = u
      · subst htu
        rw [happend, if_pos rfl] at ha hb
        have hi := (List.getElem?_eq_some_iff.mp ha).1
        have hj := (List.getElem?_eq_some_iff.mp hb).1
        rw [List.getElem?_eq_none_iff] at hnone hnone'
        rw [List.length_append, List.length_singleton] at hi hj
        exact ⟨rfl, by omega⟩
      · rw [happend, if_neg htu, hnone'] at hb
        cases hb

/-- With distinct ids, looking an attempt up by its id finds it. -/
theorem DistinctIds.findActiveAttempt {l : Ledger D} (h : DistinctIds l.attemptsOf) {t : ComputeTaskId}
    {i : Nat} {a : ExecutionAttempt D} (ha : (l.attemptsOf t)[i]? = some a) :
    l.findActiveAttempt a.id = some (⟨t, i⟩, a) := by
  cases hfind : l.findActiveAttempt a.id with
  | none => exact absurd rfl (Ledger.findActiveAttempt_eq_none hfind (List.mem_of_getElem? ha))
  | some hit =>
      obtain ⟨p, b⟩ := hit
      obtain ⟨hb, hid⟩ := Ledger.findActiveAttempt_eq_some hfind
      obtain ⟨rfl, rfl⟩ := h.index_eq hb ha hid
      rw [hb] at ha
      cases ha
      rfl

section Runs

variable [DoubleArith D] {env : Env}

/-- Distinct ids in memory and in the file, as long as no id was drawn twice. -/
def Coordinator.Distinct (env : Env) (s : Coordinator D) : Prop :=
  Set.InjOn env.random (Set.Iio s.drawn) →
    DistinctIds s.attemptsOf ∧ DistinctIds fun t => (s.file.getD {}).attempts[t]?.getD []

omit [DoubleArith D] in
theorem Coordinator.Distinct.of_started {w : World D} {d : DurableState D} {s : Coordinator D}
    (h : Started w d s)
    (hd : Set.InjOn env.random (Set.Iio w.drawn) → DistinctIds fun t => d.attempts[t]?.getD []) :
    s.Distinct env := by
  intro hfresh
  rw [h.drawn] at hfresh
  have hmem : DistinctIds s.attemptsOf := by
    have heq : s.attemptsOf = fun t => d.attempts[t]?.getD [] := by
      funext t
      rw [Ledger.attemptsOf, h.attempts]
    exact heq ▸ hd hfresh
  refine ⟨hmem, ?_⟩
  rcases h.file with hfile | hfile
  · rw [hfile]
    exact hd hfresh
  · refine hmem.sublist ?_
    intro t
    rw [hfile, Option.getD_some, getD_attempts_snapshot]
    exact List.filter_sublist

theorem Coordinator.Distinct.coreStep {s₀ s s' : Coordinator D} {e : Event D}
    (hstep : CoreStep env s₀ e s s') (hsound : s.Sound) (hdrawn : s.Drawn env) (h : s.Distinct env) :
    s'.Distinct env := by
  refine hstep.books_invariant (R := fun l d => Set.InjOn env.random (Set.Iio l.drawn) →
    DistinctIds l.attemptsOf ∧ DistinctIds fun t => d.attempts[t]?.getD []) ?_ ?_ h
  · intro d hd hact hfresh
    obtain ⟨hmem, hfile⟩ := hd (hfresh.mono (Set.Iio_subset_Iio hact.drawn_le))
    exact ⟨.ledgerStep hact hsound.wellFormed (fun _ _ ha => hdrawn.attempt ha) hfresh hmem, hfile⟩
  · intro hd hfresh
    refine ⟨(hd hfresh).1, (hd hfresh).1.sublist ?_⟩
    intro t
    rw [getD_attempts_snapshot]
    exact List.filter_sublist

/-- **Ids are unique** in every run in which no id is drawn twice. -/
theorem run_distinctIds {events : List (Event D)} {s : Coordinator D} (hrun : run env events = some s)
    (hfresh : Set.InjOn env.random (Set.Iio s.drawn)) : DistinctIds s.attemptsOf := by
  refine ((run_invariant (I := fun s => s.Drawn env ∧ s.Distinct env) (C := fun _ _ => True) ?_ ?_
    (.of_forall (fun _ _ => trivial) events) hrun).2.2 hfresh).1
  · intro s hs
    exact ⟨boot_drawn hs, .of_started (boot_spec hs) fun _ => .of_index (by simp)⟩
  · rintro s e s' hsound ⟨hdrawn, hdistinct⟩ - he
    refine step_invariant (I := fun s => s.Drawn env ∧ s.Distinct env) ?_ ?_ hsound ⟨hdrawn, hdistinct⟩ he
    · rintro x x' hx ⟨hxd, hxi⟩ hcore
      exact ⟨.coreStep (fun _ _ _ _ h => h) hcore hx hxd, Distinct.coreStep hcore hx hxd hxi⟩
    · intro _ hs
      exact ⟨.of_started hs hdrawn.le hdrawn.file, .of_started hs fun hf => (hdistinct hf).2⟩

end Runs

/-! ## Commits -/

section Commits

variable {env : Env} {s : Coordinator D} {t : ComputeTaskId} {i : Nat} {a : ExecutionAttempt D}

variable [DoubleArith D]

/-- A completion that passes validation commits the attempt. -/
theorem handleAttemptComplete_commits (hwf : s.WellFormed) (conn : ConnId) (req : UInt64)
    (co : AttemptComplete D) (hfind : s.findActiveAttempt co.attemptId = some (⟨t, i⟩, a))
    (htask : a.taskId = t) (hc : a.committed = false) (hcancel : s.isCancelRequested a.taskId = false)
    (hvalid : s.completionError a co = none) :
    (((s.handleAttemptComplete env conn req co).attemptsOf t)[i]?.map fun a => a.committed) = some true := by
  have hstep : LedgerStep env s (.command (.attemptComplete conn req co)) s.toLedger
      (s.toLedger.commitAttempt ⟨t, i⟩ a co (s.now env)) := .commit hfind hc hcancel hvalid
  have hcommitted : (((s.toLedger.commitAttempt ⟨t, i⟩ a co (s.now env)).view t).attempts[i]?.map
      fun a => a.committed) = some true := by
    rw [Ledger.view_commitAttempt _ t htask, if_pos rfl]
    have ha : (s.attemptsOf t)[i]? = some a := (Ledger.findActiveAttempt_eq_some hfind).1
    simp [Ledger.view, ha, markCommitted]
  unfold handleAttemptComplete
  simp only [hfind, hc, hcancel, hvalid, Bool.false_eq_true, if_false]
  -- the success cascade and the save keep the flag
  generalize hs₁ : queueOutbound env conn req _ (recordCompletion a co _) = s₁
  have hledger : s₁.toLedger = s.toLedger.commitAttempt ⟨t, i⟩ a co (s.now env) := by
    rw [← hs₁, queueOutbound_toLedger, recordCompletion_toLedger]
    rfl
  have hsteps : CoreSteps env s (.command (.attemptComplete conn req co)) s₁ _ :=
    (onTaskSucceededRecursive_steps (s₁.graph.tasks.size + 1) a.taskId s₁).tail (persist_step _)
  exact hsteps.view_invariant (J := fun v => (v.attempts[i]?.map fun a => a.committed) = some true) t
    (fun v v' hv hs => hs.committed_kept hv) (hledger ▸ hstep.wellFormed hwf) (hledger ▸ hcommitted)

/-- An attempt whose flag a completion sets is the one it commits. -/
theorem commits_of_committed (hwf : s.WellFormed) (conn : ConnId) (req : UInt64) (co : AttemptComplete D)
    (ha : (s.attemptsOf t)[i]? = some a) (hc : a.committed = false)
    (h : (((s.handleAttemptComplete env conn req co).attemptsOf t)[i]?.map fun a => a.committed) =
      some true) : s.commits co = some a := by
  have hsteps : CoreSteps env s (.command (.attemptComplete conn req co)) s
      (s.handleAttemptComplete env conn req co) := handleAttemptComplete_steps co
  have horigin := hsteps.view_invariant t
    (J := fun v => (v.attempts[i]?.map fun a => a.committed) = some true →
      ((s.attemptsOf t)[i]?.map fun a => a.committed) = some true ∨
        ∃ a, s.commits co = some a ∧ (s.attemptsOf t)[i]? = some a)
    (fun v v' hv hstep h' => by
      rcases hstep.committed_origin h' with hold | ⟨conn', req', co', b, he, hb, hi⟩
      · exact hv hold
      · cases he
        exact .inr ⟨b, hb, hi⟩) hwf .inl h
  rcases horigin with hold | ⟨b, hb, hi⟩
  · simp [ha, hc] at hold
  · rw [ha] at hi
    rwa [Option.some.inj hi]

end Commits

end ComputeFabric
