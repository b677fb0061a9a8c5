import ComputeFabric.Coordinator.Records

/-!
# `Safety.Session` — stale node sessions hold no authority

A node that registers on a new connection gets a new session. Reservations granted under the old session and
attempts sent to it should lose their authority then; `handle_node_register` writes the node record and
leaves both as they are (`ReservationRegistry::invalidate_session` has no caller), and a completion is not
checked against the session. So the property fails as soon as a node with work in hand registers again
(`reregistration_keeps_authority`); it holds in every run in which that does
not happen and no attempt of a superseded session is revived (`stale_sessions_hold_nothing`).
-/

namespace ComputeFabric

open Coordinator
open ExecutionAttempt (markStarted)
open ReservationRegistry (GivenBack)

variable {D : Type}

/-! ## The condition -/

/-- A new session is opened for a node only when it holds no reservation and no unfinished task has a live
    attempt there; and a start report does not revive an attempt of a superseded session. -/
def Coordinator.keepsSessions (s : Coordinator D) : Event D → Bool
  | .command (.nodeRegister conn _ reg) =>
      !s.opensSession conn reg.nodeId ||
      (s.reservations.activeForNode reg.nodeId).isEmpty &&
        (s.affectedBy reg.nodeId).all fun t => (s.graph.state t).isAbsorbing
  | .command (.attemptStarted st) =>
      match s.findActiveAttempt st.attemptId with
      | none => true
      | some (_, a) =>
          a.coordinatorEpoch ≠ s.durable.epoch || a.isLive || a.committed ||
          (s.graph.state a.taskId).isAbsorbing || s.sessionOf a.nodeId = some a.nodeSession
  | _ => true

/-! ## The invariant -/

/-- Held reservations, and live attempts of unfinished tasks, belong to the current session of their node. -/
structure Ledger.CurrentSessions (l : Ledger D) : Prop where
  reservations : ∀ (rid : ReservationId) (r : Reservation), l.reservations[rid]? = some r →
    r.released = false → l.sessionOf r.nodeId = some r.sessionId
  attempts : ∀ (t : ComputeTaskId), ∀ a ∈ l.attemptsOf t, a.isLive = true →
    (l.graph.state t).isAbsorbing = true ∨ l.sessionOf a.nodeId = some a.nodeSession

theorem ReservationRegistry.mem_activeForNode {reg : ReservationRegistry} {rid : ReservationId}
    {r : Reservation} (h : reg[rid]? = some r) (hunreleased : r.released = false) :
    r ∈ reg.activeForNode r.nodeId := by
  have hmem : (rid, r) ∈ reg.toList := Std.ExtTreeMap.mem_toList_iff_getElem?_eq_some.mpr h
  unfold ReservationRegistry.activeForNode
  rw [List.mem_filter]
  exact ⟨List.mem_map.mpr ⟨(rid, r), hmem, rfl⟩, by simp [hunreleased]⟩

section Step

variable [DoubleArith D] {env : Env} {s₀ : Coordinator D} {e : Event D} {l l' : Ledger D}

/-- A task in an absorbing state stays in it. -/
theorem LedgerStep.absorbing (h : LedgerStep env s₀ e l l') (hwf : l.WellFormed) {t : ComputeTaskId}
    (habs : (l.graph.state t).isAbsorbing = true) : (l'.graph.state t).isAbsorbing = true := by
  obtain ⟨st, hst, hst'⟩ : ∃ st, (l.view t).state = some st ∧ st.isAbsorbing = true := by
    cases hs : l.graph.states[t]? with
    | none =>
        rw [TaskGraph.state, hs] at habs
        cases habs
    | some st => exact ⟨st, hs, by rwa [Ledger.state_of_view hs] at habs⟩
  have hkept : (l'.view t).state = some st :=
    Lts.steps_invariant (P := fun v => v.state = some st) (fun _ _ hv hstep => hstep.absorbing hv hst') hst
      (h.taskSteps hwf t)
  rwa [Ledger.state_of_view hkept]

/-- The session of a node changes only when nothing depends on the old one. -/
theorem LedgerStep.session_cases (h : LedgerStep env s₀ e l l') (hcond : s₀.keepsSessions e = true)
    (n : NodeId) :
    l'.sessionOf n = l.sessionOf n ∨
      e ≠ .sweep ∧ l.reservations.activeForNode n = [] ∧
        ∀ t ∈ l.affectedBy n, (l.graph.state t).isAbsorbing = true := by
  rcases h.session n with hsame | ⟨conn, req, reg, rfl, rfl, hopen, rfl⟩
  · exact .inl hsame
  · simp only [keepsSessions, hopen, Bool.not_true, Bool.false_or, Bool.and_eq_true,
      List.isEmpty_iff, List.all_eq_true] at hcond
    exact .inr ⟨by simp, hcond⟩

theorem LedgerStep.currentSessions (h : LedgerStep env s₀ e l l') (hwf : l.WellFormed)
    (hcond : s₀.keepsSessions e = true) (hs : l.CurrentSessions) : l'.CurrentSessions where
  reservations rid r hr hunreleased := by
    have hold : l.reservations[rid]? = some r → l'.sessionOf r.nodeId = some r.sessionId := by
      intro hr₀
      rcases h.session_cases hcond r.nodeId with hsame | ⟨-, hnone, -⟩
      · rw [hsame]
        exact hs.reservations rid r hr₀ hunreleased
      · have hmem := ReservationRegistry.mem_activeForNode hr₀ hunreleased
        rw [hnone] at hmem
        cases hmem
    rcases h.reservations hwf with hback | ⟨r', node, rfl, hinsert, hid, hdrawn, hepoch, hnode, hsession, -⟩
    · exact hold (hback.of_unreleased hr hunreleased)
    · rw [hinsert, Std.ExtTreeMap.getElem?_insert] at hr
      split_ifs at hr with hk
      · cases hr
        rcases h.session_cases hcond r.nodeId with hsame | ⟨hne, -⟩
        · rw [hsame, Ledger.sessionOf, hnode, Option.map_some, hsession]
        · exact absurd rfl hne
      · exact hold hr
  attempts t a ha hlive := by
    obtain ⟨i, hi⟩ := List.mem_iff_getElem?.mp ha
    have hold : ∀ b, (l.attemptsOf t)[i]? = some b → b.isLive = true → a.key = b.key →
        (l'.graph.state t).isAbsorbing = true ∨ l'.sessionOf a.nodeId = some a.nodeSession := by
      intro b hb hlb hkey
      have hnode : a.nodeId = b.nodeId := congrArg AttemptKey.nodeId hkey
      have hsess : a.nodeSession = b.nodeSession := congrArg AttemptKey.nodeSession hkey
      rcases hs.attempts t b (List.mem_of_getElem? hb) hlb with habs | hcur
      · exact .inl (h.absorbing hwf habs)
      · rcases h.session_cases hcond b.nodeId with hsame | ⟨-, -, habs⟩
        · right
          rw [hnode, hsess, hsame]
          exact hcur
        · exact .inl (h.absorbing hwf (habs t (Ledger.mem_affectedBy.mpr
            ⟨b, List.mem_of_getElem? hb, rfl, hlb⟩)))
    have hrec := h.attemptStep hwf hi
    generalize hb : (l.attemptsOf t)[i]? = old at hrec
    cases hrec with
    | kept => exact hold a hb hlive rfl
    | @started st b hfind hepoch hl =>
        have hnode : l'.sessionOf b.nodeId = l.sessionOf b.nodeId := by
          rcases h.session b.nodeId with hsame | ⟨conn, req, reg, he, -⟩
          · exact hsame
          · cases he
        have htask : b.taskId = t := hwf.keyed t b (List.mem_of_getElem? hb)
        have hrevive : b.isLive = true ∨ b.committed = true ∨ (l.graph.state t).isAbsorbing = true ∨
            l.sessionOf b.nodeId = some b.nodeSession := by
          simpa [keepsSessions, hfind, hepoch, htask, hl, or_assoc] using hcond
        rcases hrevive with hlb | hc | habs | hcur
        · exact hold b hb hlb rfl
        · simp [ExecutionAttempt.isLive, markStarted, hc] at hlive
        · exact .inl (h.absorbing hwf habs)
        · exact .inr (hnode.trans hcur)
    | ended hkey hdead hcommitted =>
        rw [hdead] at hlive
        cases hlive
    | created hid hresv hepoch hnode hsession hcommitted hdrawn happend =>
        rcases h.session_cases hcond a.nodeId with hsame | ⟨hne, -⟩
        · right
          rw [hsame, Ledger.sessionOf, hnode, Option.map_some, hsession]
        · exact absurd rfl hne

end Step

/-! ## The theorem -/

theorem Started.currentSessions {w : World D} {d : DurableState D} {s : Coordinator D} (h : Started w d s)
    (hd : FileOk d) : s.toLedger.CurrentSessions where
  reservations rid r hr := by
    rw [h.reservations] at hr
    simp at hr
  attempts t a ha hlive := by
    rw [Ledger.attemptsOf, h.attempts] at ha
    simp [ExecutionAttempt.isLive, hd.committed t a ha] at hlive

section Runs

variable [DoubleArith D] {env : Env}

/-- **Stale sessions hold no authority.** Every held reservation belongs to the current session of its node,
    and so does every attempt that a completion commits. -/
theorem stale_sessions_hold_nothing {events : List (Event D)} {s : Coordinator D}
    (hrun : run env events = some s)
    (hcond : RunMeets env (fun s e => s.keepsSessions e = true) events) :
    (∀ (rid : ReservationId) (r : Reservation), s.reservations[rid]? = some r → r.released = false →
      s.sessionOf r.nodeId = some r.sessionId) ∧
    ∀ (conn : ConnId) (req : UInt64) (co : AttemptComplete D) (t : ComputeTaskId) (i : Nat)
      (a : ExecutionAttempt D), (s.attemptsOf t)[i]? = some a → a.committed = false →
      (((s.process env (.attemptComplete conn req co)).attemptsOf t)[i]?.map fun a => a.committed) =
        some true →
      s.sessionOf a.nodeId = some a.nodeSession := by
  have hinv : s.toLedger.CurrentSessions :=
    run_ledger_invariant (fun _ _ _ hs hd => hs.currentSessions hd)
      (fun _ _ _ _ hc hwf hl hstep => hstep.currentSessions hwf hc hl) hcond hrun
  have hwf := (run_sound hrun).wellFormed
  refine ⟨hinv.reservations, ?_⟩
  intro conn req co t i a ha hc hset
  have hcommits : s.commits co = some a := commits_of_committed hwf conn req co ha hc hset
  obtain ⟨hlive, hstate⟩ := live_of_commits hcommits
  rcases hinv.attempts t a (List.mem_of_getElem? ha) hlive with habs | hcur
  · rw [hwf.keyed t a (List.mem_of_getElem? ha)] at hstate
    rcases hstate with hst | hst <;> rw [hst] at habs <;> cases habs
  · exact hcur

end Runs

/-- A run with one connection. -/
theorem stale_sessions_hold_nothing_single :
    ∃ s, run (Demo.env 3000 100) [Demo.register 1, Demo.submit 1, .sweep, Demo.started 2] = some s ∧
      (∀ (rid : ReservationId) (r : Reservation), s.reservations[rid]? = some r → r.released = false →
        s.sessionOf r.nodeId = some r.sessionId) ∧
      ∀ (conn : ConnId) (req : UInt64) (co : AttemptComplete ℚ) (t : ComputeTaskId) (i : Nat)
        (a : ExecutionAttempt ℚ), (s.attemptsOf t)[i]? = some a → a.committed = false →
        (((s.process (Demo.env 3000 100) (.attemptComplete conn req co)).attemptsOf t)[i]?.map
          fun a => a.committed) = some true →
        s.sessionOf a.nodeId = some a.nodeSession := by
  obtain ⟨s, hs⟩ := Option.isSome_iff_exists.mp (show (run (Demo.env 3000 100) [Demo.register 1,
    Demo.submit 1, .sweep, Demo.started 2]).isSome = true by decide +kernel)
  exact ⟨s, hs, stale_sessions_hold_nothing hs (by decide +kernel)⟩

/-- The node registers again on a new connection while it runs an attempt: the reservation of the old
    session is still held, and the attempt of the old session commits. -/
theorem reregistration_keeps_authority :
    ((run (Demo.env 3000 100) [Demo.register 1, Demo.submit 1, .sweep, Demo.started 2, Demo.register 3]).map
      fun s => (s.sessionOf Demo.nodeId, s.reservations[Demo.id 1]?.map fun r => (r.nodeId, r.sessionId, r.released))) =
      some (some (Demo.id 3), some (Demo.nodeId, Demo.id 0, false)) ∧
    ((run (Demo.env 3000 100) [Demo.register 1, Demo.submit 1, .sweep, Demo.started 2, Demo.register 3,
        Demo.complete 2 1]).map
      fun s => (s.sessionOf Demo.nodeId, (s.attemptsOf Demo.taskId).map fun a => (a.nodeSession, a.committed))) =
      some (some (Demo.id 3), [(Demo.id 0, true)]) := by
  decide +kernel

end ComputeFabric
