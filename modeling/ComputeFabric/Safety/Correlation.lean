import ComputeFabric.Coordinator.Outbox

/-!
# `Safety.Correlation` — replies and requests

A client waits for the frame that carries its request id, and a node takes an acknowledgement for the last thing
it sent. Both rely on the coordinator to reply at most once to each command, on the right connection and with the
right id. Seen over a whole run, with sweeps, lost connections and restarts in between: the replies that were
queued, in order, answer commands that were processed, in order (`replies_answer_commands`).
-/

namespace ComputeFabric

open Coordinator

variable {D : Type} [DoubleArith D] {env : Env}

/-- The command of an event. -/
def Event.command? : Event D → Option (Command D)
  | .command c => some c
  | _ => none

/-- The frames of an outbox that are replies. -/
def repliesIn (frames : List (ConnId × UInt64 × Message D)) : List (ConnId × UInt64 × Message D) :=
  frames.filter fun f => !f.2.2.isOrder

/-- The frame answers the command, where the command came from. -/
def Replies (f : ConnId × UInt64 × Message D) (c : Command D) : Prop :=
  c.origin = some (f.1, f.2.1) ∧ f.2.2.isReplyTo c = true

omit [DoubleArith D] in
theorem repliesIn_orders {frames : List (ConnId × UInt64 × Message D)}
    (h : ∀ f ∈ frames, f.2.1 = 0 ∧ ∃ msg, f.2.2 = .dispatchAttempt msg) : repliesIn frames = [] := by
  rw [repliesIn, List.filter_eq_nil_iff]
  intro f hf
  obtain ⟨-, msg, hm⟩ := h f hf
  simp [hm, Message.isOrder]

omit [DoubleArith D] in
/-- The replies to one command. -/
theorem Answered.repliesIn {c : Command D} {frames : List (ConnId × UInt64 × Message D)} (h : Answered c frames) :
    repliesIn frames = [] ∨ ∃ f, ComputeFabric.repliesIn frames = [f] ∧ Replies f c := by
  rcases h.replies with hnone | ⟨conn, req, m, horigin, hreply, hone⟩
  · exact .inl hnone
  · exact .inr ⟨(conn, req, m), hone, horigin, hreply⟩

/-- One event adds no reply, or the reply to its command. -/
theorem step_replies {s s' : Coordinator D} {e : Event D} (h : step env s e = some s') :
    repliesIn s'.outbox = repliesIn s.outbox ∨
      ∃ c f, e = .command c ∧ repliesIn s'.outbox = repliesIn s.outbox ++ [f] ∧ Replies f c := by
  cases e with
  | command c =>
      obtain rfl : s.process env c = s' := Option.some.inj h
      obtain ⟨frames, hframes, hanswered⟩ := process_answered env c s
      rw [hframes, repliesIn, List.filter_append]
      rcases hanswered.repliesIn with hnone | ⟨f, hone, hf⟩
      · rw [repliesIn] at hnone
        exact .inl (by rw [hnone, List.append_nil]; rfl)
      · rw [repliesIn] at hone
        exact .inr ⟨c, f, rfl, by rw [hone]; rfl, hf⟩
  | sweep =>
      obtain rfl : s.sweep env = s' := Option.some.inj h
      obtain ⟨frames, hframes, horders⟩ := sweep_outbox env s
      have hnone := repliesIn_orders horders
      rw [repliesIn] at hnone
      exact .inl (by rw [hframes, repliesIn, List.filter_append, hnone, List.append_nil]; rfl)
  | connectionStopped conn =>
      obtain rfl : s.stopConnection conn = s' := Option.some.inj h
      exact .inl rfl
  | stopRequested =>
      obtain rfl : s.requestStop = s' := Option.some.inj h
      exact .inl rfl
  | restart => exact .inl (congrArg repliesIn (start_outbox (start_of_restart h)))

/-- The replies queued so far answer a subsequence of the commands processed so far. -/
theorem runFrom_replies {s s' : Coordinator D} {events : List (Event D)} (h : runFrom env s events = some s') :
    ∃ frames cs, repliesIn s'.outbox = repliesIn s.outbox ++ frames ∧
      cs.Sublist (events.filterMap Event.command?) ∧ List.Forall₂ Replies frames cs := by
  induction events generalizing s with
  | nil =>
      obtain rfl : s = s' := Option.some.inj h
      exact ⟨[], [], (List.append_nil _).symm, List.nil_sublist _, .nil⟩
  | cons e es ih =>
      obtain ⟨s₁, h₁, h₂⟩ := Lts.run_cons.mp h
      obtain ⟨frames, cs, hframes, hcs, hanswers⟩ := ih h₂
      rcases step_replies h₁ with hsame | ⟨c, f, rfl, hnew, hf⟩
      · refine ⟨frames, cs, by rw [hframes, hsame], ?_, hanswers⟩
        cases e with
        | command c => exact hcs.trans (List.sublist_cons_self _ _)
        | _ => exact hcs
      · exact ⟨f :: frames, c :: cs, by rw [hframes, hnew, List.append_assoc]; rfl, hcs.cons_cons c,
          .cons hf hanswers⟩

/-- **Replies answer commands, one for one.** In every run, the replies the coordinator has queued are, in order,
    the answers to a subsequence of the commands it has processed: each on the connection of its command, with
    its request id, of the kind the command asks for and about the same subject. So no command is answered
    twice, and nothing is answered that was not asked. -/
theorem replies_answer_commands {events : List (Event D)} {s : Coordinator D} (hrun : run env events = some s) :
    ∃ cs, cs.Sublist (events.filterMap Event.command?) ∧ List.Forall₂ Replies (repliesIn s.outbox) cs := by
  obtain ⟨s₀, hs₀, hfrom⟩ := Option.bind_eq_some_iff.mp hrun
  obtain ⟨frames, cs, hframes, hcs, hanswers⟩ := runFrom_replies hfrom
  have hempty : s₀.outbox = [] := start_outbox (start_of_boot hs₀)
  rw [hempty] at hframes
  exact ⟨cs, hcs, by rw [hframes]; exact hanswers⟩

/-- A node registers, a client submits a task and asks to cancel it. The sweep in between sends an order, and the
    three commands of the client that were answered stay in their order. -/
theorem replies_answer_commands_submit :
    ∃ s cs, run (Demo.env 3000 100)
        [Demo.register 1, .command (.clientConnected ⟨0, 9⟩ 2), Demo.submit 2, .sweep, Demo.cancel] = some s ∧
      cs.Sublist ([Demo.register 1, .command (.clientConnected ⟨0, 9⟩ 2), Demo.submit 2, .sweep,
        Demo.cancel].filterMap Event.command?) ∧
      List.Forall₂ Replies (repliesIn s.outbox) cs ∧ cs.length = 3 := by
  have hfacts : ((run (Demo.env 3000 100)
      [Demo.register 1, .command (.clientConnected ⟨0, 9⟩ 2), Demo.submit 2, .sweep, Demo.cancel]).map
        fun s => (repliesIn s.outbox).length) = some 3 := by
    decide +kernel
  obtain ⟨s, hs, hlen⟩ := Option.map_eq_some_iff.mp hfacts
  obtain ⟨cs, hcs, hanswers⟩ := replies_answer_commands hs
  exact ⟨s, cs, hs, hcs, hanswers, by rw [← hanswers.length_eq, hlen]⟩

end ComputeFabric
