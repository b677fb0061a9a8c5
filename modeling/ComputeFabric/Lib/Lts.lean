import Mathlib

/-!
# `Lib.Lts` — runs of a partial deterministic transition function

A system is a function `step : S → E → Option S`; `none` means that the event does not happen in the
state. `Along` says that every step of a run meets a condition on the state before it and the event, and
`run_invariant` is the induction over runs: what the initial state has and every step that meets the
condition keeps, the last state has.
-/

namespace Lts

variable {S E : Type} (step : S → E → Option S)

/-- The state after a list of events. -/
def run : S → List E → Option S
  | s, [] => some s
  | s, e :: es => (step s e).bind fun s' => run s' es

/-- Every step of the run meets `C`. -/
def Along (C : S → E → Prop) : S → List E → Prop
  | _, [] => True
  | s, e :: es => C s e ∧ match step s e with
    | none => True
    | some s' => Along C s' es

instance Along.decidable (C : S → E → Prop) [∀ s e, Decidable (C s e)] :
    ∀ s es, Decidable (Along step C s es)
  | _, [] => inferInstanceAs (Decidable True)
  | s, e :: es =>
      match h : step s e with
      | none => decidable_of_iff (C s e) (by simp [Along, h])
      | some s' =>
          have := Along.decidable C s' es
          decidable_of_iff (C s e ∧ Along step C s' es) (by simp [Along, h])

variable {step}

theorem run_cons {s s' : S} {e : E} {es : List E} :
    run step s (e :: es) = some s' ↔ ∃ s₁, step s e = some s₁ ∧ run step s₁ es = some s' := by
  simp [run, Option.bind_eq_some_iff]

theorem run_append {s s' : S} {es es' : List E} :
    run step s (es ++ es') = some s' ↔ ∃ s₁, run step s es = some s₁ ∧ run step s₁ es' = some s' := by
  induction es generalizing s with
  | nil => simp [run]
  | cons e es ih =>
      rw [List.cons_append, run_cons]
      constructor
      · rintro ⟨s₁, h₁, h₂⟩
        obtain ⟨s₂, h₃, h₄⟩ := ih.mp h₂
        exact ⟨s₂, run_cons.mpr ⟨s₁, h₁, h₃⟩, h₄⟩
      · rintro ⟨s₂, h₁, h₂⟩
        obtain ⟨s₁, h₃, h₄⟩ := run_cons.mp h₁
        exact ⟨s₁, h₃, ih.mpr ⟨s₂, h₄, h₂⟩⟩

/-- A loop is the run of a step that always happens. -/
theorem run_some (f : S → E → S) (s : S) (es : List E) :
    run (fun s e => some (f s e)) s es = some (es.foldl f s) := by
  induction es generalizing s with
  | nil => rfl
  | cons e es ih => exact ih (f s e)

/-- What all events of the list have in common holds along the run. -/
theorem Along.and_mem {C : S → E → Prop} {P : E → Prop} {s : S} {es : List E} (h : Along step C s es)
    (hP : ∀ e ∈ es, P e) : Along step (fun s e => C s e ∧ P e) s es := by
  induction es generalizing s with
  | nil => trivial
  | cons e es ih =>
      refine ⟨⟨h.1, hP e List.mem_cons_self⟩, ?_⟩
      have h₂ := h.2
      cases hs : step s e with
      | none => trivial
      | some s' =>
          simp only [hs] at h₂ ⊢
          exact ih h₂ fun e he => hP e (List.mem_cons_of_mem _ he)

theorem Along.and {C C' : S → E → Prop} {s : S} {es : List E} (h : Along step C s es)
    (h' : Along step C' s es) : Along step (fun s e => C s e ∧ C' s e) s es := by
  induction es generalizing s with
  | nil => trivial
  | cons e es ih =>
      refine ⟨⟨h.1, h'.1⟩, ?_⟩
      have h₂ := h.2
      have h₂' := h'.2
      cases hs : step s e with
      | none => trivial
      | some s' =>
          simp only [hs] at h₂ h₂' ⊢
          exact ih h₂ h₂'

theorem Along.of_forall {C : S → E → Prop} (hC : ∀ s e, C s e) {s : S} {es : List E} :
    Along step C s es := by
  induction es generalizing s with
  | nil => trivial
  | cons e es ih =>
      refine ⟨hC s e, ?_⟩
      cases hs : step s e with
      | none => trivial
      | some s' => exact ih

theorem along_append {C : S → E → Prop} {s s₁ : S} {es es' : List E} (hrun : run step s es = some s₁) :
    Along step C s (es ++ es') ↔ Along step C s es ∧ Along step C s₁ es' := by
  induction es generalizing s with
  | nil =>
      cases hrun
      simp [Along]
  | cons e es ih =>
      obtain ⟨s₂, h₁, h₂⟩ := run_cons.mp hrun
      simp only [List.cons_append, Along, h₁, ih h₂, and_assoc]

/-- **The induction over runs**, for a property that also depends on how many events `p` singles out. -/
theorem run_count_invariant {I : Nat → S → Prop} {C : S → E → Prop} {p : E → Bool}
    (hstep : ∀ k s e s', I k s → C s e → step s e = some s' → I (if p e then k + 1 else k) s')
    {k : Nat} {s s' : S} {es : List E} (h₀ : I k s) (hC : Along step C s es)
    (hrun : run step s es = some s') : I (k + es.countP p) s' := by
  induction es generalizing k s with
  | nil =>
      cases hrun
      exact h₀
  | cons e es ih =>
      obtain ⟨s₁, h₁, h₂⟩ := run_cons.mp hrun
      have hrest := hC.2
      simp only [h₁] at hrest
      have hlast := ih (hstep k s e s₁ h₀ hC.1 h₁) hrest h₂
      rw [List.countP_cons]
      cases hp : p e with
      | false => simpa [hp] using hlast
      | true => simpa [hp, Nat.add_assoc, Nat.add_comm 1] using hlast

/-- **The induction over runs.** -/
theorem run_invariant {I : S → Prop} {C : S → E → Prop}
    (hstep : ∀ s e s', I s → C s e → step s e = some s' → I s')
    {s s' : S} {es : List E} (h₀ : I s) (hC : Along step C s es) (hrun : run step s es = some s') :
    I s' :=
  run_count_invariant (I := fun _ => I) (p := fun _ => false) (k := 0)
    (fun _ s e s' hs hc he => hstep s e s' hs hc he) h₀ hC hrun

/-- The induction, when the steps are subject to a condition on the events. -/
theorem run_preserves_of_mem {I : S → Prop} {P : E → Prop}
    (hstep : ∀ s e s', I s → P e → step s e = some s' → I s')
    {s s' : S} {es : List E} (h₀ : I s) (hP : ∀ e ∈ es, P e) (hrun : run step s es = some s') : I s' :=
  run_invariant (fun s e s' hs hc he => hstep s e s' hs hc.2 he) h₀
    (Along.and_mem (C := fun _ _ => True) (.of_forall fun _ _ => trivial) hP) hrun

/-- The induction, when every step keeps the property. -/
theorem run_preserves {I : S → Prop} (hstep : ∀ s e s', I s → step s e = some s' → I s')
    {s s' : S} {es : List E} (h₀ : I s) (hrun : run step s es = some s') : I s' :=
  run_invariant (fun s e s' hs _ he => hstep s e s' hs he) h₀
    (.of_forall (C := fun _ _ => True) fun _ _ => trivial) hrun

/-- **Runs end.** When every step with an event in `P` makes `m` smaller, a run of such events is no longer than
    `m` says at its beginning. -/
theorem run_length_le {I : S → Prop} {P : E → Prop} {m : S → Nat}
    (hstep : ∀ s e s', I s → P e → step s e = some s' → I s' ∧ m s' < m s)
    {s s' : S} {es : List E} (h₀ : I s) (hP : ∀ e ∈ es, P e) (hrun : run step s es = some s') :
    es.length + m s' ≤ m s := by
  induction es generalizing s with
  | nil =>
      cases hrun
      simp
  | cons e es ih =>
      obtain ⟨s₁, h₁, h₂⟩ := run_cons.mp hrun
      obtain ⟨hI, hlt⟩ := hstep s e s₁ h₀ (hP e List.mem_cons_self) h₁
      have hrest := ih hI (fun e he => hP e (List.mem_cons_of_mem _ he)) h₂
      rw [List.length_cons]
      omega

/-- How many steps of the run are singled out by `p`, which looks at the state before the step as well. -/
def countAlong (step : S → E → Option S) (p : S → E → Bool) : S → List E → Nat
  | _, [] => 0
  | s, e :: es =>
      match step s e with
      | none => 0
      | some s' => (if p s e then 1 else 0) + countAlong step p s' es

/-- **The induction over runs**, for a property that depends on how many steps `p` singles out. -/
theorem run_countAlong_invariant {I : Nat → S → Prop} {p : S → E → Bool}
    (hstep : ∀ k s e s', I k s → step s e = some s' → I (k + if p s e then 1 else 0) s')
    {k : Nat} {s s' : S} {es : List E} (h₀ : I k s) (hrun : run step s es = some s') :
    I (k + countAlong step p s es) s' := by
  induction es generalizing k s with
  | nil =>
      cases hrun
      exact h₀
  | cons e es ih =>
      obtain ⟨s₁, h₁, h₂⟩ := run_cons.mp hrun
      rw [countAlong, h₁, ← Nat.add_assoc]
      exact ih (hstep k s e s₁ h₀ h₁) h₂

/-- The events that remain when those that are `stale` where they occur are left out. -/
def purge (step : S → E → Option S) (stale : S → E → Bool) : S → List E → List E
  | _, [] => []
  | s, e :: es =>
      match step s e with
      | none => []
      | some s' => if stale s e then purge step stale s' es else e :: purge step stale s' es

/-- **Stale events can be left out.** `R` relates the state of a run with the state of the run without its stale
    events: a stale event keeps it, and every other event keeps it in both runs. `P` is what all events have in
    common. -/
theorem run_purge (stale : S → E → Bool) {R : S → S → Prop} {P : E → Prop}
    (hstale : ∀ x y e x', R x y → P e → stale x e = true → step x e = some x' → R x' y)
    (hother : ∀ x y e x', R x y → P e → step x e = some x' → ∃ y', step y e = some y' ∧ R x' y')
    {x y x' : S} {es : List E} (hR : R x y) (hP : ∀ e ∈ es, P e) (hrun : run step x es = some x') :
    ∃ y', run step y (purge step stale x es) = some y' ∧ R x' y' := by
  induction es generalizing x y with
  | nil =>
      cases hrun
      exact ⟨y, rfl, hR⟩
  | cons e es ih =>
      obtain ⟨x₁, h₁, h₂⟩ := run_cons.mp hrun
      have hrest : ∀ e ∈ es, P e := fun e he => hP e (List.mem_cons_of_mem _ he)
      simp only [purge, h₁]
      cases hs : stale x e with
      | true => exact ih (hstale x y e x₁ hR (hP e List.mem_cons_self) hs h₁) hrest h₂
      | false =>
          obtain ⟨y₁, hy₁, hR₁⟩ := hother x y e x₁ hR (hP e List.mem_cons_self) h₁
          obtain ⟨y', hy', hR'⟩ := ih hR₁ hrest h₂
          exact ⟨y', run_cons.mpr ⟨y₁, hy₁, hy'⟩, hR'⟩

/-- What every step keeps, a sequence of steps keeps. -/
theorem steps_invariant {r : S → S → Prop} {P : S → Prop} (h : ∀ s s', P s → r s s' → P s') {s s' : S}
    (hs : P s) (hsteps : Relation.ReflTransGen r s s') : P s' := by
  induction hsteps with
  | refl => exact hs
  | tail _ hlast ih => exact h _ _ ih hlast

/-- **Forward simulation.** When each step of one system is, seen through `f`, a sequence of steps of another,
    so is every sequence of its steps. `P` is what the steps of the first system keep. -/
theorem steps_simulation {T : Type} {r : S → S → Prop} {q : T → T → Prop} {P : S → Prop} {f : S → T}
    (h : ∀ s s', P s → r s s' → P s' ∧ Relation.ReflTransGen q (f s) (f s')) {s s' : S} (hs : P s)
    (hsteps : Relation.ReflTransGen r s s') : P s' ∧ Relation.ReflTransGen q (f s) (f s') := by
  induction hsteps with
  | refl => exact ⟨hs, .refl⟩
  | tail _ hlast ih =>
      obtain ⟨hP, hq⟩ := ih
      obtain ⟨hP', hq'⟩ := h _ _ hP hlast
      exact ⟨hP', hq.trans hq'⟩

/-- A loop whose every round is a sequence of steps is one. -/
theorem foldl_steps {X : Type} {r : S → S → Prop} {P : S → Prop} {f : S → X → S} (xs : List X)
    (h : ∀ s x, x ∈ xs → P s → Relation.ReflTransGen r s (f s x) ∧ P (f s x)) {s : S} (hs : P s) :
    Relation.ReflTransGen r s (xs.foldl f s) ∧ P (xs.foldl f s) := by
  induction xs generalizing s with
  | nil => exact ⟨.refl, hs⟩
  | cons x xs ih =>
      obtain ⟨hx, hP⟩ := h s x List.mem_cons_self hs
      obtain ⟨hrest, hPrest⟩ := ih (fun s y hy => h s y (List.mem_cons_of_mem x hy)) hP
      exact ⟨hx.trans hrest, hPrest⟩

end Lts
