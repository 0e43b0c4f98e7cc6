import Mathlib.Data.List.Forall2
import Mathlib.Data.List.Induction

/-!
# Runs of deterministic event machines

A machine is a step function on a state type, driven by a list of events.
This module contains the run of such a machine, properties of the individual
steps of a run, and the ways in which the results below use them: an invariant
carried by every admissible step, a property that holds throughout a run, and
the projection of one machine onto another.  Nothing here depends on the state
or on the events.
-/

namespace Machine

variable {σ ι : Type*}

/-- The state reached from `s` by the events `es`, in order. -/
def run (step : σ → ι → σ) (s : σ) (es : List ι) : σ :=
  es.foldl step s

@[simp] theorem run_nil (step : σ → ι → σ) (s : σ) :
    run step s [] = s := rfl

@[simp] theorem run_cons
    (step : σ → ι → σ) (s : σ) (e : ι) (es : List ι) :
    run step s (e :: es) = run step (step s e) es := rfl

theorem run_append
    (step : σ → ι → σ) (s : σ) (xs ys : List ι) :
    run step s (xs ++ ys) = run step (run step s xs) ys := by
  simp [run]

/-- `P` holds of every step of the run of `es` from `s`, each taken with the
state in which its event occurs. -/
def Along (step : σ → ι → σ) (P : σ → ι → Prop) : σ → List ι → Prop
  | _, [] => True
  | s, e :: es => P s e ∧ Along step P (step s e) es

instance decidableAlong
    (step : σ → ι → σ) (P : σ → ι → Prop) [∀ s e, Decidable (P s e)] :
    (s : σ) → (es : List ι) → Decidable (Along step P s es)
  | _, [] => .isTrue trivial
  | s, e :: es =>
      have := decidableAlong step P (step s e) es
      inferInstanceAs (Decidable (P s e ∧ Along step P (step s e) es))

@[simp] theorem along_nil
    (step : σ → ι → σ) (P : σ → ι → Prop) (s : σ) :
    Along step P s [] := trivial

@[simp] theorem along_cons
    {step : σ → ι → σ} {P : σ → ι → Prop} {s : σ} {e : ι} {es : List ι} :
    Along step P s (e :: es) ↔ P s e ∧ Along step P (step s e) es := Iff.rfl

theorem along_append
    {step : σ → ι → σ} {P : σ → ι → Prop} {s : σ} {xs ys : List ι} :
    Along step P s (xs ++ ys) ↔
      Along step P s xs ∧ Along step P (run step s xs) ys := by
  induction xs generalizing s with
  | nil => simp
  | cons e xs ih => simp [ih, and_assoc]

/-- A property of every step of a run is a property of each event at the
state reached by the events before it. -/
theorem along_iff_forall_split
    {step : σ → ι → σ} {P : σ → ι → Prop} {s : σ} {es : List ι} :
    Along step P s es ↔
      ∀ pre e post, es = pre ++ e :: post → P (run step s pre) e := by
  constructor
  · rintro h pre e post rfl
    exact (along_cons.mp (along_append.mp h).2).1
  · intro h
    induction es generalizing s with
    | nil => trivial
    | cons e es ih =>
        refine ⟨h [] e es rfl, ih ?_⟩
        intro pre e' post hsplit
        exact h (e :: pre) e' post (by rw [hsplit, List.cons_append])

theorem along_of_forall_mem
    {step : σ → ι → σ} {P : σ → ι → Prop} {s : σ} {es : List ι}
    (h : ∀ s, ∀ e ∈ es, P s e) : Along step P s es := by
  rw [along_iff_forall_split]
  rintro pre e post rfl
  exact h _ e (by simp)

theorem along_mono
    {step : σ → ι → σ} {P Q : σ → ι → Prop} {s : σ} {es : List ι}
    (h : ∀ s e, P s e → Q s e) (hP : Along step P s es) :
    Along step Q s es := by
  induction es generalizing s with
  | nil => trivial
  | cons e es ih => exact ⟨h s e hP.1, ih hP.2⟩

theorem along_and
    {step : σ → ι → σ} {P Q : σ → ι → Prop} {s : σ} {es : List ι}
    (hP : Along step P s es) (hQ : Along step Q s es) :
    Along step (fun s e => P s e ∧ Q s e) s es := by
  induction es generalizing s with
  | nil => trivial
  | cons e es ih => exact ⟨⟨hP.1, hQ.1⟩, ih hP.2 hQ.2⟩

/-- An invariant kept by every admissible step holds after every admissible
run. -/
theorem run_invariant_along
    {step : σ → ι → σ} {P : σ → ι → Prop} {Inv : σ → Prop}
    (hstep : ∀ s e, Inv s → P s e → Inv (step s e))
    {s : σ} {es : List ι} (hs : Inv s) (hP : Along step P s es) :
    Inv (run step s es) := by
  induction es generalizing s with
  | nil => exact hs
  | cons e es ih => exact ih (hstep s e hs hP.1) hP.2

/-- An invariant kept by every step holds after every run. -/
theorem run_invariant
    {step : σ → ι → σ} {Inv : σ → Prop}
    (hstep : ∀ s e, Inv s → Inv (step s e))
    {s : σ} (hs : Inv s) (es : List ι) : Inv (run step s es) := by
  induction es generalizing s with
  | nil => exact hs
  | cons e es ih => exact ih (hstep s e hs)

/-- A view of the state that no admissible step changes is the same after every
admissible run. -/
theorem run_view_along
    {α : Type*} {step : σ → ι → σ} {P : σ → ι → Prop} (v : σ → α)
    (hstep : ∀ s e, P s e → v (step s e) = v s)
    {s : σ} {es : List ι} (hP : Along step P s es) :
    v (run step s es) = v s := by
  have hinv : ∀ s' e, v s' = v s → P s' e → v (step s' e) = v s := by
    intro s' e hs' he
    exact (hstep s' e he).trans hs'
  exact run_invariant_along hinv rfl hP

/-- Two runs whose events are related one by one keep every relation of their
states that each pair of steps keeps. -/
theorem run_rel
    {τ κ : Type*} {step : σ → ι → σ} {step' : τ → κ → τ}
    {R : σ → τ → Prop} {S : ι → κ → Prop}
    (hstep : ∀ s t e f, R s t → S e f → R (step s e) (step' t f))
    {s : σ} {t : τ} (hs : R s t) {es : List ι} {fs : List κ}
    (hes : List.Forall₂ S es fs) : R (run step s es) (run step' t fs) := by
  induction hes generalizing s t with
  | nil => exact hs
  | cons hef _ ih => exact ih (hstep _ _ _ _ hs hef)

/-- Suppose that the events with no core leave the view `v` of the state alone,
and that all others change it as their core does, from any state with the same
view.  Then a run changes the view as the run of its cores does. -/
theorem run_view_filterMap
    {α : Type*} {step : σ → ι → σ} {v : σ → α} {core : ι → Option ι}
    (hnone : ∀ s e, core e = none → v (step s e) = v s)
    (hsome : ∀ s s' e e', v s = v s' → core e = some e' →
      v (step s e) = v (step s' e'))
    {s s' : σ} (h : v s = v s') (es : List ι) :
    v (run step s es) = v (run step s' (es.filterMap core)) := by
  induction es generalizing s s' with
  | nil => exact h
  | cons e es ih =>
      cases hcore : core e with
      | none =>
          rw [List.filterMap_cons_none hcore]
          exact ih ((hnone s e hcore).trans h)
      | some e' =>
          rw [List.filterMap_cons_some hcore]
          exact ih (hsome s s' e e' h hcore)

/-- `P` holds in every state of the run of `es` from `s`, the first and the
last one included. -/
def Always (step : σ → ι → σ) (P : σ → Prop) (s : σ) (es : List ι) : Prop :=
  ∀ pre, pre <+: es → P (run step s pre)

theorem always_nil
    {step : σ → ι → σ} {P : σ → Prop} {s : σ} :
    Always step P s [] ↔ P s := by
  constructor
  · intro h
    exact h [] List.nil_prefix
  · intro h pre hpre
    rw [List.prefix_nil] at hpre
    rwa [hpre]

theorem always_cons
    {step : σ → ι → σ} {P : σ → Prop} {s : σ} {e : ι} {es : List ι} :
    Always step P s (e :: es) ↔ P s ∧ Always step P (step s e) es := by
  constructor
  · intro h
    refine ⟨h [] List.nil_prefix, ?_⟩
    intro pre hpre
    exact h (e :: pre) (List.prefix_cons_inj e |>.mpr hpre)
  · rintro ⟨hs, h⟩ pre hpre
    rcases List.prefix_cons_iff.mp hpre with rfl | ⟨rest, rfl, hrest⟩
    · exact hs
    · exact h rest hrest

/-- If each step from a good state ends in a good state exactly under the
condition `Q`, a run stays in good states exactly if all its steps meet
`Q`. -/
theorem always_iff_along
    {step : σ → ι → σ} {P : σ → Prop} {Q : σ → ι → Prop}
    (hstep : ∀ s e, P s → (P (step s e) ↔ Q s e))
    {s : σ} (hs : P s) (es : List ι) :
    Always step P s es ↔ Along step Q s es := by
  induction es generalizing s with
  | nil => simpa [always_nil] using hs
  | cons e es ih =>
      rw [always_cons, along_cons, ← hstep s e hs]
      constructor
      · rintro ⟨-, h⟩
        have hnext : P (step s e) := h [] List.nil_prefix
        exact ⟨hnext, (ih hnext).mp h⟩
      · rintro ⟨hnext, h⟩
        exact ⟨hs, (ih hnext).mpr h⟩

/-- An invariant holds in every state of an admissible run. -/
theorem along_of_invariant
    {step : σ → ι → σ} {P : σ → ι → Prop} {Inv : σ → Prop}
    (hstep : ∀ s e, Inv s → P s e → Inv (step s e))
    {s : σ} {es : List ι} (hs : Inv s) (hP : Along step P s es) :
    Along step (fun s e => Inv s ∧ P s e) s es := by
  induction es generalizing s with
  | nil => trivial
  | cons e es ih => exact ⟨⟨hs, hP.1⟩, ih (hstep s e hs hP.1) hP.2⟩

/-- The origin of a value.  Suppose that a step which leaves the view `v` of the
state in `A` either satisfies `S`, or leaves the view alone and does not satisfy
`C`.  If a run takes the view into `A`, some step of it satisfies `S`; the view
has not changed since, and no later step satisfies `C`. -/
theorem exists_origin
    {α : Type*} {step : σ → ι → σ} {v : σ → α} {A : α → Prop}
    {S C : σ → ι → Prop}
    (hstep : ∀ s e, A (v (step s e)) →
      S s e ∨ (v (step s e) = v s ∧ ¬ C s e))
    {s : σ} {es : List ι} (hs : ¬ A (v s)) (h : A (v (run step s es))) :
    ∃ pre e post, es = pre ++ e :: post ∧ S (run step s pre) e ∧
      v (run step s es) = v (run step s (pre ++ [e])) ∧
      Along step (fun s e => ¬ C s e) (run step s (pre ++ [e])) post := by
  induction es using List.reverseRecOn with
  | nil => exact absurd h hs
  | append_singleton es e ih =>
      have hlast : run step s (es ++ [e]) = step (run step s es) e := by
        rw [run_append, run_cons, run_nil]
      rw [hlast] at h
      rcases hstep (run step s es) e h with hS | ⟨hview, hC⟩
      · exact ⟨es, e, [], rfl, hS, rfl, trivial⟩
      · rw [hview] at h
        obtain ⟨pre, e', post, rfl, hS, hsince, hpost⟩ := ih h
        refine ⟨pre, e', post ++ [e], by simp, hS, ?_, ?_⟩
        · rw [hlast, hview, hsince]
        · refine along_append.mpr ⟨hpost, ?_, trivial⟩
          rwa [← run_append, List.append_assoc, List.singleton_append]

/-- The first step of the run that satisfies `T`, if there is one, satisfies
`P`. -/
def AtFirst (step : σ → ι → σ) (T P : σ → ι → Prop) : σ → List ι → Prop
  | _, [] => True
  | s, e :: es => (T s e → P s e) ∧ (¬ T s e → AtFirst step T P (step s e) es)

theorem atFirst_cons_of_pos
    {step : σ → ι → σ} {T P : σ → ι → Prop} {s : σ} {e : ι} {es : List ι}
    (h : T s e) : AtFirst step T P s (e :: es) ↔ P s e := by
  simp [AtFirst, h]

theorem atFirst_cons_of_neg
    {step : σ → ι → σ} {T P : σ → ι → Prop} {s : σ} {e : ι} {es : List ι}
    (h : ¬ T s e) :
    AtFirst step T P s (e :: es) ↔ AtFirst step T P (step s e) es := by
  simp [AtFirst, h]

/-- The events that a run of one machine causes in another one, when each of
its steps causes the list `f s e`. -/
def trace {κ : Type*} (step : σ → ι → σ) (f : σ → ι → List κ) :
    σ → List ι → List κ
  | _, [] => []
  | s, e :: es => f s e ++ trace step f (step s e) es

theorem trace_append
    {κ : Type*} (step : σ → ι → σ) (f : σ → ι → List κ) (s : σ)
    (xs ys : List ι) :
    trace step f s (xs ++ ys) =
      trace step f s xs ++ trace step f (run step s xs) ys := by
  induction xs generalizing s with
  | nil => rfl
  | cons e xs ih => simp [trace, ih]

theorem trace_eq_nil
    {κ : Type*} {step : σ → ι → σ} {f : σ → ι → List κ} {s : σ} {es : List ι}
    (h : Along step (fun s e => f s e = []) s es) : trace step f s es = [] := by
  induction es generalizing s with
  | nil => rfl
  | cons e es ih => rw [trace, h.1, ih h.2, List.append_nil]

theorem trace_prefix
    {κ : Type*} (step : σ → ι → σ) (f : σ → ι → List κ) (s : σ)
    {xs es : List ι} (h : xs <+: es) :
    trace step f s xs <+: trace step f s es := by
  obtain ⟨ys, rfl⟩ := h
  rw [trace_append]
  exact List.prefix_append _ _

theorem forall_mem_trace
    {κ : Type*} {step : σ → ι → σ} {f : σ → ι → List κ} {Q : κ → Prop}
    {s : σ} {es : List ι} (h : Along step (fun s e => ∀ x ∈ f s e, Q x) s es) :
    ∀ x ∈ trace step f s es, Q x := by
  induction es generalizing s with
  | nil => simp [trace]
  | cons e es ih =>
      intro x hx
      rcases List.mem_append.mp hx with hx | hx
      · exact h.1 x hx
      · exact ih h.2 x hx

/-- Two ways of reading the steps of a run as events of another machine, related
at each step, are related on the run. -/
theorem trace_rel
    {κ κ' : Type*} {step : σ → ι → σ} {f : σ → ι → List κ}
    {g : σ → ι → List κ'} {S : κ → κ' → Prop} {s : σ} {es : List ι}
    (h : Along step (fun s e => List.Forall₂ S (f s e) (g s e)) s es) :
    List.Forall₂ S (trace step f s es) (trace step g s es) := by
  induction es generalizing s with
  | nil => exact List.Forall₂.nil
  | cons e es ih => exact List.rel_append h.1 (ih h.2)

/-- If each admissible step of a machine acts on the image of its state as the
events it causes act there, so does each admissible run. -/
theorem run_projection_along
    {τ κ : Type*} {step : σ → ι → σ} {step' : τ → κ → τ}
    {π : σ → τ} {f : σ → ι → List κ} {P : σ → ι → Prop}
    (hstep : ∀ s e, P s e → π (step s e) = run step' (π s) (f s e))
    {s : σ} {es : List ι} (h : Along step P s es) :
    π (run step s es) = run step' (π s) (trace step f s es) := by
  induction es generalizing s with
  | nil => rfl
  | cons e es ih =>
      rw [run_cons, ih h.2, hstep s e h.1, trace, run_append]

/-- The projection of a machine all of whose steps are admissible. -/
theorem run_projection
    {τ κ : Type*} {step : σ → ι → σ} {step' : τ → κ → τ}
    {π : σ → τ} {f : σ → ι → List κ}
    (hstep : ∀ s e, π (step s e) = run step' (π s) (f s e))
    (s : σ) (es : List ι) :
    π (run step s es) = run step' (π s) (trace step f s es) := by
  have hall : Along step (fun _ _ => True) s es :=
    along_of_forall_mem fun _ _ _ => trivial
  exact run_projection_along (fun s e _ => hstep s e) hall

end Machine
