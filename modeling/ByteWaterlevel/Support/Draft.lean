import ByteWaterlevel.Support.Machine
import Mathlib.Logic.Function.Basic

/-!
# Drafts of a stored value

A value is stored in one place, and each of several editors has a draft of it.
An editor changes its draft, and posts it; a post arrives later, or never, and
posts may overtake each other.  An editor asks for the stored value, and the
answer replaces its draft when it arrives.

Whatever the order, no copy ever holds a value that was not there in the
beginning or written by an editor.
-/

namespace Draft

variable {ι V : Type*}

structure Store (ι V : Type*) where
  stored : V
  draft : ι → V
  /-- The posts that have not arrived. -/
  posts : List V
  /-- The answers that have not arrived, with the editors that have asked. -/
  answers : List (ι × V)

inductive Event (ι V : Type*) where
  | write (p : ι) (v : V)
  | post (p : ι)
  | store (i : ℕ)
  | refuse (i : ℕ)
  | ask (p : ι)
  | deliver (i : ℕ)

/-- All copies of the value satisfy `S`. -/
structure Within (S : V → Prop) (s : Store ι V) : Prop where
  stored : S s.stored
  draft : ∀ p, S (s.draft p)
  posts : ∀ v ∈ s.posts, S v
  answers : ∀ answer ∈ s.answers, S answer.2

variable [DecidableEq ι]

def step (s : Store ι V) : Event ι V → Store ι V
  | .write p v => { s with draft := Function.update s.draft p v }
  | .post p => { s with posts := s.posts ++ [s.draft p] }
  | .store i =>
      match s.posts[i]? with
      | some v => { s with stored := v, posts := s.posts.eraseIdx i }
      | none => s
  | .refuse i => { s with posts := s.posts.eraseIdx i }
  | .ask p => { s with answers := s.answers ++ [(p, s.stored)] }
  | .deliver i =>
      match s.answers[i]? with
      | some (p, v) =>
          { s with
            draft := Function.update s.draft p v
            answers := s.answers.eraseIdx i }
      | none => s

theorem forall_update
    {S : V → Prop} {draft : ι → V} (h : ∀ p, S (draft p)) (p : ι) {v : V}
    (hv : S v) : ∀ q, S (Function.update draft p v q) := by
  intro q
  by_cases hq : q = p
  · subst hq
    rwa [Function.update_self]
  · rw [Function.update_of_ne hq]
    exact h q

theorem forall_concat
    {α : Type*} {S : α → Prop} {xs : List α} (h : ∀ x ∈ xs, S x) {x : α}
    (hx : S x) : ∀ y ∈ xs ++ [x], S y := by
  intro y hy
  rcases List.mem_append.mp hy with hy | hy
  · exact h y hy
  · rwa [List.mem_singleton.mp hy]

theorem forall_eraseIdx
    {α : Type*} {S : α → Prop} {xs : List α} (h : ∀ x ∈ xs, S x) (i : ℕ) :
    ∀ y ∈ xs.eraseIdx i, S y :=
  fun y hy => h y (List.mem_of_mem_eraseIdx hy)

theorem within_step
    {S : V → Prop} {s : Store ι V} (hs : Within S s) {e : Event ι V}
    (he : ∀ p v, e = .write p v → S v) : Within S (step s e) := by
  cases e with
  | write p v =>
      exact ⟨hs.stored, forall_update hs.draft p (he p v rfl), hs.posts,
        hs.answers⟩
  | post p =>
      exact ⟨hs.stored, hs.draft, forall_concat hs.posts (hs.draft p),
        hs.answers⟩
  | store i =>
      simp only [step]
      cases hpost : s.posts[i]? with
      | none => exact hs
      | some v =>
          exact ⟨hs.posts v (List.mem_of_getElem? hpost), hs.draft,
            forall_eraseIdx hs.posts i, hs.answers⟩
  | refuse i =>
      exact ⟨hs.stored, hs.draft, forall_eraseIdx hs.posts i, hs.answers⟩
  | ask p =>
      exact ⟨hs.stored, hs.draft, hs.posts,
        forall_concat hs.answers hs.stored⟩
  | deliver i =>
      simp only [step]
      cases hanswer : s.answers[i]? with
      | none => exact hs
      | some answer =>
          have hv := hs.answers answer (List.mem_of_getElem? hanswer)
          exact ⟨hs.stored, forall_update hs.draft answer.1 hv, hs.posts,
            forall_eraseIdx hs.answers i⟩

/-- No run brings in a value that no editor has written. -/
theorem within_run
    {S : V → Prop} {s : Store ι V} (hs : Within S s) {es : List (Event ι V)}
    (hes : ∀ e ∈ es, ∀ p v, e = .write p v → S v) :
    Within S (Machine.run step s es) := by
  have halong : Machine.Along step (fun _ e => ∀ p v, e = .write p v → S v)
      s es := Machine.along_of_forall_mem fun _ => hes
  have hstep : ∀ (s : Store ι V) (e : Event ι V), Within S s →
      (∀ p v, e = .write p v → S v) → Within S (step s e) :=
    fun _ _ h he => within_step h he
  exact Machine.run_invariant_along hstep hs halong

end Draft
