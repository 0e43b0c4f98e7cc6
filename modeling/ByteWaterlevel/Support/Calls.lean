import ByteWaterlevel.Support.Machine

/-!
# Asynchronous calls

A client starts calls, each with a tag that says what will be done with the
answer.  Calls are answered by the other side, and they come back, or fail, in
any order.  The calls that have not come back are a list, and what happens to
one of them is said by its position.

If the client has never more than one call of a tag outstanding, the history of
that tag is a sequence of exchanges.  `Phase` is the state of such a sequence,
and `own_answer`, `own_finish` and `own_start` say how the outstanding calls of
the tag follow it.
-/

namespace Calls

/-- A call that has not come back, with its answer as soon as there is one. -/
structure Call (κ ρ : Type*) where
  tag : κ
  answer : Option ρ

/-- The state of a sequence of exchanges. -/
inductive Phase (ρ : Type*) where
  | idle
  | asked
  | answered (answer : ρ)

/-- What happens in an exchange. -/
inductive Action (ρ : Type*) where
  | start
  | answer (answer : ρ)
  | finish (answer : ρ)
  | fail

variable {κ ρ : Type*}

/-- An exchange starts when no other is going on, is answered once and then
finishes with that answer; it may fail at any time. -/
def Phase.next [DecidableEq ρ] : Phase ρ → Action ρ → Option (Phase ρ)
  | .idle, .start => some .asked
  | .asked, .answer r => some (.answered r)
  | .answered r, .finish r' => if r' = r then some .idle else none
  | .asked, .fail => some .idle
  | .answered _, .fail => some .idle
  | _, _ => none

/-- The outstanding calls of a tag in a phase. -/
def Phase.pending (tag : κ) : Phase ρ → List (Call κ ρ)
  | .idle => []
  | .asked => [⟨tag, none⟩]
  | .answered r => [⟨tag, some r⟩]

/-- The calls up to a position, the call there, and the calls after it. -/
theorem exists_split
    {calls : List (Call κ ρ)} {i : ℕ} {c : Call κ ρ}
    (h : calls[i]? = some c) :
    ∃ pre post, calls = pre ++ c :: post ∧
      (∀ c', calls.set i c' = pre ++ c' :: post) ∧
      calls.eraseIdx i = pre ++ post := by
  induction calls generalizing i with
  | nil => exact absurd h (by simp)
  | cons d calls ih =>
      cases i with
      | zero =>
          obtain rfl : d = c := by simpa using h
          exact ⟨[], calls, rfl, fun _ => rfl, rfl⟩
      | succ i =>
          obtain ⟨pre, post, hcalls, hset, herase⟩ := ih (by simpa using h)
          refine ⟨d :: pre, post, by simp [hcalls], ?_, by simp [herase]⟩
          intro c'
          simp [hset]

variable [DecidableEq κ]

/-- The outstanding calls of a tag. -/
def own (tag : κ) (calls : List (Call κ ρ)) : List (Call κ ρ) :=
  calls.filter fun c => c.tag = tag

@[simp] theorem own_nil (tag : κ) : own tag ([] : List (Call κ ρ)) = [] := rfl

@[simp] theorem own_append (tag : κ) (xs ys : List (Call κ ρ)) :
    own tag (xs ++ ys) = own tag xs ++ own tag ys :=
  List.filter_append xs ys

theorem own_cons_self
    {tag : κ} {c : Call κ ρ} (h : c.tag = tag) (calls : List (Call κ ρ)) :
    own tag (c :: calls) = c :: own tag calls := by
  simp [own, h]

theorem own_cons_of_ne
    {tag : κ} {c : Call κ ρ} (h : c.tag ≠ tag) (calls : List (Call κ ρ)) :
    own tag (c :: calls) = own tag calls := by
  simp [own, h]

theorem mem_own {tag : κ} {calls : List (Call κ ρ)} {c : Call κ ρ} :
    c ∈ own tag calls ↔ c ∈ calls ∧ c.tag = tag := by
  simp [own]

/-- Starting a call adds it to the calls of its tag. -/
theorem own_start (tag tag' : κ) (calls : List (Call κ ρ)) :
    own tag (calls ++ [⟨tag', none⟩]) =
      own tag calls ++ if tag' = tag then [⟨tag', none⟩] else [] := by
  rw [own_append]
  split_ifs with htag
  · rw [own_cons_self htag, own_nil]
  · rw [own_cons_of_ne htag, own_nil]

/-- A call of another tag changes nothing when it is answered. -/
theorem own_answer_of_ne
    {tag : κ} {calls : List (Call κ ρ)} {i : ℕ} {c : Call κ ρ}
    (h : calls[i]? = some c) (htag : c.tag ≠ tag) (answer : Option ρ) :
    own tag (calls.set i ⟨c.tag, answer⟩) = own tag calls := by
  obtain ⟨pre, post, hcalls, hset, -⟩ := exists_split h
  rw [hset, hcalls, own_append, own_append, own_cons_of_ne htag,
    own_cons_of_ne (c := ⟨c.tag, answer⟩) htag]

/-- A call of another tag changes nothing when it comes back. -/
theorem own_finish_of_ne
    {tag : κ} {calls : List (Call κ ρ)} {i : ℕ} {c : Call κ ρ}
    (h : calls[i]? = some c) (htag : c.tag ≠ tag) :
    own tag (calls.eraseIdx i) = own tag calls := by
  obtain ⟨pre, post, hcalls, -, herase⟩ := exists_split h
  rw [herase, hcalls, own_append, own_append, own_cons_of_ne htag]

/-- The one outstanding call of a tag, answered and come back. -/
theorem own_eq_singleton
    {tag : κ} {calls : List (Call κ ρ)} {i : ℕ} {c d : Call κ ρ}
    (h : calls[i]? = some c) (htag : c.tag = tag)
    (hown : own tag calls = [d]) :
    c = d ∧
      (∀ answer, own tag (calls.set i ⟨c.tag, answer⟩) =
        [⟨c.tag, answer⟩]) ∧
      own tag (calls.eraseIdx i) = [] := by
  obtain ⟨pre, post, hcalls, hset, herase⟩ := exists_split h
  rw [hcalls, own_append, own_cons_self htag] at hown
  have hpre : own tag pre = [] := by
    cases hcase : own tag pre with
    | nil => rfl
    | cons x xs =>
        have hlength := congrArg List.length hown
        simp [hcase] at hlength
  rw [hpre] at hown
  obtain ⟨rfl, hpost⟩ : c = d ∧ own tag post = [] := by simpa using hown
  refine ⟨rfl, ?_, ?_⟩
  · intro answer
    rw [hset, own_append, own_cons_self (c := ⟨c.tag, answer⟩) htag, hpre,
      hpost]
    rfl
  · rw [herase, own_append, hpre, hpost]
    rfl

/-- If the outstanding calls of a tag are those of a phase, the phase is that of
each of them. -/
theorem phase_of_call
    {tag : κ} {calls : List (Call κ ρ)} {i : ℕ} {c : Call κ ρ} {p : Phase ρ}
    (h : calls[i]? = some c) (htag : c.tag = tag)
    (hown : own tag calls = p.pending tag) :
    (c.answer = none ∧ p = .asked) ∨
      ∃ r, c.answer = some r ∧ p = .answered r := by
  cases p with
  | idle =>
      have hmem : c ∈ own tag calls :=
        mem_own.mpr ⟨List.mem_of_getElem? h, htag⟩
      rw [hown] at hmem
      exact absurd hmem List.not_mem_nil
  | asked =>
      obtain ⟨rfl, -, -⟩ := own_eq_singleton h htag hown
      exact Or.inl ⟨rfl, rfl⟩
  | answered r =>
      obtain ⟨rfl, -, -⟩ := own_eq_singleton h htag hown
      exact Or.inr ⟨r, rfl, rfl⟩

/-- In such a phase, answering the call leaves it as the only one of its tag,
and none is left when it comes back. -/
theorem own_of_phase
    {tag : κ} {calls : List (Call κ ρ)} {i : ℕ} {c : Call κ ρ} {p : Phase ρ}
    (h : calls[i]? = some c) (htag : c.tag = tag)
    (hown : own tag calls = p.pending tag) :
    (∀ r, own tag (calls.set i ⟨c.tag, some r⟩) =
        (Phase.answered r).pending tag) ∧
      own tag (calls.eraseIdx i) = Phase.idle.pending tag := by
  have hone : ∃ d, own tag calls = [d] := by
    rcases phase_of_call h htag hown with ⟨-, rfl⟩ | ⟨r, -, rfl⟩
    · exact ⟨_, hown⟩
    · exact ⟨_, hown⟩
  obtain ⟨d, hd⟩ := hone
  obtain ⟨-, hset, herase⟩ := own_eq_singleton h htag hd
  refine ⟨?_, herase⟩
  intro r
  rw [hset, htag]
  rfl

/-! ## Histories -/

/-- If every step from a state in a phase makes actions that the phase allows
and ends in a state in the phase reached, the actions of every run are a
sequence of exchanges. -/
theorem run_conforms
    {σ ι : Type*} [DecidableEq ρ] {step : σ → ι → σ}
    {actions : σ → ι → List (Action ρ)} {In : Phase ρ → σ → Prop}
    (hstep : ∀ p s e, In p s → ∃ p',
      (actions s e).foldlM Phase.next p = some p' ∧ In p' (step s e))
    {p : Phase ρ} {s : σ} (hs : In p s) (es : List ι) :
    ∃ p', (Machine.trace step actions s es).foldlM Phase.next p = some p' ∧
      In p' (Machine.run step s es) := by
  induction es generalizing p s with
  | nil => exact ⟨p, rfl, hs⟩
  | cons e es ih =>
      obtain ⟨q, hq, hin⟩ := hstep p s e hs
      obtain ⟨p', hp', hend⟩ := ih hin
      refine ⟨p', ?_, hend⟩
      rw [Machine.trace, List.foldlM_append, hq]
      exact hp'

end Calls
