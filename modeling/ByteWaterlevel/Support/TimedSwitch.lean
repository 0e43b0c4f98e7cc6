import ByteWaterlevel.Support.Machine
import Mathlib.Data.Option.Basic

/-!
# Timed switches

A switch is set by commands, each with an optional deadline, and is opened by
the first poll that finds the deadline reached.  Time is an arbitrary type with
a decidable comparison.

`run_eq_on_iff` describes a switch by the history of its commands, and
`run_related` compares two switches that tell the time differently.
-/

namespace TimedSwitch

variable {τ τ' : Type*} [LE τ] [LE τ']

structure State (τ : Type*) where
  on : Bool
  deadline : Option τ
deriving DecidableEq

inductive Command (τ : Type*) where
  | set (on : Bool) (deadline : Option τ)
  | poll (now : τ)
deriving DecidableEq

/-- The deadline, if there is one, has come. -/
def Reached (now : τ) : Option τ → Prop
  | some deadline => deadline ≤ now
  | none => False

instance [DecidableLE τ] (now : τ) :
    (deadline : Option τ) → Decidable (Reached now deadline)
  | some deadline => inferInstanceAs (Decidable (deadline ≤ now))
  | none => inferInstanceAs (Decidable False)

/-- The switch was last set on with the deadline `deadline`, and no poll since
then has found the deadline reached. -/
def SetOnAndRunning (deadline : Option τ) (cs : List (Command τ)) : Prop :=
  ∃ pre post, cs = pre ++ .set true deadline :: post ∧
    ∀ c ∈ post, ∃ now, c = .poll now ∧ ¬ Reached now deadline

omit [LE τ] in
theorem append_singleton_eq_split
    {cs pre post : List (Command τ)} {c a : Command τ}
    (h : cs ++ [c] = pre ++ a :: post) :
    (post = [] ∧ c = a) ∨ ∃ rest, post = rest ++ [c] ∧
      cs = pre ++ a :: rest := by
  rcases List.eq_nil_or_concat post with rfl | ⟨rest, b, rfl⟩
  · exact Or.inl ⟨rfl, by simpa using (List.append_inj' h rfl).2⟩
  · have hassoc : cs ++ [c] = (pre ++ a :: rest) ++ [b] := by simpa using h
    obtain ⟨hcs, hlast⟩ := List.append_inj' hassoc rfl
    obtain rfl : c = b := by simpa using hlast
    exact Or.inr ⟨rest, by simp, hcs⟩

theorem setOnAndRunning_set_iff
    (deadline : Option τ) (cs : List (Command τ)) (on : Bool)
    (deadline' : Option τ) :
    SetOnAndRunning deadline (cs ++ [.set on deadline']) ↔
      on = true ∧ deadline' = deadline := by
  constructor
  · rintro ⟨pre, post, hsplit, hpost⟩
    rcases append_singleton_eq_split hsplit with ⟨-, hlast⟩ | ⟨rest, rfl, -⟩
    · simpa using hlast
    · obtain ⟨now, hpoll, -⟩ := hpost (.set on deadline') (by simp)
      exact absurd hpoll (by simp)
  · rintro ⟨rfl, rfl⟩
    exact ⟨cs, [], rfl, by simp⟩

theorem setOnAndRunning_poll_iff
    (deadline : Option τ) (cs : List (Command τ)) (now : τ) :
    SetOnAndRunning deadline (cs ++ [.poll now]) ↔
      SetOnAndRunning deadline cs ∧ ¬ Reached now deadline := by
  constructor
  · rintro ⟨pre, post, hsplit, hpost⟩
    rcases append_singleton_eq_split hsplit with ⟨-, hlast⟩ | ⟨rest, rfl, hcs⟩
    · exact absurd hlast (by simp)
    · obtain ⟨now', hpoll, hnow⟩ := hpost (.poll now) (by simp)
      obtain rfl : now = now' := by simpa using hpoll
      refine ⟨⟨pre, rest, hcs, ?_⟩, hnow⟩
      intro c hc
      exact hpost c (by simp [hc])
  · rintro ⟨⟨pre, post, rfl, hpost⟩, hnow⟩
    refine ⟨pre, post ++ [.poll now], by simp, ?_⟩
    intro c hc
    rcases List.mem_append.mp hc with hc | hc
    · exact hpost c hc
    · exact ⟨now, List.mem_singleton.mp hc, hnow⟩

/-- An open switch without a deadline. -/
def off : State τ := ⟨false, none⟩

variable [DecidableLE τ] [DecidableLE τ']

def step (s : State τ) : Command τ → State τ
  | .set on deadline => ⟨on, deadline⟩
  | .poll now => if Reached now s.deadline then off else s

/-- An initially open switch is on with a deadline exactly if it was last set
so and the deadline has not been found reached. -/
theorem run_eq_on_iff (deadline : Option τ) (cs : List (Command τ)) :
    Machine.run step off cs = ⟨true, deadline⟩ ↔
      SetOnAndRunning deadline cs := by
  induction cs using List.reverseRecOn with
  | nil =>
      refine iff_of_false (by simp [off]) ?_
      rintro ⟨pre, post, hsplit, -⟩
      simp at hsplit
  | append_singleton cs c ih =>
      rw [Machine.run_append, Machine.run_cons, Machine.run_nil]
      cases c with
      | set on deadline' =>
          rw [setOnAndRunning_set_iff]
          simp [step]
      | poll now =>
          rw [setOnAndRunning_poll_iff, ← ih, step]
          split_ifs with hreached
          · refine iff_of_false (by simp [off]) ?_
            rintro ⟨hon, hnot⟩
            rw [hon] at hreached
            exact hnot hreached
          · constructor
            · intro hon
              refine ⟨hon, ?_⟩
              rwa [hon] at hreached
            · exact fun h => h.1

theorem run_on_iff (cs : List (Command τ)) :
    (Machine.run step off cs).on = true ↔
      ∃ deadline, SetOnAndRunning deadline cs := by
  constructor
  · intro hon
    refine ⟨(Machine.run step off cs).deadline,
      (run_eq_on_iff _ cs).mp ?_⟩
    rw [← hon]
  · rintro ⟨deadline, h⟩
    rw [(run_eq_on_iff deadline cs).mpr h]

/-! ## Two clocks -/

/-- Two switches are in the same position, with deadlines that are related. -/
def State.Related (E : τ → τ' → Prop) (s : State τ) (s' : State τ') : Prop :=
  s.on = s'.on ∧ Option.Rel E s.deadline s'.deadline

/-- Two commands do the same, with related deadlines or at related times. -/
def Command.Related (E N : τ → τ' → Prop) : Command τ → Command τ' → Prop
  | .set on d, .set on' d' => on = on' ∧ Option.Rel E d d'
  | .poll now, .poll now' => N now now'
  | _, _ => False

/-- Switches stay related under related commands if the two clocks agree on
which deadlines are reached. -/
theorem run_related
    {E N : τ → τ' → Prop}
    (hagree : ∀ d d' now now', E d d' → N now now' → (d ≤ now ↔ d' ≤ now'))
    {s : State τ} {s' : State τ'} (hs : s.Related E s')
    {cs : List (Command τ)} {cs' : List (Command τ')}
    (hcs : List.Forall₂ (Command.Related E N) cs cs') :
    (Machine.run step s cs).Related E (Machine.run step s' cs') := by
  refine Machine.run_rel ?_ hs hcs
  rintro ⟨on, d⟩ ⟨on', d'⟩ c c' ⟨hon, hd⟩ hc
  cases c with
  | set b e =>
      cases c' with
      | set b' e' => exact hc
      | poll now' => exact hc.elim
  | poll now =>
      cases c' with
      | set b' e' => exact hc.elim
      | poll now' =>
          have hreached : Reached now d ↔ Reached now' d' := by
            cases hd with
            | some hdd => exact hagree _ _ _ _ hdd hc
            | none => exact Iff.rfl
          simp only [step, hreached]
          split_ifs
          · exact ⟨rfl, .none⟩
          · exact ⟨hon, hd⟩

end TimedSwitch
