import ByteWaterlevel.Support.Machine

/-!
# Set-reset latches

A latch reads a sequence of inputs.  It opens on every input that it does not
hold, closes on every held input that sets it, and otherwise stays as it is.
The two predicates are arbitrary, and an input may satisfy both, one, or none
of them.  `run_next_iff` describes the latch by the history of its inputs.
-/

namespace SetReset

variable {α : Type*} (set hold : α → Prop)

/-- Some input has set the latch, and it and every later input were held. -/
def SetAndHeld (xs : List α) : Prop :=
  ∃ j, ∃ hj : j < xs.length, set xs[j] ∧
    ∀ k, ∀ hk : k < xs.length, j ≤ k → hold xs[k]

theorem not_setAndHeld_nil : ¬ SetAndHeld set hold [] := by
  rintro ⟨j, hj, -⟩
  exact absurd hj (Nat.not_lt_zero j)

theorem setAndHeld_append_singleton (xs : List α) (x : α) :
    SetAndHeld set hold (xs ++ [x]) ↔
      hold x ∧ (SetAndHeld set hold xs ∨ set x) := by
  have hlength : (xs ++ [x]).length = xs.length + 1 := by simp
  constructor
  · rintro ⟨j, hj, hset, hheld⟩
    have hlast : hold x := by
      simpa using hheld xs.length (by omega) (by omega)
    refine ⟨hlast, ?_⟩
    by_cases hj' : j < xs.length
    · left
      refine ⟨j, hj', ?_, ?_⟩
      · rwa [List.getElem_append_left hj'] at hset
      · intro k hk hjk
        have hholdk := hheld k (by omega) hjk
        rwa [List.getElem_append_left hk] at hholdk
    · right
      obtain rfl : j = xs.length := by omega
      simpa using hset
  · rintro ⟨hlast, ⟨j, hj, hset, hheld⟩ | hset⟩
    · refine ⟨j, by omega, ?_, ?_⟩
      · rwa [List.getElem_append_left hj]
      · intro k hk hjk
        by_cases hk' : k < xs.length
        · rw [List.getElem_append_left hk']
          exact hheld k hk' hjk
        · obtain rfl : k = xs.length := by omega
          simpa using hlast
    · refine ⟨xs.length, by omega, by simpa using hset, ?_⟩
      intro k hk hjk
      obtain rfl : k = xs.length := by omega
      simpa using hlast

variable [DecidablePred set] [DecidablePred hold]

/-- The latch after one more input. -/
def next (on : Bool) (x : α) : Bool :=
  decide (hold x) && (on || decide (set x))

/-- An initially open latch is closed exactly if some input has set it and
every input since then was held. -/
theorem run_next_iff (xs : List α) :
    Machine.run (next set hold) false xs = true ↔ SetAndHeld set hold xs := by
  induction xs using List.reverseRecOn with
  | nil =>
      exact iff_of_false Bool.false_ne_true (not_setAndHeld_nil set hold)
  | append_singleton xs x ih =>
      rw [Machine.run_append, Machine.run_cons, Machine.run_nil,
        setAndHeld_append_singleton, ← ih]
      simp [next]

end SetReset
