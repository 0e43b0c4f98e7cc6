import ByteWaterlevel.Support.Machine
import Mathlib.Data.List.DropRight

/-!
# Sliding windows

A list that grows at its end and drops its first element before it grows once
it has more than `n` elements.  It holds the last `n + 1` values that were
pushed, in their order.
-/

namespace Window

variable {α : Type*}

def push (n : ℕ) (window : List α) (x : α) : List α :=
  (if window.length > n then window.tail else window) ++ [x]

/-- Pushing to the last `n + 1` values gives the last `n + 1` values. -/
theorem push_rtake (n : ℕ) (xs : List α) (x : α) :
    push n (xs.rtake (n + 1)) x = (xs ++ [x]).rtake (n + 1) := by
  rw [List.rtake_concat_succ, push, List.rtake, List.rtake]
  congr 1
  split_ifs with hlong
  · rw [List.tail_drop]
    rw [List.length_drop] at hlong
    congr 1
    omega
  · rw [List.length_drop] at hlong
    have hshort : xs.length ≤ n := by omega
    rw [Nat.sub_eq_zero_of_le hshort, Nat.sub_eq_zero_of_le (by omega)]

theorem run_push (n : ℕ) (xs : List α) :
    Machine.run (push n) [] xs = xs.rtake (n + 1) := by
  induction xs using List.reverseRecOn with
  | nil => simp
  | append_singleton xs x ih =>
      rw [Machine.run_append, ih, Machine.run_cons, Machine.run_nil,
        push_rtake]

end Window
