import ByteWaterlevel.Support.Machine
import Mathlib.Algebra.Order.Ring.Defs
import Mathlib.Tactic.Linarith
import Mathlib.Tactic.Ring

/-!
# Exponential smoothing

A filter that keeps the part `1 - α` of its value and takes the part `α` of
each input.  Its distance from a bound of the inputs shrinks by the factor
`1 - α` at every step, from either side.
-/

namespace Smoothing

variable {K : Type*} [CommRing K] [LinearOrder K] [IsStrictOrderedRing K]

def smooth (α v x : K) : K := v * (1 - α) + x * α

theorem le_smooth_sub {α x a : K} (hα : 0 ≤ α) (hx : a ≤ x) (v : K) :
    (1 - α) * (v - a) ≤ smooth α v x - a := by
  have hgain : 0 ≤ α * (x - a) := mul_nonneg hα (sub_nonneg.mpr hx)
  calc
    (1 - α) * (v - a) ≤ (1 - α) * (v - a) + α * (x - a) :=
      le_add_of_nonneg_right hgain
    _ = smooth α v x - a := by
      unfold smooth
      ring

/-- The filter approaches a lower bound of its inputs from below at least
geometrically, and does not leave it from above faster. -/
theorem le_run_sub
    {α a : K} (hα : 0 ≤ α) (hα' : α ≤ 1) {xs : List K}
    (hxs : ∀ x ∈ xs, a ≤ x) (v : K) :
    (1 - α) ^ xs.length * (v - a) ≤ Machine.run (smooth α) v xs - a := by
  induction xs generalizing v with
  | nil => simp
  | cons x xs ih =>
      rw [List.forall_mem_cons] at hxs
      have hpow : 0 ≤ (1 - α) ^ xs.length := pow_nonneg (sub_nonneg.mpr hα') _
      calc
        (1 - α) ^ (x :: xs).length * (v - a) =
            (1 - α) ^ xs.length * ((1 - α) * (v - a)) := by
          rw [List.length_cons, pow_succ]
          ring
        _ ≤ (1 - α) ^ xs.length * (smooth α v x - a) :=
          mul_le_mul_of_nonneg_left (le_smooth_sub hα hxs.1 v) hpow
        _ ≤ Machine.run (smooth α) (smooth α v x) xs - a := ih hxs.2 _

/-- The same from above. -/
theorem run_sub_le
    {α b : K} (hα : 0 ≤ α) (hα' : α ≤ 1) {xs : List K}
    (hxs : ∀ x ∈ xs, x ≤ b) (v : K) :
    Machine.run (smooth α) v xs - b ≤ (1 - α) ^ xs.length * (v - b) := by
  have hneg : ∀ v, Machine.run (smooth α) (-v) (xs.map fun x => -x) =
      -Machine.run (smooth α) v xs := by
    clear hxs
    induction xs with
    | nil => simp
    | cons x xs ih =>
        intro v
        have hstep : smooth α (-v) (-x) = -smooth α v x := by
          unfold smooth
          ring
        rw [List.map_cons, Machine.run_cons, hstep, ih, Machine.run_cons]
  have hbelow : ∀ x ∈ xs.map fun x => -x, -b ≤ x := by
    intro x hx
    obtain ⟨y, hy, rfl⟩ := List.mem_map.mp hx
    exact neg_le_neg (hxs y hy)
  have hle := le_run_sub hα hα' hbelow (-v)
  rw [hneg, List.length_map] at hle
  linarith

end Smoothing
