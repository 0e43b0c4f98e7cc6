import ByteWaterlevel.Support.SetReset
import Mathlib.Algebra.Order.Group.Abs
import Mathlib.Algebra.Order.Ring.Defs
import Mathlib.Data.Nat.Cast.Order.Basic
import Mathlib.Tactic.Linarith
import Mathlib.Tactic.Ring

/-!
# How often a latch switches

A latch that is set at or below `lo` and opened at or above `hi` has to see its
input cross the band between the two, in both directions, from one closing to
the next.  Its closings are therefore bounded by the variation of the input,
however long the run is and however the input moves.

The argument is the one of amortised bounds.  `potential` is the part of the
next crossing that has been paid for already; no step of the input pays for more
than it moves.
-/

namespace SetReset

section Closings

variable {α : Type*} (set hold : α → Prop) [DecidablePred set]
  [DecidablePred hold]

/-- One if the input closes the latch. -/
def closing (on : Bool) (x : α) : ℕ :=
  if !on && next set hold on x then 1 else 0

/-- The number of times that the latch closes. -/
def closings : Bool → List α → ℕ
  | _, [] => 0
  | on, x :: xs =>
      closing set hold on x + closings (next set hold on x) xs

theorem closings_append (on : Bool) (xs ys : List α) :
    closings set hold on (xs ++ ys) =
      closings set hold on xs +
        closings set hold (Machine.run (next set hold) on xs) ys := by
  induction xs generalizing on with
  | nil => simp [closings]
  | cons x xs ih => simp [closings, ih, Nat.add_assoc]

theorem closings_map
    {β : Type*} (g : β → α) (on : Bool) (xs : List β) :
    closings set hold on (xs.map g) =
      closings (fun x => set (g x)) (fun x => hold (g x)) on xs := by
  induction xs generalizing on with
  | nil => rfl
  | cons x xs ih => exact congrArg _ (ih _)

end Closings

section Variation

variable {K : Type*} [CommRing K] [LinearOrder K] [IsStrictOrderedRing K]

/-- The way that a sequence of values covers. -/
def variation : List K → K
  | [] => 0
  | [_] => 0
  | x :: y :: rest => |y - x| + variation (y :: rest)

theorem variation_nonneg (xs : List K) : 0 ≤ variation xs := by
  induction xs using variation.induct with
  | case1 => exact le_rfl
  | case2 x => exact le_rfl
  | case3 x y rest ih => exact add_nonneg (abs_nonneg _) ih

variable (lo hi : K)

/-- While the latch is closed, the way from `lo` up to the input; while it is
open, the width of the band and the way from `hi` down to the input. -/
def potential (on : Bool) (p : K) : K :=
  if on then max (p - lo) 0
  else (hi - lo) + min (hi - lo) (max (hi - p) 0)

theorem potential_nonneg
    {lo hi : K} (h : lo ≤ hi) (on : Bool) (p : K) :
    0 ≤ potential lo hi on p := by
  cases on with
  | true => exact le_max_right _ _
  | false =>
      have hband : 0 ≤ hi - lo := sub_nonneg.mpr h
      exact add_nonneg hband (le_min hband (le_max_right _ _))

theorem potential_le_of_open (p : K) :
    potential lo hi false p ≤ 2 * (hi - lo) := by
  have hmin : min (hi - lo) (max (hi - p) 0) ≤ hi - lo := min_le_left _ _
  change (hi - lo) + min (hi - lo) (max (hi - p) 0) ≤ 2 * (hi - lo)
  linarith

theorem le_add_of_abs_sub (x p : K) : x ≤ |x - p| + p ∧ p ≤ |x - p| + x := by
  have hup : x - p ≤ |x - p| := le_abs_self _
  have hdown : -(x - p) ≤ |x - p| := neg_le_abs _
  constructor
  · linarith
  · linarith

/-- A closed latch that stays closed pays with its input. -/
theorem potential_hold (x p : K) :
    potential lo hi true x ≤ |x - p| + potential lo hi true p := by
  obtain ⟨hup, -⟩ := le_add_of_abs_sub x p
  have hp : p - lo ≤ max (p - lo) 0 := le_max_left _ _
  have hp' : 0 ≤ max (p - lo) 0 := le_max_right _ _
  have hnonneg : 0 ≤ |x - p| := abs_nonneg _
  refine max_le ?_ ?_
  · change x - lo ≤ |x - p| + max (p - lo) 0
    linarith
  · change 0 ≤ |x - p| + max (p - lo) 0
    linarith

/-- A closed latch is opened after a way up through the band. -/
theorem potential_open
    {lo hi : K} (h : lo ≤ hi) {x : K} (hx : hi ≤ x) (p : K) :
    potential lo hi false x ≤ |x - p| + potential lo hi true p := by
  obtain ⟨hup, -⟩ := le_add_of_abs_sub x p
  have hp : p - lo ≤ max (p - lo) 0 := le_max_left _ _
  have habove : max (hi - x) 0 = 0 := max_eq_right (sub_nonpos.mpr hx)
  have hpotential : potential lo hi false x = hi - lo := by
    change (hi - lo) + min (hi - lo) (max (hi - x) 0) = hi - lo
    rw [habove, min_eq_right (sub_nonneg.mpr h), add_zero]
  rw [hpotential]
  change hi - lo ≤ |x - p| + max (p - lo) 0
  linarith

/-- An open latch that stays open pays with its input. -/
theorem potential_wait (x p : K) :
    potential lo hi false x ≤ |x - p| + potential lo hi false p := by
  obtain ⟨-, hdown⟩ := le_add_of_abs_sub x p
  have hp : hi - p ≤ max (hi - p) 0 := le_max_left _ _
  have hp' : 0 ≤ max (hi - p) 0 := le_max_right _ _
  have hnonneg : 0 ≤ |x - p| := abs_nonneg _
  have hway : max (hi - x) 0 ≤ |x - p| + max (hi - p) 0 :=
    max_le (by linarith) (by linarith)
  have hmin : min (hi - lo) (max (hi - x) 0) ≤
      |x - p| + min (hi - lo) (max (hi - p) 0) := by
    rcases le_total (hi - lo) (max (hi - p) 0) with hle | hle
    · rw [min_eq_left hle]
      exact (min_le_left _ _).trans (le_add_of_nonneg_left hnonneg)
    · rw [min_eq_right hle]
      exact (min_le_right _ _).trans hway
  change (hi - lo) + min (hi - lo) (max (hi - x) 0) ≤
    |x - p| + ((hi - lo) + min (hi - lo) (max (hi - p) 0))
  linarith

/-- A closing is paid by a way down through the band. -/
theorem potential_close
    {lo hi : K} {x : K} (hx : x ≤ lo) (p : K) :
    2 * (hi - lo) + potential lo hi true x ≤
      |x - p| + potential lo hi false p := by
  obtain ⟨-, hdown⟩ := le_add_of_abs_sub x p
  have hnonneg : 0 ≤ |x - p| := abs_nonneg _
  have hp : hi - p ≤ max (hi - p) 0 := le_max_left _ _
  have hbelow : potential lo hi true x = 0 := max_eq_right (sub_nonpos.mpr hx)
  have hmin : hi - lo ≤ |x - p| + min (hi - lo) (max (hi - p) 0) := by
    rcases le_total (hi - lo) (max (hi - p) 0) with hle | hle
    · rw [min_eq_left hle]
      exact le_add_of_nonneg_left hnonneg
    · rw [min_eq_right hle]
      linarith
  rw [hbelow, add_zero]
  change 2 * (hi - lo) ≤
    |x - p| + ((hi - lo) + min (hi - lo) (max (hi - p) 0))
  linarith

end Variation

section Bound

variable {α : Type*} {set hold : α → Prop} [DecidablePred set]
  [DecidablePred hold]

variable {K : Type*} [CommRing K] [LinearOrder K] [IsStrictOrderedRing K]

variable {lo hi : K} {f : α → K}

/-- One input pays for the closing that it causes. -/
theorem closing_add_potential_le
    (h : lo ≤ hi) {x : α} (hset : set x → f x ≤ lo)
    (hhold : ¬ hold x → hi ≤ f x) (on : Bool) (p : K) :
    closing set hold on x * (2 * (hi - lo)) +
        potential lo hi (next set hold on x) (f x) ≤
      |f x - p| + potential lo hi on p := by
  cases on with
  | true =>
      by_cases hheld : hold x
      · simpa [closing, next, hheld] using potential_hold lo hi (f x) p
      · simpa [closing, next, hheld] using potential_open h (hhold hheld) p
  | false =>
      by_cases hclose : hold x ∧ set x
      · simpa [closing, next, hclose] using potential_close (hset hclose.2) p
      · have hopen : (decide (hold x) && decide (set x)) = false := by
          simpa using hclose
        simpa [closing, next, hopen] using potential_wait lo hi (f x) p

theorem closings_mul_le
    (h : lo ≤ hi) {xs : List α} (hset : ∀ x ∈ xs, set x → f x ≤ lo)
    (hhold : ∀ x ∈ xs, ¬ hold x → hi ≤ f x) (on : Bool) (p : K) :
    closings set hold on xs * (2 * (hi - lo)) ≤
      variation (p :: xs.map f) + potential lo hi on p := by
  induction xs generalizing on p with
  | nil =>
      simpa [closings, variation] using potential_nonneg h on p
  | cons x xs ih =>
      rw [List.forall_mem_cons] at hset hhold
      have hstep := closing_add_potential_le h hset.1 hhold.1 on p
      have hrest := ih hset.2 hhold.2 (next set hold on x) (f x)
      rw [closings, List.map_cons, variation, Nat.cast_add, add_mul]
      linarith

/-- From one closing to the next the input covers the band twice: a latch that
starts open, is set at most at `lo` and opened at least at `hi` closes at most
once more than the variation of the input covers the band up and down. -/
theorem closings_sub_one_mul_le_variation
    {xs : List α} (hset : ∀ x ∈ xs, set x → f x ≤ lo)
    (hhold : ∀ x ∈ xs, ¬ hold x → hi ≤ f x) :
    ((closings set hold false xs - 1 : ℕ) : K) * (2 * (hi - lo)) ≤
      variation (xs.map f) := by
  have hnonneg := variation_nonneg (xs.map f)
  rcases lt_or_ge hi lo with hlt | hle
  · have hband : 2 * (hi - lo) ≤ 0 := by linarith
    exact (mul_nonpos_of_nonneg_of_nonpos (Nat.cast_nonneg _) hband).trans
      hnonneg
  · cases xs with
    | nil => simpa [closings] using hnonneg
    | cons x xs =>
        have hbound := closings_mul_le hle hset hhold false (f x)
        have hsame : variation (f x :: (x :: xs).map f) =
            variation ((x :: xs).map f) := by
          simp [variation]
        have hcap := potential_le_of_open lo hi (f x)
        rw [hsame] at hbound
        cases hn : closings set hold false (x :: xs) with
        | zero => simpa using hnonneg
        | succ n =>
            rw [hn, Nat.cast_succ, add_mul, one_mul] at hbound
            rw [Nat.add_sub_cancel]
            linarith

end Bound

end SetReset
