import Mathlib.Algebra.Order.Floor.Ring
import Mathlib.Data.Int.Log
import Mathlib.Data.Rat.Floor
import Mathlib.Tactic.Linarith
import Mathlib.Tactic.NormNum

/-!
# Rationals with the special values of floating point

A floating-point program is read here over exact rational arithmetic, with the
three special values that its comparisons and divisions can produce.  The
order follows the comparison operators of floating point: every comparison
with `nan` is false, so neither order is total and `≤` is not reflexive.
The results of the arithmetic operations are not rounded, and signed zeros are
not represented; a division by zero takes its sign from the dividend alone.
The conversion of a value to single precision, `toBinary32`, does round.
-/

/-- An exact rational, an infinity, or the value of an undefined operation. -/
inductive ExtRat where
  | nan
  | negInf
  | posInf
  | fin (q : ℚ)
deriving DecidableEq

namespace ExtRat

instance : Inhabited ExtRat := ⟨fin 0⟩

instance : Coe ℚ ExtRat := ⟨fin⟩

/-- Strict comparison; false whenever an operand is `nan`. -/
def lt : ExtRat → ExtRat → Prop
  | fin a, fin b => a < b
  | negInf, fin _ => True
  | negInf, posInf => True
  | fin _, posInf => True
  | _, _ => False

/-- Non-strict comparison; false whenever an operand is `nan`. -/
def le (x y : ExtRat) : Prop :=
  lt x y ∨ (x = y ∧ x ≠ nan)

instance : LT ExtRat := ⟨lt⟩

instance : LE ExtRat := ⟨le⟩

instance decidableLt (x y : ExtRat) : Decidable (x < y) :=
  match x, y with
  | fin a, fin b => inferInstanceAs (Decidable (a < b))
  | negInf, fin _ => .isTrue trivial
  | negInf, posInf => .isTrue trivial
  | fin _, posInf => .isTrue trivial
  | negInf, negInf => .isFalse id
  | negInf, nan => .isFalse id
  | fin _, negInf => .isFalse id
  | fin _, nan => .isFalse id
  | posInf, _ => .isFalse (by cases y <;> exact id)
  | nan, _ => .isFalse (by cases y <;> exact id)

instance decidableLe (x y : ExtRat) : Decidable (x ≤ y) :=
  inferInstanceAs (Decidable (x < y ∨ (x = y ∧ x ≠ nan)))

@[simp] theorem fin_lt_fin {a b : ℚ} : fin a < fin b ↔ a < b := Iff.rfl

@[simp] theorem fin_le_fin {a b : ℚ} : fin a ≤ fin b ↔ a ≤ b := by
  change (a < b ∨ (fin a = fin b ∧ fin a ≠ nan)) ↔ a ≤ b
  simp [le_iff_lt_or_eq]

@[simp] theorem not_fin_le_nan (a : ℚ) : ¬ fin a ≤ nan := by
  rintro (h | ⟨h, -⟩)
  · exact h
  · exact nomatch h

@[simp] theorem not_fin_le_negInf (a : ℚ) : ¬ fin a ≤ negInf := by
  rintro (h | ⟨h, -⟩)
  · exact h
  · exact nomatch h

theorem not_fin_le_of_lt {a : ℚ} {x : ExtRat} (h : x < fin a) :
    ¬ fin a ≤ x := by
  cases x with
  | nan => exact not_fin_le_nan a
  | negInf => exact not_fin_le_negInf a
  | posInf => exact absurd h id
  | fin c => exact fun hle => absurd (fin_le_fin.mp hle) (not_le.mpr h)

theorem fin_lt_of_le {a b : ℚ} {x : ExtRat} (hab : a ≤ b) (h : fin b < x) :
    fin a < x := by
  cases x with
  | nan => exact h
  | negInf => exact h
  | posInf => exact trivial
  | fin c => exact lt_of_le_of_lt hab h

theorem fin_le_of_le {a b : ℚ} {x : ExtRat} (hab : a ≤ b) (h : fin b ≤ x) :
    fin a ≤ x := by
  cases x with
  | fin c => exact fin_le_fin.mpr (hab.trans (fin_le_fin.mp h))
  | posInf => exact Or.inl trivial
  | nan => exact absurd h (not_fin_le_nan b)
  | negInf => exact absurd h (not_fin_le_negInf b)

theorem lt_fin_of_le {a b : ℚ} {x : ExtRat} (h : x < fin a) (hab : a ≤ b) :
    x < fin b := by
  cases x with
  | nan => exact h
  | negInf => exact trivial
  | posInf => exact h
  | fin c => exact lt_of_lt_of_le h hab

/-! ## Arithmetic -/

/-- The sign of a value, `0` for `nan`. -/
def sign : ExtRat → ℤ
  | nan => 0
  | negInf => -1
  | posInf => 1
  | fin q => q.num.sign

/-- The infinity with the given sign, undefined for the sign `0`. -/
def infinity (s : ℤ) : ExtRat :=
  if s = 0 then nan else if 0 < s then posInf else negInf

def neg : ExtRat → ExtRat
  | nan => nan
  | negInf => posInf
  | posInf => negInf
  | fin q => fin (-q)

def add : ExtRat → ExtRat → ExtRat
  | fin a, fin b => fin (a + b)
  | nan, _ => nan
  | _, nan => nan
  | posInf, negInf => nan
  | negInf, posInf => nan
  | posInf, _ => posInf
  | _, posInf => posInf
  | negInf, _ => negInf
  | _, negInf => negInf

def mul : ExtRat → ExtRat → ExtRat
  | fin a, fin b => fin (a * b)
  | nan, _ => nan
  | _, nan => nan
  | x, y => infinity (x.sign * y.sign)

def div : ExtRat → ExtRat → ExtRat
  | fin a, fin b => if b = 0 then infinity (fin a).sign else fin (a / b)
  | nan, _ => nan
  | _, nan => nan
  | fin _, _ => fin 0
  | x, fin b => infinity (x.sign * if b < 0 then -1 else 1)
  | _, _ => nan

instance : Neg ExtRat := ⟨neg⟩

instance : Add ExtRat := ⟨add⟩

instance : Sub ExtRat := ⟨fun x y => x + -y⟩

instance : Mul ExtRat := ⟨mul⟩

instance : Div ExtRat := ⟨div⟩

@[simp] theorem fin_add_fin (a b : ℚ) : fin a + fin b = fin (a + b) := rfl

@[simp] theorem fin_sub_fin (a b : ℚ) : fin a - fin b = fin (a - b) := by
  change fin (a + -b) = fin (a - b)
  rw [sub_eq_add_neg]

@[simp] theorem fin_mul_fin (a b : ℚ) : fin a * fin b = fin (a * b) := rfl

theorem fin_div_fin (a : ℚ) {b : ℚ} (hb : b ≠ 0) :
    fin a / fin b = fin (a / b) := by
  change (if b = 0 then infinity (fin a).sign else fin (a / b)) = _
  rw [if_neg hb]

/-! ## Rounding -/

/-- Rounding of a rational to the nearest integer, halves away from zero. -/
def roundHalfAway (q : ℚ) : ℤ :=
  if 0 ≤ q then ⌊q + 1 / 2⌋ else -⌊-q + 1 / 2⌋

/-- Rounding to the nearest integer, halves away from zero; the special values
round to themselves. -/
def round : ExtRat → ExtRat
  | fin q => fin (roundHalfAway q)
  | x => x

@[simp] theorem round_fin (q : ℚ) :
    round (fin q) = fin (roundHalfAway q) := rfl

theorem roundHalfAway_le_roundHalfAway {a b : ℚ} (hab : a ≤ b) :
    roundHalfAway a ≤ roundHalfAway b := by
  have hnonneg : ∀ q : ℚ, 0 ≤ q → 0 ≤ ⌊q + 1 / 2⌋ := by
    intro q hq
    exact Int.floor_nonneg.mpr (by linarith)
  unfold roundHalfAway
  by_cases ha : 0 ≤ a
  · rw [if_pos ha, if_pos (ha.trans hab)]
    exact Int.floor_le_floor (by linarith)
  · rw [if_neg ha]
    by_cases hb : 0 ≤ b
    · rw [if_pos hb]
      have hleft := hnonneg (-a) (by linarith)
      have hright := hnonneg b hb
      linarith
    · rw [if_neg hb]
      exact neg_le_neg (Int.floor_le_floor (by linarith))

/-- Rounding of a rational to the nearest integer, halves to the even one. -/
def roundHalfEven (q : ℚ) : ℤ :=
  if q - ⌊q⌋ < 1 / 2 then ⌊q⌋
  else if 1 / 2 < q - ⌊q⌋ then ⌊q⌋ + 1
  else if ⌊q⌋ % 2 = 0 then ⌊q⌋ else ⌊q⌋ + 1

/-- The distance of neighbouring single-precision numbers at `q`: 24 bits of
significand, and never less than the smallest subnormal number. -/
def spacing (q : ℚ) : ℚ := 2 ^ max (Int.log 2 |q| - 23) (-149)

/-- The conversion to the IEEE 754 format binary32: to the nearest number of
the format, halves to the even one, and to an infinity beyond its range. -/
def toBinary32 : ExtRat → ExtRat
  | fin q =>
      let rounded := roundHalfEven (q / spacing q) * spacing q
      if 2 ^ 128 ≤ rounded then posInf
      else if rounded ≤ -2 ^ 128 then negInf
      else fin rounded
  | x => x

-- underflow to zero, the first integer without a number of its own, overflow
example : toBinary32 (fin (1 / 10 ^ 46)) = fin 0 := by decide +kernel
example : toBinary32 (fin 16777217) = fin 16777216 := by decide +kernel
example : toBinary32 (fin (10 ^ 39)) = posInf := by decide +kernel

/-- A value without its fractional part, `0` outside the given range, as a
checked conversion to a machine integer with that range computes it. -/
def truncateTo (lo hi : ℤ) : ExtRat → ℤ
  | fin q =>
      if lo ≤ q ∧ q ≤ hi then
        if 0 ≤ q then ⌊q⌋ else -⌊-q⌋
      else 0
  | _ => 0

/-! ## Text -/

/-- The number with the given number of decimal places, rounded halves away
from zero, as the C conversion of a floating-point number writes it. -/
def toFixed (x : ExtRat) (digits : ℕ) : String :=
  match x with
  | nan => "nan"
  | negInf | posInf => "inf"
  | fin q =>
      let scaled := (roundHalfAway (q * 10 ^ digits)).natAbs
      let whole := toString (scaled / 10 ^ digits)
      let fraction := toString (scaled % 10 ^ digits)
      let zeros := String.ofList
        (List.replicate (digits - fraction.length) '0')
      (if q < 0 then "-" else "") ++
        if digits = 0 then whole else whole ++ "." ++ zeros ++ fraction

example : toFixed (fin (-251 / 100)) 1 = "-2.5" := by decide +kernel
example : toFixed (fin 3) 2 = "3.00" := by decide +kernel

end ExtRat
