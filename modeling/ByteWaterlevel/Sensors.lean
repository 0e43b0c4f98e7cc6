import ByteWaterlevel.DeviceHandler
import Mathlib.Algebra.BigOperators.Fin
import Mathlib.Algebra.Order.BigOperators.Group.Finset
import Mathlib.Tactic.GCongr
import Mathlib.Tactic.Positivity

/-!
# The sensor pipeline on finite values

With finite calibration voltages and a finite filtered voltage, every stage of
the pipeline computes a rational.  This module names these rationals and
states their order properties: the level that a scan caches is monotone in the
filtered voltage, and one update of the filter lies between the old value and
the average of the new samples.
-/

namespace ByteWaterlevel
namespace DeviceHandler

/-- The clamped percentage of a voltage. -/
def percent (minV maxV v : ℚ) : ℚ :=
  min 100 (max 0 ((v - minV) / (maxV - minV) * 100))

/-- The multiple of one hundredth that a value is rounded to. -/
def hundredths (q : ℚ) : ℚ :=
  ExtRat.roundHalfAway (q * 100) / 100

/-- The level that a scan caches for a filtered voltage. -/
def shownLevel (minV maxV v : ℚ) : ℚ :=
  hundredths (percent minV maxV v)

/-- One update of the voltage filter. -/
def filtered (v average : ℚ) : ℚ :=
  v * (1 - 3 / 10) + average * (3 / 10)

/-- The average of a batch, in volts.  The sum is the wrapped one. -/
def averageVoltage (samples : Fin 64 → ULong) : ℚ :=
  ((List.ofFn samples).foldl (· + ·) (0 : ULong)).toNat / 64 / 1000

/-! ## Values -/

theorem levelOf_fin_of_ne
    {minV maxV : ℚ} (h : maxV ≠ minV) (v : ℚ) :
    levelOf (.fin minV) (.fin maxV) (.fin v) =
      .fin (percent minV maxV v) := by
  have hspan : maxV - minV ≠ 0 := sub_ne_zero.mpr h
  unfold levelOf percent
  rw [ExtRat.fin_sub_fin, ExtRat.fin_sub_fin, ExtRat.fin_div_fin _ hspan,
    ExtRat.fin_mul_fin]
  generalize (v - minV) / (maxV - minV) * 100 = p
  simp only [ExtRat.fin_lt_fin, gt_iff_lt]
  by_cases hlow : p < 0
  · rw [if_pos hlow, max_eq_left hlow.le]
    norm_num
  · rw [if_neg hlow, max_eq_right (not_lt.mp hlow)]
    by_cases hhigh : 100 < p
    · rw [if_pos (by simpa using hhigh), min_eq_left hhigh.le]
    · rw [if_neg (by simpa using hhigh), min_eq_right (not_lt.mp hhigh)]

theorem levelOf_fin
    {minV maxV : ℚ} (h : minV < maxV) (v : ℚ) :
    levelOf (.fin minV) (.fin maxV) (.fin v) =
      .fin (percent minV maxV v) :=
  levelOf_fin_of_ne h.ne' v

theorem percent_mem (minV maxV v : ℚ) :
    0 ≤ percent minV maxV v ∧ percent minV maxV v ≤ 100 :=
  ⟨le_min (by norm_num) (le_max_left 0 _), min_le_left 100 _⟩

theorem roundToTwoDecimals_fin (q : ℚ) :
    roundToTwoDecimals (.fin q) = .fin (hundredths q) := by
  unfold roundToTwoDecimals hundredths
  rw [ExtRat.fin_mul_fin, ExtRat.round_fin,
    ExtRat.fin_div_fin _ (by norm_num)]

theorem shownLevel_eq
    {minV maxV : ℚ} (h : minV < maxV) (v : ℚ) :
    roundToTwoDecimals (levelOf (.fin minV) (.fin maxV) (.fin v)) =
      .fin (shownLevel minV maxV v) := by
  rw [levelOf_fin h, roundToTwoDecimals_fin]
  rfl

theorem getADCValue_latestVoltage
    (samples : Fin 64 → ULong) {d : State} {v : ℚ}
    (h : d.latestVoltage = .fin v) :
    (getADCValue samples d).latestVoltage =
      .fin (filtered v (averageVoltage samples)) := by
  unfold getADCValue readVoltage averageVoltage
  simp only [h, InternalConfig.emaAlpha, List.length_ofFn]
  rw [ExtRat.fin_div_fin _ (by norm_num), ExtRat.fin_div_fin _ (by norm_num)]
  simp [filtered]

/-! ## Order -/

theorem percent_mono {minV maxV : ℚ} (h : minV < maxV) :
    Monotone (percent minV maxV) := by
  intro v w hvw
  have hspan : 0 < maxV - minV := by linarith
  unfold percent
  gcongr

theorem hundredths_mono : Monotone hundredths := by
  intro q r hqr
  have hround : ExtRat.roundHalfAway (q * 100) ≤
      ExtRat.roundHalfAway (r * 100) :=
    ExtRat.roundHalfAway_le_roundHalfAway (by linarith)
  unfold hundredths
  gcongr

theorem shownLevel_mono {minV maxV : ℚ} (h : minV < maxV) :
    Monotone (shownLevel minV maxV) :=
  hundredths_mono.comp (percent_mono h)

theorem shownLevel_nonneg (minV maxV v : ℚ) : 0 ≤ shownLevel minV maxV v := by
  have hpercent : 0 ≤ percent minV maxV v := (percent_mem minV maxV v).1
  have hzero : hundredths 0 = 0 := by
    norm_num [hundredths, ExtRat.roundHalfAway]
  calc
    0 = hundredths 0 := hzero.symm
    _ ≤ shownLevel minV maxV v := hundredths_mono hpercent

/-- An update of the filter is at least the smaller one of its arguments. -/
theorem le_filtered_or (v average : ℚ) :
    v ≤ filtered v average ∨ average ≤ filtered v average := by
  unfold filtered
  rcases le_total v average with h | h
  · left
    linarith
  · right
    linarith

theorem toNat_foldl_add (samples : List ULong) (start : ULong) :
    (samples.foldl (· + ·) start).toNat =
      (start.toNat + (samples.map BitVec.toNat).sum) % 2 ^ 32 := by
  induction samples generalizing start with
  | nil => simp [Nat.mod_eq_of_lt start.isLt]
  | cons sample samples ih =>
      rw [List.foldl_cons, ih, BitVec.toNat_add, List.map_cons,
        List.sum_cons, Nat.mod_add_mod, add_assoc]

/-- A batch of samples that are in range can be added up in 32 bits. -/
theorem sum_samples_lt
    {samples : Fin 64 → ULong}
    (hrange : ∀ i, 64 * (samples i).toNat < 2 ^ 32) :
    ∑ i, (samples i).toNat < 2 ^ 32 := by
  have hsum : ∑ i, 64 * (samples i).toNat < ∑ _i : Fin 64, 2 ^ 32 :=
    Finset.sum_lt_sum_of_nonempty Finset.univ_nonempty
      fun i _ => hrange i
  rw [← Finset.mul_sum] at hsum
  simp only [Finset.sum_const, Finset.card_univ, Fintype.card_fin,
    smul_eq_mul] at hsum
  omega

/-- If the sum does not wrap, the average is the mean of the samples. -/
theorem averageVoltage_eq
    {samples : Fin 64 → ULong}
    (hrange : ∀ i, 64 * (samples i).toNat < 2 ^ 32) :
    averageVoltage samples =
      (∑ i, ((samples i).toNat : ℚ)) / 64 / 1000 := by
  unfold averageVoltage
  rw [toNat_foldl_add, List.map_ofFn, List.sum_ofFn]
  simp only [BitVec.ofNat_eq_ofNat, BitVec.toNat_ofNat, Nat.zero_mod,
    zero_add, Function.comp_apply]
  rw [Nat.mod_eq_of_lt (sum_samples_lt hrange)]
  push_cast
  rfl

/-- If the sum does not wrap, the average is at least one of the samples. -/
theorem exists_sample_le_average
    {samples : Fin 64 → ULong}
    (hrange : ∀ i, 64 * (samples i).toNat < 2 ^ 32) :
    ∃ i, ((samples i).toNat : ℚ) / 1000 ≤ averageVoltage samples := by
  have hsum : ∑ i, ((samples i).toNat : ℚ) ≤
      ∑ _i : Fin 64, (∑ i, ((samples i).toNat : ℚ)) / 64 := by
    simp only [Finset.sum_const, Finset.card_univ, Fintype.card_fin,
      nsmul_eq_mul]
    linarith
  obtain ⟨i, -, hi⟩ := Finset.exists_le_of_sum_le Finset.univ_nonempty hsum
  refine ⟨i, ?_⟩
  rw [averageVoltage_eq hrange]
  linarith

/-- The average of samples of at most `M` millivolts is at most that. -/
theorem averageVoltage_mem
    {samples : Fin 64 → ULong} {M : ℕ} (hM : 64 * M < 2 ^ 32)
    (h : ∀ i, (samples i).toNat ≤ M) :
    0 ≤ averageVoltage samples ∧ averageVoltage samples ≤ M / 1000 := by
  have hrange : ∀ i, 64 * (samples i).toNat < 2 ^ 32 := by
    intro i
    have hi := h i
    omega
  have hnonneg : 0 ≤ ∑ i, ((samples i).toNat : ℚ) :=
    Finset.sum_nonneg fun i _ => Nat.cast_nonneg _
  have hle : ∑ i, ((samples i).toNat : ℚ) ≤ ∑ _i : Fin 64, (M : ℚ) :=
    Finset.sum_le_sum fun i _ => Nat.cast_le.mpr (h i)
  simp only [Finset.sum_const, Finset.card_univ, Fintype.card_fin,
    nsmul_eq_mul, Nat.cast_ofNat] at hle
  rw [averageVoltage_eq hrange]
  constructor
  · positivity
  · linarith

/-- If no sum wraps, larger samples have the larger average. -/
theorem averageVoltage_le
    {samples samples' : Fin 64 → ULong}
    (hrange : ∀ i, 64 * (samples' i).toNat < 2 ^ 32)
    (h : ∀ i, (samples i).toNat ≤ (samples' i).toNat) :
    averageVoltage samples ≤ averageVoltage samples' := by
  have hrange' : ∀ i, 64 * (samples i).toNat < 2 ^ 32 := by
    intro i
    have hi := h i
    have hi' := hrange i
    omega
  rw [averageVoltage_eq hrange, averageVoltage_eq hrange']
  gcongr with i
  exact h i

end DeviceHandler
end ByteWaterlevel
