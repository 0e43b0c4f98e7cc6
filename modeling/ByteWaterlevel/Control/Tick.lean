import ByteWaterlevel.Control.Machine

/-!
# One tick of the automation

The effect of `setFill`, `setPump` and of the two decisions on the slots of
the channels and on the flags.  The results about runs of the automation rest
on the case lemmas `handleFill_cases` and `handlePump_eq` and on
`loop_cases`, which lists what a call of the loop can do.
-/

namespace ByteWaterlevel
namespace AutomationHandler

open DeviceHandler

@[simp] theorem setFill_auto (cond : Bool) (c : Control) :
    (setFill cond c).auto = { c.auto with fillM := cond } := rfl

@[simp] theorem setPump_auto (cond : Bool) (c : Control) :
    (setPump cond c).auto = { c.auto with pumpM := cond } := rfl

@[simp] theorem setFill_slot_one (cond : Bool) (c : Control) :
    (setFill cond c).device.slot .one = .switched cond := rfl

@[simp] theorem setFill_slot_two (cond : Bool) (c : Control) :
    (setFill cond c).device.slot .two = c.device.slot .two := rfl

@[simp] theorem setPump_slot_one (cond : Bool) (c : Control) :
    (setPump cond c).device.slot .one = c.device.slot .one := rfl

@[simp] theorem setPump_slot_two (cond : Bool) (c : Control) :
    (setPump cond c).device.slot .two = .switched cond := rfl

@[simp] theorem getLevelCached_setFill (cond : Bool) (c : Control) :
    getLevelCached (setFill cond c).device = getLevelCached c.device := rfl

@[simp] theorem getLevelCached_setPump (cond : Bool) (c : Control) :
    getLevelCached (setPump cond c).device = getLevelCached c.device := rfl

/-- The fill decision starts, stops, or does nothing. -/
theorem handleFill_cases (c : Control) :
    (getLevelCached c.device < c.auto.maxL ∧ c.auto.fillM = false ∧
        getLevelCached c.device ≤ c.auto.fillL ∧
        handleFill c = setFill true c) ∨
      (getLevelCached c.device < c.auto.maxL ∧
        (c.auto.fillM = true ∨ ¬ getLevelCached c.device ≤ c.auto.fillL) ∧
        handleFill c = c) ∨
      (¬ getLevelCached c.device < c.auto.maxL ∧
        handleFill c = setFill false c) := by
  unfold handleFill
  by_cases hmax : getLevelCached c.device < c.auto.maxL
  · by_cases hstart :
        c.auto.fillM = false ∧ getLevelCached c.device ≤ c.auto.fillL
    · left
      simp [hmax, hstart]
    · right
      left
      rw [if_pos hmax, if_neg hstart]
      refine ⟨hmax, ?_, rfl⟩
      rcases Bool.eq_false_or_eq_true c.auto.fillM with hfill | hfill
      · exact Or.inl hfill
      · exact Or.inr fun hle => hstart ⟨hfill, hle⟩
  · right
    right
    simp [hmax]

/-- The pump decision always switches. -/
theorem handlePump_eq (c : Control) :
    handlePump c =
      setPump (decide (getLevelCached c.device > c.auto.minL)) c := by
  unfold handlePump
  split_ifs with h <;> simp [h]

/-- The state in which an executed tick takes its decisions. -/
def stamp (t : ℕ) (c : Control) : Control :=
  { c with auto := { c.auto with autoMillis := millis t } }

@[simp] theorem stamp_device (t : ℕ) (c : Control) :
    (stamp t c).device = c.device := rfl

theorem loop_of_not_due
    {t : ℕ} {c : Control} (h : ¬ Due t c.auto) : loop t c = c :=
  if_neg h

/-- What a call of the loop does: nothing before its time, and otherwise the
decisions of the mode. -/
theorem loop_cases (t : ℕ) (c : Control) :
    (¬ Due t c.auto ∧ loop t c = c) ∨
      (Due t c.auto ∧ c.auto.mode = 1 ∧
        loop t c = handlePump (handleFill (stamp t c))) ∨
      (Due t c.auto ∧ c.auto.mode = 2 ∧
        loop t c = handleFill (stamp t c)) ∨
      (Due t c.auto ∧ c.auto.mode ≠ 1 ∧ c.auto.mode ≠ 2 ∧
        (c.auto.fillM = true ∨ c.auto.pumpM = true) ∧
        loop t c = setFill false (setPump false (stamp t c))) ∨
      (Due t c.auto ∧ c.auto.mode ≠ 1 ∧ c.auto.mode ≠ 2 ∧
        loop t c = stamp t c) := by
  by_cases hdue : Due t c.auto
  · have hloop : loop t c = tick (stamp t c) := by
      unfold loop
      exact if_pos hdue
    have hmode : (stamp t c).auto.mode = c.auto.mode := rfl
    right
    rw [hloop]
    unfold tick
    by_cases h1 : c.auto.mode = 1
    · left
      exact ⟨hdue, h1, if_pos h1⟩
    · right
      by_cases h2 : c.auto.mode = 2
      · left
        exact ⟨hdue, h2, by rw [hmode, if_neg h1, if_pos h2]⟩
      · right
        rw [hmode, if_neg h1, if_neg h2]
        by_cases hflags : c.auto.fillM = true ∨ c.auto.pumpM = true
        · left
          exact ⟨hdue, h1, h2, hflags, if_pos hflags⟩
        · right
          exact ⟨hdue, h1, h2, if_neg hflags⟩
  · left
    exact ⟨hdue, loop_of_not_due hdue⟩

/-- What switching on behalf of the automation keeps, a call of the loop keeps
in every mode. -/
theorem loop_preserves
    {P : Control → Prop}
    (hstamp : ∀ t c, P c → P (stamp t c))
    (hfill : ∀ cond c, P c → P (setFill cond c))
    (hpump : ∀ cond c, P c → P (setPump cond c))
    (t : ℕ) {c : Control} (h : P c) : P (loop t c) := by
  have hhandleFill : P (handleFill (stamp t c)) := by
    rcases handleFill_cases (stamp t c) with
      ⟨-, -, -, heq⟩ | ⟨-, -, heq⟩ | ⟨-, heq⟩
    · rw [heq]
      exact hfill true _ (hstamp t c h)
    · rw [heq]
      exact hstamp t c h
    · rw [heq]
      exact hfill false _ (hstamp t c h)
  rcases loop_cases t c with ⟨-, heq⟩ | ⟨-, -, heq⟩ | ⟨-, -, heq⟩ |
    ⟨-, -, -, -, heq⟩ | ⟨-, -, -, heq⟩
  · rwa [heq]
  · rw [heq, handlePump_eq]
    exact hpump _ _ hhandleFill
  · rwa [heq]
  · rw [heq]
    exact hfill false _ (hpump false _ (hstamp t c h))
  · rw [heq]
    exact hstamp t c h

/-- The fill decision changes neither the thresholds nor the cached level. -/
theorem handleFill_settings (c : Control) :
    (handleFill c).auto.mode = c.auto.mode ∧
      (handleFill c).auto.maxL = c.auto.maxL ∧
      (handleFill c).auto.minL = c.auto.minL ∧
      (handleFill c).auto.fillL = c.auto.fillL ∧
      getLevelCached (handleFill c).device = getLevelCached c.device := by
  rcases handleFill_cases c with ⟨-, -, -, h⟩ | ⟨-, -, h⟩ | ⟨-, h⟩
  · simp [h]
  · simp [h]
  · simp [h]

/-- A call of the loop changes neither the thresholds nor the cached level. -/
theorem loop_settings (t : ℕ) (c : Control) :
    (loop t c).auto.mode = c.auto.mode ∧
      (loop t c).auto.maxL = c.auto.maxL ∧
      (loop t c).auto.minL = c.auto.minL ∧
      (loop t c).auto.fillL = c.auto.fillL ∧
      getLevelCached (loop t c).device = getLevelCached c.device := by
  have hfill := handleFill_settings (stamp t c)
  rcases loop_cases t c with ⟨-, h⟩ | ⟨-, -, h⟩ | ⟨-, -, h⟩ |
    ⟨-, -, -, -, h⟩ | ⟨-, -, -, h⟩
  · simp [h]
  · rw [h, handlePump_eq]
    simpa [stamp] using hfill
  · rw [h]
    simpa [stamp] using hfill
  · simp [h, stamp]
  · simp [h, stamp]

end AutomationHandler
end ByteWaterlevel
