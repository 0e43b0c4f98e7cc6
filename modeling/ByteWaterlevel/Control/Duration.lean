import ByteWaterlevel.Control.Origin

/-!
# The reported remaining time

`getDuration` copies the 32-bit deadline of a channel into a signed `int`,
tests the sign of the copy, and then subtracts the uptime from it as an
unsigned number, whose sign test is always passed.  The remaining time is right
as long as the deadline lies in the lower half of the counter and is still
ahead.  A deadline in the upper half is reported as no timer at all, and one in
the lower half that has passed but has not been polled yet is reported with the
wrong sign.
-/

namespace ByteWaterlevel
namespace Control

open DeviceHandler AutomationHandler WebHandler

/-- The step ends a timer of the channel: it calls `setRelais` on the channel,
or it restarts the device. -/
def Cancels (lib : ArduinoJson) (ch : Channel) (c : Control) (e : Event) :
    Prop :=
  CallsOn lib ch c e ∨ RestartsDevice lib e

/-- After the events `es` the timer that a request at uptime `t₀` has set for
`d` seconds is pending on the channel. -/
def Pending (lib : ArduinoJson) (ch : Channel) (c : Control)
    (es : List Event) (t₀ : ℕ) (d : CInt) : Prop :=
  ∃ pre e post state, es = pre ++ e :: post ∧ Arms lib ch state t₀ d e ∧
    Along lib (fun c e => ¬ Cancels lib ch c e) (run lib c (pre ++ [e])) post

/-- The deadline of a timer as a point of the true uptime. -/
def trueDeadline (t₀ : ℕ) (d : CInt) : ℤ := t₀ + 1000 * d.toInt

/-- What `getDuration` reports at uptime `t`, after the events `es` from boot,
is the time that the pending timer has left, and zero if none is pending.  It is
never negative. -/
def ReportsRemaining (lib : ArduinoJson) (settings : Settings)
    (es : List Event) (ch : Channel) (t : ℕ) : Prop :=
  let reported :=
    (getDuration t ch.number (run lib (boot settings) es).device).toInt
  (∀ t₀ d, Pending lib ch (boot settings) es t₀ d → 0 ≤ d.toInt →
      trueDeadline t₀ d - t < 2 ^ 31 →
      reported = max 0 (trueDeadline t₀ d - t)) ∧
    ((¬ ∃ t₀ d, Pending lib ch (boot settings) es t₀ d) → reported = 0) ∧
    0 ≤ reported

/-- The deadline, as the signed copy sees it, is positive. -/
def InLowerHalf (deadline : ℤ) : Prop :=
  0 < deadline % 2 ^ 32 ∧ deadline % 2 ^ 32 < 2 ^ 31

instance (deadline : ℤ) : Decidable (InLowerHalf deadline) :=
  inferInstanceAs (Decidable (_ ∧ _))

/-! ## What is reported for a deadline -/

/-- The remaining time of a deadline. -/
def remaining (t : ℕ) (timer : ULong) : CInt :=
  if BitVec.slt 0 timer ∧ timer - millis t > 0 then timer - millis t else 0

theorem getDuration_eq (t : ℕ) (ch : Channel) (d : DeviceHandler.State) :
    getDuration t ch.number d = remaining t (d.slot ch).timer := by
  have hcopy : ∀ timer : ULong, (if timer ≤ 0 then 0 else timer) = timer := by
    intro timer
    split_ifs with h
    · exact (BitVec.le_zero_iff.mp h).symm
    · rfl
  cases ch with
  | one =>
      simp only [getDuration, hcopy, Channel.number]
      rfl
  | two =>
      simp only [getDuration, hcopy, Channel.number]
      rfl

/-- The reported time is the signed difference modulo `2 ^ 32`, for a deadline
in the lower half of the counter. -/
theorem toInt_remaining (t : ℕ) (timer : ULong) :
    (remaining t timer).toInt =
      if InLowerHalf timer.toNat then
        (if ((timer.toNat : ℤ) - t) % 2 ^ 32 < 2 ^ 31 then
          ((timer.toNat : ℤ) - t) % 2 ^ 32
        else ((timer.toNat : ℤ) - t) % 2 ^ 32 - 2 ^ 32)
      else 0 := by
  have hdifference : ((timer - millis t).toNat : ℤ) =
      ((timer.toNat : ℤ) - t) % 2 ^ 32 := by
    have hlt := timer.isLt
    rw [BitVec.toNat_sub, toNat_millis]
    omega
  have hsigned : BitVec.slt 0 timer = true ↔ InLowerHalf timer.toNat := by
    have hlt := timer.isLt
    have htimer := BitVec.toInt_eq_toNat_cond timer
    simp only [BitVec.slt, decide_eq_true_eq, InLowerHalf]
    have hzero : (0 : ULong).toInt = 0 := by decide
    rw [hzero]
    split at htimer <;> omega
  have hpositive : timer - millis t > 0 ↔ (timer - millis t).toNat ≠ 0 := by
    rw [gt_iff_lt, BitVec.lt_def]
    exact Nat.pos_iff_ne_zero
  have htoInt := BitVec.toInt_eq_toNat_cond (timer - millis t)
  simp only [remaining, hsigned, hpositive]
  by_cases hlower : InLowerHalf timer.toNat
  · by_cases hne : (timer - millis t).toNat ≠ 0
    · rw [if_pos ⟨hlower, hne⟩, if_pos hlower, htoInt, ← hdifference]
      split_ifs <;> omega
    · rw [if_neg fun h => hne h.2, if_pos hlower, ← hdifference]
      have hzero : (0 : ULong).toInt = 0 := by decide
      rw [hzero, not_not.mp hne]
      rfl
  · rw [if_neg fun h => hlower h.1, if_neg hlower]
    decide

/-- What is reported for the timer of a request. -/
theorem toInt_remaining_deadline (t t₀ : ℕ) (d : CInt) :
    (remaining t (millis t₀ + d * 1000)).toInt =
      if InLowerHalf (trueDeadline t₀ d) then
        (if (trueDeadline t₀ d - t) % 2 ^ 32 < 2 ^ 31 then
          (trueDeadline t₀ d - t) % 2 ^ 32
        else (trueDeadline t₀ d - t) % 2 ^ 32 - 2 ^ 32)
      else 0 := by
  have hwrapped : ((millis t₀ + d * 1000).toNat : ℤ) =
      trueDeadline t₀ d % 2 ^ 32 := toNat_deadline t₀ d
  have hlower : InLowerHalf (trueDeadline t₀ d % 2 ^ 32) ↔
      InLowerHalf (trueDeadline t₀ d) := by
    unfold InLowerHalf
    rw [Int.emod_emod_of_dvd _ (dvd_refl _)]
  simp only [toInt_remaining, hwrapped, hlower, Int.emod_sub_emod]

/-- Nothing is reported for an inactive timer. -/
theorem toInt_remaining_noTimer (t : ℕ) :
    (remaining t noTimer).toInt = 0 := by
  rw [toInt_remaining, if_neg (by decide)]

/-! ## Pending timers -/

/-- A step that does not end the timer of a channel and does not arm it leaves
the channel alone. -/
theorem step_slot_of_not_cancels
    {lib : ArduinoJson} {ch : Channel} {c : Control} {e : Event}
    (h : ¬ Cancels lib ch c e) :
    (step lib c e).device.slot ch = c.device.slot ch := by
  rcases e.kinds with hpassive | ⟨files, amb, json, next, rfl⟩ | ⟨t, rfl⟩ |
    ⟨t, rfl⟩
  · exact step_passive_slot lib c hpassive ch
  · rcases step_api_cases lib c files amb json next with
      ⟨r, -, heq⟩ | ⟨hrestarts, -⟩ | ⟨-, -, heq⟩
    · rw [heq]
      apply RelaisRequest.apply_slot_of_ne amb c.device
      intro hch
      apply h
      left
      rw [CallsOn, heq, printed_apply]
      exact ⟨_, List.mem_singleton_self _, hch⟩
    · exact absurd (Or.inr ⟨files, amb, json, next, rfl, hrestarts⟩) h
    · rw [heq]
  · have hnot : ¬ Expired t (c.device.slot ch).timer := by
      intro hexpired
      exact h (Or.inl ((callsOn_poll_iff lib ch c t).mpr hexpired))
    rw [step, handleRelais_slot, if_neg hnot]
  · apply loop_slot_of_not_printed
    intro line hline hch
    exact h (Or.inl ⟨line, hline, hch⟩)

theorem run_slot_of_not_cancels
    {lib : ArduinoJson} {ch : Channel} {c : Control} {es : List Event}
    (h : Along lib (fun c e => ¬ Cancels lib ch c e) c es) :
    (run lib c es).device.slot ch = c.device.slot ch := by
  induction es generalizing c with
  | nil => rfl
  | cons e es ih =>
      rw [run, Machine.run_cons, ← run, ih h.2]
      exact step_slot_of_not_cancels h.1

theorem timer_of_arms
    {lib : ArduinoJson} {ch : Channel} {state : Bool} {t₀ : ℕ} {d : CInt}
    {e : Event} (h : Arms lib ch state t₀ d e) (c : Control) :
    ((step lib c e).device.slot ch).timer = millis t₀ + d * 1000 := by
  obtain ⟨files, amb, json, next, rfl, rfl, hrequest⟩ := h
  rw [step_api_of_request c next hrequest,
    RelaisRequest.apply_slot_self amb c.device (Channel.setWidth_number ch)]
  exact if_pos rfl

/-- The stored value of a pending timer is its wrapped deadline. -/
theorem timer_of_pending
    {lib : ArduinoJson} {ch : Channel} {c : Control} {es : List Event}
    {t₀ : ℕ} {d : CInt} (h : Pending lib ch c es t₀ d) :
    ((run lib c es).device.slot ch).timer = millis t₀ + d * 1000 := by
  obtain ⟨pre, e, post, state, rfl, harms, hpost⟩ := h
  have hsplit : pre ++ e :: post = (pre ++ [e]) ++ post := by simp
  rw [hsplit, run, Machine.run_append, ← run, run_slot_of_not_cancels hpost,
    run, Machine.run_append]
  exact timer_of_arms harms _

/-- A channel whose stored value is not that of an inactive timer has a pending
timer. -/
theorem pending_of_timer
    {lib : ArduinoJson} {ch : Channel} {settings : Settings}
    {es : List Event}
    (h : ((run lib (boot settings) es).device.slot ch).timer ≠ noTimer) :
    ∃ t₀ d, Pending lib ch (boot settings) es t₀ d := by
  have hstep : ∀ c e, ((step lib c e).device.slot ch).timer ≠ noTimer →
      ArmsBy lib ch c e ∨
        ((step lib c e).device.slot ch = c.device.slot ch ∧
          ¬ Cancels lib ch c e) := by
    intro c e htimer
    rcases step_timer_origin lib ch c e htimer with harms | ⟨hslot, hcalls⟩
    · exact Or.inl harms
    · right
      refine ⟨hslot, ?_⟩
      rintro (hcall | ⟨files, amb, json, next, rfl, hrestarts⟩)
      · exact hcalls hcall
      · rw [step_api, if_pos hrestarts, boot_slot] at htimer
        exact htimer rfl
  have hboot : ¬ ((boot settings).device.slot ch).timer ≠ noTimer := by
    rw [boot_slot]
    exact fun hne => hne rfl
  obtain ⟨pre, e, post, hes, ⟨-, t₀, d, harms, -⟩, -, hpost⟩ :=
    Machine.exists_origin (v := fun c : Control => c.device.slot ch)
      (A := fun slot => slot.timer ≠ noTimer) hstep hboot h
  exact ⟨t₀, d, pre, e, post, _, hes, harms, hpost⟩

/-! ## The exact condition -/

/-- A timer with deadline `deadline`, set for `d` seconds, is reported
rightly at uptime `t`: a deadline in the lower half has not passed, or has
passed by a multiple of the counter's period, and any other deadline has
passed.  For a timer of a negative duration, or one that is further away than
an `int` can tell, the condition only keeps the sign right. -/
def ReportedRightly (t t₀ : ℕ) (d : CInt) : Prop :=
  let deadline := trueDeadline t₀ d
  if 0 ≤ d.toInt ∧ deadline - t < 2 ^ 31 then
    (if InLowerHalf deadline then
      t ≤ deadline ∨ (2 ^ 32 : ℤ) ∣ t - deadline
    else deadline ≤ t)
  else InLowerHalf deadline → (deadline - t) % 2 ^ 32 < 2 ^ 31

theorem reportedRightly_iff (t t₀ : ℕ) (d : CInt) :
    ReportedRightly t t₀ d ↔
      (0 ≤ d.toInt → trueDeadline t₀ d - t < 2 ^ 31 →
          (remaining t (millis t₀ + d * 1000)).toInt =
            max 0 (trueDeadline t₀ d - t)) ∧
        0 ≤ (remaining t (millis t₀ + d * 1000)).toInt := by
  rw [toInt_remaining_deadline, ReportedRightly]
  generalize trueDeadline t₀ d = deadline
  by_cases hwanted : 0 ≤ d.toInt ∧ deadline - t < 2 ^ 31
  · rw [if_pos hwanted]
    simp only [hwanted.1, hwanted.2, true_implies]
    by_cases hlower : InLowerHalf deadline
    · simp only [hlower, if_true]
      obtain ⟨-, hnear⟩ := hwanted
      constructor
      · intro h
        split_ifs <;> omega
      · rintro ⟨h, -⟩
        split_ifs at h <;> omega
    · simp only [hlower, if_false]
      omega
  · rw [if_neg hwanted]
    by_cases hlower : InLowerHalf deadline
    · simp only [hlower, if_true, true_implies]
      constructor
      · intro h
        refine ⟨fun hd hnear => absurd ⟨hd, hnear⟩ hwanted, ?_⟩
        rw [if_pos h]
        omega
      · rintro ⟨-, h⟩
        split_ifs at h <;> omega
    · simp only [hlower, if_false, false_implies, true_iff]
      exact ⟨fun hd hnear => absurd ⟨hd, hnear⟩ hwanted, le_refl 0⟩

/-- The report is right exactly if it is right for the pending timer. -/
theorem reportsRemaining_iff
    (lib : ArduinoJson) (settings : Settings) (es : List Event)
    (ch : Channel) (t : ℕ) :
    ReportsRemaining lib settings es ch t ↔
      ∀ t₀ d, Pending lib ch (boot settings) es t₀ d →
        ReportedRightly t t₀ d := by
  have hreported := getDuration_eq t ch (run lib (boot settings) es).device
  constructor
  · rintro ⟨hexact, -, hsign⟩ t₀ d hpending
    rw [hreported] at hexact hsign
    rw [reportedRightly_iff, ← timer_of_pending hpending]
    exact ⟨hexact t₀ d hpending, hsign⟩
  · intro h
    rw [ReportsRemaining, hreported]
    refine ⟨?_, ?_, ?_⟩
    · intro t₀ d hpending
      rw [timer_of_pending hpending]
      exact ((reportedRightly_iff t t₀ d).mp (h t₀ d hpending)).1
    · intro hnone
      have htimer := not_imp_comm.mp pending_of_timer hnone
      rw [htimer, toInt_remaining_noTimer]
    · by_cases hpending :
          ∃ t₀ d, Pending lib ch (boot settings) es t₀ d
      · obtain ⟨t₀, d, hpending⟩ := hpending
        rw [timer_of_pending hpending]
        exact ((reportedRightly_iff t t₀ d).mp (h t₀ d hpending)).2
      · have htimer := not_imp_comm.mp pending_of_timer hpending
        rw [htimer, toInt_remaining_noTimer]

/-- One millisecond after the deadline, and before the next poll, the remaining
time is reported as minus one. -/
theorem not_reportsRemaining_after_deadline :
    ¬ ReportsRemaining .textless (.delivered 0) [switchOnForMinute 1000] .one
      61001 := by
  rintro ⟨-, -, hsign⟩
  exact absurd hsign (by decide)

end Control
end ByteWaterlevel
