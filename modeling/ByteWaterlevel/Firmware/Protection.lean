import ByteWaterlevel.Control.Safety
import ByteWaterlevel.Firmware.Settling

/-!
# Protection from the sensor to the relay

The automation protects the tank from overfilling and the pump from running
dry, but all it knows about the tank is the cached level of a filtered voltage.
This module follows the samples through the filter, the scan and the tick to the
relays.  There are two parts.  While all samples stay in a band, the filtered
voltage and then the cached level stay in the band that the filter has reached.
If no level of that band allows a relay, the next tick switches it off, and
from then on only a request can switch it on again, until the tick after it.

The filter and the level are those over exact rationals.  In single precision a
level can be a rounding step off, so a threshold that lies on the bound of the
band can be decided the other way.
-/

namespace ByteWaterlevel

namespace Control

open DeviceHandler AutomationHandler

/-- Whichever level between `low` and `high` a tick reads, the automation does
not let the relay of the channel be on. -/
def HoldsOff (a : AutomationHandler.State) (low high : ℚ) : Channel → Prop
  | .one => FillMode a ∧ ¬ .fin low < a.maxL
  | .two => a.mode = 1 ∧ ¬ .fin high > a.minL

instance (a : AutomationHandler.State) (low high : ℚ) (ch : Channel) :
    Decidable (HoldsOff a low high ch) :=
  match ch with
  | .one => inferInstanceAs (Decidable (_ ∧ _))
  | .two => inferInstanceAs (Decidable (_ ∧ _))

theorem relay_off_of_tick
    {t : ℕ} {c : Control} {low high q : ℚ} {ch : Channel}
    (hdue : Due t c.auto) (hholds : HoldsOff c.auto low high ch)
    (hlevel : getLevelCached c.device = .fin q)
    (hlow : low ≤ q) (hhigh : q ≤ high) :
    ((loop t c).device.slot ch).relay = false := by
  rw [← Bool.not_eq_true]
  intro hon
  cases ch with
  | one =>
      have hread := level_lt_of_tick hdue hholds.1 hon
      rw [hlevel] at hread
      exact hholds.2 (ExtRat.fin_lt_of_le hlow hread)
  | two =>
      have hread := level_gt_of_tick hdue hholds.1 hon
      rw [hlevel] at hread
      exact hholds.2 (ExtRat.lt_fin_of_le hread hhigh)

/-- A call of the loop does not change what the automation holds off. -/
theorem holdsOff_loop
    (t : ℕ) (c : Control) (low high : ℚ) (ch : Channel) :
    HoldsOff (loop t c).auto low high ch ↔ HoldsOff c.auto low high ch := by
  obtain ⟨hmode, hmax, hmin, -⟩ := loop_settings t c
  cases ch with
  | one => simp only [HoldsOff, FillMode, hmode, hmax]
  | two => simp only [HoldsOff, hmode, hmin]

end Control

namespace Firmware

open DeviceHandler AutomationHandler

variable (lib : ArduinoJson) (decimals : ExtRat → ℕ → String)

/-- The event is an API request that calls `setRelais` on the channel. -/
def Addresses (ch : Channel) (fw : Firmware) (e : Event) : Prop :=
  ∃ amb json reboot r, e = .api amb json reboot ∧
    WebHandler.relaisRequest lib amb fw.files json = some r ∧
    r.channel.setWidth 8 = ch.number8

/-- The event does not restart the device, and if it is the end of an ADC task
then all samples of the batch are between `lo` and `hi` millivolts. -/
def Steady (lo hi : ℕ) (fw : Firmware) (e : Event) : Prop :=
  ¬ RestartsDevice lib fw e ∧
    ∀ samples, e = .adcTask samples →
      ∀ i, lo ≤ (samples i).toNat ∧ (samples i).toNat ≤ hi

theorem holdsOff_step
    {fw : Firmware} {e : Event} (h : ¬ RestartsDevice lib fw e)
    (low high : ℚ) (ch : Channel) :
    Control.HoldsOff (step lib decimals fw e).control.auto low high ch ↔
      Control.HoldsOff fw.control.auto low high ch := by
  cases e with
  | automationLoop t => exact Control.holdsOff_loop t fw.control low high ch
  | api amb json reboot =>
      obtain ⟨files, heq⟩ := step_api lib decimals reboot h
      rw [heq]
  | _ => exact Iff.rfl

theorem not_ticks_controlEvents
    {fw : Firmware} {e : Event} (h : ¬ Ticks fw e) :
    Control.Along lib (fun c ce => ¬ Control.Ticks c ce) fw.control
      (controlEvents lib fw e) := by
  cases e with
  | automationLoop t =>
      refine ⟨?_, trivial⟩
      rintro ⟨t', heq, hdue⟩
      cases heq
      exact h ⟨t, rfl, hdue⟩
  | checkConnection t first second => trivial
  | mqttLoop t connected => trivial
  | otaLoop => trivial
  | _ =>
      refine ⟨?_, trivial⟩
      rintro ⟨t', heq, -⟩
      cases heq

theorem not_callsSetRelais_controlEvents
    {fw : Firmware} {e : Event} {ch : Channel} (h : ¬ Addresses lib ch fw e) :
    ∀ ce ∈ controlEvents lib fw e, ¬ Control.CallsSetRelais lib ch ce := by
  rintro ce hce ⟨files, amb, json, next, r, rfl, hrequest, hch⟩
  cases e with
  | api amb' json' reboot =>
      cases List.mem_singleton.mp hce
      exact h ⟨amb, json, reboot, r, rfl, hrequest, hch⟩
  | _ => simp [controlEvents] at hce

/-- A step that is neither an executed tick nor a request for the channel
cannot switch its relay on. -/
theorem step_relay_off
    {fw : Firmware} {e : Event} {ch : Channel} (hticks : ¬ Ticks fw e)
    (hcalls : ¬ Addresses lib ch fw e)
    (h : (fw.control.device.slot ch).relay = false) :
    ((step lib decimals fw e).control.device.slot ch).relay = false := by
  rw [← Bool.not_eq_true] at h ⊢
  intro hon
  rw [step_control] at hon
  exact h (Control.relay_of_run (not_ticks_controlEvents lib hticks)
    (not_callsSetRelais_controlEvents lib hcalls) hon)

/-! ## The band of the readings -/

/-- The calibration, and the filtered voltage between `low` and `high` volts. -/
structure Banded (minV maxV low high : ℚ) (fw : Firmware) : Prop where
  calibration : fw.control.device.minV = .fin minV ∧
    fw.control.device.maxV = .fin maxV
  voltage : ∃ v, fw.control.device.latestVoltage = .fin v ∧ low ≤ v ∧ v ≤ high

/-- In addition the cached level is between the levels of the two voltages. -/
structure Scanned (minV maxV low high : ℚ) (fw : Firmware) : Prop
    extends Banded minV maxV low high fw where
  level : ∃ q, getLevelCached fw.control.device = .fin q ∧
    shownLevel minV maxV low ≤ q ∧ q ≤ shownLevel minV maxV high

/-- In addition the automation holds the relay of the channel off, and it is
off. -/
structure HeldOff (minV maxV low high : ℚ) (ch : Channel) (fw : Firmware) :
    Prop extends Scanned minV maxV low high fw where
  holds : Control.HoldsOff fw.control.auto (shownLevel minV maxV low)
    (shownLevel minV maxV high) ch
  relay : (fw.control.device.slot ch).relay = false

section Band

variable {lib} {minV maxV low high : ℚ} {lo hi : ℕ}

theorem Banded.pipeline
    {fw : Firmware} (h : Banded minV maxV low high fw) :
    ∃ v, low ≤ v ∧ v ≤ high ∧
      fw.pipeline =
        ⟨.fin minV, .fin maxV, .fin v, fw.control.device.scanWaterLevel⟩ := by
  obtain ⟨⟨hmin, hmax⟩, v, hv, hlow, hhigh⟩ := h
  refine ⟨v, hlow, hhigh, ?_⟩
  rw [Firmware.pipeline, hmin, hmax, hv]

theorem average_between
    (hhi : 64 * hi < 2 ^ 32) {samples : Fin 64 → ULong}
    (h : ∀ i, lo ≤ (samples i).toNat ∧ (samples i).toNat ≤ hi) :
    (lo / 1000 : ℚ) ≤ averageVoltage samples ∧
      averageVoltage samples ≤ (hi / 1000 : ℚ) := by
  have hcall : ∀ call ∈ [SensorCall.getADCValue samples],
      call.Between lo hi := by
    intro call hcall
    rw [List.mem_singleton.mp hcall]
    exact h
  exact averages_between hhi hcall _ (List.mem_singleton_self _)

/-- The filter stays in a band that contains the samples. -/
theorem banded_step
    (hlow : low ≤ lo / 1000) (hhigh : hi / 1000 ≤ high)
    (hhi : 64 * hi < 2 ^ 32) {fw : Firmware} {e : Event}
    (h : Banded minV maxV low high fw) (he : Steady lib lo hi fw e) :
    Banded minV maxV low high (step lib decimals fw e) := by
  obtain ⟨⟨hmin, hmax⟩, v, hv, hlowV, hhighV⟩ := h
  have hkeeps : ∀ p : Pipeline, (step lib decimals fw e).pipeline = p →
      p.minV = fw.pipeline.minV → p.maxV = fw.pipeline.maxV →
      (∃ w, p.voltage = .fin w ∧ low ≤ w ∧ w ≤ high) →
      Banded minV maxV low high (step lib decimals fw e) := by
    rintro p rfl hmin' hmax' hvoltage
    exact ⟨⟨hmin'.trans hmin, hmax'.trans hmax⟩, hvoltage⟩
  rcases step_pipeline lib decimals he.1 with
    heq | heq | ⟨samples, rfl, heq⟩
  · exact hkeeps _ heq rfl rfl ⟨v, hv, hlowV, hhighV⟩
  · exact hkeeps _ heq rfl rfl ⟨v, hv, hlowV, hhighV⟩
  · obtain ⟨hlowA, hhighA⟩ := average_between hhi (he.2 samples rfl)
    refine hkeeps _ heq rfl rfl
      ⟨_, getADCValue_latestVoltage samples hv, ?_, ?_⟩
    · unfold filtered
      linarith
    · unfold filtered
      linarith

/-- An executed scan takes the cached level into the band. -/
theorem scanned_of_scan
    (hlt : minV < maxV) {fw : Firmware} {t : ℕ} {temperature : ExtRat}
    (h : Banded minV maxV low high fw)
    (hscan : millis t - fw.control.device.scanMillis ≥
      InternalConfig.scanInterval)
    (hnext : Banded minV maxV low high
      (step lib decimals fw (.handleScan t temperature))) :
    Scanned minV maxV low high
      (step lib decimals fw (.handleScan t temperature)) := by
  obtain ⟨v, hlow, hhigh, hpipe⟩ := h.pipeline
  refine ⟨hnext, shownLevel minV maxV v, ?_, shownLevel_mono hlt hlow,
    shownLevel_mono hlt hhigh⟩
  rw [← scanned_level hlt hpipe]
  simp only [step, handleScan, if_pos hscan]
  rfl

theorem scanned_step
    (hlow : low ≤ lo / 1000) (hhigh : hi / 1000 ≤ high)
    (hhi : 64 * hi < 2 ^ 32) (hlt : minV < maxV) {fw : Firmware} {e : Event}
    (h : Scanned minV maxV low high fw) (he : Steady lib lo hi fw e) :
    Scanned minV maxV low high (step lib decimals fw e) := by
  refine ⟨banded_step decimals hlow hhigh hhi h.toBanded he, ?_⟩
  obtain ⟨v, hlowV, hhighV, hpipe⟩ := h.toBanded.pipeline
  rcases step_pipeline lib decimals he.1 with
    heq | heq | ⟨samples, rfl, heq⟩
  · have hlevel : (step lib decimals fw e).control.device.scanWaterLevel =
        fw.control.device.scanWaterLevel := congrArg Pipeline.level heq
    rw [getLevelCached, hlevel]
    exact h.level
  · have hlevel : (step lib decimals fw e).control.device.scanWaterLevel =
        .fin (shownLevel minV maxV v) := by
      rw [← scanned_level hlt hpipe]
      exact congrArg Pipeline.level heq
    rw [getLevelCached, hlevel]
    exact ⟨_, rfl, shownLevel_mono hlt hlowV, shownLevel_mono hlt hhighV⟩
  · have hlevel :
        (step lib decimals fw (.adcTask samples)).control.device.scanWaterLevel
          = fw.control.device.scanWaterLevel := congrArg Pipeline.level heq
    rw [getLevelCached, hlevel]
    exact h.level

/-- An executed tick switches off what the automation holds off. -/
theorem heldOff_of_tick
    (hlow : low ≤ lo / 1000) (hhigh : hi / 1000 ≤ high)
    (hhi : 64 * hi < 2 ^ 32) (hlt : minV < maxV) {fw : Firmware} {e : Event}
    {ch : Channel} (h : Scanned minV maxV low high fw)
    (hholds : Control.HoldsOff fw.control.auto (shownLevel minV maxV low)
      (shownLevel minV maxV high) ch)
    (he : Steady lib lo hi fw e) (htick : Ticks fw e) :
    HeldOff minV maxV low high ch (step lib decimals fw e) := by
  refine ⟨scanned_step decimals hlow hhigh hhi hlt h he,
    (holdsOff_step lib decimals he.1 _ _ ch).mpr hholds, ?_⟩
  obtain ⟨t, rfl, hdue⟩ := htick
  obtain ⟨q, hq, hlowQ, hhighQ⟩ := h.level
  exact Control.relay_off_of_tick hdue hholds hq hlowQ hhighQ

/-- Afterwards it stays off, through all ticks, until a request addresses the
channel. -/
theorem heldOff_step
    (hlow : low ≤ lo / 1000) (hhigh : hi / 1000 ≤ high)
    (hhi : 64 * hi < 2 ^ 32) (hlt : minV < maxV) {fw : Firmware} {e : Event}
    {ch : Channel} (h : HeldOff minV maxV low high ch fw)
    (he : Steady lib lo hi fw e) (hcalls : ¬ Addresses lib ch fw e) :
    HeldOff minV maxV low high ch (step lib decimals fw e) := by
  by_cases htick : Ticks fw e
  · exact heldOff_of_tick decimals hlow hhigh hhi hlt h.toScanned h.holds he
      htick
  · exact ⟨scanned_step decimals hlow hhigh hhi hlt h.toScanned he,
      (holdsOff_step lib decimals he.1 _ _ ch).mpr h.holds,
      step_relay_off lib decimals htick hcalls h.relay⟩

end Band

/-! ## Runs -/

/-- The lowest voltage of a filter that has come from `v` to samples of at least
`lo` millivolts by the factor `shrink`, and stays with such samples. -/
def settledLow (lo : ℕ) (v shrink : ℚ) : ℚ :=
  lo / 1000 + min 0 (shrink * (v - lo / 1000))

/-- The highest voltage, with samples of at most `hi` millivolts. -/
def settledHigh (hi : ℕ) (v shrink : ℚ) : ℚ :=
  hi / 1000 + max 0 (shrink * (v - hi / 1000))

theorem settledLow_le (lo : ℕ) (v shrink : ℚ) :
    settledLow lo v shrink ≤ lo / 1000 :=
  add_le_of_nonpos_right (min_le_left 0 _)

theorem le_settledHigh (hi : ℕ) (v shrink : ℚ) :
    hi / 1000 ≤ settledHigh hi v shrink :=
  le_add_of_nonneg_right (le_max_left 0 _)

section Run

variable {lib decimals} {fw : Firmware} {es : List Event} {lo hi : ℕ}
  {minV maxV low high v : ℚ} {ch : Channel}

theorem samples_of_steady
    (h : Along lib decimals (Steady lib lo hi) fw es) :
    ∀ samples, .adcTask samples ∈ es →
      ∀ i, lo ≤ (samples i).toNat ∧ (samples i).toNat ≤ hi := by
  intro samples hmem
  obtain ⟨pre, post, hsplit⟩ := List.append_of_mem hmem
  have hsteady := Machine.along_iff_forall_split.mp h pre _ post hsplit
  exact hsteady.2 samples rfl

theorem holdsOff_run
    (h : Along lib decimals (Steady lib lo hi) fw es)
    (hholds : Control.HoldsOff fw.control.auto low high ch) :
    Control.HoldsOff (run lib decimals fw es).control.auto low high ch :=
  Machine.run_invariant_along
    (fun (fw : Firmware) _ hfw (he : Steady lib lo hi fw _) =>
      (holdsOff_step lib decimals he.1 low high ch).mpr hfw)
    hholds h

theorem banded_run
    (hhi : 64 * hi < 2 ^ 32)
    (hmin : fw.control.device.minV = .fin minV)
    (hmax : fw.control.device.maxV = .fin maxV)
    (hv : getADCValueCached fw.control.device = .fin v)
    (h : Along lib decimals (Steady lib lo hi) fw es) :
    Banded minV maxV
      (settledLow lo v ((7 / 10) ^ tasksDone lib decimals fw es))
      (settledHigh hi v ((7 / 10) ^ tasksDone lib decimals fw es))
      (run lib decimals fw es) := by
  have hrestart := Machine.along_mono (fun _ _ he => he.1) h
  obtain ⟨hcalibration, v', hv', hlow, hhigh⟩ := run_settles lib decimals
    hrestart hhi (samples_of_steady h) hmin hmax hv
  refine ⟨hcalibration, v', hv', ?_, ?_⟩
  · exact le_sub_iff_add_le'.mp ((min_le_right 0 _).trans hlow)
  · exact sub_le_iff_le_add'.mp (hhigh.trans (le_max_right 0 _))

end Run

/-- Between two boots, let all samples be between `lo` and `hi` millivolts, with
`hi` below 2 ^ 26 so that no sum of samples wraps, and let the calibration and
the voltage be finite with the minimum below the maximum.  Let no level of the
band that the filter, without rounding, has reached after `settle` allow the
relay.  After a scan and then a tick that are carried out, the relay is off in
every state before a request addresses the channel. -/
theorem relay_held_off
    (fw : Firmware) (settle mid post : List Event) (t t' : ℕ)
    (temperature : ExtRat) (lo hi : ℕ) (minV maxV v : ℚ) (ch : Channel)
    (hhi : 64 * hi < 2 ^ 32)
    (hmin : fw.control.device.minV = .fin minV)
    (hmax : fw.control.device.maxV = .fin maxV) (hlt : minV < maxV)
    (hv : getADCValueCached fw.control.device = .fin v)
    (hsteady : Along lib decimals (Steady lib lo hi) fw
      (settle ++ .handleScan t temperature ::
        (mid ++ .automationLoop t' :: post)))
    (hscan : millis t -
        (run lib decimals fw settle).control.device.scanMillis ≥
      InternalConfig.scanInterval)
    (hdue : Due t' (run lib decimals fw
      (settle ++ .handleScan t temperature :: mid)).control.auto)
    (hquiet : Along lib decimals (fun fw e => ¬ Addresses lib ch fw e)
      (run lib decimals fw
        (settle ++ .handleScan t temperature ::
          (mid ++ [.automationLoop t']))) post)
    (hholds : Control.HoldsOff fw.control.auto
      (shownLevel minV maxV
        (settledLow lo v ((7 / 10) ^ tasksDone lib decimals fw settle)))
      (shownLevel minV maxV
        (settledHigh hi v ((7 / 10) ^ tasksDone lib decimals fw settle)))
      ch) :
    ((run lib decimals fw
      (settle ++ .handleScan t temperature ::
        (mid ++ .automationLoop t' :: post))).control.device.slot ch).relay =
      false := by
  generalize hshrink : (7 / 10 : ℚ) ^ tasksDone lib decimals fw settle = shrink
    at hholds
  have hlow := settledLow_le lo v shrink
  have hhigh := le_settledHigh hi v shrink
  obtain ⟨hsettle, hscanSteady, hrest⟩ := Machine.along_append.mp hsteady
  obtain ⟨hmid, htickSteady, hpost⟩ := Machine.along_append.mp hrest
  simp only [run, Machine.run_append, Machine.run_cons, Machine.run_nil]
    at hscan hdue hquiet ⊢
  have hbanded := banded_run hhi hmin hmax hv hsettle
  rw [hshrink] at hbanded
  have hscanned := scanned_of_scan decimals hlt hbanded hscan
    (banded_step decimals hlow hhigh hhi hbanded hscanSteady)
  have hscannedMid := Machine.run_invariant_along
    (fun _ _ hfw he => scanned_step decimals hlow hhigh hhi hlt hfw he)
    hscanned hmid
  have hholdsMid := holdsOff_run hmid
    ((holdsOff_step lib decimals hscanSteady.1 _ _ ch).mpr
      (holdsOff_run hsettle hholds))
  have hheld := heldOff_of_tick decimals hlow hhigh hhi hlt
    hscannedMid hholdsMid htickSteady ⟨t', rfl, hdue⟩
  exact (Machine.run_invariant_along
    (fun _ _ hfw he =>
      heldOff_step decimals hlow hhigh hhi hlt hfw he.1 he.2)
    hheld (Machine.along_and hpost hquiet)).relay

/-- The tank is full, but the first tick after the boot reads a level of zero
and starts to fill.  Five batches of exactly 3 volts later the level is above 83
percent, and the next tick stops at the maximum of 80. -/
theorem relay_held_off_in_full_tank :
    let settle : List Event :=
      [.handleScan 1000 (.fin 20), .automationLoop 1000,
        .adcTask fun _ => 3000, .handleScan 2000 (.fin 20),
        .adcTask fun _ => 3000, .handleScan 3000 (.fin 20),
        .adcTask fun _ => 3000, .handleScan 4000 (.fin 20),
        .adcTask fun _ => 3000, .handleScan 5000 (.fin 20),
        .adcTask fun _ => 3000]
    ((run tankLib ExtRat.toFixed tankBoot
        settle).control.device.slot .one).relay = true ∧
      ((run tankLib ExtRat.toFixed tankBoot
        (settle ++ .handleScan 6000 (.fin 20) ::
          ([] ++ .automationLoop 6000 ::
            [.handleRelais 6100,
              .automationLoop 7000]))).control.device.slot .one).relay =
        false := by
  intro settle
  have htasks : tasksDone tankLib ExtRat.toFixed tankBoot settle = 5 := by
    decide +kernel
  refine ⟨by decide +kernel, ?_⟩
  refine relay_held_off tankLib ExtRat.toFixed tankBoot settle []
    [.handleRelais 6100, .automationLoop 7000] 6000 6000 (.fin 20) 3000 3000
    0 3 0 .one (by norm_num) (by decide +kernel) (by decide +kernel)
    (by norm_num) (by decide +kernel) ?_ (by decide +kernel)
    (by decide +kernel) ?_ ?_
  · refine Machine.along_of_forall_mem ?_
    intro fw e he
    refine ⟨?_, ?_⟩
    · rintro ⟨amb, json, reboot, rfl, -⟩
      exact absurd he (by simp [settle])
    · rintro samples rfl i
      obtain rfl : samples = fun _ => 3000 := by simpa [settle] using he
      exact (by decide :
        3000 ≤ (3000 : ULong).toNat ∧ (3000 : ULong).toNat ≤ 3000)
  · refine Machine.along_of_forall_mem ?_
    rintro fw e he ⟨amb, json, reboot, r, rfl, -⟩
    exact absurd he (by simp)
  · rw [htasks]
    decide +kernel

end Firmware
end ByteWaterlevel
