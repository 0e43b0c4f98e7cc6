import ByteWaterlevel.Firmware.ColdStart
import ByteWaterlevel.Firmware.Sampling
import ByteWaterlevel.Support.Smoothing

/-!
# How fast the readings settle

The voltage filter is an exponential smoothing with the weight 3/10.  While the
samples stay in a band, the filtered voltage approaches the band by the factor
7/10 with every ADC task that is carried out, whatever else the firmware does
in the meantime, and the level follows it.

This is about the filter over exact rationals.  On the device every step of it is
rounded to single precision, and the voltage can come to rest a few rounding
errors away from the band.  The samples are bounded so that the sum of the 64
samples of a batch fits into its 32 bits.
-/

namespace ByteWaterlevel
namespace DeviceHandler

open Smoothing

/-- The averages that the calls filter in. -/
def averages (calls : List SensorCall) : List ℚ :=
  calls.filterMap fun
    | .getADCValue samples => some (averageVoltage samples)
    | .scanSensors _ => none

/-- The voltage after a run of the pipeline is the smoothed one. -/
theorem sensorRun_voltage
    {d : State} {v : ℚ} (hv : d.latestVoltage = .fin v)
    (calls : List SensorCall) :
    (sensorRun d calls).latestVoltage =
      .fin (Machine.run (smooth (3 / 10)) v (averages calls)) := by
  induction calls generalizing d v with
  | nil => exact hv
  | cons call calls ih =>
      cases call with
      | getADCValue samples => exact ih (getADCValue_latestVoltage samples hv)
      | scanSensors temperature => exact ih hv

/-- The pipeline does not change the calibration. -/
theorem sensorRun_calibration (d : State) (calls : List SensorCall) :
    (sensorRun d calls).minV = d.minV ∧ (sensorRun d calls).maxV = d.maxV := by
  induction calls generalizing d with
  | nil => exact ⟨rfl, rfl⟩
  | cons call calls ih =>
      cases call with
      | getADCValue samples => exact ih (getADCValue samples d)
      | scanSensors temperature => exact ih (scanSensors temperature d)

/-- All samples of the call are between `lo` and `hi` millivolts. -/
def SensorCall.Between (lo hi : ℕ) (call : SensorCall) : Prop :=
  call.All fun sample => lo ≤ sample ∧ sample ≤ hi

theorem averages_between
    {lo hi : ℕ} (hhi : 64 * hi < 2 ^ 32) {calls : List SensorCall}
    (h : ∀ call ∈ calls, call.Between lo hi) :
    ∀ x ∈ averages calls, (lo / 1000 : ℚ) ≤ x ∧ x ≤ (hi / 1000 : ℚ) := by
  intro x hx
  obtain ⟨call, hcall, hx⟩ := List.mem_filterMap.mp hx
  cases call with
  | scanSensors temperature => exact absurd hx (by simp)
  | getADCValue samples =>
      obtain rfl : averageVoltage samples = x := by simpa using hx
      have hbetween : ∀ i, lo ≤ (samples i).toNat ∧ (samples i).toNat ≤ hi :=
        h _ hcall
      refine ⟨?_, (averageVoltage_mem hhi fun i => (hbetween i).2).2⟩
      have hrange : ∀ i, 64 * (samples i).toNat < 2 ^ 32 := by
        intro i
        have hi' := (hbetween i).2
        omega
      obtain ⟨i, hi'⟩ := exists_sample_le_average hrange
      have hlo : (lo : ℚ) ≤ (samples i).toNat :=
        Nat.cast_le.mpr (hbetween i).1
      calc
        (lo / 1000 : ℚ) ≤ (samples i).toNat / 1000 := by gcongr
        _ ≤ averageVoltage samples := hi'

/-- The voltage of a run whose samples stay in a band. -/
theorem sensorRun_settles
    {lo hi : ℕ} (hhi : 64 * hi < 2 ^ 32) {calls : List SensorCall}
    (h : ∀ call ∈ calls, call.Between lo hi) (v : ℚ) :
    let n := (averages calls).length
    let v' := Machine.run (smooth (3 / 10)) v (averages calls)
    (7 / 10) ^ n * (v - lo / 1000) ≤ v' - lo / 1000 ∧
      v' - hi / 1000 ≤ (7 / 10) ^ n * (v - hi / 1000) := by
  have hfactor : (1 - 3 / 10 : ℚ) = 7 / 10 := by norm_num
  have hlow := le_run_sub (α := 3 / 10) (by norm_num) (by norm_num)
    (fun x hx => (averages_between hhi h x hx).1) v
  have hhigh := run_sub_le (α := 3 / 10) (by norm_num) (by norm_num)
    (fun x hx => (averages_between hhi h x hx).2) v
  rw [hfactor] at hlow hhigh
  exact ⟨hlow, hhigh⟩

end DeviceHandler

namespace Firmware

open DeviceHandler

variable (lib : ArduinoJson) (decimals : ExtRat → ℕ → String)

/-- The number of ADC tasks that are carried out in a run. -/
def tasksDone (fw : Firmware) (es : List Event) : ℕ :=
  (averages (Machine.trace (step lib decimals) sensorCalls fw es)).length

/-- The calibration and the filtered voltage after a run whose samples stay
between `lo` and `hi` millivolts. -/
theorem run_settles
    {fw : Firmware} {es : List Event} {lo hi : ℕ} {minV maxV v : ℚ}
    (hrestart : Along lib decimals (fun fw e => ¬ RestartsDevice lib fw e)
      fw es)
    (hhi : 64 * hi < 2 ^ 32)
    (hsamples : ∀ samples, .adcTask samples ∈ es →
      ∀ i, lo ≤ (samples i).toNat ∧ (samples i).toNat ≤ hi)
    (hmin : fw.control.device.minV = .fin minV)
    (hmax : fw.control.device.maxV = .fin maxV)
    (hv : getADCValueCached fw.control.device = .fin v) :
    let d := (run lib decimals fw es).control.device
    let shrink := (7 / 10 : ℚ) ^ tasksDone lib decimals fw es
    (d.minV = .fin minV ∧ d.maxV = .fin maxV) ∧
      ∃ v' : ℚ, getADCValueCached d = .fin v' ∧
        shrink * (v - lo / 1000) ≤ v' - lo / 1000 ∧
        v' - hi / 1000 ≤ shrink * (v - hi / 1000) := by
  have hreadout := run_readout lib decimals hrestart
    (d := fw.control.device) rfl
  have hcalls : ∀ call ∈ Machine.trace (step lib decimals) sensorCalls fw es,
      call.Between lo hi :=
    trace_sensorCalls_all lib decimals fw
      (P := fun sample => lo ≤ sample ∧ sample ≤ hi) hsamples
  obtain ⟨hlow, hhigh⟩ := sensorRun_settles hhi hcalls v
  obtain ⟨hminV, hmaxV⟩ := sensorRun_calibration fw.control.device
    (Machine.trace (step lib decimals) sensorCalls fw es)
  intro d shrink
  refine ⟨⟨?_, ?_⟩, _, ?_, hlow, hhigh⟩
  · exact ((congrArg Readout.minV hreadout).trans hminV).trans hmin
  · exact ((congrArg Readout.maxV hreadout).trans hmaxV).trans hmax
  · exact (congrArg Readout.latestVoltage hreadout).trans
      (sensorRun_voltage hv _)

/-- Between two boots, let all samples be between `lo` and `hi` millivolts, with
`hi` below 2 ^ 26 so that no sum of samples wraps, and let the calibration and
the voltage be finite with the minimum below the maximum.  Without rounding, the
filtered voltage approaches the band by the factor 7/10 with each ADC task, and
the level of the next scan lies between the levels of the two bounds. -/
theorem level_settles
    (fw : Firmware) (es : List Event) (lo hi : ℕ) (minV maxV v : ℚ)
    (hrestart : Along lib decimals (fun fw e => ¬ RestartsDevice lib fw e)
      fw es)
    (hhi : 64 * hi < 2 ^ 32)
    (hsamples : ∀ samples, .adcTask samples ∈ es →
      ∀ i, lo ≤ (samples i).toNat ∧ (samples i).toNat ≤ hi)
    (hmin : fw.control.device.minV = .fin minV)
    (hmax : fw.control.device.maxV = .fin maxV) (hlt : minV < maxV)
    (hv : getADCValueCached fw.control.device = .fin v) :
    let d := (run lib decimals fw es).control.device
    let shrink := (7 / 10 : ℚ) ^ tasksDone lib decimals fw es
    ∃ v' level : ℚ, getADCValueCached d = .fin v' ∧
      shrink * (v - lo / 1000) ≤ v' - lo / 1000 ∧
      v' - hi / 1000 ≤ shrink * (v - hi / 1000) ∧
      getLevel d = .fin level ∧
      percent minV maxV (lo / 1000 + shrink * (v - lo / 1000)) ≤ level ∧
      level ≤ percent minV maxV (hi / 1000 + shrink * (v - hi / 1000)) := by
  obtain ⟨⟨hminV, hmaxV⟩, v', hvoltage, hlow, hhigh⟩ :=
    run_settles lib decimals hrestart hhi hsamples hmin hmax hv
  intro d shrink
  have hlevel : getLevel d = .fin (percent minV maxV v') := by
    rw [getADCValueCached] at hvoltage
    rw [getLevel, hminV, hmaxV, hvoltage]
    exact levelOf_fin hlt v'
  refine ⟨v', _, hvoltage, hlow, hhigh, hlevel, ?_, ?_⟩
  · exact percent_mono hlt (le_sub_iff_add_le'.mp hlow)
  · exact percent_mono hlt (sub_le_iff_le_add'.mp hhigh)

/-- Two batches of exactly 3 volts after a boot: the voltage is short of 3 by
the square of 7/10 of them. -/
theorem level_settles_after_two_batches :
    ∃ v' level : ℚ,
      getADCValueCached (run tankLib ExtRat.toFixed tankBoot
        [.handleScan 1000 (.fin 20), .adcTask fun _ => 3000,
          .handleScan 2000 (.fin 20),
          .adcTask fun _ => 3000]).control.device = .fin v' ∧
        (7 / 10) ^ 2 * (0 - 3000 / 1000) ≤ v' - 3000 / 1000 ∧
        v' - 3000 / 1000 ≤ (7 / 10) ^ 2 * (0 - 3000 / 1000) ∧
        getLevel (run tankLib ExtRat.toFixed tankBoot
          [.handleScan 1000 (.fin 20), .adcTask fun _ => 3000,
            .handleScan 2000 (.fin 20),
            .adcTask fun _ => 3000]).control.device = .fin level ∧
        percent 0 3 (3000 / 1000 + (7 / 10) ^ 2 * (0 - 3000 / 1000)) ≤ level ∧
        level ≤ percent 0 3 (3000 / 1000 + (7 / 10) ^ 2 * (0 - 3000 / 1000))
    := by
  have htasks : tasksDone tankLib ExtRat.toFixed tankBoot
      [.handleScan 1000 (.fin 20), .adcTask fun _ => 3000,
        .handleScan 2000 (.fin 20), .adcTask fun _ => 3000] = 2 := by
    decide +kernel
  have hsettles := level_settles tankLib ExtRat.toFixed tankBoot
    [.handleScan 1000 (.fin 20), .adcTask fun _ => 3000,
      .handleScan 2000 (.fin 20), .adcTask fun _ => 3000] 3000 3000 0 3 0
    (Machine.along_of_forall_mem (by
      rintro fw e he ⟨amb, json, reboot, rfl, -⟩
      exact absurd he (by simp)))
    (by norm_num)
    (by
      intro samples hsamples i
      simp only [List.mem_cons, reduceCtorEq, Event.adcTask.injEq,
        List.not_mem_nil, or_false, false_or, or_self] at hsamples
      subst hsamples
      exact (by decide :
        3000 ≤ (3000 : ULong).toNat ∧ (3000 : ULong).toNat ≤ 3000))
    (by decide +kernel) (by decide +kernel) (by norm_num) (by decide +kernel)
  rw [htasks] at hsettles
  simpa using hsettles

end Firmware
end ByteWaterlevel
