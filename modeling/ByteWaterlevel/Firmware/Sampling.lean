import ByteWaterlevel.Main
import ByteWaterlevel.Sensors.Pipeline

/-!
# The sensor pipeline of the firmware

Between two boots the sensor pipeline is driven by the scans that pass their
gate and by the ADC tasks that were created, and by nothing else.  A run of the
firmware is therefore, on the readings, a run of the pipeline, and the bounds
of the pipeline hold in every state of the firmware.
-/

namespace ByteWaterlevel

namespace DeviceHandler

/-- The variables that the readings come from. -/
structure Readout where
  latestVoltage : ExtRat
  maxV : ExtRat
  minV : ExtRat
  tankVolume : ExtRat
  scanWaterLevel : ExtRat
  scanWaterVolume : ExtRat

def Sensors.readout (s : Sensors) : Readout where
  latestVoltage := s.latestVoltage
  maxV := s.maxV
  minV := s.minV
  tankVolume := s.tankVolume
  scanWaterLevel := s.scanWaterLevel
  scanWaterVolume := s.scanWaterVolume

def State.readout (d : State) : Readout := d.sensors.readout

/-- What a call makes of the readout depends on the readout alone. -/
theorem sensorStep_readout
    {d d' : State} (h : d.readout = d'.readout) (call : SensorCall) :
    (sensorStep d call).readout = (sensorStep d' call).readout := by
  have hvoltage : d.latestVoltage = d'.latestVoltage :=
    congrArg Readout.latestVoltage h
  have hmax : d.maxV = d'.maxV := congrArg Readout.maxV h
  have hmin : d.minV = d'.minV := congrArg Readout.minV h
  have htank : d.tankVolume = d'.tankVolume := congrArg Readout.tankVolume h
  have hlevel : d.scanWaterLevel = d'.scanWaterLevel :=
    congrArg Readout.scanWaterLevel h
  have hvolume : d.scanWaterVolume = d'.scanWaterVolume :=
    congrArg Readout.scanWaterVolume h
  cases call with
  | getADCValue samples =>
      simp only [sensorStep, getADCValue, readVoltage, State.readout,
        State.sensors, Sensors.readout, hvoltage, hmax, hmin, htank, hlevel,
        hvolume]
  | scanSensors temperature =>
      simp only [sensorStep, scanSensors, cacheReadings, readings, getVolume,
        getLevel, State.readout, State.sensors, Sensors.readout, hvoltage,
        hmax, hmin, htank]

theorem sensorRun_readout
    {d d' : State} (h : d.readout = d'.readout) (calls : List SensorCall) :
    (sensorRun d calls).readout = (sensorRun d' calls).readout := by
  induction calls generalizing d d' with
  | nil => exact h
  | cons call calls ih => exact ih (sensorStep_readout h call)

/-! The bounds of the pipeline are properties of the readout. -/

theorem voltageWithin_congr
    {d d' : State} (h : d.readout = d'.readout) (M : ℕ) :
    VoltageWithin M d ↔ VoltageWithin M d' := by
  have hvoltage : getADCValueCached d = getADCValueCached d' :=
    congrArg Readout.latestVoltage h
  rw [VoltageWithin, hvoltage, ← VoltageWithin]

theorem levelWithin_congr
    {d d' : State} (h : d.readout = d'.readout) :
    LevelWithin d ↔ LevelWithin d' := by
  have hlevel : getLevelCached d = getLevelCached d' :=
    congrArg Readout.scanWaterLevel h
  rw [LevelWithin, hlevel, ← LevelWithin]

theorem volumeWithin_congr
    {d d' : State} (h : d.readout = d'.readout) (tankVolume : ℚ) :
    VolumeWithin tankVolume d ↔ VolumeWithin tankVolume d' := by
  have hvolume : getVolume d = getVolume d' :=
    congrArg (fun r : Readout =>
      r.tankVolume * (levelOf r.minV r.maxV r.latestVoltage / .fin 100)) h
  rw [VolumeWithin, hvolume, ← VolumeWithin]

end DeviceHandler

namespace Firmware

open DeviceHandler

variable (lib : ArduinoJson) (decimals : ExtRat → ℕ → String)

/-- What a call means for the sensor pipeline. -/
def sensorCalls (fw : Firmware) : Event → List SensorCall
  | .handleScan t temperature =>
      if millis t - fw.control.device.scanMillis ≥
          InternalConfig.scanInterval then [.scanSensors temperature]
      else []
  | .adcTask samples =>
      if fw.control.device.adcTasks = 0 then [] else [.getADCValue samples]
  | _ => []

theorem step_readout
    {fw : Firmware} {e : Event} (h : ¬ RestartsDevice lib fw e) :
    (step lib decimals fw e).control.device.readout =
      (sensorRun fw.control.device (sensorCalls fw e)).readout := by
  cases e with
  | handleScan t temperature =>
      simp only [step, handleScan, sensorCalls]
      split_ifs <;> rfl
  | adcTask samples =>
      simp only [step, adcTaskFunction, sensorCalls]
      split_ifs <;> rfl
  | handleBlink t =>
      simp only [step, handleBlink]
      split_ifs <;> rfl
  | handleDisplay t =>
      simp only [step, handleDisplay]
      split_ifs <;> rfl
  | _ =>
      have hsensors := step_of_away lib decimals awayFromRelays_sensors h rfl
      exact congrArg Sensors.readout hsensors

/-- Between two boots, every run of the firmware is on the readout a run of the
sensor pipeline. -/
theorem run_readout
    {fw : Firmware} {es : List Event}
    (h : Along lib decimals (fun fw e => ¬ RestartsDevice lib fw e) fw es)
    {d : DeviceHandler.State} (hd : fw.control.device.readout = d.readout) :
    (run lib decimals fw es).control.device.readout =
      (sensorRun d
        (Machine.trace (step lib decimals) sensorCalls fw es)).readout := by
  induction es generalizing fw d with
  | nil => exact hd
  | cons e es ih =>
      obtain ⟨he, hes⟩ := h
      have hstep : (step lib decimals fw e).control.device.readout =
          (sensorRun d (sensorCalls fw e)).readout := by
        rw [step_readout lib decimals he]
        exact sensorRun_readout hd _
      rw [run, Machine.run_cons, Machine.trace, sensorRun,
        Machine.run_append]
      exact ih hes hstep

/-! ## The readings of the firmware -/

/-- The configuration has the given calibration. -/
structure HasCalibration (config : Json) (minV maxV tankVolume : ℚ) :
    Prop where
  minV : ((config.get "calibration").get "min").asFloat lib = .fin minV
  maxV : ((config.get "calibration").get "max").asFloat lib = .fin maxV
  tankVolume :
    ((config.get "calibration").get "volume").asFloat lib = .fin tankVolume

theorem setup_readout
    (io : BootInputs) {flash : LittleFS} {minV maxV tankVolume : ℚ}
    (h : HasCalibration lib (bootConfig lib flash) minV maxV tankVolume) :
    (Main.setup lib io flash).control.device.readout =
      (calibrated minV maxV tankVolume).readout := by
  have hboot : (Main.setup lib io flash).control.device.readout =
      { (calibrated minV maxV tankVolume).readout with
        minV := ((bootConfig lib flash).get "calibration").get "min"
          |>.asFloat lib
        maxV := ((bootConfig lib flash).get "calibration").get "max"
          |>.asFloat lib
        tankVolume := ((bootConfig lib flash).get "calibration").get "volume"
          |>.asFloat lib } := by
    rw [setup_control]
    rfl
  rw [hboot, h.minV, h.maxV, h.tankVolume]
  rfl

/-- The sensor calls of a run take their samples from its ADC tasks. -/
theorem trace_sensorCalls_all
    {P : ℕ → Prop} (fw : Firmware) {es : List Event}
    (h : ∀ samples, .adcTask samples ∈ es → ∀ i, P (samples i).toNat) :
    ∀ call ∈ Machine.trace (step lib decimals) sensorCalls fw es,
      call.All P := by
  refine Machine.forall_mem_trace (Machine.along_of_forall_mem ?_)
  intro fw e he call hcall
  cases e with
  | adcTask samples =>
      simp only [sensorCalls] at hcall
      split_ifs at hcall
      · exact absurd hcall List.not_mem_nil
      · rw [List.mem_singleton.mp hcall]
        exact h samples he
  | handleScan t temperature =>
      simp only [sensorCalls] at hcall
      split_ifs at hcall
      · rw [List.mem_singleton.mp hcall]
        trivial
      · exact absurd hcall List.not_mem_nil
  | _ => exact absurd hcall List.not_mem_nil

/-- In every state between two boots in which the ADC has delivered at most `M`
millivolts, the readings are within their bounds. -/
theorem readings_within
    (io : BootInputs) {flash : LittleFS} {minV maxV tankVolume : ℚ}
    (hcalibration :
      HasCalibration lib (bootConfig lib flash) minV maxV tankVolume)
    (hne : minV ≠ maxV) (htank : 0 ≤ tankVolume) {M : ℕ}
    (hM : 64 * M < 2 ^ 32) {es : List Event}
    (hrestart : Along lib decimals (fun fw e => ¬ RestartsDevice lib fw e)
      (Main.setup lib io flash) es)
    (hsamples : ∀ samples, .adcTask samples ∈ es →
      ∀ i, (samples i).toNat ≤ M) :
    let d := (run lib decimals (Main.setup lib io flash) es).control.device
    VoltageWithin M d ∧ LevelWithin d ∧ VolumeWithin tankVolume d := by
  have hreadout := run_readout lib decimals hrestart
    (setup_readout lib io hcalibration)
  have hcalls :=
    trace_sensorCalls_all (P := (· ≤ M)) lib decimals (Main.setup lib io flash) hsamples
  have hclamped := clamped_run tankVolume
    (Machine.trace (step lib decimals) sensorCalls
      (Main.setup lib io flash) es) hne
  intro d
  refine ⟨?_, ?_, ?_⟩
  · exact (voltageWithin_congr hreadout M).mpr (voltageWithin_run hM hcalls)
  · exact (levelWithin_congr hreadout).mpr hclamped.levelWithin
  · exact (volumeWithin_congr hreadout tankVolume).mpr
      (hclamped.volumeWithin hne htank)

/-- Two runs from boots with one calibration whose sensor calls are of the same
kinds, with samples that are nowhere larger in the first, end with readings
that are not larger in the first.  Whatever else happens in them, and on which
hardware, makes no difference. -/
theorem readings_ordered
    (io io' : BootInputs) {flash flash' : LittleFS}
    {minV maxV tankVolume : ℚ}
    (hcalibration :
      HasCalibration lib (bootConfig lib flash) minV maxV tankVolume)
    (hcalibration' :
      HasCalibration lib (bootConfig lib flash') minV maxV tankVolume)
    (hlt : minV < maxV) {M : ℕ} (hM : 64 * M < 2 ^ 32)
    {es es' : List Event}
    (hrestart : Along lib decimals (fun fw e => ¬ RestartsDevice lib fw e)
      (Main.setup lib io flash) es)
    (hrestart' : Along lib decimals (fun fw e => ¬ RestartsDevice lib fw e)
      (Main.setup lib io' flash') es')
    (hsamples : ∀ samples, .adcTask samples ∈ es' →
      ∀ i, (samples i).toNat ≤ M)
    (hbelow : List.Forall₂ SensorCall.Below
      (Machine.trace (step lib decimals) sensorCalls
        (Main.setup lib io flash) es)
      (Machine.trace (step lib decimals) sensorCalls
        (Main.setup lib io' flash') es')) :
    let d := (run lib decimals (Main.setup lib io flash) es).control.device
    let d' := (run lib decimals (Main.setup lib io' flash') es').control.device
    getADCValueCached d ≤ getADCValueCached d' ∧
      getLevelCached d ≤ getLevelCached d' ∧
      (0 ≤ tankVolume → getVolumeCached d ≤ getVolumeCached d') := by
  have hreadout := run_readout lib decimals hrestart
    (setup_readout lib io hcalibration)
  have hreadout' := run_readout lib decimals hrestart'
    (setup_readout lib io' hcalibration')
  have hcalls :=
    trace_sensorCalls_all (P := (· ≤ M)) lib decimals (Main.setup lib io' flash') hsamples
  intro d d'
  change d.readout.latestVoltage ≤ d'.readout.latestVoltage ∧
    d.readout.scanWaterLevel ≤ d'.readout.scanWaterLevel ∧
    (0 ≤ tankVolume →
      d.readout.scanWaterVolume ≤ d'.readout.scanWaterVolume)
  rw [hreadout, hreadout']
  exact (readsBelow_run hlt hM hcalls hbelow).le

end Firmware
end ByteWaterlevel
