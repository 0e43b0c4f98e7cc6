import ByteWaterlevel.Sensors
import ByteWaterlevel.Support.Machine

/-!
# Runs of the sensor pipeline

An ADC task filters the average of 64 samples into `latestVoltage`, and a scan
caches the rounded level and volume of the voltage that it finds.  A run is a
sequence of such calls in any order.  As long as a batch can be added up in 32
bits, the filter stays between zero and the largest sample, and with two
different calibration voltages everything after it is finite and clamped.  Each
stage is monotone, so that a run with larger samples has the larger readings
at every point.
-/

namespace ByteWaterlevel
namespace DeviceHandler

/-- What drives the pipeline. -/
inductive SensorCall where
  | getADCValue (samples : Fin 64 → ULong)
  | scanSensors (temperature : ExtRat)

def sensorStep (d : State) : SensorCall → State
  | .getADCValue samples => getADCValue samples d
  | .scanSensors temperature => scanSensors temperature d

abbrev sensorRun := Machine.run sensorStep

/-- The device after a boot with the given calibration. -/
def calibrated (minV maxV tankVolume : ℚ) : State :=
  { initialState with
    minV := .fin minV
    maxV := .fin maxV
    tankVolume := .fin tankVolume }

/-- All samples of the call, in millivolts, satisfy `P`. -/
def SensorCall.All (P : ℕ → Prop) : SensorCall → Prop
  | .getADCValue samples => ∀ i, P (samples i).toNat
  | .scanSensors _ => True

/-- No sample of the call is above `M` millivolts. -/
def SensorCall.AtMost (M : ℕ) (call : SensorCall) : Prop := call.All (· ≤ M)

/-- The calls are of the same kind, and no sample of the first is above the
one of the second at its position. -/
def SensorCall.Below : SensorCall → SensorCall → Prop
  | .getADCValue samples, .getADCValue samples' =>
      ∀ i, (samples i).toNat ≤ (samples' i).toNat
  | .scanSensors _, .scanSensors _ => True
  | _, _ => False

/-- After any number of samples, the 32-bit sum is the sum of these samples. -/
def NeverWraps (samples : Fin 64 → ULong) : Prop :=
  ∀ k, (((List.ofFn samples).take k).foldl (· + ·) (0 : ULong)).toNat =
    (((List.ofFn samples).take k).map BitVec.toNat).sum

def VoltageWithin (M : ℕ) (d : State) : Prop :=
  ∃ v : ℚ, getADCValueCached d = .fin v ∧ 0 ≤ v ∧ v ≤ M / 1000

def LevelWithin (d : State) : Prop :=
  ∃ level : ℚ, getLevelCached d = .fin level ∧ 0 ≤ level ∧ level ≤ 100

/-- The volume before it is rounded. -/
def VolumeWithin (tankVolume : ℚ) (d : State) : Prop :=
  ∃ volume : ℚ, getVolume d = .fin volume ∧ 0 ≤ volume ∧ volume ≤ tankVolume

/-! ## The sum and the filter -/

theorem neverWraps_of_le
    {samples : Fin 64 → ULong} {M : ℕ} (hM : 64 * M < 2 ^ 32)
    (h : ∀ i, (samples i).toNat ≤ M) : NeverWraps samples := by
  intro k
  have hle : ∀ n ∈ ((List.ofFn samples).take k).map BitVec.toNat, n ≤ M := by
    intro n hn
    obtain ⟨sample, hsample, rfl⟩ := List.mem_map.mp hn
    obtain ⟨i, rfl⟩ := List.mem_ofFn.mp (List.mem_of_mem_take hsample)
    exact h i
  have hsum := List.sum_le_card_nsmul _ M hle
  have hlength :
      (((List.ofFn samples).take k).map BitVec.toNat).length ≤ 64 := by
    rw [List.length_map, List.length_take, List.length_ofFn]
    exact min_le_right k 64
  have hlt : (((List.ofFn samples).take k).map BitVec.toNat).sum < 2 ^ 32 := by
    calc
      _ ≤ _ := hsum
      _ ≤ 64 * M := Nat.mul_le_mul_right M hlength
      _ < 2 ^ 32 := hM
  have hzero : (0 : ULong).toNat = 0 := rfl
  rw [toNat_foldl_add, hzero, zero_add, Nat.mod_eq_of_lt hlt]

theorem filtered_mono
    {v v' average average' : ℚ} (hv : v ≤ v') (haverage : average ≤ average') :
    filtered v average ≤ filtered v' average' := by
  unfold filtered
  linarith

theorem voltageWithin_step
    {M : ℕ} (hM : 64 * M < 2 ^ 32) (d : State) (call : SensorCall)
    (hd : VoltageWithin M d) (hcall : call.AtMost M) :
    VoltageWithin M (sensorStep d call) := by
  obtain ⟨v, hv, hnonneg, hle⟩ := hd
  cases call with
  | getADCValue samples =>
      obtain ⟨haverage, haverage'⟩ := averageVoltage_mem hM hcall
      refine ⟨_, getADCValue_latestVoltage samples hv, ?_, ?_⟩
      · unfold filtered
        linarith
      · unfold filtered
        linarith
  | scanSensors temperature => exact ⟨v, hv, hnonneg, hle⟩

/-! ## The level and the volume -/

/-- The volume at a voltage, before it is rounded. -/
def volumeAt (minV maxV tankVolume v : ℚ) : ℚ :=
  tankVolume * (percent minV maxV v / 100)

theorem volumeAt_mono
    {minV maxV tankVolume : ℚ} (h : minV < maxV) (hvolume : 0 ≤ tankVolume) :
    Monotone (volumeAt minV maxV tankVolume) := by
  intro v v' hv
  have hpercent := percent_mono h hv
  unfold volumeAt
  gcongr

theorem volumeAt_mem
    (minV maxV v : ℚ) {tankVolume : ℚ} (h : 0 ≤ tankVolume) :
    0 ≤ volumeAt minV maxV tankVolume v ∧
      volumeAt minV maxV tankVolume v ≤ tankVolume := by
  obtain ⟨hnonneg, hle⟩ := percent_mem minV maxV v
  have hfraction : percent minV maxV v / 100 ≤ 1 := by linarith
  unfold volumeAt
  constructor
  · positivity
  · exact mul_le_of_le_one_right h hfraction

theorem shownLevel_le (minV maxV v : ℚ) : shownLevel minV maxV v ≤ 100 := by
  have hhundred : hundredths 100 = 100 := by
    norm_num [hundredths, ExtRat.roundHalfAway]
  calc
    shownLevel minV maxV v ≤ hundredths 100 :=
      hundredths_mono (percent_mem minV maxV v).2
    _ = 100 := hhundred

/-! ## All readings of a run -/

/-- The device has the given calibration, and its readings are the given
rationals. -/
structure Metered (minV maxV tankVolume : ℚ) (d : State)
    (v level volume : ℚ) : Prop where
  minV : d.minV = .fin minV
  maxV : d.maxV = .fin maxV
  tankVolume : d.tankVolume = .fin tankVolume
  voltage : getADCValueCached d = .fin v
  level : getLevelCached d = .fin level
  volume : getVolumeCached d = .fin volume

theorem metered_calibrated (minV maxV tankVolume : ℚ) :
    Metered minV maxV tankVolume (calibrated minV maxV tankVolume) 0 0 0 :=
  ⟨rfl, rfl, rfl, rfl, rfl, rfl⟩

section

variable {minV maxV tankVolume : ℚ} {d : State} {v level volume : ℚ}

theorem Metered.getLevel_eq
    (h : Metered minV maxV tankVolume d v level volume) (hne : minV ≠ maxV) :
    getLevel d = .fin (percent minV maxV v) := by
  have hvoltage : d.latestVoltage = .fin v := h.voltage
  rw [getLevel, h.minV, h.maxV, hvoltage, levelOf_fin_of_ne hne.symm]

theorem Metered.getVolume_eq
    (h : Metered minV maxV tankVolume d v level volume) (hne : minV ≠ maxV) :
    getVolume d = .fin (volumeAt minV maxV tankVolume v) := by
  rw [getVolume, h.getLevel_eq hne, h.tankVolume,
    ExtRat.fin_div_fin _ (by norm_num), ExtRat.fin_mul_fin]
  rfl

theorem Metered.getADCValue
    (h : Metered minV maxV tankVolume d v level volume)
    (samples : Fin 64 → ULong) :
    Metered minV maxV tankVolume (getADCValue samples d)
      (filtered v (averageVoltage samples)) level volume where
  minV := h.minV
  maxV := h.maxV
  tankVolume := h.tankVolume
  voltage := getADCValue_latestVoltage samples h.voltage
  level := h.level
  volume := h.volume

theorem Metered.scanSensors
    (h : Metered minV maxV tankVolume d v level volume) (hne : minV ≠ maxV)
    (temperature : ExtRat) :
    Metered minV maxV tankVolume (scanSensors temperature d) v
      (shownLevel minV maxV v)
      (hundredths (volumeAt minV maxV tankVolume v)) where
  minV := h.minV
  maxV := h.maxV
  tankVolume := h.tankVolume
  voltage := h.voltage
  level := by
    change roundToTwoDecimals (getLevel d) = _
    rw [h.getLevel_eq hne, roundToTwoDecimals_fin]
    rfl
  volume := by
    change roundToTwoDecimals (getVolume d) = _
    rw [h.getVolume_eq hne, roundToTwoDecimals_fin]

end

/-- The readings are finite, and the cached level is a percentage. -/
def Clamped (minV maxV tankVolume : ℚ) (d : State) : Prop :=
  ∃ v level volume, Metered minV maxV tankVolume d v level volume ∧
    0 ≤ level ∧ level ≤ 100

theorem clamped_step
    {minV maxV tankVolume : ℚ} (hne : minV ≠ maxV) (d : State)
    (call : SensorCall) (hd : Clamped minV maxV tankVolume d) :
    Clamped minV maxV tankVolume (sensorStep d call) := by
  obtain ⟨v, level, volume, hmetered, hlevel⟩ := hd
  cases call with
  | getADCValue samples =>
      exact ⟨_, _, _, hmetered.getADCValue samples, hlevel⟩
  | scanSensors temperature =>
      exact ⟨_, _, _, hmetered.scanSensors hne temperature,
        shownLevel_nonneg minV maxV v, shownLevel_le minV maxV v⟩

theorem Clamped.levelWithin
    {minV maxV tankVolume : ℚ} {d : State}
    (h : Clamped minV maxV tankVolume d) : LevelWithin d := by
  obtain ⟨v, level, volume, hmetered, hlevel⟩ := h
  exact ⟨level, hmetered.level, hlevel⟩

theorem Clamped.volumeWithin
    {minV maxV tankVolume : ℚ} {d : State} (hne : minV ≠ maxV)
    (hvolume : 0 ≤ tankVolume) (h : Clamped minV maxV tankVolume d) :
    VolumeWithin tankVolume d := by
  obtain ⟨v, level, volume, hmetered, -⟩ := h
  exact ⟨_, hmetered.getVolume_eq hne, volumeAt_mem minV maxV v hvolume⟩

/-! ## Two runs -/

/-- No reading of the first device is above that of the second. -/
def ReadsBelow (minV maxV tankVolume : ℚ) (d d' : State) : Prop :=
  ∃ v level volume v' level' volume',
    Metered minV maxV tankVolume d v level volume ∧
      Metered minV maxV tankVolume d' v' level' volume' ∧
      v ≤ v' ∧ level ≤ level' ∧ (0 ≤ tankVolume → volume ≤ volume')

theorem readsBelow_step
    {minV maxV tankVolume : ℚ} (h : minV < maxV) {M : ℕ}
    (hM : 64 * M < 2 ^ 32) (d d' : State) (call call' : SensorCall)
    (hd : ReadsBelow minV maxV tankVolume d d')
    (hcall : call.Below call' ∧ call'.AtMost M) :
    ReadsBelow minV maxV tankVolume (sensorStep d call)
      (sensorStep d' call') := by
  obtain ⟨v, level, volume, v', level', volume', hd, hd', hv, hlevel,
    hvolume⟩ := hd
  cases call with
  | getADCValue samples =>
      cases call' with
      | getADCValue samples' =>
          obtain ⟨hbelow, hatMost⟩ := hcall
          have hrange : ∀ i, 64 * (samples' i).toNat < 2 ^ 32 := by
            intro i
            have hi : (samples' i).toNat ≤ M := hatMost i
            omega
          exact ⟨_, _, _, _, _, _, hd.getADCValue samples,
            hd'.getADCValue samples',
            filtered_mono hv (averageVoltage_le hrange hbelow), hlevel,
            hvolume⟩
      | scanSensors temperature => exact hcall.1.elim
  | scanSensors temperature =>
      cases call' with
      | getADCValue samples => exact hcall.1.elim
      | scanSensors temperature' =>
          refine ⟨_, _, _, _, _, _, hd.scanSensors h.ne temperature,
            hd'.scanSensors h.ne temperature', hv, shownLevel_mono h hv, ?_⟩
          intro htank
          exact hundredths_mono (volumeAt_mono h htank hv)

theorem ReadsBelow.le
    {minV maxV tankVolume : ℚ} {d d' : State}
    (h : ReadsBelow minV maxV tankVolume d d') :
    getADCValueCached d ≤ getADCValueCached d' ∧
      getLevelCached d ≤ getLevelCached d' ∧
      (0 ≤ tankVolume → getVolumeCached d ≤ getVolumeCached d') := by
  obtain ⟨v, level, volume, v', level', volume', hd, hd', hv, hlevel,
    hvolume⟩ := h
  rw [hd.voltage, hd'.voltage, hd.level, hd'.level, hd.volume, hd'.volume]
  refine ⟨ExtRat.fin_le_fin.mpr hv, ExtRat.fin_le_fin.mpr hlevel, ?_⟩
  intro htank
  exact ExtRat.fin_le_fin.mpr (hvolume htank)

/-! ## Runs -/

section

variable {M : ℕ} {minV maxV tankVolume : ℚ} {calls : List SensorCall}

theorem voltageWithin_run
    (hM : 64 * M < 2 ^ 32) (hcalls : ∀ call ∈ calls, call.AtMost M) :
    VoltageWithin M
      (sensorRun (calibrated minV maxV tankVolume) calls) := by
  have hboot : VoltageWithin M (calibrated minV maxV tankVolume) :=
    ⟨0, rfl, le_rfl, by positivity⟩
  exact Machine.run_invariant_along (voltageWithin_step hM) hboot
    (Machine.along_of_forall_mem fun _ => hcalls)

theorem clamped_run
    (tankVolume : ℚ) (calls : List SensorCall) (hne : minV ≠ maxV) :
    Clamped minV maxV tankVolume
      (sensorRun (calibrated minV maxV tankVolume) calls) := by
  have hboot : Clamped minV maxV tankVolume
      (calibrated minV maxV tankVolume) :=
    ⟨0, 0, 0, metered_calibrated minV maxV tankVolume, le_rfl, by norm_num⟩
  exact Machine.run_invariant (clamped_step hne) hboot calls

theorem readsBelow_run
    (h : minV < maxV) (hM : 64 * M < 2 ^ 32)
    (hcalls : ∀ call ∈ calls, call.AtMost M) {lower : List SensorCall}
    (hlower : List.Forall₂ SensorCall.Below lower calls) :
    ReadsBelow minV maxV tankVolume
      (sensorRun (calibrated minV maxV tankVolume) lower)
      (sensorRun (calibrated minV maxV tankVolume) calls) := by
  have hboot := metered_calibrated minV maxV tankVolume
  have hrelated : List.Forall₂
      (fun call call' => SensorCall.Below call call' ∧ call'.AtMost M)
      lower calls := by
    induction hlower with
    | nil => exact List.Forall₂.nil
    | cons hbelow _ ih =>
        rw [List.forall_mem_cons] at hcalls
        exact List.Forall₂.cons ⟨hbelow, hcalls.1⟩ (ih hcalls.2)
  exact Machine.run_rel (readsBelow_step h hM)
    ⟨0, 0, 0, 0, 0, 0, hboot, hboot, le_rfl, le_rfl, fun _ => le_rfl⟩ hrelated

end

/-- For every calibration and every sequence of batches and scans with samples
of at most `M` millivolts: no sum of a batch wraps and the filtered voltage is
between 0 and the voltage of `M`; with two different calibration voltages the
cached level is between 0 and 100 and the volume, before it is rounded, between
0 and that of the tank; and with the calibration voltages in order, samples
that are nowhere larger lead to readings that are not larger. -/
theorem pipeline_bounded_and_monotone
    (M : ℕ) (hM : 64 * M < 2 ^ 32) (minV maxV tankVolume : ℚ)
    (calls : List SensorCall) (hcalls : ∀ call ∈ calls, call.AtMost M) :
    let d := sensorRun (calibrated minV maxV tankVolume) calls
    (∀ samples, .getADCValue samples ∈ calls → NeverWraps samples) ∧
      VoltageWithin M d ∧
      (minV ≠ maxV →
        LevelWithin d ∧ (0 ≤ tankVolume → VolumeWithin tankVolume d)) ∧
      ∀ lower, List.Forall₂ SensorCall.Below lower calls → minV < maxV →
        let d' := sensorRun (calibrated minV maxV tankVolume) lower
        getADCValueCached d' ≤ getADCValueCached d ∧
          getLevelCached d' ≤ getLevelCached d ∧
          (0 ≤ tankVolume → getVolumeCached d' ≤ getVolumeCached d) := by
  intro d
  refine ⟨?_, voltageWithin_run hM hcalls, ?_, ?_⟩
  · intro samples hmem
    exact neverWraps_of_le hM (hcalls _ hmem)
  · intro hne
    have hclamped : Clamped minV maxV tankVolume d := clamped_run tankVolume calls hne
    exact ⟨hclamped.levelWithin, hclamped.volumeWithin hne⟩
  · intro lower hlower h
    exact (readsBelow_run h hM hcalls hlower).le

/-- Two batches of 1.5 and 3 volts, with a scan after each, above a run with
empty batches. -/
theorem pipeline_of_rising_samples :
    LevelWithin (sensorRun (calibrated 0 3 1000)
      [.getADCValue fun _ => 1500, .scanSensors (.fin 20),
        .getADCValue fun _ => 3000, .scanSensors (.fin 20)]) ∧
      getLevelCached (sensorRun (calibrated 0 3 1000)
          [.getADCValue fun _ => 0, .scanSensors (.fin 20),
            .getADCValue fun _ => 0, .scanSensors (.fin 20)]) ≤
        getLevelCached (sensorRun (calibrated 0 3 1000)
          [.getADCValue fun _ => 1500, .scanSensors (.fin 20),
            .getADCValue fun _ => 3000, .scanSensors (.fin 20)]) := by
  have hcalls : ∀ call ∈ ([.getADCValue fun _ => 1500,
      .scanSensors (.fin 20), .getADCValue fun _ => 3000,
      .scanSensors (.fin 20)] : List SensorCall), call.AtMost 3000 := by
    simp [SensorCall.AtMost, SensorCall.All]
  obtain ⟨-, -, hlevel, hbelow⟩ := pipeline_bounded_and_monotone 3000
    (by norm_num) 0 3 1000 _ hcalls
  refine ⟨(hlevel (by norm_num)).1, ?_⟩
  refine (hbelow _ ?_ (by norm_num)).2.1
  simp [SensorCall.Below]

end DeviceHandler
end ByteWaterlevel
