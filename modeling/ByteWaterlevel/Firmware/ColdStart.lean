import ByteWaterlevel.Control.Latch
import ByteWaterlevel.Firmware.Sampling

/-!
# The first fill after boot

The automation compares its thresholds with a cached level.  Until the first
scan this is the initial value 0, and until ADC tasks have finished it is the
level of a filter that starts at 0 volts.  If every sample stands for a level
above the fill threshold, the filter can only move up to that level, so a
cached level that does not ask for filling never asks for it later.  What the
first executed tick finds therefore decides the whole run.
-/

namespace ByteWaterlevel
namespace Firmware

open DeviceHandler AutomationHandler InternalConfig

variable (lib : ArduinoJson) (decimals : ExtRat → ℕ → String)

/-- The event is a call of the automation loop that calls `setFill(true)`. -/
def StartsFill (fw : Firmware) (e : Event) : Prop :=
  ∃ t, e = .automationLoop t ∧
    ⟨pumpFill, true⟩ ∈
      Control.printed fw.control.device (loop t fw.control).device

def NeverFills : Firmware → List Event → Prop :=
  Along lib decimals fun fw e => ¬ StartsFill fw e

/-- The event is a call of the automation loop that passes its gate. -/
def Ticks (fw : Firmware) (e : Event) : Prop :=
  ∃ t, e = .automationLoop t ∧ Due t fw.control.auto

/-- The sample stands for a level above the fill threshold, before and after
rounding. -/
def SampleAbove (s : Control.Settings) (sample : ULong) : Prop :=
  let level := levelOf s.minV s.maxV (.fin sample.toNat / .fin 1000)
  level > s.fillL ∧ roundToTwoDecimals level > s.fillL

instance (s : Control.Settings) (sample : ULong) :
    Decidable (SampleAbove s sample) :=
  inferInstanceAs (Decidable (_ ∧ _))

/-- A batch of such samples can be added up in 32 bits.  The ADC delivers at
most a few thousand millivolts. -/
def InRange (sample : ULong) : Prop := 64 * sample.toNat < 2 ^ 32

instance (sample : ULong) : Decidable (InRange sample) :=
  inferInstanceAs (Decidable (_ < _))

/-- The event does not restart the device, and if it is the end of an ADC task
then all samples of the batch stand for a level above the fill threshold. -/
def StaysHigh (s : Control.Settings) (fw : Firmware) (e : Event) : Prop :=
  ¬ RestartsDevice lib fw e ∧
    ∀ samples, e = .adcTask samples →
      ∀ i, SampleAbove s (samples i) ∧ InRange (samples i)

/-! ## When a tick starts to fill -/

/-- The fill decision calls `setFill(true)` exactly if the latch is open and
the level is low. -/
theorem handleFill_starts_iff (c : Control) :
    ∃ calls, (handleFill c).device = Control.replay calls c.device ∧
      (⟨pumpFill, true⟩ ∈ calls ↔
        c.auto.fillM = false ∧ Control.Low c) := by
  rcases handleFill_cases c with
    ⟨hmax, hopen, hfill, heq⟩ | ⟨hmax, hor, heq⟩ | ⟨hmax, heq⟩
  · refine ⟨[⟨pumpFill, true⟩], by rw [heq]; rfl, ?_⟩
    simp [hopen, Control.Low, hmax, hfill]
  · refine ⟨[], by rw [heq]; rfl, ?_⟩
    have hnot : ¬ (c.auto.fillM = false ∧ Control.Low c) := by
      rintro ⟨hopen, -, hfill⟩
      rcases hor with hset | hhigh
      · rw [hset] at hopen
        exact absurd hopen (by decide)
      · exact hhigh hfill
    simpa using hnot
  · refine ⟨[⟨pumpFill, false⟩], by rw [heq]; rfl, ?_⟩
    simp [Control.Low, hmax]

theorem startsFill_iff
    {fw : Firmware} (t : ℕ) (hmode : Control.FillMode fw.control.auto) :
    StartsFill fw (.automationLoop t) ↔
      Due t fw.control.auto ∧ fw.control.auto.fillM = false ∧
        Control.Low fw.control := by
  have hstarts : StartsFill fw (.automationLoop t) ↔
      ⟨pumpFill, true⟩ ∈ Control.printed fw.control.device
        (loop t fw.control).device := by
    simp [StartsFill]
  obtain ⟨calls, hcalls, hiff⟩ := handleFill_starts_iff (stamp t fw.control)
  have hiff' : ⟨pumpFill, true⟩ ∈ calls ↔
      fw.control.auto.fillM = false ∧ Control.Low fw.control := hiff
  rw [hstarts]
  rcases loop_cases t fw.control with ⟨hnot, heq⟩ | ⟨hdue, -, heq⟩ |
    ⟨hdue, -, heq⟩ | ⟨-, h1, h2, -⟩ | ⟨-, h1, h2, -⟩
  · simp [heq, hnot]
  · have hdevice : (loop t fw.control).device =
        Control.replay
          (⟨pumpEmpty, decide (getLevelCached
            (handleFill (stamp t fw.control)).device >
              (handleFill (stamp t fw.control)).auto.minL)⟩ :: calls)
          fw.control.device := by
      rw [heq, handlePump_eq]
      change setRelais 0 pumpEmpty _ _ = _
      rw [hcalls]
      rfl
    rw [hdevice, Control.printed_replay, List.mem_cons, hiff']
    simp [hdue, pumpFill, pumpEmpty]
  · rw [heq, hcalls, stamp_device, Control.printed_replay, hiff']
    simp [hdue]
  · exact (hmode.elim h1 h2).elim
  · exact (hmode.elim h1 h2).elim

/-! ## What a call does to the pipeline -/

/-- Without a restart the thresholds stay as they are. -/
theorem step_thresholds
    {fw : Firmware} {e : Event} (h : ¬ RestartsDevice lib fw e) :
    (step lib decimals fw e).control.auto.mode = fw.control.auto.mode ∧
      (step lib decimals fw e).control.auto.maxL = fw.control.auto.maxL ∧
      (step lib decimals fw e).control.auto.fillL =
        fw.control.auto.fillL := by
  cases e with
  | automationLoop t =>
      obtain ⟨hmode, hmax, -, hfill, -⟩ := loop_settings t fw.control
      exact ⟨hmode, hmax, hfill⟩
  | api amb json reboot =>
      obtain ⟨files, heq⟩ := step_api lib decimals reboot h
      rw [heq]
      exact ⟨rfl, rfl, rfl⟩
  | _ => exact ⟨rfl, rfl, rfl⟩

/-- The part of the pipeline that the fill decision depends on. -/
structure Pipeline where
  minV : ExtRat
  maxV : ExtRat
  voltage : ExtRat
  level : ExtRat

def pipeline (fw : Firmware) : Pipeline where
  minV := fw.control.device.minV
  maxV := fw.control.device.maxV
  voltage := fw.control.device.latestVoltage
  level := fw.control.device.scanWaterLevel

/-- Without a restart the pipeline changes by a scan, which caches the level
of the filtered voltage, and by an ADC task, which updates the filter. -/
theorem step_pipeline
    {fw : Firmware} {e : Event} (h : ¬ RestartsDevice lib fw e) :
    (step lib decimals fw e).pipeline = fw.pipeline ∨
      (step lib decimals fw e).pipeline =
        { fw.pipeline with
          level := roundToTwoDecimals (getLevel fw.control.device) } ∨
      ∃ samples, e = .adcTask samples ∧
        (step lib decimals fw e).pipeline =
          { fw.pipeline with
            voltage :=
              (getADCValue samples fw.control.device).latestVoltage } := by
  have hreadout : ∀ {d : DeviceHandler.State},
      (step lib decimals fw e).control.device.readout = d.readout →
        (step lib decimals fw e).pipeline =
          ⟨d.minV, d.maxV, d.latestVoltage, d.scanWaterLevel⟩ := by
    intro d hd
    exact congrArg
      (fun r : Readout =>
        (⟨r.minV, r.maxV, r.latestVoltage, r.scanWaterLevel⟩ : Pipeline)) hd
  have hpipeline := hreadout (step_readout lib decimals h)
  cases e with
  | handleScan t temperature =>
      simp only [sensorCalls] at hpipeline
      split_ifs at hpipeline
      · right
        left
        exact hpipeline
      · left
        exact hpipeline
  | adcTask samples =>
      simp only [sensorCalls] at hpipeline
      split_ifs at hpipeline
      · left
        exact hpipeline
      · right
        right
        exact ⟨samples, rfl, hpipeline⟩
  | _ =>
      left
      exact hpipeline

/-- A call that is no executed tick leaves the automation alone. -/
theorem step_auto_of_not_ticks
    {fw : Firmware} {e : Event} (hrestart : ¬ RestartsDevice lib fw e)
    (hticks : ¬ Ticks fw e) :
    (step lib decimals fw e).control.auto = fw.control.auto := by
  cases e with
  | automationLoop t =>
      have hidle : loop t fw.control = fw.control :=
        loop_of_not_due fun hdue => hticks ⟨t, rfl, hdue⟩
      simp only [step, hidle]
  | api amb json reboot =>
      obtain ⟨files, heq⟩ := step_api lib decimals reboot hrestart
      rw [heq]
  | _ => rfl

/-! ## The level can only rise to the samples -/

/-- The state of a run from a boot with the settings `s`.  The next scan
caches a level that is not lower than the present one, or above the fill
threshold. -/
structure Tracks
    (s : Control.Settings) (minV maxV : ℚ) (fw : Firmware) : Prop where
  mode : fw.control.auto.mode = s.mode
  maxL : fw.control.auto.maxL = s.maxL
  fillL : fw.control.auto.fillL = s.fillL
  rising : ∃ v q,
    fw.pipeline = ⟨.fin minV, .fin maxV, .fin v, .fin q⟩ ∧
      (q ≤ shownLevel minV maxV v ∨
        s.fillL < .fin (shownLevel minV maxV v))

section Run

variable {lib decimals} {s : Control.Settings} {minV maxV : ℚ}

theorem Tracks.fillMode
    {fw : Firmware} (h : Tracks s minV maxV fw)
    (hmode : s.mode = 1 ∨ s.mode = 2) :
    Control.FillMode fw.control.auto := by
  rw [Control.FillMode, h.mode]
  exact hmode

theorem tracks_boot
    {fw : Firmware} (hboot : fw.control = Control.boot s)
    (hmin : s.minV = .fin minV) (hmax : s.maxV = .fin maxV) :
    Tracks s minV maxV fw where
  mode := by rw [hboot]; rfl
  maxL := by rw [hboot]; rfl
  fillL := by rw [hboot]; rfl
  rising := by
    refine ⟨0, 0, ?_, Or.inl (shownLevel_nonneg minV maxV 0)⟩
    rw [← hmin, ← hmax, pipeline, hboot]
    rfl

/-- The average of a batch of high samples is high. -/
theorem average_above
    (hlt : minV < maxV) (hmin : s.minV = .fin minV)
    (hmax : s.maxV = .fin maxV) {samples : Fin 64 → ULong}
    (h : ∀ i, SampleAbove s (samples i) ∧ InRange (samples i)) :
    s.fillL < .fin (shownLevel minV maxV (averageVoltage samples)) := by
  obtain ⟨i, hi⟩ := exists_sample_le_average fun i => (h i).2
  have hsample : s.fillL <
      .fin (shownLevel minV maxV ((samples i).toNat / 1000)) := by
    have habove := (h i).1.2
    rwa [hmin, hmax, ExtRat.fin_div_fin _ (by norm_num),
      shownLevel_eq hlt] at habove
  exact ExtRat.lt_fin_of_le hsample (shownLevel_mono hlt hi)

/-- What a scan caches for a finite filtered voltage. -/
theorem scanned_level
    (hlt : minV < maxV) {fw : Firmware} {v : ℚ} {level : ExtRat}
    (h : fw.pipeline = ⟨.fin minV, .fin maxV, .fin v, level⟩) :
    roundToTwoDecimals (getLevel fw.control.device) =
      .fin (shownLevel minV maxV v) := by
  have hmin : fw.control.device.minV = .fin minV := congrArg Pipeline.minV h
  have hmax : fw.control.device.maxV = .fin maxV := congrArg Pipeline.maxV h
  have hvoltage : fw.control.device.latestVoltage = .fin v :=
    congrArg Pipeline.voltage h
  rw [getLevel, hmin, hmax, hvoltage, shownLevel_eq hlt]

theorem tracks_step
    (hlt : minV < maxV) (hmin : s.minV = .fin minV)
    (hmax : s.maxV = .fin maxV) {fw : Firmware} {e : Event}
    (h : Tracks s minV maxV fw) (he : StaysHigh lib s fw e) :
    Tracks s minV maxV (step lib decimals fw e) := by
  obtain ⟨hmode, hmaxL, hfillL⟩ := step_thresholds lib decimals he.1
  obtain ⟨v, q, hpipe, hrising⟩ := h.rising
  refine ⟨hmode.trans h.mode, hmaxL.trans h.maxL, hfillL.trans h.fillL, ?_⟩
  have hvoltage : fw.control.device.latestVoltage = .fin v :=
    congrArg Pipeline.voltage hpipe
  rcases step_pipeline lib decimals he.1 with
    hsame | hscan | ⟨samples, rfl, hadc⟩
  · exact ⟨v, q, hsame.trans hpipe, hrising⟩
  · refine ⟨v, shownLevel minV maxV v, ?_, Or.inl le_rfl⟩
    rw [hscan, hpipe, scanned_level hlt hpipe]
  · have hnew := getADCValue_latestVoltage samples hvoltage
    refine ⟨filtered v (averageVoltage samples), q, ?_, ?_⟩
    · rw [hadc, hpipe, hnew]
    · have haverage := average_above hlt hmin hmax (he.2 samples rfl)
      rcases le_filtered_or v (averageVoltage samples) with hle | hle
      · have hshown := shownLevel_mono hlt hle
        rcases hrising with hq | hq
        · exact Or.inl (hq.trans hshown)
        · exact Or.inr (ExtRat.lt_fin_of_le hq hshown)
      · exact Or.inr
          (ExtRat.lt_fin_of_le haverage (shownLevel_mono hlt hle))

/-- A level that becomes low has been low before. -/
theorem low_of_low_step
    (hlt : minV < maxV) {fw : Firmware} {e : Event}
    (h : Tracks s minV maxV fw) (he : StaysHigh lib s fw e)
    (hlow : Control.Low (step lib decimals fw e).control) :
    Control.Low fw.control := by
  obtain ⟨-, hmaxL, hfillL⟩ := step_thresholds lib decimals he.1
  obtain ⟨v, q, hpipe, hrising⟩ := h.rising
  have hlevel : fw.control.device.scanWaterLevel = .fin q :=
    congrArg Pipeline.level hpipe
  unfold Control.Low getLevelCached at hlow ⊢
  rw [hmaxL, hfillL] at hlow
  rcases step_pipeline lib decimals he.1 with
    hsame | hscan | ⟨samples, rfl, hadc⟩
  · have heq : (step lib decimals fw e).control.device.scanWaterLevel =
        fw.control.device.scanWaterLevel := congrArg Pipeline.level hsame
    rwa [heq] at hlow
  · have heq : (step lib decimals fw e).control.device.scanWaterLevel =
        .fin (shownLevel minV maxV v) := by
      rw [← scanned_level hlt hpipe]
      exact congrArg Pipeline.level hscan
    rw [heq] at hlow
    rw [hlevel]
    rcases hrising with hq | hq
    · exact ⟨ExtRat.fin_lt_of_le hq hlow.1, ExtRat.fin_le_of_le hq hlow.2⟩
    · rw [h.fillL] at hlow
      exact absurd hlow.2 (ExtRat.not_fin_le_of_lt hq)
  · have heq :
        (step lib decimals fw (.adcTask samples)).control.device.scanWaterLevel
          = fw.control.device.scanWaterLevel := congrArg Pipeline.level hadc
    rwa [heq] at hlow

theorem not_startsFill_of_not_ticks
    {fw : Firmware} {e : Event} (h : ¬ Ticks fw e) : ¬ StartsFill fw e := by
  rintro ⟨t, rfl, hmem⟩
  have hidle : loop t fw.control = fw.control :=
    loop_of_not_due fun hdue => h ⟨t, rfl, hdue⟩
  rw [hidle, Control.printed_self] at hmem
  exact absurd hmem List.not_mem_nil

/-- Once the cached level does not ask for filling, no tick fills. -/
theorem neverFills_of_not_low
    (hlt : minV < maxV) (hmin : s.minV = .fin minV)
    (hmax : s.maxV = .fin maxV) (hmode : s.mode = 1 ∨ s.mode = 2)
    {fw : Firmware} {es : List Event} (h : Tracks s minV maxV fw)
    (hes : Along lib decimals (StaysHigh lib s) fw es)
    (hlow : ¬ Control.Low fw.control) : NeverFills lib decimals fw es := by
  induction es generalizing fw with
  | nil => trivial
  | cons e es ih =>
      refine ⟨?_, ?_⟩
      · rintro ⟨t, rfl, hmem⟩
        have hstarts := (startsFill_iff t (h.fillMode hmode)).mp ⟨t, rfl, hmem⟩
        exact hlow hstarts.2.2
      · exact ih (tracks_step hlt hmin hmax h hes.1) hes.2
          fun hlow' => hlow (low_of_low_step hlt h hes.1 hlow')

/-- With an open latch, the first executed tick decides. -/
theorem neverFills_iff_atFirst
    (hlt : minV < maxV) (hmin : s.minV = .fin minV)
    (hmax : s.maxV = .fin maxV) (hmode : s.mode = 1 ∨ s.mode = 2)
    {fw : Firmware} {es : List Event} (h : Tracks s minV maxV fw)
    (hes : Along lib decimals (StaysHigh lib s) fw es)
    (hopen : fw.control.auto.fillM = false) :
    NeverFills lib decimals fw es ↔
      Machine.AtFirst (step lib decimals) Ticks
        (fun fw _ => ¬ Control.Low fw.control) fw es := by
  induction es generalizing fw with
  | nil => exact Iff.rfl
  | cons e es ih =>
      by_cases hticks : Ticks fw e
      · rw [Machine.atFirst_cons_of_pos hticks]
        constructor
        · rintro ⟨hstarts, -⟩ hlow
          obtain ⟨t, rfl, hdue⟩ := hticks
          apply hstarts
          exact (startsFill_iff t (h.fillMode hmode)).mpr ⟨hdue, hopen, hlow⟩
        · exact neverFills_of_not_low hlt hmin hmax hmode h hes
      · rw [Machine.atFirst_cons_of_neg hticks]
        have hauto := step_auto_of_not_ticks lib decimals hes.1.1 hticks
        have htail := ih (tracks_step hlt hmin hmax h hes.1) hes.2
          (by rw [hauto]; exact hopen)
        rw [← htail]
        exact ⟨fun hnever => hnever.2, fun hnever =>
          ⟨not_startsFill_of_not_ticks hticks, hnever⟩⟩

end Run

/-- For every boot with finite calibration voltages `minV < maxV`, in mode 1 or
2, and every run in which all samples stand for a level above the fill
threshold: the automation never calls `setFill(true)` if and only if the first
executed tick finds a cached level that is not low. -/
theorem neverFills_iff_first_tick
    (lib : ArduinoJson) (decimals : ExtRat → ℕ → String)
    (io : BootInputs) (flash : LittleFS) (s : Control.Settings)
    (minV maxV : ℚ) (es : List Event)
    (hs : settings lib (bootConfig lib flash) io.displayBegins = s)
    (hmin : s.minV = .fin minV) (hmax : s.maxV = .fin maxV)
    (hlt : minV < maxV) (hmode : s.mode = 1 ∨ s.mode = 2)
    (hes : Along lib decimals (StaysHigh lib s) (Main.setup lib io flash) es) :
    NeverFills lib decimals (Main.setup lib io flash) es ↔
      Machine.AtFirst (step lib decimals) Ticks
        (fun fw _ => ¬ Control.Low fw.control) (Main.setup lib io flash) es := by
  have hboot : (Main.setup lib io flash).control = Control.boot s := by
    rw [setup_control, hs]
  have htracks := tracks_boot hboot hmin hmax
  have hopen : (Main.setup lib io flash).control.auto.fillM = false := by
    rw [hboot]
    rfl
  exact neverFills_iff_atFirst hlt hmin hmax hmode htracks hes hopen

/-! ## Two boots with a high tank -/

section HighTank

/-- Calibrated from 0 to 3 volts, filling at 20 percent. -/
def tankConfig : Json :=
  .obj
    [("calibration", .obj [("min", .int 0), ("max", .int 3)]),
      ("auto",
        .obj
          [("mode", .int 1), ("max", .int 80), ("fill", .int 20),
            ("min", .int 10)])]

def tankText : String :=
  "\x7b\"calibration\":\x7b\"min\":0,\"max\":3\x7d,\"auto\":" ++
    "\x7b\"mode\":1,\"max\":80,\"fill\":20,\"min\":10\x7d\x7d"

def tankLib : ArduinoJson := .reading tankText tankConfig

def tankFlash : LittleFS := FileHandler.flashWith tankText

def tankSettings : Control.Settings :=
  settings tankLib (bootConfig tankLib tankFlash) false

def tankBoot : Firmware := Main.setup tankLib (.plain false) tankFlash

theorem staysHigh_tank_batch (fw : Firmware) :
    StaysHigh tankLib tankSettings fw (.adcTask fun _ => 3000) := by
  have habove : SampleAbove tankSettings 3000 := by decide +kernel
  have hrange : InRange 3000 := by decide
  refine ⟨?_, ?_⟩
  · rintro ⟨_, _, _, heq, -⟩
    exact nomatch heq
  · rintro samples heq i
    cases heq
    exact ⟨habove, hrange⟩

theorem staysHigh_of_isLoopCall
    (s : Control.Settings) (fw : Firmware) {e : Event}
    (h : e.isLoopCall = true) : StaysHigh lib s fw e := by
  refine ⟨not_restartsDevice_of_isLoopCall lib fw h, ?_⟩
  rintro samples rfl
  exact absurd h (by simp [Event.isLoopCall])

/-- The tank is full and the first batch is complete when the automation looks
at the level: it reads 30 percent and does not fill. -/
theorem neverFills_after_first_batch :
    NeverFills tankLib (fun _ _ => "") tankBoot
      [.handleScan 1000 (.fin 20), .adcTask fun _ => 3000,
        .handleScan 2000 (.fin 20), .automationLoop 2000] := by
  refine (neverFills_iff_first_tick tankLib (fun _ _ => "") (.plain false)
    tankFlash tankSettings 0 3 _ rfl (by decide +kernel) (by decide +kernel)
    (by norm_num) (by decide +kernel) ?_).mpr ?_
  · exact ⟨staysHigh_of_isLoopCall _ _ _ rfl, staysHigh_tank_batch _,
      staysHigh_of_isLoopCall _ _ _ rfl, staysHigh_of_isLoopCall _ _ _ rfl,
      trivial⟩
  · have hscan : ∀ fw t temperature,
        ¬ Ticks fw (.handleScan t temperature) := by
      rintro fw t temperature ⟨_, heq, -⟩
      exact nomatch heq
    have hbatch : ∀ fw samples, ¬ Ticks fw (.adcTask samples) := by
      rintro fw samples ⟨_, heq, -⟩
      exact nomatch heq
    rw [Machine.atFirst_cons_of_neg (hscan _ _ _),
      Machine.atFirst_cons_of_neg (hbatch _ _),
      Machine.atFirst_cons_of_neg (hscan _ _ _),
      Machine.atFirst_cons_of_pos ⟨2000, rfl, by decide +kernel⟩]
    decide +kernel

/-- The tank is full throughout, but the automation looks at the level before
the first batch is complete: it reads 0 percent and fills. -/
theorem not_neverFills_before_first_batch :
    (tankSettings.minV = .fin 0 ∧ tankSettings.maxV = .fin 3 ∧
        tankSettings.mode = 1) ∧
      Along tankLib (fun _ _ => "") (StaysHigh tankLib tankSettings) tankBoot
        [.handleScan 1000 (.fin 20), .automationLoop 1000,
          .adcTask fun _ => 3000] ∧
      ¬ NeverFills tankLib (fun _ _ => "") tankBoot
        [.handleScan 1000 (.fin 20), .automationLoop 1000,
          .adcTask fun _ => 3000] := by
  refine ⟨by decide +kernel, ⟨staysHigh_of_isLoopCall _ _ _ rfl,
    staysHigh_of_isLoopCall _ _ _ rfl, staysHigh_tank_batch _, trivial⟩, ?_⟩
  rintro ⟨-, hstarts, -⟩
  exact hstarts ⟨1000, rfl, by decide +kernel⟩

end HighTank

end Firmware
end ByteWaterlevel
