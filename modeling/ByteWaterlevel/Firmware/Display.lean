import ByteWaterlevel.Firmware.IntervalGates
import ByteWaterlevel.Support.Panel

/-!
# What the display shows

The display is redrawn once a second from the cached readings and the filtered
voltage.  Each redraw clears the buffer of the driver first and displays it
last, so the panel always shows one state of the device.  This module follows
what is drawn along a run: how old the state is that the panel shows, and which
scan its readings come from.
-/

namespace ByteWaterlevel

namespace DeviceHandler

/-- A call of the display driver that draws into its buffer or moves the
cursor. -/
inductive Drawing where
  | setCursor (x y : ℕ)
  | print (text : String)
  | println (text : String)
  | drawLine (x₀ y₀ x₁ y₁ color : ℕ)
  | drawRect (x y w h color : ℕ)
  | fillRect (x y w h color : ℕ)
deriving DecidableEq

/-- What `updateDisplay` draws.  `printFloat` writes a number with the given
number of decimals, and `connected` is the status of the station. -/
def screen
    (printFloat : ExtRat → ℕ → String) (connected : Bool) (d : State) :
    List Drawing :=
  [.setCursor 0 0,
    .print "BYTE",
    .print "LEVEL",
    .drawLine 0 9 128 9 1,
    .setCursor 0 18,
    .print "WiFi: ",
    .println (if connected then "OK" else "AP"),
    .print "Level: ",
    .print (printFloat (getLevelCached d) 1),
    .println "%",
    .print "Volume: ",
    .println (printFloat (getVolumeCached d) 2),
    .println "L",
    .print "ADC: ",
    .print (printFloat (roundToTwoDecimals (getADCValueCached d)) 2),
    .println "V",
    .println "Current: ",
    .println (printFloat (roundToTwoDecimals (getCurrentCached d)) 2),
    .println "mA",
    .drawRect 95 18 30 40 1,
    .fillRect 97 20 26 36 1]

/-- Clears the display, draws and displays. -/
def updateDisplay
    (printFloat : ExtRat → ℕ → String) (connected : Bool) (d : State) :
    List (Panel.Call Drawing) :=
  Panel.frame (screen printFloat connected d)

/-- The readings that the last scan stored. -/
def cached (d : State) : Readings where
  current := getCurrentCached d
  temperature := getCPUTemperatureCached d
  level := getLevelCached d
  volume := getVolumeCached d

theorem awayFromRelays_cached : AwayFromRelays cached :=
  .of_withoutRelays fun _ => rfl

theorem awayFromRelays_displayMillis :
    AwayFromRelays fun d => (d.displayMillis, d.displayEnabled) :=
  .of_withoutRelays fun _ => rfl

end DeviceHandler

namespace Firmware

open DeviceHandler InternalConfig

variable (lib : ArduinoJson) (decimals : ExtRat → ℕ → String)

/-- The gate of the display is reached if the display is enabled. -/
def displayGate : IntervalGate Firmware Event 32 where
  interval := displayInterval
  stamp := fun fw => fw.control.device.displayMillis
  time
    | .handleDisplay t => some t
    | _ => none
  reached := fun fw _ => fw.control.device.displayEnabled

/-- The calls of the display driver.  `status` says at which uptimes the station
is connected. -/
def displayCalls
    (printFloat : ExtRat → ℕ → String) (status : ℕ → Bool) (fw : Firmware) :
    Event → List (Panel.Call Drawing)
  | .handleDisplay t =>
      let d := fw.control.device
      if d.displayEnabled ∧ millis t - d.displayMillis ≥ displayInterval then
        updateDisplay printFloat (status t) d
      else []
  | _ => []

theorem displayGate_fires_iff (fw : Firmware) (t : ℕ) :
    displayGate.Fires fw (.handleDisplay t) t ↔
      fw.control.device.displayEnabled = true ∧
        millis t - fw.control.device.displayMillis ≥ displayInterval :=
  and_iff_right rfl

/-- The display is drawn exactly if its gate fires. -/
theorem displayCalls_of_fires
    (printFloat : ExtRat → ℕ → String) (status : ℕ → Bool) {fw : Firmware}
    {e : Event} {t : ℕ} (h : displayGate.Fires fw e t) :
    e = .handleDisplay t ∧
      displayCalls printFloat status fw e =
        Panel.frame (screen printFloat (status t) fw.control.device) := by
  cases e with
  | handleDisplay t' =>
      obtain rfl : t' = t := Option.some.inj h.1
      exact ⟨rfl, if_pos ((displayGate_fires_iff fw t').mp h)⟩
  | _ => cases h.1

theorem displayCalls_of_not_fires
    (printFloat : ExtRat → ℕ → String) (status : ℕ → Bool) {fw : Firmware}
    {e : Event} (h : ∀ t, ¬ displayGate.Fires fw e t) :
    displayCalls printFloat status fw e = [] := by
  cases e with
  | handleDisplay t =>
      exact if_neg fun hopen => h t ((displayGate_fires_iff fw t).mpr hopen)
  | _ => rfl

/-! ## The gate of the display -/

theorem step_displayMillis
    {fw : Firmware} {e : Event} (h : ¬ RestartsDevice lib fw e)
    (he : displayGate.time e = none) :
    ((step lib decimals fw e).control.device.displayMillis,
        (step lib decimals fw e).control.device.displayEnabled) =
      (fw.control.device.displayMillis, fw.control.device.displayEnabled) := by
  cases e with
  | handleDisplay t => exact nomatch he
  | handleBlink t =>
      simp only [step, handleBlink]
      split_ifs <;> rfl
  | handleScan t temperature =>
      simp only [step, handleScan]
      split_ifs <;> rfl
  | adcTask samples =>
      simp only [step, adcTaskFunction]
      split_ifs <;> rfl
  | _ => exact step_of_away lib decimals awayFromRelays_displayMillis h rfl

theorem handleDisplay_eq (t : ℕ) (d : State) :
    handleDisplay t d =
      if d.displayEnabled = true ∧
          millis t - d.displayMillis ≥ displayInterval then
        { d with displayMillis := millis t }
      else d := by
  unfold handleDisplay
  rw [ite_and]

theorem displayGate_governs :
    displayGate.Governs (step lib decimals)
      (fun fw e => ¬ RestartsDevice lib fw e) := by
  apply IntervalGate.governs_of_calls
  · intro fw e t _ htime
    cases e with
    | handleDisplay t' =>
        obtain rfl : t' = t := Option.some.inj htime
        rw [if_congr (displayGate_fires_iff fw t') rfl rfl]
        change (handleDisplay t' fw.control.device).displayMillis = _
        rw [handleDisplay_eq]
        exact apply_ite State.displayMillis _ _ _
    | _ => exact nomatch htime
  · intro fw e he htime
    exact congrArg Prod.fst (step_displayMillis lib decimals he htime)

theorem step_displayEnabled
    {fw : Firmware} {e : Event} (h : ¬ RestartsDevice lib fw e) :
    (step lib decimals fw e).control.device.displayEnabled =
      fw.control.device.displayEnabled := by
  cases htime : displayGate.time e with
  | none => exact congrArg Prod.snd (step_displayMillis lib decimals h htime)
  | some t =>
      cases e with
      | handleDisplay t' =>
          change (handleDisplay t' fw.control.device).displayEnabled = _
          rw [handleDisplay_eq]
          split_ifs <;> rfl
      | _ => exact nomatch htime

/-! ## The scan that the readings come from -/

theorem step_cached
    {fw : Firmware} {e : Event} (h : ¬ RestartsDevice lib fw e)
    (he : ∀ t, ¬ scanGate.Fires fw e t) :
    cached (step lib decimals fw e).control.device =
      cached fw.control.device := by
  cases e with
  | handleScan t temperature =>
      have hgate : ¬ millis t - fw.control.device.scanMillis ≥ scanInterval :=
        fun hopen => he t ((IntervalGate.fires_iff rfl rfl).mpr hopen)
      simp only [step, handleScan, if_neg hgate]
  | handleBlink t =>
      simp only [step, handleBlink]
      split_ifs <;> rfl
  | handleDisplay t =>
      simp only [step, handleDisplay_eq]
      split_ifs <;> rfl
  | adcTask samples =>
      simp only [step, adcTaskFunction]
      split_ifs <;> rfl
  | _ => exact step_of_away lib decimals awayFromRelays_cached h rfl

/-- A scan that passes its gate stores what it reads. -/
theorem cached_of_scan
    {fw : Firmware} {e : Event} {t : ℕ} (h : scanGate.Fires fw e t) :
    ∃ temperature, e = .handleScan t temperature ∧
      cached (step lib decimals fw e).control.device =
        readings temperature fw.control.device := by
  cases e with
  | handleScan t' temperature =>
      obtain rfl : t' = t := Option.some.inj h.1
      refine ⟨temperature, rfl, ?_⟩
      have hgate : millis t' - fw.control.device.scanMillis ≥ scanInterval :=
        h.2.2
      simp only [step, handleScan, if_pos hgate]
      rfl
  | _ => cases h.1

/-- The readings are those that the last scan of the run took, in the state in
which it was carried out, and without a scan those of the first state. -/
def LastRead (fw : Firmware) (es : List Event) (r : Readings) : Prop :=
  (Along lib decimals (fun fw e => ∀ t, ¬ scanGate.Fires fw e t) fw es ∧
      r = cached fw.control.device) ∨
    ∃ pre t temperature mid, es = pre ++ .handleScan t temperature :: mid ∧
      scanGate.Fires (run lib decimals fw pre) (.handleScan t temperature) t ∧
      Along lib decimals (fun fw e => ∀ t, ¬ scanGate.Fires fw e t)
        (run lib decimals fw (pre ++ [.handleScan t temperature])) mid ∧
      r = readings temperature (run lib decimals fw pre).control.device

/-- Between two boots the level, the volume, the current and the temperature
always come from one scan. -/
theorem lastRead_cached
    {fw : Firmware} {es : List Event}
    (h : Along lib decimals (fun fw e => ¬ RestartsDevice lib fw e) fw es) :
    LastRead lib decimals fw es
      (cached (run lib decimals fw es).control.device) := by
  have hkeeps : ∀ {fw es},
      Along lib decimals (fun fw e => ¬ RestartsDevice lib fw e) fw es →
      Along lib decimals (fun fw e => ∀ t, ¬ scanGate.Fires fw e t) fw es →
      cached (run lib decimals fw es).control.device =
        cached fw.control.device := by
    intro fw es hrestart hquiet
    exact Machine.run_view_along
      (fun fw : Firmware => cached fw.control.device)
      (fun _ _ he => step_cached lib decimals he.1 he.2)
      (Machine.along_and hrestart hquiet)
  have hsplit : (scanGate.lastFiring (step lib decimals) fw 0 es = 0 ∧ _) ∨ _ :=
    IntervalGate.exists_last_firing fw 0 es
  rcases hsplit with ⟨-, hquiet⟩ | ⟨pre, e, mid, t, rfl, hfires, hmid, -⟩
  · exact Or.inl ⟨hquiet, hkeeps h hquiet⟩
  · obtain ⟨temperature, rfl, hcached⟩ := cached_of_scan lib decimals hfires
    refine Or.inr ⟨pre, t, temperature, mid, rfl, hfires, hmid, ?_⟩
    rw [List.append_cons] at h ⊢
    have hlast : run lib decimals fw (pre ++ [.handleScan t temperature]) =
        step lib decimals (run lib decimals fw pre)
          (.handleScan t temperature) := by
      rw [run, Machine.run_append]
      rfl
    rw [← hcached, ← hlast, run, Machine.run_append]
    exact hkeeps (Machine.along_append.mp h).2 hmid

/-! ## The panel -/

/-- For every boot with the display enabled and every run until the next one in
which the calls of `handleDisplay` are in order of time without a gap too long
for the counter: from the first second on the panel shows one state of the
device, which it had less than a second before the last such call, and the
level, the volume and the current on it were read by one scan, the last one
before, or are those of the boot if no scan has been carried out yet. -/
theorem panel_shows_recent_state
    (lib : ArduinoJson) (decimals printFloat : ExtRat → ℕ → String)
    (status : ℕ → Bool) (io : BootInputs) (flash : LittleFS)
    (es post : List Event) (T : ℕ) (panel : Panel Drawing)
    (henabled :
      (Main.setup lib io flash).control.device.displayEnabled = true)
    (hrestart : Along lib decimals (fun fw e => ¬ RestartsDevice lib fw e)
      (Main.setup lib io flash) (es ++ .handleDisplay T :: post))
    (hgaps : displayGate.Gapless 0 (es ++ .handleDisplay T :: post))
    (hpost : ∀ e ∈ post, displayGate.time e = none) (hT : 1000 ≤ T) :
    let boot := Main.setup lib io flash
    let calls := Machine.trace (step lib decimals)
      (displayCalls printFloat status) boot (es ++ .handleDisplay T :: post)
    ∃ history t,
      history ++ [.handleDisplay t] <+: es ++ [.handleDisplay T] ∧
      t ≤ T ∧ T < t + 1000 ∧
      (Panel.run panel calls).shown =
        screen printFloat (status t)
          (run lib decimals boot history).control.device ∧
      LastRead lib decimals boot history
        (cached (run lib decimals boot history).control.device) := by
  intro boot calls
  have hP := Machine.along_of_invariant
    (fun (fw : Firmware) e (hfw : fw.control.device.displayEnabled = true)
        (he : ¬ RestartsDevice lib fw e) =>
      (step_displayEnabled lib decimals he).trans hfw)
    henabled hrestart
  have hgoverns := (displayGate_governs lib decimals).mono
    (Q := fun fw e => fw.control.device.displayEnabled = true ∧
      ¬ RestartsDevice lib fw e)
    fun _ _ he => he.2
  have hinterval : displayGate.interval.toNat = 1000 := rfl
  have hstamp : displayGate.stamp boot = BitVec.ofNat 32 0 := by
    simp only [displayGate, boot, setup_control]
    rfl
  obtain ⟨history, e, since, t, heq, hfires, hsince, hle, hlt⟩ :=
    hgoverns.exists_recent_firing (fun _ _ _ he _ => he.1) (by omega) hstamp hP
      hgaps rfl hpost (by omega)
  obtain ⟨rfl, hframe⟩ := displayCalls_of_fires printFloat status hfires
  refine ⟨history, t, ?_, hle, hlt, ?_, ?_⟩
  · refine IntervalGate.prefix_of_last_call hpost ?_ hfires.1
    exact ⟨since, by rw [heq]; simp⟩
  · have hquiet := Machine.along_mono (fun _ _ he =>
      displayCalls_of_not_fires printFloat status he) hsince
    simp only [calls, heq]
    exact Panel.shown_after_frame hframe hquiet panel
  · rw [heq] at hrestart
    exact lastRead_cached lib decimals (Machine.along_append.mp hrestart).1

/-- A calibration from 0 to 3 volts, and a display. -/
def oledConfig : Json :=
  .obj
    [("calibration", .obj [("min", .int 0), ("max", .int 3)]),
      ("hardware", .obj [("oled", .bool true)])]

def oledText : String :=
  "\x7b\"calibration\":\x7b\"min\":0,\"max\":3\x7d,\"hardware\":" ++
    "\x7b\"oled\":true\x7d\x7d"

def oledLib : ArduinoJson := .reading oledText oledConfig

def oledFlash : LittleFS := FileHandler.flashWith oledText

/-- A display that is drawn after two scans, and half a second later is not
drawn again.  The device has no network. -/
theorem panel_shows_recent_state_at_2500 :
    let boot := Main.setup oledLib { BootInputs.plain false with
      displayBegins := true } oledFlash
    let es : List Event :=
      [.handleScan 1000 (.fin 20), .adcTask fun _ => 3000,
        .handleScan 2000 (.fin 20), .handleDisplay 2000]
    let calls := Machine.trace (step oledLib ExtRat.toFixed)
      (displayCalls ExtRat.toFixed fun _ => false) boot
      (es ++ .handleDisplay 2500 :: [])
    ∃ history t,
      history ++ [.handleDisplay t] <+: es ++ [.handleDisplay 2500] ∧
      t ≤ 2500 ∧ 2500 < t + 1000 ∧
      (Panel.run ⟨[], []⟩ calls).shown =
        screen ExtRat.toFixed false
          (run oledLib ExtRat.toFixed boot history).control.device ∧
      LastRead oledLib ExtRat.toFixed boot history
        (cached (run oledLib ExtRat.toFixed boot
          history).control.device) := by
  intro boot es calls
  refine panel_shows_recent_state oledLib ExtRat.toFixed ExtRat.toFixed
    (fun _ => false) { BootInputs.plain false with displayBegins := true }
    oledFlash es [] 2500 ⟨[], []⟩ (by decide +kernel) ?_ (by decide +kernel)
    (by simp) (by decide)
  refine Machine.along_of_forall_mem ?_
  rintro fw e he ⟨amb, json, reboot, rfl, -⟩
  exact absurd he (by simp [es])

end Firmware
end ByteWaterlevel
