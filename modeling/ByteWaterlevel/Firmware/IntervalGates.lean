import ByteWaterlevel.Firmware.ColdStart
import ByteWaterlevel.Support.IntervalGate

/-!
# The interval gates of the main loop

The LED, the scan and the automation act once their interval has passed, and so
does the attempt to reconnect the station.  Each keeps a timestamp of 32 bits
and compares the difference to `millis()`, which wraps after some 50 days.  The
timestamp of the reconnect is a signed `long`; it is converted back to unsigned
in the comparison, which changes none of its bits.

Each gate is described as an `IntervalGate` of the firmware, and a lemma for
each says that between two boots nothing but a firing moves its timestamp.
-/

namespace ByteWaterlevel

namespace AutomationHandler

/-- Exactly the executed ticks move the timestamp. -/
theorem loop_autoMillis (t : ℕ) (c : Control) :
    (loop t c).auto.autoMillis =
      if Due t c.auto then millis t else c.auto.autoMillis := by
  by_cases hdue : Due t c.auto
  · rw [loop, if_pos hdue, if_pos hdue]
    unfold tick handlePump handleFill
    split_ifs <;> rfl
  · rw [loop_of_not_due hdue, if_neg hdue]

end AutomationHandler

namespace WiFiHandler

/-- A poll moves the timestamp of the reconnect exactly if neither status read
ends it and five seconds have passed on the counter. -/
theorem checkConnection_lastReconnectAttempt
    (lib : ArduinoJson) (config : Json) (t : ℕ) (first second : Bool)
    (s : State) :
    (checkConnection lib config t first second s).lastReconnectAttempt =
      if (!(first && s.apStarted) && !second) = true ∧
          millis t - s.lastReconnectAttempt ≥ 5000 then millis t
      else s.lastReconnectAttempt := by
  by_cases hstop : first = true ∧ s.apStarted = true
  · rw [checkConnection, if_pos hstop, if_neg (by simp [hstop]), stopAP,
      if_pos hstop.2]
  · have hreached : (!(first && s.apStarted)) = true := by
      rw [Bool.not_eq_true', Bool.eq_false_iff, Ne, Bool.and_eq_true]
      exact hstop
    by_cases hsecond : second = true
    · rw [checkConnection, if_neg hstop, if_pos hsecond,
        if_neg (by simp [hsecond])]
    · rw [checkConnection, if_neg hstop, if_neg hsecond,
        handleDisconnected_eq, hreached, Bool.eq_false_of_not_eq_true hsecond]
      have hstart : ∀ s' : State,
          (startAP lib config true s').lastReconnectAttempt =
            s'.lastReconnectAttempt := fun _ => rfl
      rw [apply_ite State.lastReconnectAttempt, hstart, ite_self, reconnected]
      simp only [Bool.not_false, Bool.and_self, true_and]
      split_ifs <;> rfl

end WiFiHandler

namespace Firmware

open DeviceHandler AutomationHandler InternalConfig

variable (lib : ArduinoJson) (decimals : ExtRat → ℕ → String)

/-! ## The gates -/

def blinkGate : IntervalGate Firmware Event 32 where
  interval := blinkInterval
  stamp := fun fw => fw.control.device.previousMillis
  time
    | .handleBlink t => some t
    | _ => none
  reached := fun _ _ => true

def scanGate : IntervalGate Firmware Event 32 where
  interval := scanInterval
  stamp := fun fw => fw.control.device.scanMillis
  time
    | .handleScan t _ => some t
    | _ => none
  reached := fun _ _ => true

/-- The gate of the automation is reached if the mode is not 0. -/
def automationGate : IntervalGate Firmware Event 32 where
  interval := autoInterval
  stamp := fun fw => fw.control.auto.autoMillis
  time
    | .automationLoop t => some t
    | _ => none
  reached := fun fw _ => decide (fw.control.auto.mode ≠ 0)

/-- The reconnect is reached if neither status read ends the call. -/
def reconnectGate : IntervalGate Firmware Event 32 where
  interval := 5000
  stamp := fun fw => fw.wifi.lastReconnectAttempt
  time
    | .checkConnection t _ _ => some t
    | _ => none
  reached
    | fw, .checkConnection _ first second =>
        !(first && fw.wifi.apStarted) && !second
    | _, _ => false

/-! ## What a firing does -/

/-- The gate of the LED fires exactly if the LED is toggled. -/
theorem blinkGate_fires_iff (fw : Firmware) (t : ℕ) :
    blinkGate.Fires fw (.handleBlink t) t ↔
      (handleBlink t fw.control.device).ledState ≠
        fw.control.device.ledState := by
  have hfires : blinkGate.Fires fw (.handleBlink t) t ↔
      millis t - fw.control.device.previousMillis ≥ blinkInterval :=
    IntervalGate.fires_iff rfl rfl
  rw [hfires, handleBlink]
  split_ifs with h
  · exact iff_of_true h (Bool.not_ne_self _)
  · exact iff_of_false h fun hne => hne rfl

/-- The gate of the scan fires exactly if an ADC task is created. -/
theorem scanGate_fires_iff (fw : Firmware) (t : ℕ) (temperature : ExtRat) :
    scanGate.Fires fw (.handleScan t temperature) t ↔
      (handleScan t temperature fw.control.device).adcTasks =
        fw.control.device.adcTasks + 1 := by
  have hfires : scanGate.Fires fw (.handleScan t temperature) t ↔
      millis t - fw.control.device.scanMillis ≥ scanInterval :=
    IntervalGate.fires_iff rfl rfl
  rw [hfires, handleScan]
  split_ifs with h
  · exact iff_of_true h rfl
  · exact iff_of_false h (by simp)

/-- The gate of the automation fires exactly if a tick is executed. -/
theorem automationGate_fires_iff (fw : Firmware) (t : ℕ) :
    automationGate.Fires fw (.automationLoop t) t ↔
      Due t fw.control.auto := by
  constructor
  · rintro ⟨-, hmode, hdiff⟩
    exact ⟨by simpa [automationGate] using hmode, hdiff⟩
  · rintro ⟨hmode, hdiff⟩
    exact ⟨rfl, by simpa [automationGate] using hmode, hdiff⟩

/-- The gate of the reconnect fires exactly if the call reaches it and five
seconds have passed on the counter. -/
theorem reconnectGate_fires_iff
    (fw : Firmware) (t : ℕ) (first second : Bool) :
    reconnectGate.Fires fw (.checkConnection t first second) t ↔
      (!(first && fw.wifi.apStarted) && !second) = true ∧
        millis t - fw.wifi.lastReconnectAttempt ≥ 5000 :=
  and_iff_right rfl

/-! ## The timestamps -/

theorem awayFromRelays_previousMillis :
    AwayFromRelays State.previousMillis :=
  .of_withoutRelays fun _ => rfl

theorem blinkGate_governs :
    blinkGate.Governs (step lib decimals)
      (fun fw e => ¬ RestartsDevice lib fw e) := by
  apply IntervalGate.governs_of_calls
  · intro fw e t _ htime
    cases e with
    | handleBlink t' =>
        obtain rfl : t' = t := Option.some.inj htime
        rw [if_congr (IntervalGate.fires_iff rfl rfl) rfl rfl]
        exact apply_ite State.previousMillis _ _ _
    | _ => exact nomatch htime
  · intro fw e he htime
    cases e with
    | handleBlink t => exact nomatch htime
    | handleScan t temperature =>
        simp only [blinkGate, step, handleScan]
        split_ifs <;> rfl
    | handleDisplay t =>
        simp only [blinkGate, step, handleDisplay]
        split_ifs <;> rfl
    | adcTask samples =>
        simp only [blinkGate, step, adcTaskFunction]
        split_ifs <;> rfl
    | _ => exact step_of_away lib decimals awayFromRelays_previousMillis he rfl

theorem scanGate_governs :
    scanGate.Governs (step lib decimals)
      (fun fw e => ¬ RestartsDevice lib fw e) := by
  apply IntervalGate.governs_of_calls
  · intro fw e t _ htime
    cases e with
    | handleScan t' temperature =>
        obtain rfl : t' = t := Option.some.inj htime
        rw [if_congr (IntervalGate.fires_iff rfl rfl) rfl rfl]
        exact apply_ite State.scanMillis _ _ _
    | _ => exact nomatch htime
  · intro fw e he htime
    cases e with
    | handleScan t temperature => exact nomatch htime
    | handleBlink t =>
        simp only [scanGate, step, handleBlink]
        split_ifs <;> rfl
    | handleDisplay t =>
        simp only [scanGate, step, handleDisplay]
        split_ifs <;> rfl
    | adcTask samples =>
        simp only [scanGate, step, adcTaskFunction]
        split_ifs <;> rfl
    | _ =>
        have hsensors := step_of_away lib decimals awayFromRelays_sensors he rfl
        exact congrArg Sensors.scanMillis hsensors

theorem automationGate_governs :
    automationGate.Governs (step lib decimals)
      (fun fw e => ¬ RestartsDevice lib fw e) := by
  apply IntervalGate.governs_of_calls
  · intro fw e t _ htime
    cases e with
    | automationLoop t' =>
        obtain rfl : t' = t := Option.some.inj htime
        rw [if_congr (automationGate_fires_iff fw t') rfl rfl]
        exact loop_autoMillis t' fw.control
    | _ => exact nomatch htime
  · intro fw e he htime
    have hticks : ¬ Ticks fw e := by
      rintro ⟨t, rfl, -⟩
      exact nomatch htime
    exact congrArg AutomationHandler.State.autoMillis
      (step_auto_of_not_ticks lib decimals he hticks)

theorem reconnectGate_governs :
    reconnectGate.Governs (step lib decimals)
      (fun fw e => ¬ RestartsDevice lib fw e) := by
  apply IntervalGate.governs_of_calls
  · intro fw e t _ htime
    cases e with
    | checkConnection t' first second =>
        obtain rfl : t' = t := Option.some.inj htime
        rw [if_congr (reconnectGate_fires_iff fw t' first second) rfl rfl]
        exact WiFiHandler.checkConnection_lastReconnectAttempt lib _ t' first
          second fw.wifi
    | _ => exact nomatch htime
  · intro fw e he htime
    have hwifi := step_wifi lib decimals he
    cases e with
    | checkConnection t first second => exact nomatch htime
    | _ => exact congrArg WiFiHandler.State.lastReconnectAttempt hwifi

/-! ## Runs -/

theorem setup_stamps (io : BootInputs) (flash : LittleFS) :
    blinkGate.stamp (Main.setup lib io flash) = BitVec.ofNat 32 0 ∧
      scanGate.stamp (Main.setup lib io flash) = BitVec.ofNat 32 0 ∧
      automationGate.stamp (Main.setup lib io flash) = BitVec.ofNat 32 0 ∧
      reconnectGate.stamp (Main.setup lib io flash) = BitVec.ofNat 32 0 := by
  simp only [blinkGate, scanGate, automationGate, reconnectGate,
    setup_control, setup_wifi]
  refine ⟨rfl, rfl, rfl, ?_⟩
  unfold WiFiHandler.setup
  split_ifs <;> rfl

/-- The mode of a boot stays what it is. -/
theorem along_mode_ne_zero
    {fw : Firmware} (hmode : fw.control.auto.mode ≠ 0) {es : List Event}
    (h : Along lib decimals (fun fw e => ¬ RestartsDevice lib fw e) fw es) :
    Along lib decimals
      (fun fw e => fw.control.auto.mode ≠ 0 ∧ ¬ RestartsDevice lib fw e)
      fw es := by
  refine Machine.along_of_invariant ?_ hmode h
  intro fw e hmode he
  rw [(step_thresholds lib decimals he).1]
  exact hmode

/-- For every boot and every run until the next one, with the calls of the
handlers in any order: if the calls of the LED, the scan or the automation in a
mode other than 0 are in order of time and no gap is too long for the counter,
each fires exactly when its interval has truly passed since it last fired; and
if the polls of the connection are in order of time, no two attempts to
reconnect are less than five seconds apart. -/
theorem gates_exact_across_wrap
    (lib : ArduinoJson) (decimals : ExtRat → ℕ → String)
    (io : BootInputs) (flash : LittleFS) (es : List Event)
    (h : Along lib decimals (fun fw e => ¬ RestartsDevice lib fw e)
      (Main.setup lib io flash) es) :
    let boot := Main.setup lib io flash
    (blinkGate.Gapless 0 es →
        blinkGate.Exact (step lib decimals) boot 0 es) ∧
      (scanGate.Gapless 0 es →
        scanGate.Exact (step lib decimals) boot 0 es) ∧
      (boot.control.auto.mode ≠ 0 → automationGate.Gapless 0 es →
        automationGate.Exact (step lib decimals) boot 0 es) ∧
      ((es.filterMap reconnectGate.time).Pairwise (· ≤ ·) →
        reconnectGate.Spaced (step lib decimals) boot es) := by
  intro boot
  obtain ⟨hblink, hscan, hautomation, hreconnect⟩ := setup_stamps lib io flash
  refine ⟨?_, ?_, ?_, ?_⟩
  · intro hgaps
    exact (blinkGate_governs lib decimals).exact (fun _ _ _ _ _ => rfl) hblink h
      hgaps
  · intro hgaps
    exact (scanGate_governs lib decimals).exact (fun _ _ _ _ _ => rfl) hscan h
      hgaps
  · intro hmode hgaps
    have hgoverns := (automationGate_governs lib decimals).mono
      (Q := fun fw e =>
        fw.control.auto.mode ≠ 0 ∧ ¬ RestartsDevice lib fw e)
      fun _ _ he => he.2
    refine hgoverns.exact ?_ hautomation
      (along_mode_ne_zero lib decimals hmode h) hgaps
    intro fw e t he _
    exact decide_eq_true he.1
  · intro hsorted
    have hchain : List.IsChain (· ≤ ·)
        (0 :: es.filterMap reconnectGate.time) :=
      (List.pairwise_cons.mpr ⟨fun _ _ => Nat.zero_le _, hsorted⟩).isChain
    exact (reconnectGate_governs lib decimals).spaced hreconnect h hchain

/-- Calls before and after the counter wraps, at 4294967296 milliseconds. -/
def callsAroundWrap : List Event :=
  [.handleBlink 300, .handleScan 1500 (.fin 20), .automationLoop 1500,
    .checkConnection 6000 false false, .handleBlink 4294967000,
    .handleScan 4294967000 (.fin 20), .automationLoop 4294967000,
    .checkConnection 4294967000 false false, .handleBlink 4294967400,
    .handleScan 4294967900 (.fin 20), .automationLoop 4294968100,
    .checkConnection 4294969000 false false]

/-- The device runs for fifty days in mode 1. -/
theorem gates_exact_around_wrap :
    blinkGate.Exact (step tankLib fun _ _ => "")
        (Main.setup tankLib (.plain true) tankFlash) 0 callsAroundWrap ∧
      scanGate.Exact (step tankLib fun _ _ => "")
        (Main.setup tankLib (.plain true) tankFlash) 0 callsAroundWrap ∧
      automationGate.Exact (step tankLib fun _ _ => "")
        (Main.setup tankLib (.plain true) tankFlash) 0 callsAroundWrap ∧
      reconnectGate.Spaced (step tankLib fun _ _ => "")
        (Main.setup tankLib (.plain true) tankFlash) callsAroundWrap := by
  have hcalls : ∀ e ∈ callsAroundWrap, e.isLoopCall = true := by
    simp [callsAroundWrap, Event.isLoopCall]
  obtain ⟨hblink, hscan, hautomation, hreconnect⟩ := gates_exact_across_wrap
    tankLib (fun _ _ => "") (.plain true) tankFlash callsAroundWrap
    (Machine.along_of_forall_mem fun fw e he =>
      not_restartsDevice_of_isLoopCall tankLib fw (hcalls e he))
  exact ⟨hblink (by decide +kernel), hscan (by decide +kernel),
    hautomation (by decide +kernel) (by decide +kernel),
    hreconnect (by decide +kernel)⟩

end Firmware
end ByteWaterlevel
