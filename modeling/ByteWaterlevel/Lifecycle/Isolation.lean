import ByteWaterlevel.Firmware.MqttStartup
import ByteWaterlevel.Lifecycle

/-!
# What the network, the LED and the display cannot reach

Beside the relays, the sensors and the automation, the main loop serves the LED,
the display, the WiFi connection and the MQTT client.  This module shows that
the former do not depend on the latter.  It says nothing about updates over the
air, which end a life when they succeed.

`essential` is the device without the state of these peripherals, with its
automation, its configuration and its flash.  `Event.core` removes from a life
of the device all calls that serve the peripherals, and from the remaining
events what is read from the network and from the display.  What is essential
after a life depends on its core alone.
-/

namespace ByteWaterlevel

open InternalConfig

/-! ## The device without its peripherals -/

namespace DeviceHandler

/-- The device without the timestamps and states of the LED and the display. -/
def State.core (d : State) : State :=
  { d with
    previousMillis := 0
    displayMillis := 0
    ledState := false
    displayEnabled := false
    pins := Function.update d.pins ledPin false }

@[simp] theorem State.core_core (d : State) : d.core.core = d.core := by
  simp [State.core]

/-- What the pin of the LED held before plays no role once it is blanked. -/
theorem update_blanked
    (pins : CUInt8 → Bool) (pin : CUInt8) (level : Bool) :
    Function.update
        (Function.update (Function.update pins ledPin false) pin level)
        ledPin false =
      Function.update (Function.update pins pin level) ledPin false := by
  funext x
  by_cases hx : x = ledPin
  · rw [hx, Function.update_self, Function.update_self]
  · rw [Function.update_of_ne hx, Function.update_of_ne hx]
    by_cases hpin : x = pin
    · rw [hpin, Function.update_self, Function.update_self]
    · rw [Function.update_of_ne hpin, Function.update_of_ne hpin,
        Function.update_of_ne hx]

theorem setRelais_core
    (pin : ULong) (relais : CInt8) (state : Bool) (d : State) :
    (setRelais pin relais state d.core).core =
      (setRelais pin relais state d).core := by
  unfold setRelais
  split_ifs
  · simp only [State.core, digitalWrite, update_blanked]
  · simp only [State.core, digitalWrite, update_blanked]
  · simp only [State.core, digitalWrite, update_blanked]

theorem setRelaisDuration_core
    (t : ℕ) (channel duration : CInt) (d : State) :
    setRelaisDuration t channel duration d.core =
      (setRelaisDuration t channel duration d).core := by
  unfold setRelaisDuration
  split_ifs <;> rfl

theorem handleScan_core (t : ℕ) (temperature : ExtRat) (d : State) :
    handleScan t temperature d.core = (handleScan t temperature d).core := by
  unfold handleScan
  dsimp only
  rw [apply_ite State.core]
  rfl

theorem adcTaskFunction_core (samples : Fin 64 → ULong) (d : State) :
    adcTaskFunction samples d.core = (adcTaskFunction samples d).core := by
  unfold adcTaskFunction
  rw [apply_ite State.core]
  rfl

/-- The blinking changes the LED alone. -/
theorem handleBlink_core (t : ℕ) (d : State) :
    (handleBlink t d).core = d.core := by
  unfold handleBlink
  dsimp only
  split_ifs
  · simp [State.core, digitalWrite]
  · rfl

theorem handleDisplay_core (t : ℕ) (d : State) :
    (handleDisplay t d).core = d.core := by
  unfold handleDisplay
  dsimp only
  split_ifs <;> rfl

/-! ## Devices with the same core -/

/-- The two devices differ in their peripherals at most. -/
def SameCore (d d' : State) : Prop := d.core = d'.core

theorem sameCore_core (d : State) : SameCore d.core d := d.core_core

section

variable {d d' : State}

theorem SameCore.of_core
    (h : SameCore d d') {f : State → State}
    (hf : ∀ d, SameCore (f d.core) (f d)) : SameCore (f d) (f d') := by
  have hd : SameCore (f d.core) (f d) := hf d
  have hd' : SameCore (f d'.core) (f d') := hf d'
  rw [h] at hd
  exact hd.symm.trans hd'

theorem SameCore.setRelais
    (h : SameCore d d') (pin : ULong) (relais : CInt8) (state : Bool) :
    SameCore (setRelais pin relais state d) (setRelais pin relais state d') :=
  h.of_core (setRelais_core pin relais state)

theorem SameCore.setRelaisDuration
    (h : SameCore d d') (t : ℕ) (channel duration : CInt) :
    SameCore (setRelaisDuration t channel duration d)
      (setRelaisDuration t channel duration d') := by
  refine h.of_core (f := DeviceHandler.setRelaisDuration t channel duration)
    fun d => ?_
  rw [setRelaisDuration_core]
  exact sameCore_core _

theorem SameCore.handleScan
    (h : SameCore d d') (t : ℕ) (temperature : ExtRat) :
    SameCore (handleScan t temperature d) (handleScan t temperature d') := by
  refine h.of_core (f := DeviceHandler.handleScan t temperature) fun d => ?_
  rw [handleScan_core]
  exact sameCore_core _

theorem SameCore.adcTaskFunction
    (h : SameCore d d') (samples : Fin 64 → ULong) :
    SameCore (adcTaskFunction samples d) (adcTaskFunction samples d') := by
  refine h.of_core (f := DeviceHandler.adcTaskFunction samples) fun d => ?_
  rw [adcTaskFunction_core]
  exact sameCore_core _

theorem SameCore.pollChannel
    (h : SameCore d d') (t : ℕ) (c : Channel) :
    SameCore (pollChannel t c d) (pollChannel t c d') := by
  have hslot : d.slot c = d'.slot c := by
    cases c with
    | one => exact congrArg (fun d => d.slot .one) h
    | two => exact congrArg (fun d => d.slot .two) h
  unfold DeviceHandler.pollChannel
  rw [hslot]
  split_ifs
  · exact h.setRelais _ _ _
  · exact h

theorem SameCore.handleRelais (h : SameCore d d') (t : ℕ) :
    SameCore (handleRelais t d) (handleRelais t d') := by
  rw [handleRelais_eq, handleRelais_eq]
  exact (h.pollChannel t _).pollChannel t _

theorem SameCore.apply
    (h : SameCore d d') {amb amb' : Ambient}
    (hpin : amb.pin = amb'.pin) (huptime : amb.uptime = amb'.uptime)
    (r : RelaisRequest) : SameCore (r.apply amb d) (r.apply amb' d') := by
  unfold RelaisRequest.apply
  rw [hpin, huptime]
  cases r.duration with
  | none => exact h.setRelais _ _ _
  | some duration => exact (h.setRelais _ _ _).setRelaisDuration _ _ _

end

end DeviceHandler

/-! ## The automation -/

namespace AutomationHandler

open DeviceHandler

/-- The two devices differ in their peripherals at most, and have the same
automation. -/
structure SameControl (c c' : Control) : Prop where
  device : SameCore c.device c'.device
  auto : c.auto = c'.auto

section

variable {c c' : Control}

theorem SameControl.level (h : SameControl c c') :
    getLevelCached c.device = getLevelCached c'.device := by
  have hcore : c.device.core = c'.device.core := h.device
  exact (congrArg State.scanWaterLevel hcore :)

theorem SameControl.setPump (h : SameControl c c') (cond : Bool) :
    SameControl (setPump cond c) (setPump cond c') :=
  ⟨h.device.setRelais _ _ _, by simp only [AutomationHandler.setPump, h.auto]⟩

theorem SameControl.setFill (h : SameControl c c') (cond : Bool) :
    SameControl (setFill cond c) (setFill cond c') :=
  ⟨h.device.setRelais _ _ _, by simp only [AutomationHandler.setFill, h.auto]⟩

theorem SameControl.handlePump (h : SameControl c c') :
    SameControl (handlePump c) (handlePump c') := by
  unfold AutomationHandler.handlePump
  rw [h.level, h.auto]
  split_ifs
  · exact h.setPump true
  · exact h.setPump false

theorem SameControl.handleFill (h : SameControl c c') :
    SameControl (handleFill c) (handleFill c') := by
  unfold AutomationHandler.handleFill
  rw [h.level, h.auto]
  split_ifs
  · exact h.setFill true
  · exact h
  · exact h.setFill false

theorem SameControl.tick (h : SameControl c c') :
    SameControl (tick c) (tick c') := by
  unfold AutomationHandler.tick
  rw [h.auto]
  split_ifs
  · exact h.handleFill.handlePump
  · exact h.handleFill
  · exact (h.setPump false).setFill false
  · exact h

theorem SameControl.loop (h : SameControl c c') (t : ℕ) :
    SameControl (loop t c) (loop t c') := by
  unfold AutomationHandler.loop
  rw [h.auto]
  split_ifs
  · exact SameControl.tick ⟨h.device, rfl⟩
  · exact h

end

end AutomationHandler

/-! ## Requests and boots -/

/-- What a request reads, without the network. -/
def Ambient.core (amb : Ambient) : Ambient :=
  { amb with
    wifiConnected := false
    execHTTPcheck := false
    mqttConnected := false
    cpuFreqMHz := 0
    rssi := .fin 0 }

/-- What a boot reads, without the network and the display. -/
def BootInputs.core (io : BootInputs) : BootInputs where
  resetPin := io.resetPin
  displayBegins := false
  wifiUptime := 0
  connectResult := false
  wifiConnected := false
  mqttUptime := 0

/-- The device without its peripherals, its automation and its files. -/
structure Essential where
  device : DeviceHandler.State
  auto : AutomationHandler.State
  files : FileHandler.State

def Firmware.essential (fw : Firmware) : Essential where
  device := fw.control.device.core
  auto := fw.control.auto
  files := fw.files

namespace Lifecycle

open DeviceHandler AutomationHandler WebHandler

variable (lib : ArduinoJson) (decimals : ExtRat → ℕ → String)

/-- The event without what serves the peripherals. -/
def Event.core : Event → Option Event
  | .call (.handleRelais t) => some (.call (.handleRelais t))
  | .call (.handleScan t temperature) =>
      some (.call (.handleScan t temperature))
  | .call (.automationLoop t) => some (.call (.automationLoop t))
  | .call (.adcTask samples) => some (.call (.adcTask samples))
  | .call (.api amb json reboot) =>
      some (.call (.api amb.core json reboot.core))
  | .powerCycle io => some (.powerCycle io.core)
  | .call (.handleBlink _) | .call (.handleDisplay _)
  | .call (.checkConnection _ _ _) | .call (.mqttLoop _ _) | .call .otaLoop
  | .page _ => none

theorem essential_eq_iff (fw fw' : Firmware) :
    fw.essential = fw'.essential ↔
      SameControl fw.control fw'.control ∧ fw.files = fw'.files := by
  constructor
  · intro h
    rw [Firmware.essential, Firmware.essential, Essential.mk.injEq] at h
    exact ⟨⟨h.1, h.2.1⟩, h.2.2⟩
  · rintro ⟨⟨hdevice, hauto⟩, hfiles⟩
    rw [Firmware.essential, Firmware.essential, Essential.mk.injEq]
    exact ⟨hdevice, hauto, hfiles⟩

/-- A boot depends on the flash and on the reset pin. -/
theorem essential_setup
    (io io' : BootInputs) (h : io.resetPin = io'.resetPin)
    (flash : LittleFS) :
    (Main.setup lib io flash).essential =
      (Main.setup lib io' flash).essential := by
  have hfiles : (Main.setup lib io flash).files =
      (Main.setup lib io' flash).files := by
    change (if io.resetPin then _ else _) = if io'.resetPin then _ else _
    rw [h]
  rw [essential_eq_iff, Firmware.setup_control, Firmware.setup_control]
  exact ⟨⟨rfl, rfl⟩, hfiles⟩

/-- The two routes leave the same behind, whatever the network is like. -/
theorem apiRoute_core
    {fw fw' : Firmware} (hcontrol : SameControl fw.control fw'.control)
    (hfiles : fw.files = fw'.files) (amb : Ambient) (json : Json) :
    SameCore (apiRoute lib amb json fw.server).device
        (apiRoute lib amb.core json fw'.server).device ∧
      (apiRoute lib amb json fw.server).files =
        (apiRoute lib amb.core json fw'.server).files := by
  constructor
  · have hrequest : relaisRequest lib amb fw.files json =
        relaisRequest lib amb.core fw'.files json := by
      rw [hfiles]
      rfl
    rw [apiRoute_device, apiRoute_device, Firmware.server_files,
      Firmware.server_files, hrequest]
    cases relaisRequest lib amb.core fw'.files json with
    | none => exact hcontrol.device
    | some r => exact hcontrol.device.apply rfl rfl r
  · rw [apiRoute_files, apiRoute_files, Firmware.server_files,
      Firmware.server_files, hfiles]
    rfl

theorem essential_step_of_core_none
    {e : Event} (h : e.core = none) (fw : Firmware) :
    (step lib decimals fw e).essential = fw.essential := by
  cases e with
  | page amb => rw [step_page]
  | powerCycle io => cases h
  | call e =>
      cases e with
      | handleBlink t =>
          simp only [step, Firmware.step, Firmware.essential, handleBlink_core]
      | handleDisplay t =>
          simp only [step, Firmware.step, Firmware.essential,
            handleDisplay_core]
      | checkConnection t first second => rfl
      | mqttLoop t connected => rfl
      | otaLoop => rfl
      | _ => cases h

theorem essential_step_of_core_some
    {fw fw' : Firmware} (hfw : fw.essential = fw'.essential) {e e' : Event}
    (h : e.core = some e') :
    (step lib decimals fw e).essential =
      (step lib decimals fw' e').essential := by
  have hsame := (essential_eq_iff fw fw').mp hfw
  obtain ⟨hcontrol, hfiles⟩ := hsame
  cases e with
  | page amb => cases h
  | powerCycle io =>
      obtain rfl := Option.some.inj h
      rw [step, step, hfiles]
      exact essential_setup lib io io.core rfl _
  | call e =>
      cases e with
      | handleRelais t =>
          obtain rfl := Option.some.inj h
          rw [essential_eq_iff]
          exact ⟨⟨hcontrol.device.handleRelais t, hcontrol.auto⟩, hfiles⟩
      | handleScan t temperature =>
          obtain rfl := Option.some.inj h
          rw [essential_eq_iff]
          exact ⟨⟨hcontrol.device.handleScan t temperature, hcontrol.auto⟩,
            hfiles⟩
      | adcTask samples =>
          obtain rfl := Option.some.inj h
          rw [essential_eq_iff]
          exact ⟨⟨hcontrol.device.adcTaskFunction samples, hcontrol.auto⟩,
            hfiles⟩
      | automationLoop t =>
          obtain rfl := Option.some.inj h
          rw [essential_eq_iff]
          exact ⟨hcontrol.loop t, hfiles⟩
      | api amb json reboot =>
          obtain rfl := Option.some.inj h
          obtain ⟨hdevice, hroute⟩ := apiRoute_core lib hcontrol hfiles amb json
          have hrestarts : Restarts lib amb fw.files json ↔
              Restarts lib amb.core fw'.files json := by
            rw [hfiles]
            exact Iff.rfl
          by_cases hrestart : Restarts lib amb fw.files json
          · have hboot : nextBoot lib fw (.api amb json reboot) = some _ :=
              if_pos hrestart
            have hboot' : nextBoot lib fw' (.api amb.core json reboot.core) =
                some _ := if_pos (hrestarts.mp hrestart)
            rw [step_of_nextBoot lib decimals hboot,
              step_of_nextBoot lib decimals hboot', hroute]
            exact essential_setup lib reboot reboot.core rfl _
          · rw [step_api_of_not_restarts lib decimals reboot hrestart,
              step_api_of_not_restarts lib decimals reboot.core
                (fun hr => hrestart (hrestarts.mpr hr)), essential_eq_iff]
            exact ⟨⟨hdevice, hcontrol.auto⟩, hroute⟩
      | _ => cases h

/-- For every two lives of the device that begin on the same flash and have the
same core: whatever the LED, the display, the WiFi connection and the MQTT client
go through in each of them, the relays, their timers and pins, the sensor values,
the automation, the configuration and the flash are the same in the end. -/
theorem essential_of_same_core
    (lib : ArduinoJson) (decimals : ExtRat → ℕ → String)
    (io io' : BootInputs) (flash : LittleFS) (es es' : List Event)
    (hio : io.resetPin = io'.resetPin)
    (hes : es.filterMap Event.core = es'.filterMap Event.core) :
    (run lib decimals (Main.setup lib io flash) es).essential =
      (run lib decimals (Main.setup lib io' flash) es').essential := by
  have hcore : ∀ {fw fw' : Firmware}, fw.essential = fw'.essential →
      ∀ es : List Event, (run lib decimals fw es).essential =
        (run lib decimals fw' (es.filterMap Event.core)).essential :=
    fun hfw es => Machine.run_view_filterMap
      (fun fw e he => essential_step_of_core_none lib decimals he fw)
      (fun _ _ _ _ hfw he => essential_step_of_core_some lib decimals hfw he)
      hfw es
  have hboot := essential_setup lib io io' hio flash
  rw [hcore hboot es, hes, hcore rfl es']

/-- The fill pump is switched on for a minute and the device runs on, once with
a network and a broker, and once, after a boot that has timed out, with an
access point that nobody else uses. -/
def servedLife (wifi : Bool) : List Event :=
  [.call (.checkConnection 1000 wifi wifi),
    .call (.handleBlink 1200),
    .call (.api
      { Ambient.plain 2000 with wifiConnected := wifi, mqttConnected := wifi }
      (RelaisRequest.payload 1 true (some (.int 60))) (.plain wifi)),
    .call (.handleDisplay 3000),
    .call (.mqttLoop 4000 wifi),
    .call (.handleRelais 70000)]

theorem essential_of_served_life :
    (run Firmware.brokerLib ExtRat.toFixed
        (Main.setup Firmware.brokerLib (.plain true) Firmware.brokerFlash)
        (servedLife true)).essential =
      (run Firmware.brokerLib ExtRat.toFixed
        (Main.setup Firmware.brokerLib { BootInputs.plain false with
          connectResult := false } Firmware.brokerFlash)
        (servedLife false)).essential :=
  essential_of_same_core Firmware.brokerLib ExtRat.toFixed (.plain true)
    { BootInputs.plain false with connectResult := false } Firmware.brokerFlash
    (servedLife true) (servedLife false) rfl rfl

end Lifecycle
end ByteWaterlevel
