import ByteWaterlevel.Control.Machine
import ByteWaterlevel.MQTTHandler
import ByteWaterlevel.WiFi.Station

/-!
# The firmware

`Main.setup` and `Main.loop` are the two functions of `main.cpp`.  The firmware
as a whole is an event machine whose events are the calls of single handlers.
An iteration of the main loop is a fixed sequence of such calls; the ADC task
and the handler of the web server run beside it, so their events may come
between any two of them.

An update over the air that succeeds ends the run that is described here: the
device boots with the program or the file system that was flashed.  One that
fails changes nothing, so `otaLoop` and an accepted request for an update have
no effect.

The last parts project the firmware onto the relay control of
`ByteWaterlevel.Control.Machine`, where the readings of a scan and the voltage
of an ADC task are arbitrary, and onto the polls of the WiFi connection.
-/

namespace ByteWaterlevel

/-- The variables of all handlers. -/
structure Firmware where
  control : Control
  files : FileHandler.State
  wifi : WiFiHandler.State
  mqtt : MQTTHandler.State
  ota : OTAHandler.State

/-- What `setup` reads from the hardware and from the WiFi library. -/
structure BootInputs where
  resetPin : Bool
  displayBegins : Bool
  /-- The uptime at which the station is started. -/
  wifiUptime : ℕ
  /-- Whether `waitForConnectResult` returned `WL_CONNECTED`. -/
  connectResult : Bool
  /-- The status of the connection when `setup` checks it. -/
  wifiConnected : Bool
  mqttUptime : ℕ

/-- A boot without the reset pin and without a display.  The station connects
within a second, and `wifiConnected` is what the later check finds. -/
def BootInputs.plain (wifiConnected : Bool) : BootInputs where
  resetPin := false
  displayBegins := false
  wifiUptime := 100
  connectResult := true
  wifiConnected := wifiConnected
  mqttUptime := 1000

namespace Firmware

/-- The call of one handler, with what it reads from outside. -/
inductive Event where
  | handleBlink (t : ℕ)
  | handleRelais (t : ℕ)
  | handleScan (t : ℕ) (temperature : ExtRat)
  | handleDisplay (t : ℕ)
  | checkConnection (t : ℕ) (first second : Bool)
  | mqttLoop (t : ℕ) (connected : Bool)
  /-- `OTAHandler::loop`, in which no update succeeds. -/
  | otaLoop
  | automationLoop (t : ℕ)
  | adcTask (samples : Fin 64 → ULong)
  | api (amb : Ambient) (json : Json) (reboot : BootInputs)

/-- The event is a call by the main loop, and not by the ADC task or the web
server. -/
def Event.isLoopCall : Event → Bool
  | .adcTask _ | .api _ _ _ => false
  | _ => true

end Firmware

namespace Main

def setup (lib : ArduinoJson) (io : BootInputs) (flash : LittleFS) :
    Firmware :=
  let files :=
    FileHandler.loadConfig lib { flash := flash, config := .null }
  let (files, device) :=
    DeviceHandler.setup lib io.resetPin io.displayBegins files
      DeviceHandler.initialState
  let config := FileHandler.getConfig files
  let wifi :=
    WiFiHandler.setup lib config io.wifiUptime io.connectResult
      WiFiHandler.initialState
  let ota := OTAHandler.setup lib config OTAHandler.initialState
  let auto := AutomationHandler.setup lib config AutomationHandler.initialState
  let mqtt :=
    if io.wifiConnected then
      MQTTHandler.setup lib config io.mqttUptime MQTTHandler.initialState
    else MQTTHandler.initialState
  { control := { device := device, auto := auto }
    files := files
    wifi := wifi
    mqtt := mqtt
    ota := ota }

/-- What the handlers read during one iteration of the main loop. -/
structure LoopInputs where
  blinkUptime : ℕ
  relaisUptime : ℕ
  scanUptime : ℕ
  temperature : ExtRat
  displayUptime : ℕ
  wifiUptime : ℕ
  firstStatus : Bool
  secondStatus : Bool
  mqttUptime : ℕ
  mqttConnected : Bool
  autoUptime : ℕ

/-- One iteration: the calls of `DeviceHandler::loop` and then those of the
other handlers.  `WebHandler::loop` is empty. -/
def loop (io : LoopInputs) : List Firmware.Event :=
  [.handleBlink io.blinkUptime,
    .handleRelais io.relaisUptime,
    .handleScan io.scanUptime io.temperature,
    .handleDisplay io.displayUptime,
    .checkConnection io.wifiUptime io.firstStatus io.secondStatus,
    .mqttLoop io.mqttUptime io.mqttConnected,
    .otaLoop,
    .automationLoop io.autoUptime]

end Main

namespace Firmware

variable (lib : ArduinoJson) (decimals : ExtRat → ℕ → String)

/-- The effect of one call.  A request that restarts the device leads to the
next boot, on the flash that the request leaves behind. -/
def step (fw : Firmware) : Event → Firmware
  | .handleBlink t =>
      { fw with
        control.device := DeviceHandler.handleBlink t fw.control.device }
  | .handleRelais t =>
      { fw with
        control.device := DeviceHandler.handleRelais t fw.control.device }
  | .handleScan t temperature =>
      { fw with
        control.device :=
          DeviceHandler.handleScan t temperature fw.control.device }
  | .handleDisplay t =>
      { fw with
        control.device := DeviceHandler.handleDisplay t fw.control.device }
  | .checkConnection t first second =>
      { fw with
        wifi := WiFiHandler.checkConnection lib
          (FileHandler.getConfig fw.files) t first second fw.wifi }
  | .mqttLoop t connected =>
      { fw with
        mqtt := (MQTTHandler.loop lib decimals
          (FileHandler.getConfig fw.files) t connected fw.control fw.mqtt).1 }
  | .otaLoop => fw
  | .automationLoop t =>
      { fw with control := AutomationHandler.loop t fw.control }
  | .adcTask samples =>
      { fw with
        control.device :=
          DeviceHandler.adcTaskFunction samples fw.control.device }
  | .api amb json reboot =>
      let w := WebHandler.apiRoute lib amb json
        { device := fw.control.device, files := fw.files, responses := [],
          action := none }
      if w.action = some .restart then Main.setup lib reboot w.files.flash
      else { fw with control.device := w.device, files := w.files }

abbrev run := Machine.run (step lib decimals)

abbrev Along := Machine.Along (step lib decimals)

/-- The event is a request that restarts the device. -/
def RestartsDevice (fw : Firmware) (e : Event) : Prop :=
  ∃ amb json reboot, e = .api amb json reboot ∧
    WebHandler.Restarts lib amb fw.files json

theorem not_restartsDevice_of_isLoopCall
    (fw : Firmware) {e : Event} (h : e.isLoopCall = true) :
    ¬ RestartsDevice lib fw e := by
  rintro ⟨amb, json, reboot, rfl, -⟩
  exact absurd h (by simp [Event.isLoopCall])

/-- A request that does not restart the device carries out its relay request,
if it has one, and may change the files. -/
theorem step_api
    {fw : Firmware} {amb : Ambient} {json : Json} (reboot : BootInputs)
    (h : ¬ RestartsDevice lib fw (.api amb json reboot)) :
    ∃ files, step lib decimals fw (.api amb json reboot) =
      { fw with
        control.device := WebHandler.applyRequest amb
          (WebHandler.relaisRequest lib amb fw.files json) fw.control.device
        files := files } := by
  have haction := WebHandler.apiRoute_action_restart_iff lib amb json
    (w := { device := fw.control.device, files := fw.files, responses := [],
            action := none }) rfl
  have hnot : ¬ WebHandler.Restarts lib amb fw.files json := fun hrestarts =>
    h ⟨amb, json, reboot, rfl, hrestarts⟩
  simp only [step, haction, if_neg hnot, WebHandler.apiRoute_device]
  exact ⟨_, rfl⟩

/-- The event is a call of one of the device's own handlers, that of the relays
apart, or the end of an ADC task. -/
def Event.isDeviceCall : Event → Bool
  | .handleBlink _ | .handleScan _ _ | .handleDisplay _ | .adcTask _ => true
  | _ => false

/-- All other events between two boots reach the device only through its
relays. -/
theorem step_of_away
    {α : Type*} {v : DeviceHandler.State → α}
    (hv : DeviceHandler.AwayFromRelays v) {fw : Firmware} {e : Event}
    (h : ¬ RestartsDevice lib fw e) (he : e.isDeviceCall = false) :
    v (step lib decimals fw e).control.device = v fw.control.device := by
  cases e with
  | handleRelais t => exact hv.handleRelais t fw.control.device
  | automationLoop t => exact Control.loop_of_away hv t fw.control
  | api amb json reboot =>
      obtain ⟨files, heq⟩ := step_api lib decimals reboot h
      rw [heq]
      cases WebHandler.relaisRequest lib amb fw.files json with
      | none => rfl
      | some r => exact RelaisRequest.apply_of_away hv amb r _
  | checkConnection t first second => rfl
  | mqttLoop t connected => rfl
  | otaLoop => rfl
  | _ => exact absurd he (by simp [Event.isDeviceCall])

/-! ## The relay control of the firmware -/

/-- What the setup functions of the device and of the automation read. -/
def settings (config : Json) (displayBegins : Bool) : Control.Settings where
  systemLed := ((config.get "hardware").get "led").asBool
  maxV := ((config.get "calibration").get "max").asFloat lib
  minV := ((config.get "calibration").get "min").asFloat lib
  tankVolume := ((config.get "calibration").get "volume").asFloat lib
  displayEnabled :=
    ((config.get "hardware").get "oled").asBool && displayBegins
  mode := ((config.get "auto").get "mode").asInt lib
  maxL := ((config.get "auto").get "max").asFloat lib
  minL := ((config.get "auto").get "min").asFloat lib
  fillL := ((config.get "auto").get "fill").asFloat lib

/-- The configuration that a boot on the given flash works with. -/
def bootConfig (flash : LittleFS) : Json :=
  (FileHandler.loadConfig lib { flash := flash, config := .null }).config

/-- Resetting the file changes nothing about the configuration in memory. -/
theorem getConfig_reset_pin (resetPin : Bool) (files : FileHandler.State) :
    FileHandler.getConfig
        (if resetPin then FileHandler.reset files else files) =
      files.config := by
  cases resetPin <;> rfl

@[simp] theorem setup_config (io : BootInputs) (flash : LittleFS) :
    (Main.setup lib io flash).files.config = bootConfig lib flash :=
  getConfig_reset_pin io.resetPin _

theorem setup_control (io : BootInputs) (flash : LittleFS) :
    (Main.setup lib io flash).control =
      Control.boot
        (settings lib (bootConfig lib flash) io.displayBegins) := by
  simp only [Main.setup, DeviceHandler.setup, getConfig_reset_pin]
  rw [← bootConfig]
  generalize bootConfig lib flash = config
  by_cases hdisplay :
      ((config.get "hardware").get "oled").asBool = true ∧
        io.displayBegins = true
  · have henabled : (settings lib config io.displayBegins).displayEnabled =
        true := by
      simp [settings, hdisplay]
    rw [if_pos hdisplay, Control.boot, henabled]
    rfl
  · have hdisabled : (settings lib config io.displayBegins).displayEnabled =
        false := by
      simpa [settings] using hdisplay
    rw [if_neg hdisplay, Control.boot, hdisabled]
    rfl

/-- What a call means for the relay control. -/
def controlEvents (fw : Firmware) : Event → List Control.Event
  | .handleBlink t => [.blink t]
  | .handleRelais t => [.poll t]
  | .handleScan t temperature =>
      [.scan t (DeviceHandler.readings temperature fw.control.device)]
  | .handleDisplay t => [.display t]
  | .automationLoop t => [.automation t]
  | .adcTask samples =>
      let d := DeviceHandler.adcTaskFunction samples fw.control.device
      [.adc d.latestVoltage d.adcTasks]
  | .api amb json reboot =>
      let w := WebHandler.apiRoute lib amb json
        { device := fw.control.device, files := fw.files, responses := [],
          action := none }
      [.api fw.files amb json
        (settings lib (bootConfig lib w.files.flash) reboot.displayBegins)]
  | .checkConnection _ _ _ | .mqttLoop _ _ | .otaLoop => []

theorem step_control (fw : Firmware) (e : Event) :
    (step lib decimals fw e).control =
      Control.run lib fw.control (controlEvents lib fw e) := by
  cases e with
  | api amb json reboot =>
      simp only [step, controlEvents, Machine.run_cons, Machine.run_nil,
        Control.step]
      split_ifs
      · exact setup_control lib reboot _
      · rfl
  | adcTask samples =>
      simp only [step, controlEvents, Machine.run_cons, Machine.run_nil,
        Control.step, DeviceHandler.adcTaskFunction]
      split_ifs <;> rfl
  | handleBlink t => rfl
  | handleRelais t => rfl
  | handleScan t temperature => rfl
  | handleDisplay t => rfl
  | checkConnection t first second => rfl
  | mqttLoop t connected => rfl
  | otaLoop => rfl
  | automationLoop t => rfl

/-- Every run of the firmware is, on its relays and its automation, a run of
the relay control. -/
theorem run_control (fw : Firmware) (es : List Event) :
    (run lib decimals fw es).control =
      Control.run lib fw.control
        (Machine.trace (step lib decimals) (controlEvents lib) fw es) :=
  Machine.run_projection (step_control lib decimals) fw es

/-! ## The other handlers at boot -/

theorem setup_ota (io : BootInputs) (flash : LittleFS) :
    (Main.setup lib io flash).ota =
      OTAHandler.setup lib (bootConfig lib flash) OTAHandler.initialState := by
  rw [← setup_config lib io flash]
  rfl

theorem setup_mqtt (io : BootInputs) (flash : LittleFS) :
    (Main.setup lib io flash).mqtt =
      if io.wifiConnected then
        MQTTHandler.setup lib (bootConfig lib flash) io.mqttUptime
          MQTTHandler.initialState
      else MQTTHandler.initialState := by
  rw [← setup_config lib io flash]
  rfl

/-! ## The WiFi connection of the firmware -/

/-- What a call means for the WiFi handler. -/
def wifiPolls (fw : Firmware) : Event → List WiFiHandler.Poll
  | .checkConnection t first second =>
      [⟨FileHandler.getConfig fw.files, t, first, second⟩]
  | _ => []

theorem setup_wifi (io : BootInputs) (flash : LittleFS) :
    (Main.setup lib io flash).wifi =
      WiFiHandler.setup lib (bootConfig lib flash) io.wifiUptime
        io.connectResult WiFiHandler.initialState := by
  rw [← setup_config lib io flash]
  rfl

theorem step_wifi
    {fw : Firmware} {e : Event} (h : ¬ RestartsDevice lib fw e) :
    (step lib decimals fw e).wifi =
      WiFiHandler.run lib fw.wifi (wifiPolls fw e) := by
  cases e with
  | api amb json reboot =>
      obtain ⟨files, heq⟩ := step_api lib decimals reboot h
      rw [heq]
      rfl
  | _ => rfl

/-- Between two boots, every run of the firmware is a sequence of polls of the
WiFi connection. -/
theorem run_wifi
    {fw : Firmware} {es : List Event}
    (h : Along lib decimals (fun fw e => ¬ RestartsDevice lib fw e) fw es) :
    (run lib decimals fw es).wifi =
      WiFiHandler.run lib fw.wifi
        (Machine.trace (step lib decimals) wifiPolls fw es) :=
  Machine.run_projection_along (fun _ _ he => step_wifi lib decimals he) h

end Firmware
end ByteWaterlevel
