import ByteWaterlevel.FileHandler
import ByteWaterlevel.Platform

/-!
# Device handler

Relays with their auto-off timers, the blinking LED, and the sensor pipeline
from ADC samples to the cached water level.

Each global variable of `DeviceHandler.cpp` is a field of `State`.  Three
fields stand for what the code changes outside its variables: the levels of
the output pins, the ADC tasks that were created and have not finished, and
the lines that `setRelais` prints on the serial port.
-/

namespace ByteWaterlevel
namespace DeviceHandler

open InternalConfig

/-- The value of `ch1` and `ch2` that stands for no timer, `-1`. -/
def noTimer : ULong := -1

/-- The line `Relais <relais> set to <state>` of the debug output. -/
structure RelaisLine where
  relais : CInt8
  state : Bool
deriving DecidableEq

structure State where
  previousMillis : ULong
  scanMillis : ULong
  displayMillis : ULong
  ch1 : ULong
  ch2 : ULong
  relay1 : Bool
  relay2 : Bool
  ledState : Bool
  latestVoltage : ExtRat
  systemLed : Bool
  maxV : ExtRat
  minV : ExtRat
  tankVolume : ExtRat
  scanCurrent : ExtRat
  scanTemperature : ExtRat
  scanWaterLevel : ExtRat
  scanWaterVolume : ExtRat
  displayEnabled : Bool
  pins : CUInt8 → Bool
  adcTasks : ℕ
  serial : List RelaisLine

/-- The variables as they are initialised at power-on, all pins low. -/
def initialState : State where
  previousMillis := 0
  scanMillis := 0
  displayMillis := 0
  ch1 := noTimer
  ch2 := noTimer
  relay1 := false
  relay2 := false
  ledState := false
  latestVoltage := .fin 0
  systemLed := true
  maxV := .fin (12 / 5)
  minV := .fin 0
  tankVolume := .fin 1000
  scanCurrent := .fin 0
  scanTemperature := .fin 0
  scanWaterLevel := .fin 0
  scanWaterVolume := .fin 0
  displayEnabled := false
  pins := fun _ => false
  adcTasks := 0
  serial := []

def digitalWrite (pin : CUInt8) (level : Bool) (d : State) : State :=
  { d with pins := Function.update d.pins pin level }

/-! ## Relays and timers -/

/-- Switches a relay and cancels its timer.  `pin` is what the uninitialised
local variable holds; it is used only if `relais` is neither 1 nor 2.  The call
of `digitalWrite` cuts the variable to eight bits. -/
def setRelais
    (pin : ULong) (relais : CInt8) (state : Bool) (d : State) : State :=
  let (pin, d) :=
    if relais = 1 then
      (relaisCh1, { d with ch1 := noTimer, relay1 := state })
    else if relais = 2 then
      (relaisCh2, { d with ch2 := noTimer, relay2 := state })
    else (pin, d)
  let d := digitalWrite (pin.setWidth 8) state d
  { d with serial := ⟨relais, state⟩ :: d.serial }

/-- Arms the timer of a channel, `duration` seconds from now. -/
def setRelaisDuration (t : ℕ) (channel duration : CInt) (d : State) : State :=
  if channel = 1 then { d with ch1 := millis t + duration * 1000 }
  else if channel = 2 then { d with ch2 := millis t + duration * 1000 }
  else d

/-- Switches off the relays whose timers have expired. -/
def handleRelais (t : ℕ) (d : State) : State :=
  let currentMillis := millis t
  let d :=
    if d.ch1 ≠ noTimer ∧ currentMillis ≥ d.ch1 then setRelais 0 1 false d
    else d
  if d.ch2 ≠ noTimer ∧ currentMillis ≥ d.ch2 then setRelais 0 2 false d
  else d

def getState (i : CInt) (d : State) : Bool :=
  if i = 1 then d.relay1 else if i = 2 then d.relay2 else false

/-- The remaining time of a timer.  The comparison with zero is signed for the
stored deadline and unsigned for the difference. -/
def getDuration (t : ℕ) (i : CInt) (d : State) : CInt :=
  let duration : CInt := 0
  let duration := if i = 1 then (if d.ch1 ≤ 0 then 0 else d.ch1) else duration
  let duration := if i = 2 then (if d.ch2 ≤ 0 then 0 else d.ch2) else duration
  if BitVec.slt 0 duration ∧ duration - millis t > 0 then
    duration - millis t
  else 0

/-! ## Blinking and display -/

def handleBlink (t : ℕ) (d : State) : State :=
  let currentMillis := millis t
  if currentMillis - d.previousMillis ≥ blinkInterval then
    let ledState := !d.ledState
    digitalWrite ledPin ledState
      { d with previousMillis := currentMillis, ledState := ledState }
  else d

/-- The refresh gate of the display.  Drawing changes no variable. -/
def handleDisplay (t : ℕ) (d : State) : State :=
  if d.displayEnabled then
    let currentMillis := millis t
    if currentMillis - d.displayMillis ≥ displayInterval then
      { d with displayMillis := currentMillis }
    else d
  else d

/-! ## Sensor pipeline -/

/-- Like the whole pipeline this is the function over exact rationals: the
products and quotients of the source are rounded to single precision. -/
def roundToTwoDecimals (value : ExtRat) : ExtRat :=
  (value * .fin 100).round / .fin 100

/-- Averages the samples, in millivolts, and filters the average into
`latestVoltage`.  The sum is a `uint32_t`. -/
def readVoltage (samples : List ULong) (d : State) : State :=
  let sum := samples.foldl (· + ·) (0 : ULong)
  let average := .fin sum.toNat / .fin samples.length / .fin 1000
  let voltage :=
    d.latestVoltage * (.fin 1 - emaAlpha) + average * emaAlpha
  { d with latestVoltage := voltage }

/-- Reads the sensor pin 64 times. -/
def getADCValue (samples : Fin 64 → ULong) (d : State) : State :=
  readVoltage (List.ofFn samples) d

/-- The ADC task: it runs once after it was created and then ends. -/
def adcTaskFunction (samples : Fin 64 → ULong) (d : State) : State :=
  if d.adcTasks = 0 then d
  else { getADCValue samples d with adcTasks := d.adcTasks - 1 }

def getCurrent (d : State) : ExtRat :=
  d.latestVoltage / .fin 120 * .fin 1000

/-- The clamped position of a voltage between the calibration voltages, in
percent. -/
def levelOf (minV maxV voltage : ExtRat) : ExtRat :=
  let percent := (voltage - minV) / (maxV - minV) * .fin 100
  let percent := if percent < .fin 0 then .fin 0 else percent
  if percent > .fin 100 then .fin 100 else percent

def getLevel (d : State) : ExtRat :=
  levelOf d.minV d.maxV d.latestVoltage

def getVolume (d : State) : ExtRat :=
  d.tankVolume * (getLevel d / .fin 100)

/-- The four values that a scan stores. -/
structure Readings where
  current : ExtRat
  temperature : ExtRat
  level : ExtRat
  volume : ExtRat

def cacheReadings (r : Readings) (d : State) : State :=
  { d with
    scanCurrent := r.current
    scanTemperature := r.temperature
    scanWaterLevel := r.level
    scanWaterVolume := r.volume }

/-- What a scan reads.  The level and the volume come from the voltage that
earlier ADC tasks left behind; `temperature` is the CPU sensor's value. -/
def readings (temperature : ExtRat) (d : State) : Readings where
  current := roundToTwoDecimals (getCurrent d)
  temperature := roundToTwoDecimals temperature
  level := roundToTwoDecimals (getLevel d)
  volume := roundToTwoDecimals (getVolume d)

/-- Creates an ADC task, which runs later, and stores the readings. -/
def scanSensors (temperature : ExtRat) (d : State) : State :=
  cacheReadings (readings temperature d) { d with adcTasks := d.adcTasks + 1 }

def handleScan (t : ℕ) (temperature : ExtRat) (d : State) : State :=
  let currentMillis := millis t
  if currentMillis - d.scanMillis ≥ scanInterval then
    scanSensors temperature { d with scanMillis := currentMillis }
  else d

def getLevelCached (d : State) : ExtRat := d.scanWaterLevel

def getVolumeCached (d : State) : ExtRat := d.scanWaterVolume

def getCurrentCached (d : State) : ExtRat := d.scanCurrent

def getCPUTemperatureCached (d : State) : ExtRat := d.scanTemperature

def getADCValueCached (d : State) : ExtRat := d.latestVoltage

/-! ## Setup -/

/-- Handles the reset pin, then reads the settings out of the configuration
that is in memory.  `displayBegins` is the display driver's answer. -/
def setup
    (lib : ArduinoJson) (resetPin displayBegins : Bool)
    (files : FileHandler.State) (d : State) : FileHandler.State × State :=
  let files := if resetPin then FileHandler.reset files else files
  let config := FileHandler.getConfig files
  let calibration := config.get "calibration"
  let d :=
    { d with
      systemLed := ((config.get "hardware").get "led").asBool
      maxV := (calibration.get "max").asFloat lib
      minV := (calibration.get "min").asFloat lib
      tankVolume := (calibration.get "volume").asFloat lib }
  let d :=
    if ((config.get "hardware").get "oled").asBool ∧ displayBegins then
      { d with displayEnabled := true }
    else d
  (files, d)

end DeviceHandler
end ByteWaterlevel
