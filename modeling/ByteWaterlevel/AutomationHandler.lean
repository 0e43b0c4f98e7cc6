import ByteWaterlevel.DeviceHandler

/-!
# Automation handler

The automation reads the cached water level and switches the two relays.  Its
two flags `fillM` and `pumpM` record what it asked for last; they are written
by the automation alone, while the relays have other writers.

`Control` is the part of the firmware that these functions work on: the
variables of `DeviceHandler.cpp` and of `AutomationHandler.cpp`.
-/

namespace ByteWaterlevel
namespace AutomationHandler

structure State where
  mode : CInt
  maxL : ExtRat
  minL : ExtRat
  fillL : ExtRat
  fillM : Bool
  pumpM : Bool
  autoMillis : ULong

/-- The variables at power-on, before `setup` has read the thresholds. -/
def initialState : State where
  mode := 0
  maxL := .fin 0
  minL := .fin 0
  fillL := .fin 0
  fillM := false
  pumpM := false
  autoMillis := 0

def setup (lib : ArduinoJson) (config : Json) (a : State) : State :=
  let auto := config.get "auto"
  { a with
    mode := (auto.get "mode").asInt lib
    maxL := (auto.get "max").asFloat lib
    minL := (auto.get "min").asFloat lib
    fillL := (auto.get "fill").asFloat lib }

def isFilling (a : State) : Bool := a.fillM

def isPumping (a : State) : Bool := a.pumpM

def getMode (a : State) : CInt := a.mode

end AutomationHandler

/-- The device together with its automation. -/
structure Control where
  device : DeviceHandler.State
  auto : AutomationHandler.State

namespace AutomationHandler

open InternalConfig DeviceHandler

def setPump (cond : Bool) (c : Control) : Control where
  device := setRelais 0 pumpEmpty cond c.device
  auto := { c.auto with pumpM := cond }

def handlePump (c : Control) : Control :=
  if getLevelCached c.device > c.auto.minL then setPump true c
  else setPump false c

def setFill (cond : Bool) (c : Control) : Control where
  device := setRelais 0 pumpFill cond c.device
  auto := { c.auto with fillM := cond }

def handleFill (c : Control) : Control :=
  if getLevelCached c.device < c.auto.maxL then
    if c.auto.fillM = false ∧ getLevelCached c.device ≤ c.auto.fillL then
      setFill true c
    else c
  else setFill false c

/-- What an executed tick does in each mode. -/
def tick (c : Control) : Control :=
  if c.auto.mode = 1 then handlePump (handleFill c)
  else if c.auto.mode = 2 then handleFill c
  else if c.auto.fillM ∨ c.auto.pumpM then setFill false (setPump false c)
  else c

/-- The automation is on and its interval has passed. -/
def Due (t : ℕ) (a : State) : Prop :=
  a.mode ≠ 0 ∧ millis t - a.autoMillis ≥ autoInterval

instance (t : ℕ) (a : State) : Decidable (Due t a) :=
  inferInstanceAs (Decidable (_ ∧ _))

def loop (t : ℕ) (c : Control) : Control :=
  if Due t c.auto then
    tick { c with auto := { c.auto with autoMillis := millis t } }
  else c

end AutomationHandler
end ByteWaterlevel
