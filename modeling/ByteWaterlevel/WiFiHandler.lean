import ByteWaterlevel.Platform
import ByteWaterlevel.Support.Json

/-!
# WiFi handler

The station and access-point state machine.  `Radio` is the part of the WiFi
library that the handler drives; its operations follow the library's
documented behaviour: `mode` sets the mode, `softAPdisconnect(true)` removes
the access point from it, and `reconnect` does nothing in a mode without the
station.

The connection status is not part of the state.  It can change between any two
reads, so every read of `WiFi.status()` is an argument of the function that
makes it.
-/

namespace ByteWaterlevel

inductive WiFiMode where
  | off
  | sta
  | ap
  | apsta
deriving DecidableEq

namespace WiFiMode

def HasSta (m : WiFiMode) : Prop := m = sta ∨ m = apsta

def HasAp (m : WiFiMode) : Prop := m = ap ∨ m = apsta

instance (m : WiFiMode) : Decidable m.HasSta :=
  inferInstanceAs (Decidable (_ ∨ _))

instance (m : WiFiMode) : Decidable m.HasAp :=
  inferInstanceAs (Decidable (_ ∨ _))

def withoutAp : WiFiMode → WiFiMode
  | off => off
  | sta => sta
  | ap => off
  | apsta => sta

end WiFiMode

structure Radio where
  mode : WiFiMode
  autoReconnect : Bool
  hostname : String
  /-- The network and password given to `begin`. -/
  station : Option (String × String)
  /-- The network and password given to `softAP`. -/
  softAP : Option (String × String)
  /-- The number of reconnection attempts that `reconnect` has started. -/
  attempts : ℕ
deriving DecidableEq

namespace Radio

def setMode (m : WiFiMode) (r : Radio) : Radio := { r with mode := m }

def reconnect (r : Radio) : Radio :=
  if r.mode.HasSta then { r with attempts := r.attempts + 1 } else r

def softAPdisconnect (r : Radio) : Radio :=
  { r with mode := r.mode.withoutAp, softAP := none }

end Radio

namespace WiFiHandler

/-- `CONNECTION_TIMEOUT_MS`. -/
def connectionTimeoutMs : ULong := 30000

structure State where
  radio : Radio
  connectionStartTime : ULong
  lastReconnectAttempt : CInt
  apStarted : Bool
deriving DecidableEq

def initialState : State where
  radio :=
    { mode := .off
      autoReconnect := false
      hostname := ""
      station := none
      softAP := none
      attempts := 0 }
  connectionStartTime := 0
  lastReconnectAttempt := 0
  apStarted := false

def isWiFiClientUsable (lib : ArduinoJson) (config : Json) : Bool :=
  let client := (config.get "wifi").get "client"
  !(config.get "wifi").isNull &&
    !(client.get "ssid").isNull &&
    !((client.get "ssid").asString lib).isEmpty &&
    !(client.get "password").isNull

def startAP (lib : ArduinoJson) (config : Json) (combine : Bool)
    (s : State) : State :=
  let ap := (config.get "wifi").get "ap"
  let radio := s.radio.setMode (if combine then .apsta else .ap)
  let radio :=
    { radio with
      softAP := some
        ((ap.get "ssid").asString lib, (ap.get "password").asString lib) }
  { s with radio := radio, apStarted := true }

def stopAP (s : State) : State :=
  if s.apStarted then
    { s with radio := s.radio.softAPdisconnect, apStarted := false }
  else s

/-- Starts the station at uptime `t` and waits for it, or starts the access
point.  `connected` tells whether `waitForConnectResult` returned
`WL_CONNECTED`. -/
def setup (lib : ArduinoJson) (config : Json) (t : ℕ) (connected : Bool)
    (s : State) : State :=
  let s := { s with radio := { s.radio with autoReconnect := true } }
  if isWiFiClientUsable lib config then
    let wifi := config.get "wifi"
    let radio :=
      { s.radio with
        hostname := ((wifi.get "ap").get "ssid").asString lib
        mode := .sta
        station := some
          (((wifi.get "client").get "ssid").asString lib,
            ((wifi.get "client").get "password").asString lib) }
    let s :=
      { s with
        radio := radio
        connectionStartTime := millis t
        apStarted := false }
    if connected then s else startAP lib config false s
  else startAP lib config false s

/-- The part of `checkConnection` that runs when the station is found
disconnected. -/
def handleDisconnected
    (lib : ArduinoJson) (config : Json) (t : ℕ) (s : State) : State :=
  let now := millis t
  let s :=
    if now - s.lastReconnectAttempt ≥ 5000 then
      { s with
        lastReconnectAttempt := now
        radio := s.radio.reconnect }
    else s
  if !s.apStarted ∧ now - s.connectionStartTime > connectionTimeoutMs then
    startAP lib config true s
  else s

/-- One poll.  `first` and `second` are the two reads of the status. -/
def checkConnection
    (lib : ArduinoJson) (config : Json) (t : ℕ) (first second : Bool)
    (s : State) : State :=
  if first ∧ s.apStarted then
    let s := stopAP s
    { s with radio := s.radio.setMode .sta }
  else if second then s
  else handleDisconnected lib config t s

end WiFiHandler
end ByteWaterlevel
