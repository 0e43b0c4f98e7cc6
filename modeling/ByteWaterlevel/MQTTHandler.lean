import ByteWaterlevel.AutomationHandler

/-!
# MQTT handler

Setup of the MQTT client, the periodic publishing of the device state, and the
retry of the connection.  `Client` holds what the handler passes to the client
library; whether the client is connected is read from the library and is an
argument of the functions that read it.
-/

namespace ByteWaterlevel

/-- A publish packet. -/
structure Message where
  topic : String
  qos : ℕ
  retain : Bool
  payload : String
deriving DecidableEq

namespace MQTTHandler

open DeviceHandler AutomationHandler InternalConfig

structure Client where
  server : Option (String × BitVec 16)
  keepAlive : ℕ
  clientId : String
  credentials : Option (String × String)
  will : Option Message
  /-- The connect and disconnect listeners are registered. -/
  listeners : Bool
  /-- The number of calls of `connect`. -/
  connects : ℕ

structure State where
  isEnabled : Bool
  previousMillisMQTT : ULong
  reconnectMQTT : ULong
  client : Client

def initialState : State where
  isEnabled := false
  previousMillisMQTT := 0
  reconnectMQTT := 0
  client :=
    { server := none
      keepAlive := 0
      clientId := ""
      credentials := none
      will := none
      listeners := false
      connects := 0 }

def statusTopic : String := "waterlevel/status"

def lastWill : Message where
  topic := statusTopic
  qos := 1
  retain := true
  payload := "offline"

def setLastWill (client : Client) : Client :=
  { client with will := some lastWill }

/-- The packet that `publish` hands to the client. -/
def publish (topic payload : String) : Message where
  topic := topic
  qos := 1
  retain := false
  payload := payload

/-- What the connect listener publishes. -/
def onConnect : Message := publish statusTopic "online"

def setup (lib : ArduinoJson) (config : Json) (t : ℕ) (s : State) : State :=
  let mqtt := config.get "mqtt"
  if (mqtt.get "state").asBool then
    let s := { s with isEnabled := true, reconnectMQTT := millis t }
    let mqttHost := (mqtt.get "host").asString lib
    let mqttUser := (mqtt.get "user").asString lib
    let mqttPassword := (mqtt.get "password").asString lib
    let mqttPort := (mqtt.get "port").asInt lib
    if mqttHost.length > 0 ∧ BitVec.slt 0 mqttPort then
      let client :=
        { s.client with
          server := some (mqttHost, mqttPort.setWidth 16)
          keepAlive := 120
          clientId := "walterlevel" }
      let client :=
        if mqttUser.length > 0 then
          { client with credentials := some (mqttUser, mqttPassword) }
        else client
      let client :=
        { setLastWill client with
          listeners := true
          connects := client.connects + 1 }
      { s with client := client }
    else s
  else s

def flag (b : Bool) : String := if b then "1" else "0"

/-- The batch that `loop` publishes.  `decimals` is the conversion of a float
to a string with a number of decimal places. -/
def telemetry (decimals : ExtRat → ℕ → String) (t : ℕ) (c : Control) :
    List Message :=
  [publish "waterlevel/voltage" (decimals (getADCValueCached c.device) 2),
    publish "waterlevel/channel/1/state" (flag (getState 1 c.device)),
    publish "waterlevel/channel/1/duration"
      (toString (getDuration t 1 c.device).toInt),
    publish "waterlevel/channel/2/state" (flag (getState 2 c.device)),
    publish "waterlevel/channel/2/duration"
      (toString (getDuration t 2 c.device).toInt),
    publish "waterlevel/cpu"
      (decimals (getCPUTemperatureCached c.device) 1),
    publish "waterlevel/level" (decimals (getLevelCached c.device) 1),
    publish "waterlevel/volume" (decimals (getVolumeCached c.device) 1),
    publish "waterlevel/operation/fill" (flag (isFilling c.auto)),
    publish "waterlevel/operation/pump" (flag (isPumping c.auto)),
    publish "waterlevel/operation/mode" (toString (getMode c.auto).toInt)]

/-- One call of `loop`: the new state and the packets it publishes. -/
def loop (lib : ArduinoJson) (decimals : ExtRat → ℕ → String)
    (config : Json) (t : ℕ) (connected : Bool) (c : Control) (s : State) :
    State × List Message :=
  if s.isEnabled then
    let currentMillis := millis t
    if connected then
      if currentMillis - s.previousMillisMQTT ≥ mqttInterval then
        ({ s with previousMillisMQTT := currentMillis },
          telemetry decimals t c)
      else (s, [])
    else if currentMillis - s.reconnectMQTT > 5000 then
      (setup lib config t s, [])
    else (s, [])
  else (s, [])

end MQTTHandler
end ByteWaterlevel
