import ByteWaterlevel.Support.Json

/-!
# OTA handler

The local update server with its password, and the check for an update on the
remote server.  `password` is the last one given to `ArduinoOTA.setPassword`.
-/

namespace ByteWaterlevel
namespace OTAHandler

structure State where
  otaEnabled : Bool
  hostname : Option String
  password : Option String

def initialState : State where
  otaEnabled := false
  hostname := none
  password := none

def setup (lib : ArduinoJson) (config : Json) (s : State) : State :=
  if (config.get "ota").asBool then
    let admin := config.get "admin"
    let s :=
      { s with
        otaEnabled := true
        hostname := some
          ((((config.get "wifi").get "ap").get "ssid").asString lib) }
    if (admin.get "state").asBool then
      { s with password := some ((admin.get "password").asString lib) }
    else s
  else s

/-- `wan` is the WiFi status and `execHTTPcheck` the update server's
answer. -/
def hasUpdate (wan execHTTPcheck : Bool) : Bool :=
  if wan then execHTTPcheck else false

end OTAHandler
end ByteWaterlevel
