import ByteWaterlevel.DeviceHandler
import ByteWaterlevel.OTAHandler

/-!
# Web handler

The two routes of the web server: the page at `/` and the API at `/api`.  A
handler works on `Server`: the device and the files, the responses sent so
far, and the restart or update that the handler ends with.

`Ambient` collects what a handler reads from the hardware and from the
libraries while it runs.
-/

namespace ByteWaterlevel

inductive Response where
  | send (code : ℕ) (contentType body : String)
  | sendFile (path contentType : String)
  | requestAuthentication
deriving DecidableEq

inductive Action where
  | restart
  | update
deriving DecidableEq

structure Server where
  device : DeviceHandler.State
  files : FileHandler.State
  responses : List Response
  action : Option Action

structure Ambient where
  /-- The true uptime. -/
  uptime : ℕ
  /-- What the uninitialised `pin` of `setRelais` holds. -/
  pin : ULong
  /-- Whether the request's credentials are those of the given user. -/
  authenticate : Option String → Option String → Bool
  wifiConnected : Bool
  execHTTPcheck : Bool
  mqttConnected : Bool
  cpuFreqMHz : ℕ
  rssi : ExtRat

namespace WebHandler

open DeviceHandler

def sendResponse (code : ℕ) (text : String) (w : Server) : Server :=
  { w with
    responses := w.responses ++ [.send code "application/json" text] }

def sendInvalid (w : Server) : Server :=
  sendResponse 400
    "\x7b\"type\":\"error\",\"message\":\"Invalid request\"\x7d" w

def sendOK (w : Server) : Server :=
  sendResponse 200 "\x7b\"type\":\"success\",\"message\":\"OK\"\x7d" w

/-- True if the request may go on.  A rejected request is answered with the
authentication challenge. -/
def needAuth (amb : Ambient) (w : Server) : Bool × Server :=
  let admin := (FileHandler.getConfig w.files).get "admin"
  if (admin.get "state").asBool ∧
      !amb.authenticate (admin.get "user").asCString
        (admin.get "password").asCString then
    (false, { w with responses := w.responses ++ [.requestAuthentication] })
  else (true, w)

def checkRequest (json : Json) (w : Server) : Bool × Server :=
  if !(json.get "type").isString then
    (false, sendResponse 400
      "\x7b\"type\":\"error\",\"message\":\"No JSON payload provided\"\x7d" w)
  else (true, w)

/-- The type `relais`: switch, then arm the timer if there is a duration. -/
def relaisCall (lib : ArduinoJson) (amb : Ambient) (json : Json)
    (w : Server) : Server :=
  if (json.get "channel").isInt ∧ (json.get "state").isBool then
    let channel := (json.get "channel").asInt lib
    let state := (json.get "state").asBool
    let device := setRelais amb.pin (channel.setWidth 8) state w.device
    let device :=
      if (json.get "duration").isInt then
        setRelaisDuration amb.uptime channel
          ((json.get "duration").asInt lib) device
      else device
    sendOK { w with device := device }
  else w

def statusDoc (amb : Ambient) (d : DeviceHandler.State) : Json :=
  .obj
    [("type", .str "success"),
      ("channels", .arr [.bool (getState 1 d), .bool (getState 2 d)]),
      ("adc", .real (getADCValueCached d)),
      ("current", .real (getCurrentCached d)),
      ("level", .real (getLevelCached d)),
      ("volume", .real (getVolumeCached d)),
      ("cpu", .real (getCPUTemperatureCached d)),
      ("frequency", .int amb.cpuFreqMHz),
      ("rssi", .real amb.rssi),
      ("mqtt", .bool amb.mqttConnected),
      ("up", .int ((millis amb.uptime).toNat / 1000 : ℕ))]

def infoDoc (amb : Ambient) (config : Json) : Json :=
  .obj
    [("config", config),
      ("firmware", .str InternalConfig.version),
      ("update",
        .bool (OTAHandler.hasUpdate amb.wifiConnected amb.execHTTPcheck)),
      ("type", .str "success")]

/-- The type `save`: flash first, then memory. -/
def saveCall (lib : ArduinoJson) (json : Json) (w : Server) : Server :=
  let config := json.get "config"
  if config.isObject then
    let flash :=
      FileHandler.saveFile FileHandler.configPath
        (lib.serializeJson config) w.files.flash
    let files := FileHandler.saveConfig config { w.files with flash := flash }
    sendOK { w with files := files }
  else sendInvalid w

def handleAPICall (lib : ArduinoJson) (amb : Ambient) (json : Json)
    (w : Server) : Server :=
  let type := (json.get "type").asString lib
  if type = "relais" then relaisCall lib amb json w
  else if type = "status" then
    sendResponse 200 (lib.serializeJson (statusDoc amb w.device)) w
  else if type = "info" then
    sendResponse 200
      (lib.serializeJson (infoDoc amb (FileHandler.getConfig w.files))) w
  else if type = "save" then saveCall lib json w
  else if type = "restart" then
    { sendOK w with action := some .restart }
  else if type = "update" then
    if OTAHandler.hasUpdate amb.wifiConnected amb.execHTTPcheck then
      { sendOK w with action := some .update }
    else
      sendResponse 400
        "\x7b\"type\":\"error\",\"message\":\"No update available\"\x7d" w
  else if type = "reset" then
    let w := sendOK w
    { w with files := FileHandler.reset w.files, action := some .restart }
  else
    sendResponse 400
      "\x7b\"type\":\"error\",\"message\":\"Not implemented\"\x7d" w

/-- The handler of `/api`. -/
def apiRoute (lib : ArduinoJson) (amb : Ambient) (json : Json)
    (w : Server) : Server :=
  let (authorised, w) := needAuth amb w
  if authorised then
    let (checked, w) := checkRequest json w
    if checked then handleAPICall lib amb json w else w
  else w

/-- The handler of `/`. -/
def rootRoute (amb : Ambient) (w : Server) : Server :=
  let (authorised, w) := needAuth amb w
  if authorised then
    if !w.files.flash.fileExists "/index.html" then
      { w with
        responses :=
          w.responses ++ [.send 500 "text/plain" "Invalid LittleFS"] }
    else
      { w with
        responses := w.responses ++
          [.sendFile "/index.html" "text/html; charset=utf-8"] }
  else w

end WebHandler
end ByteWaterlevel
