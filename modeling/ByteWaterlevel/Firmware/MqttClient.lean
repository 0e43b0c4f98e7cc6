import ByteWaterlevel.Firmware.RetryRate
import ByteWaterlevel.Firmware.MqttStartup

/-!
# What the MQTT client works with

`MQTTHandler::setup` runs at boot and again at every retry, each time with the
configuration that is in memory, and hands the server, the credentials and the
will to the client library.  Nothing else touches them, so the client works with
what the last such run gave it.

A run that names no server gives nothing.  A run with an empty user does not
take the credentials back: the client keeps those of the last run that had a
user, until the next boot.
-/

namespace ByteWaterlevel

namespace MQTTHandler

theorem slt_zero_iff {value : CInt} :
    BitVec.slt 0 value = true ↔ 0 < value.toInt := by
  rw [BitVec.slt_iff_toInt_lt]
  rfl

section

variable (lib : ArduinoJson)

/-- The server that the configuration names. -/
def serverOf (config : Json) : String × BitVec 16 :=
  let mqtt := config.get "mqtt"
  ((mqtt.get "host").asString lib, ((mqtt.get "port").asInt lib).setWidth 16)

/-- The credentials in the configuration. -/
def credentialsOf (config : Json) : String × String :=
  let mqtt := config.get "mqtt"
  ((mqtt.get "user").asString lib, (mqtt.get "password").asString lib)

def HasUser (config : Json) : Prop :=
  0 < (credentialsOf lib config).1.length

instance (config : Json) : Decidable (HasUser lib config) :=
  inferInstanceAs (Decidable (_ < _))

/-- What a run of `setup` does to the client. -/
theorem setup_client (config : Json) (t : ℕ) (s : State) :
    (setup lib config t s).client =
      if Configured lib config then
        { server := some (serverOf lib config)
          keepAlive := 120
          clientId := "walterlevel"
          credentials :=
            if HasUser lib config then some (credentialsOf lib config)
            else s.client.credentials
          will := some lastWill
          listeners := true
          connects := s.client.connects + 1 }
      else s.client := by
  by_cases hstate : ((config.get "mqtt").get "state").asBool = true
  · by_cases hserver :
        (((config.get "mqtt").get "host").asString lib).length > 0 ∧
          BitVec.slt 0 (((config.get "mqtt").get "port").asInt lib)
    · have hconfigured : Configured lib config :=
        ⟨hstate, hserver.1, slt_zero_iff.mp hserver.2⟩
      simp only [setup]
      rw [if_pos hconfigured, if_pos hstate, if_pos hserver]
      by_cases huser : HasUser lib config
      · have hlength :
            (((config.get "mqtt").get "user").asString lib).length > 0 := huser
        rw [if_pos huser, if_pos hlength]
        rfl
      · have hlength :
            ¬ (((config.get "mqtt").get "user").asString lib).length > 0 :=
          huser
        rw [if_neg huser, if_neg hlength]
        rfl
    · have hconfigured : ¬ Configured lib config := fun h =>
        hserver ⟨h.2.1, slt_zero_iff.mpr h.2.2⟩
      simp only [setup]
      rw [if_neg hconfigured, if_pos hstate, if_neg hserver]
  · have hconfigured : ¬ Configured lib config := fun h => hstate h.1
    simp only [setup]
    rw [if_neg hconfigured, if_neg hstate]

end

/-- The client after runs of `setup` with the given configurations, all of which
name a server. -/
structure SetUpBy (lib : ArduinoJson) (configs : List Json) (c : Client) :
    Prop where
  server : c.server = configs.getLast?.map (serverOf lib)
  credentials : c.credentials =
    (configs.filter (HasUser lib ·)).getLast?.map (credentialsOf lib)
  will : c.will = configs.getLast?.map fun _ => lastWill
  connects : c.connects = configs.length

theorem setUpBy_nil (lib : ArduinoJson) :
    SetUpBy lib [] initialState.client :=
  ⟨rfl, rfl, rfl, rfl⟩

/-- The configurations of one more run of `setup`. -/
def configured (lib : ArduinoJson) (config : Json) : List Json :=
  if Configured lib config then [config] else []

/-- One more run of `setup`. -/
theorem SetUpBy.setup
    {lib : ArduinoJson} {configs : List Json} {s : State}
    (h : SetUpBy lib configs s.client) (config : Json) (t : ℕ) :
    SetUpBy lib (configs ++ configured lib config)
      (setup lib config t s).client := by
  rw [setup_client, configured]
  by_cases hconfigured : Configured lib config
  · rw [if_pos hconfigured, if_pos hconfigured]
    refine ⟨by simp, ?_, by simp, by simp [h.connects]⟩
    by_cases huser : HasUser lib config
    · simp [huser]
    · simp [huser, h.credentials]
  · rw [if_neg hconfigured, if_neg hconfigured, List.append_nil]
    exact h

end MQTTHandler

namespace Firmware

open MQTTHandler

variable (lib : ArduinoJson) (decimals : ExtRat → ℕ → String)

/-- The configuration of the run of `MQTTHandler::setup` in a boot, if there is
one and it names a server. -/
def bootSetups (io : BootInputs) (flash : LittleFS) : List Json :=
  if io.wifiConnected then configured lib (bootConfig lib flash) else []

/-- The configuration of a retry, if it names a server. -/
def retrySetups (fw : Firmware) : Event → List Json
  | .mqttLoop t connected =>
      if Retries fw (.mqttLoop t connected) t then
        configured lib (FileHandler.getConfig fw.files)
      else []
  | _ => []

theorem setUpBy_boot (io : BootInputs) (flash : LittleFS) :
    SetUpBy lib (bootSetups lib io flash)
      (Main.setup lib io flash).mqtt.client := by
  rw [setup_mqtt, bootSetups]
  split_ifs
  · exact (setUpBy_nil lib).setup _ _
  · exact setUpBy_nil lib

theorem retrySetups_of_retries
    {fw : Firmware} {e : Event} {t : ℕ} (h : Retries fw e t) :
    retrySetups lib fw e = configured lib (FileHandler.getConfig fw.files) := by
  obtain ⟨rfl, hcondition⟩ := h
  exact if_pos (⟨rfl, hcondition⟩ : Retries fw (.mqttLoop t false) t)

theorem retrySetups_of_not_retries
    {fw : Firmware} {e : Event} (h : ∀ t, ¬ Retries fw e t) :
    retrySetups lib fw e = [] := by
  cases e with
  | mqttLoop t connected => exact if_neg (h t)
  | _ => rfl

/-- Between two boots the client changes at retries alone. -/
theorem step_client_of_not_retries
    {fw : Firmware} {e : Event} (hretry : ∀ t, ¬ Retries fw e t)
    (hrestart : ¬ RestartsDevice lib fw e) :
    (step lib decimals fw e).mqtt.client = fw.mqtt.client := by
  cases e with
  | mqttLoop t connected =>
      simp only [step, MQTTHandler.loop]
      split_ifs with henabled hconnected hinterval helapsed
      · rfl
      · rfl
      · have hdisconnected : connected = false :=
          Bool.eq_false_of_not_eq_true hconnected
        exact absurd ⟨by rw [hdisconnected], henabled, helapsed⟩ (hretry t)
      · rfl
      · rfl
  | api amb json reboot =>
      obtain ⟨files, heq⟩ := step_api lib decimals reboot hrestart
      rw [heq]
  | _ => rfl

theorem setUpBy_step
    {fw : Firmware} {configs : List Json}
    (h : SetUpBy lib configs fw.mqtt.client) {e : Event}
    (he : ¬ RestartsDevice lib fw e) :
    SetUpBy lib (configs ++ retrySetups lib fw e)
      (step lib decimals fw e).mqtt.client := by
  by_cases hretry : ∃ t, Retries fw e t
  · obtain ⟨t, hretry⟩ := hretry
    rw [retrySetups_of_retries lib hretry,
      step_mqtt_of_retries lib decimals hretry]
    exact h.setup _ t
  · have hnot := not_exists.mp hretry
    rw [retrySetups_of_not_retries lib hnot, List.append_nil,
      step_client_of_not_retries lib decimals hnot he]
    exact h

theorem setUpBy_run
    {fw : Firmware} {configs : List Json}
    (h : SetUpBy lib configs fw.mqtt.client) {es : List Event}
    (hes : Along lib decimals (fun fw e => ¬ RestartsDevice lib fw e) fw es) :
    SetUpBy lib
      (configs ++ Machine.trace (step lib decimals) (retrySetups lib) fw es)
      (run lib decimals fw es).mqtt.client := by
  induction es generalizing fw configs with
  | nil =>
      rw [Machine.trace, List.append_nil]
      exact h
  | cons e es ih =>
      rw [Machine.trace, ← List.append_assoc]
      exact ih (setUpBy_step lib decimals h hes.1) hes.2

/-- For every boot and every run until the next one, with any saves in between:
let the configurations be those of the runs of `MQTTHandler::setup`, at boot and
at the retries, that name a server, in order.  The client's server and will are
those of the last one, its credentials are those of the last one with a user,
and the client has been told to connect once for each. -/
theorem client_set_up_by_last_runs
    (lib : ArduinoJson) (decimals : ExtRat → ℕ → String)
    (io : BootInputs) (flash : LittleFS) (es : List Event)
    (hes : Along lib decimals (fun fw e => ¬ RestartsDevice lib fw e)
      (Main.setup lib io flash) es) :
    let client := (run lib decimals (Main.setup lib io flash) es).mqtt.client
    let configs := bootSetups lib io flash ++
      Machine.trace (step lib decimals) (retrySetups lib)
        (Main.setup lib io flash) es
    client.server = configs.getLast?.map (serverOf lib) ∧
      client.will = configs.getLast?.map (fun _ => lastWill) ∧
      client.credentials =
        (configs.filter (HasUser lib ·)).getLast?.map (credentialsOf lib) ∧
      client.connects = configs.length := by
  intro client configs
  have hclient : SetUpBy lib configs client :=
    setUpBy_run lib decimals (setUpBy_boot lib io flash) hes
  exact ⟨hclient.server, hclient.will, hclient.credentials, hclient.connects⟩

/-- A configuration with credentials for a client network, and with a broker
that the device logs in to with the given credentials. -/
def brokerConfigFor (user password : String) : Json :=
  .obj
    [("wifi", WiFiHandler.clientConfig.get "wifi"),
      ("mqtt",
        .obj
          [("state", .bool true), ("host", .str "broker"),
            ("port", .int 1883), ("user", .str user),
            ("password", .str password)])]

def userConfig : Json := brokerConfigFor "tank" "secret"

def userText : String :=
  "\x7b\"wifi\":\x7b\"client\":\x7b\"ssid\":\"home\"," ++
    "\"password\":\"password\"\x7d,\"ap\":\x7b\"ssid\":\"BYTELEVEL\"," ++
    "\"password\":\"BYTESTORE2026\"\x7d\x7d," ++
    "\"mqtt\":\x7b\"state\":true,\"host\":\"broker\",\"port\":1883," ++
    "\"user\":\"tank\",\"password\":\"secret\"\x7d\x7d"

def userLib : ArduinoJson := .reading userText userConfig

def userFlash : LittleFS := FileHandler.flashWith userText

/-- The fields of user and password are emptied and saved, and the device tries
to connect again. -/
def anonymised : List Event :=
  [.api (.plain 2000) (WebHandler.savePayload (brokerConfigFor "" ""))
      (.plain true),
    .mqttLoop 7000 false]

/-- The second connection goes out with the credentials that were saved away. -/
theorem client_keeps_credentials_when_anonymised :
    let client := (run userLib ExtRat.toFixed
      (Main.setup userLib (.plain true) userFlash) anonymised).mqtt.client
    client.connects = 2 ∧ client.credentials = some ("tank", "secret") := by
  have hclient := client_set_up_by_last_runs userLib ExtRat.toFixed
    (.plain true) userFlash anonymised ?_
  · exact ⟨hclient.2.2.2.trans (by decide +kernel),
      hclient.2.2.1.trans (by decide +kernel)⟩
  · refine ⟨?_, not_restartsDevice_of_isLoopCall userLib _ rfl, trivial⟩
    rintro ⟨amb, json, reboot, heq, hrestarts⟩
    cases heq
    exact absurd hrestarts (by decide +kernel)

end Firmware
end ByteWaterlevel
