import ByteWaterlevel.Main

/-!
# When MQTT comes up

`isEnabled` is set by `MQTTHandler::setup` alone and never cleared.  The main
loop reaches `MQTTHandler::setup` only if `isEnabled` is already set, so what
the check of the connection in the main `setup` finds decides about MQTT until
the next boot.

A boot without credentials, or one whose wait for the network times out, ends
with the access point alone.  In that mode there is no station, so that the
status of the connection is never found connected afterwards.
-/

namespace ByteWaterlevel

namespace MQTTHandler

/-- The configuration asks for MQTT and names a server. -/
def Configured (lib : ArduinoJson) (config : Json) : Prop :=
  let mqtt := config.get "mqtt"
  (mqtt.get "state").asBool = true ∧
    0 < ((mqtt.get "host").asString lib).length ∧
    0 < ((mqtt.get "port").asInt lib).toInt

instance (lib : ArduinoJson) (config : Json) :
    Decidable (Configured lib config) :=
  inferInstanceAs (Decidable (_ ∧ _))

theorem setup_isEnabled
    (lib : ArduinoJson) (config : Json) (t : ℕ) (s : State) :
    (setup lib config t s).isEnabled =
      (((config.get "mqtt").get "state").asBool || s.isEnabled) := by
  unfold setup
  by_cases hstate : ((config.get "mqtt").get "state").asBool = true
  · rw [if_pos hstate, hstate, Bool.true_or]
    dsimp only
    split_ifs <;> rfl
  · rw [if_neg hstate, Bool.eq_false_of_not_eq_true hstate, Bool.false_or]

/-- The loop never changes `isEnabled`: it runs `setup` only if the flag is
set. -/
@[simp] theorem loop_isEnabled
    (lib : ArduinoJson) (decimals : ExtRat → ℕ → String) (config : Json)
    (t : ℕ) (connected : Bool) (c : Control) (s : State) :
    (loop lib decimals config t connected c s).1.isEnabled =
      s.isEnabled := by
  unfold loop
  by_cases henabled : s.isEnabled = true
  · rw [if_pos henabled]
    dsimp only
    split_ifs
    · rfl
    · rfl
    · rw [setup_isEnabled, henabled, Bool.or_true]
    · rfl
  · rw [if_neg henabled]

end MQTTHandler

namespace Firmware

variable (lib : ArduinoJson) (decimals : ExtRat → ℕ → String)

/-- The event reads the status of the connection and finds the station
connected. -/
def Event.findsConnected : Event → Bool
  | .checkConnection _ first second => first || second
  | .api amb _ _ => amb.wifiConnected
  | _ => false

/-- The event belongs to this boot and can occur in this state: the library
reports a connected station only in a mode of the radio with the station. -/
def Possible (fw : Firmware) (e : Event) : Prop :=
  ¬ RestartsDevice lib fw e ∧
    (e.findsConnected = true → fw.wifi.radio.mode.HasSta)

theorem not_restartsDevice_of_possible
    {fw : Firmware} {es : List Event}
    (h : Along lib decimals (Possible lib) fw es) :
    Along lib decimals (fun fw e => ¬ RestartsDevice lib fw e) fw es :=
  Machine.along_mono (fun _ _ he => he.1) h

/-- The events of one iteration of the main loop, with ADC tasks and requests
in between, in which every read of the status finds the station connected. -/
def ConnectedIteration (es : List Event) : Prop :=
  ∃ io : Main.LoopInputs, es.filter Event.isLoopCall = Main.loop io ∧
    io.firstStatus = true ∧ io.secondStatus = true ∧
    ∀ amb json reboot, Event.api amb json reboot ∈ es →
      amb.wifiConnected = true

/-- The poll of a connected iteration finds the station. -/
theorem ConnectedIteration.exists_findsConnected
    {es : List Event} (h : ConnectedIteration es) :
    ∃ e ∈ es, e.findsConnected = true := by
  obtain ⟨io, hfilter, hfirst, -⟩ := h
  have hpoll : Event.checkConnection io.wifiUptime io.firstStatus
      io.secondStatus ∈ es.filter Event.isLoopCall := by
    rw [hfilter]
    simp [Main.loop]
  refine ⟨_, List.mem_of_mem_filter hpoll, ?_⟩
  rw [Event.findsConnected, hfirst, Bool.true_or]

/-- At the end of every iteration in which the station is connected throughout,
whatever has happened since the boot, MQTT is enabled. -/
def EnabledWhenConnected (fw : Firmware) : Prop :=
  ∀ history iteration,
    Along lib decimals (Possible lib) fw (history ++ iteration) →
    ConnectedIteration iteration →
    (run lib decimals fw (history ++ iteration)).mqtt.isEnabled = true

theorem step_isEnabled
    {fw : Firmware} {e : Event} (h : ¬ RestartsDevice lib fw e) :
    (step lib decimals fw e).mqtt.isEnabled = fw.mqtt.isEnabled := by
  cases e with
  | mqttLoop t connected => exact MQTTHandler.loop_isEnabled lib _ _ _ _ _ _
  | api amb json reboot =>
      obtain ⟨files, heq⟩ := step_api lib decimals reboot h
      rw [heq]
  | _ => rfl

theorem run_isEnabled
    {fw : Firmware} {es : List Event}
    (h : Along lib decimals (fun fw e => ¬ RestartsDevice lib fw e) fw es) :
    (run lib decimals fw es).mqtt.isEnabled = fw.mqtt.isEnabled := by
  exact Machine.run_view_along (fun fw : Firmware => fw.mqtt.isEnabled)
    (fun _ _ he => step_isEnabled lib decimals he) h

theorem setup_isEnabled
    (io : BootInputs) {flash : LittleFS}
    (h : MQTTHandler.Configured lib (bootConfig lib flash)) :
    (Main.setup lib io flash).mqtt.isEnabled = io.wifiConnected := by
  have hstate :
      (((bootConfig lib flash).get "mqtt").get "state").asBool = true := h.1
  rw [setup_mqtt]
  cases io.wifiConnected with
  | false => rfl
  | true => simp [MQTTHandler.setup_isEnabled, hstate]

/-- An iteration of the main loop at the given uptime with a connected
station and nothing beside it. -/
def connectedLoop (t : ℕ) : List Event :=
  Main.loop
    { blinkUptime := t
      relaisUptime := t
      scanUptime := t
      temperature := .fin 20
      displayUptime := t
      wifiUptime := t
      firstStatus := true
      secondStatus := true
      mqttUptime := t
      mqttConnected := false
      autoUptime := t }

theorem connectedIteration_connectedLoop (t : ℕ) :
    ConnectedIteration (connectedLoop t) :=
  ⟨_, rfl, rfl, rfl, by simp [connectedLoop, Main.loop]⟩

/-! ## The mode of the radio -/

/-- A boot with credentials for a network that is reached in time. -/
def ReachesNetwork (io : BootInputs) (flash : LittleFS) : Prop :=
  WiFiHandler.isWiFiClientUsable lib (bootConfig lib flash) = true ∧
    io.connectResult = true

instance (io : BootInputs) (flash : LittleFS) :
    Decidable (ReachesNetwork lib io flash) :=
  inferInstanceAs (Decidable (_ ∧ _))

theorem hasSta_setup
    {io : BootInputs} {flash : LittleFS} (h : ReachesNetwork lib io flash) :
    (Main.setup lib io flash).wifi.radio.mode.HasSta := by
  rw [setup_wifi, h.2]
  exact Or.inl (WiFiHandler.setup_of_connected _ _ h.1).1

/-- The access point runs, and no station beside it. -/
def ApAlone (fw : Firmware) : Prop :=
  fw.wifi.radio.mode = .ap ∧ fw.wifi.apStarted = true

theorem ApAlone.not_hasSta {fw : Firmware} (h : ApAlone fw) :
    ¬ fw.wifi.radio.mode.HasSta := by
  rw [h.1]
  decide

/-- Every other boot ends with the access point alone. -/
theorem apAlone_setup
    {io : BootInputs} {flash : LittleFS}
    (h : ¬ ReachesNetwork lib io flash) :
    ApAlone (Main.setup lib io flash) := by
  rw [ApAlone, setup_wifi]
  cases hresult : io.connectResult with
  | false => exact WiFiHandler.setup_of_not_connected lib _ _ _
  | true =>
      have hnot : ¬ WiFiHandler.isWiFiClientUsable lib (bootConfig lib flash) =
          true := fun husable => h ⟨husable, hresult⟩
      simp [WiFiHandler.setup, hnot, WiFiHandler.startAP, Radio.setMode]

/-- No call takes the station out of the mode. -/
theorem hasSta_step
    {fw : Firmware} {e : Event} (h : fw.wifi.radio.mode.HasSta)
    (he : ¬ RestartsDevice lib fw e) :
    (step lib decimals fw e).wifi.radio.mode.HasSta := by
  rw [step_wifi lib decimals he]
  exact WiFiHandler.hasSta_run lib _ h

/-- With the access point alone the station is never found connected, and the
access point stays alone. -/
theorem apAlone_step
    {fw : Firmware} {e : Event} (h : ApAlone fw) (he : Possible lib fw e) :
    ApAlone (step lib decimals fw e) := by
  have hlost : e.findsConnected = false := by
    by_contra hfound
    exact h.not_hasSta (he.2 (Bool.eq_true_of_not_eq_false hfound))
  rw [ApAlone, step_wifi lib decimals he.1]
  cases e with
  | checkConnection t first second =>
      have hreads : (first || second) = false := hlost
      rw [Bool.or_eq_false_iff] at hreads
      obtain ⟨-, ⟨hfirst, -⟩ | ⟨-, hoff, -⟩ | ⟨-, -, hmode, hflag⟩⟩ :=
        WiFiHandler.step_cases lib fw.wifi
          ⟨FileHandler.getConfig fw.files, t, first, second⟩
      · exact absurd (hfirst.symm.trans hreads.1) (by decide)
      · exact absurd (hoff.symm.trans h.2) (by decide)
      · exact ⟨hmode.trans h.1, hflag.trans h.2⟩
  | _ => exact h

/-- After a boot that does not reach its network no iteration finds the station
connected. -/
theorem not_connectedIteration_of_not_reachesNetwork
    {io : BootInputs} {flash : LittleFS}
    (h : ¬ ReachesNetwork lib io flash) {history iteration : List Event}
    (hpossible : Along lib decimals (Possible lib) (Main.setup lib io flash)
      (history ++ iteration)) :
    ¬ ConnectedIteration iteration := by
  intro hconnected
  obtain ⟨e, he, hfound⟩ := hconnected.exists_findsConnected
  have hap := Machine.along_of_invariant
    (fun _ _ hfw he => apAlone_step lib decimals hfw he)
    (apAlone_setup lib h) hpossible
  obtain ⟨pre, post, hsplit⟩ := List.append_of_mem
    (List.mem_append_right history he)
  obtain ⟨halone, -, hsta⟩ :=
    Machine.along_iff_forall_split.mp hap pre e post hsplit
  exact halone.not_hasSta (hsta hfound)

theorem possible_connectedLoop
    {fw : Firmware} (h : fw.wifi.radio.mode.HasSta) (t : ℕ) :
    Along lib decimals (Possible lib) fw (connectedLoop t) := by
  have hcalls : ∀ e ∈ connectedLoop t, e.isLoopCall = true := by
    simp [connectedLoop, Main.loop, Event.isLoopCall]
  have hquiet : Along lib decimals (fun fw e => ¬ RestartsDevice lib fw e) fw
      (connectedLoop t) :=
    Machine.along_of_forall_mem fun fw e he =>
      not_restartsDevice_of_isLoopCall lib fw (hcalls e he)
  have hstep : ∀ (fw : Firmware) e, fw.wifi.radio.mode.HasSta →
      ¬ RestartsDevice lib fw e →
      (step lib decimals fw e).wifi.radio.mode.HasSta :=
    fun _ _ hfw he => hasSta_step lib decimals hfw he
  have hkept := Machine.along_of_invariant hstep h hquiet
  exact Machine.along_mono (fun _ _ he => ⟨he.2, fun _ => he.1⟩) hkept

/-! ## The result -/

/-- For every boot with a complete MQTT configuration: MQTT is enabled at the
end of every iteration with a connected station, after every history, if and
only if the boot does not reach its network, so that no such iteration exists,
or the station was still connected when the main `setup` checked it. -/
theorem enabledWhenConnected_iff_connected_at_boot
    (lib : ArduinoJson) (decimals : ExtRat → ℕ → String)
    (io : BootInputs) (flash : LittleFS)
    (hconfig : MQTTHandler.Configured lib (bootConfig lib flash)) :
    EnabledWhenConnected lib decimals (Main.setup lib io flash) ↔
      (ReachesNetwork lib io flash → io.wifiConnected = true) := by
  have hboot := setup_isEnabled lib io hconfig
  constructor
  · intro h hreaches
    have hpossible := possible_connectedLoop lib decimals
      (hasSta_setup lib hreaches) 2000
    have hend := h [] (connectedLoop 2000) hpossible
      (connectedIteration_connectedLoop 2000)
    rw [List.nil_append, run_isEnabled lib decimals
      (not_restartsDevice_of_possible lib decimals hpossible), hboot] at hend
    exact hend
  · intro h history iteration hpossible hiteration
    have hreaches : ReachesNetwork lib io flash := by
      by_contra hnot
      exact not_connectedIteration_of_not_reachesNetwork lib decimals hnot
        hpossible hiteration
    rw [run_isEnabled lib decimals
      (not_restartsDevice_of_possible lib decimals hpossible), hboot]
    exact h hreaches

/-- A configuration with credentials for a client network and a broker. -/
def brokerConfig : Json :=
  .obj
    [("wifi", WiFiHandler.clientConfig.get "wifi"),
      ("mqtt",
        .obj
          [("state", .bool true), ("host", .str "broker"),
            ("port", .int 1883)])]

def brokerText : String :=
  "\x7b\"wifi\":\x7b\"client\":\x7b\"ssid\":\"home\"," ++
    "\"password\":\"password\"\x7d,\"ap\":\x7b\"ssid\":\"BYTELEVEL\"," ++
    "\"password\":\"BYTESTORE2026\"\x7d\x7d," ++
    "\"mqtt\":\x7b\"state\":true,\"host\":\"broker\",\"port\":1883\x7d\x7d"

def brokerLib : ArduinoJson := .reading brokerText brokerConfig

def brokerFlash : LittleFS := FileHandler.flashWith brokerText

theorem enabledWhenConnected_after_connected_boot :
    MQTTHandler.Configured brokerLib (bootConfig brokerLib brokerFlash) ∧
      ReachesNetwork brokerLib (.plain true) brokerFlash ∧
      EnabledWhenConnected brokerLib ExtRat.toFixed
        (Main.setup brokerLib (.plain true) brokerFlash) :=
  ⟨by decide +kernel, by decide +kernel,
    (enabledWhenConnected_iff_connected_at_boot brokerLib ExtRat.toFixed
      (.plain true) brokerFlash (by decide +kernel)).mpr fun _ => rfl⟩

/-- The station connects within the boot, loses the connection just when the
main `setup` checks it, and is connected in the whole first iteration of the
main loop. -/
theorem not_enabledWhenConnected_after_lost_check :
    MQTTHandler.Configured brokerLib (bootConfig brokerLib brokerFlash) ∧
      ReachesNetwork brokerLib (.plain false) brokerFlash ∧
      ¬ EnabledWhenConnected brokerLib ExtRat.toFixed
        (Main.setup brokerLib (.plain false) brokerFlash) := by
  have hreaches : ReachesNetwork brokerLib (.plain false) brokerFlash := by
    decide +kernel
  refine ⟨by decide +kernel, hreaches, ?_⟩
  intro h
  have hend := h [] (connectedLoop 2000)
    (possible_connectedLoop brokerLib _ (hasSta_setup brokerLib hreaches) 2000)
    (connectedIteration_connectedLoop 2000)
  exact absurd hend (by decide +kernel)

end Firmware
end ByteWaterlevel
