import ByteWaterlevel.Firmware.MqttStartup
import ByteWaterlevel.Storage.Save
import ByteWaterlevel.Support.IntervalGate

/-!
# How often MQTT is set up again

While the broker is not connected, the main loop runs `MQTTHandler::setup`
again once more than five seconds have passed since `reconnectMQTT`.  The
timestamp is refreshed by `setup` itself, but only if the configuration in
memory still asks for MQTT, whereas the flag that lets the loop get there is
never cleared.  The retries are more than five seconds apart as long as each of
them finds MQTT switched on in the configuration.  After one that does not, the
next pass of the main loop tries again.
-/

namespace ByteWaterlevel

namespace MQTTHandler

/-- The timestamp is refreshed if the configuration asks for MQTT. -/
theorem setup_reconnectMQTT
    (lib : ArduinoJson) (config : Json) (t : ℕ) (s : State) :
    (setup lib config t s).reconnectMQTT =
      if ((config.get "mqtt").get "state").asBool = true then millis t
      else s.reconnectMQTT := by
  unfold setup
  by_cases hstate : ((config.get "mqtt").get "state").asBool = true
  · rw [if_pos hstate, if_pos hstate]
    dsimp only
    split_ifs <;> rfl
  · rw [if_neg hstate, if_neg hstate]

end MQTTHandler

namespace Firmware

variable (lib : ArduinoJson) (decimals : ExtRat → ℕ → String)

/-- The event is a pass of the MQTT loop at uptime `t` that runs
`MQTTHandler::setup` again. -/
def Retries (fw : Firmware) (e : Event) (t : ℕ) : Prop :=
  e = .mqttLoop t false ∧ fw.mqtt.isEnabled = true ∧
    millis t - fw.mqtt.reconnectMQTT > 5000

instance (fw : Firmware) (t : ℕ) (connected : Bool) :
    Decidable (Retries fw (.mqttLoop t connected) t) :=
  decidable_of_iff
    (connected = false ∧ fw.mqtt.isEnabled = true ∧
      millis t - fw.mqtt.reconnectMQTT > 5000)
    (by simp [Retries])

/-- The configuration in memory asks for MQTT. -/
def MqttSwitchedOn (fw : Firmware) : Prop :=
  (((FileHandler.getConfig fw.files).get "mqtt").get "state").asBool = true

instance (fw : Firmware) : Decidable (MqttSwitchedOn fw) :=
  inferInstanceAs (Decidable (_ = _))

/-- Any two consecutive retries of the run, with no restart between them, are
more than five seconds apart. -/
def RetriesSpaced (fw : Firmware) (es : List Event) : Prop :=
  ∀ pre e₁ mid e₂ post t₁ t₂, es = pre ++ e₁ :: (mid ++ e₂ :: post) →
    Retries (run lib decimals fw pre) e₁ t₁ →
    Retries (run lib decimals fw (pre ++ e₁ :: mid)) e₂ t₂ →
    Along lib decimals
      (fun fw e => (∀ t, ¬ Retries fw e t) ∧ ¬ RestartsDevice lib fw e)
      (run lib decimals fw (pre ++ [e₁])) mid →
    t₁ ≤ t₂ → t₁ + 5000 < t₂

/-! ## The timestamp -/

/-- A pass of the MQTT loop that is a retry is a call of `setup`. -/
theorem step_mqtt_of_retries
    {fw : Firmware} {e : Event} {t : ℕ} (h : Retries fw e t) :
    (step lib decimals fw e).mqtt =
      MQTTHandler.setup lib (FileHandler.getConfig fw.files) t fw.mqtt := by
  obtain ⟨rfl, henabled, helapsed⟩ := h
  simp only [step, MQTTHandler.loop, henabled, if_true, helapsed,
    Bool.false_eq_true, if_false]

/-- A retry refreshes the timestamp if MQTT is switched on. -/
theorem reconnectMQTT_of_retries
    {fw : Firmware} {e : Event} {t : ℕ} (h : Retries fw e t)
    (hon : MqttSwitchedOn fw) :
    (step lib decimals fw e).mqtt.reconnectMQTT = millis t := by
  rw [step_mqtt_of_retries lib decimals h, MQTTHandler.setup_reconnectMQTT]
  exact if_pos hon

/-- Every other event between two boots leaves the timestamp alone. -/
theorem step_reconnectMQTT
    {fw : Firmware} {e : Event} (hretry : ∀ t, ¬ Retries fw e t)
    (hrestart : ¬ RestartsDevice lib fw e) :
    (step lib decimals fw e).mqtt.reconnectMQTT =
      fw.mqtt.reconnectMQTT := by
  cases e with
  | mqttLoop t connected =>
      have hnot := hretry t
      simp only [step, MQTTHandler.loop]
      split_ifs with henabled hconnected hinterval helapsed
      · rfl
      · rfl
      · have hdisconnected : connected = false :=
          Bool.eq_false_of_not_eq_true hconnected
        exact absurd ⟨by rw [hdisconnected], henabled, helapsed⟩ hnot
      · rfl
      · rfl
  | api amb json reboot =>
      obtain ⟨files, heq⟩ := step_api lib decimals reboot hrestart
      rw [heq]
  | _ => rfl

theorem run_reconnectMQTT
    {fw : Firmware} {es : List Event}
    (h : Along lib decimals
      (fun fw e => (∀ t, ¬ Retries fw e t) ∧ ¬ RestartsDevice lib fw e)
      fw es) :
    (run lib decimals fw es).mqtt.reconnectMQTT =
      fw.mqtt.reconnectMQTT := by
  exact Machine.run_view_along (fun fw : Firmware => fw.mqtt.reconnectMQTT)
    (fun _ _ he => step_reconnectMQTT lib decimals he.1 he.2) h

theorem lt_of_elapsed
    {t₁ t₂ : ℕ} (hle : t₁ ≤ t₂) (h : millis t₂ - millis t₁ > 5000) :
    t₁ + 5000 < t₂ := by
  have hbound : (5000 : ULong).toNat = 5000 := by decide
  have hpassed : (millis t₂ - millis t₁).toNat ≤ t₂ - t₁ :=
    IntervalGate.toNat_sub_le hle
  rw [gt_iff_lt, BitVec.lt_def, hbound] at h
  omega

/-! ## The rate -/

/-- For every boot and every run of the firmware: if each retry finds MQTT
switched on in the configuration in memory, consecutive retries are more than
five seconds apart. -/
theorem retries_spaced_of_switched_on
    (lib : ArduinoJson) (decimals : ExtRat → ℕ → String)
    (io : BootInputs) (flash : LittleFS) (es : List Event)
    (h : Along lib decimals
      (fun fw e => ∀ t, Retries fw e t → MqttSwitchedOn fw)
      (Main.setup lib io flash) es) :
    RetriesSpaced lib decimals (Main.setup lib io flash) es := by
  intro pre e₁ mid e₂ post t₁ t₂ hes hfirst hsecond hbetween hle
  have hon : MqttSwitchedOn
      (run lib decimals (Main.setup lib io flash) pre) := by
    rw [hes] at h
    have hfrom := (Machine.along_append.mp h).2
    exact hfrom.1 t₁ hfirst
  have hrefreshed : (run lib decimals (Main.setup lib io flash)
      (pre ++ e₁ :: mid)).mqtt.reconnectMQTT = millis t₁ := by
    have hsplit : pre ++ e₁ :: mid = (pre ++ [e₁]) ++ mid := by simp
    rw [hsplit, run, Machine.run_append, ← run,
      run_reconnectMQTT lib decimals hbetween, run, Machine.run_append]
    exact reconnectMQTT_of_retries lib decimals hfirst hon
  obtain ⟨-, -, helapsed⟩ := hsecond
  rw [hrefreshed] at helapsed
  exact lt_of_elapsed hle helapsed

/-- The condition cannot be relaxed: a retry that finds MQTT switched off
changes nothing, so that the next pass of the loop is a retry again. -/
theorem retries_again_of_switched_off
    {fw : Firmware} {e : Event} {t : ℕ} (h : Retries fw e t)
    (hoff : ¬ MqttSwitchedOn fw) :
    Retries (step lib decimals fw e) (.mqttLoop t false) t := by
  have hsame : (step lib decimals fw e).mqtt = fw.mqtt := by
    rw [step_mqtt_of_retries lib decimals h, MQTTHandler.setup]
    exact if_neg hoff
  rw [Retries, hsame]
  exact ⟨rfl, h.2.1, h.2.2⟩

/-- A connected boot, and a broker that is away for seven seconds. -/
theorem retries_spaced_without_broker :
    RetriesSpaced brokerLib ExtRat.toFixed
      (Main.setup brokerLib (.plain true) brokerFlash)
      [.mqttLoop 7000 false, .mqttLoop 7001 false,
        .mqttLoop 12001 false] := by
  refine retries_spaced_of_switched_on brokerLib ExtRat.toFixed (.plain true)
    brokerFlash _ ⟨?_, ?_, ?_, trivial⟩
  · intro t _
    decide +kernel
  · intro t _
    decide +kernel
  · intro t _
    decide +kernel

/-- MQTT is switched off by a save while the broker is away.  Two passes of the
main loop, one millisecond apart, both try to connect. -/
theorem not_retries_spaced_after_switching_off :
    ¬ RetriesSpaced brokerLib ExtRat.toFixed
      (Main.setup brokerLib (.plain true) brokerFlash)
      [.api (.plain 2000)
          (WebHandler.savePayload
            (.obj [("mqtt", .obj [("state", .bool false)])])) (.plain true),
        .mqttLoop 7000 false, .mqttLoop 7001 false] := by
  intro h
  have hspaced := h
    [.api (.plain 2000)
      (WebHandler.savePayload
        (.obj [("mqtt", .obj [("state", .bool false)])])) (.plain true)]
    (.mqttLoop 7000 false) [] (.mqttLoop 7001 false) [] 7000 7001 rfl
    ⟨rfl, by decide +kernel, by decide +kernel⟩
    ⟨rfl, by decide +kernel, by decide +kernel⟩ trivial (by decide)
  exact absurd hspaced (by decide)

end Firmware
end ByteWaterlevel
