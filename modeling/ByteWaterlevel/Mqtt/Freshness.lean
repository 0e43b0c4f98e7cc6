import ByteWaterlevel.Mqtt.Telemetry

/-!
# The age of what subscribers see

While the client stays connected, the batches follow each other at the interval
of their gate.  What a subscriber shows is then never much older than the last
pass of the MQTT loop, however long everything has been running and however the
packets have travelled.
-/

namespace ByteWaterlevel
namespace Telemetry

open MQTTHandler

variable {χ : Type*} [DecidableEq χ]

variable (lib : ArduinoJson) (decimals : ExtRat → ℕ → String)

/-! ## The gate -/

theorem telemetryGate_governs :
    (telemetryGate (χ := χ)).Governs (step lib decimals)
      (fun s e => ¬ Loses lib s e) := by
  apply IntervalGate.governs_of_calls
  · intro s e t _ htime
    cases e with
    | device e =>
        cases e with
        | mqttLoop t' connected =>
            obtain rfl : t' = t := Option.some.inj htime
            rw [if_congr (telemetryGate_fires_iff s t' connected) rfl rfl]
            exact loop_previousMillisMQTT lib decimals _ t' connected
              s.firmware.control s.firmware.mqtt
        | _ => exact nomatch htime
    | _ => exact nomatch htime
  · intro s e hloses htime
    cases e with
    | device e =>
        cases e with
        | mqttLoop t connected => exact nomatch htime
        | api amb json reboot =>
            obtain ⟨files, heq⟩ :=
              Firmware.step_api lib decimals reboot hloses
            simp only [telemetryGate, step, heq]
        | _ => rfl
    | _ => rfl

/-- The event is no pass of the MQTT loop, or one that finds the client
connected. -/
def Event.findsConnected : Event χ → Bool
  | .device (.mqttLoop _ connected) => connected
  | _ => true

/-- Nothing is lost, and a pass of the MQTT loop finds the client connected. -/
def Calm (s : System χ) (e : Event χ) : Prop :=
  ¬ Loses lib s e ∧ e.findsConnected = true

instance (s : System χ) (e : Event χ) : Decidable (Calm lib s e) :=
  inferInstanceAs (Decidable (_ ∧ _))

theorem step_isEnabled
    {s : System χ} {e : Event χ} (h : ¬ Loses lib s e) :
    (step lib decimals s e).firmware.mqtt.isEnabled =
      s.firmware.mqtt.isEnabled := by
  cases e with
  | device e => exact Firmware.step_isEnabled lib decimals h
  | _ => rfl

theorem setup_previousMillisMQTT (io : BootInputs) (flash : LittleFS) :
    (Main.setup lib io flash).mqtt.previousMillisMQTT = 0 := by
  rw [Firmware.setup_mqtt]
  split_ifs
  · rw [MQTTHandler.setup_previousMillisMQTT]
    rfl
  · rfl

omit [DecidableEq χ] in
/-- The calls of a run are after the events without a call. -/
theorem prefix_of_first_call
    {es first history : List (Event χ)} {e : Event χ} {t : ℕ}
    (hfirst : ∀ e ∈ first, telemetryGate.time e = none) (hes : first <+: es)
    (h : history ++ [e] <+: es) (he : telemetryGate.time e = some t) :
    first <+: history := by
  have hnot : e ∉ first := by
    intro hmem
    rw [hfirst e hmem] at he
    exact nomatch he
  rcases List.prefix_or_prefix_of_prefix hes h with hle | hle
  · rcases List.prefix_concat_iff.mp hle with rfl | hle
    · exact absurd (by simp) hnot
    · exact hle
  · exact absurd (hle.subset (by simp)) hnot

/-- In a calm run with MQTT enabled, a batch has been published less than a
second before the last pass of the loop. -/
theorem exists_recent_batch
    {io : BootInputs} {flash : LittleFS} {es post : List (Event χ)} {T : ℕ}
    {connected : Bool}
    (henabled : (Main.setup lib io flash).mqtt.isEnabled = true)
    (hcalm : Along lib decimals (Calm lib) (initial lib io flash)
      (es ++ .device (.mqttLoop T connected) :: post))
    (hgaps : telemetryGate.Gapless 0
      (es ++ .device (.mqttLoop T connected) :: post))
    (hpost : ∀ e ∈ post, telemetryGate.time e = none) (hT : 1000 ≤ T) :
    ∃ history t since,
      es ++ .device (.mqttLoop T connected) :: post =
        history ++ .device (.mqttLoop t true) :: since ∧
      Publishes t true
        (run lib decimals (initial lib io flash) history).firmware.mqtt ∧
      Along lib decimals (fun s e => ∀ t, ¬ telemetryGate.Fires s e t)
        (run lib decimals (initial lib io flash)
          (history ++ [.device (.mqttLoop t true)])) since ∧
      t ≤ T ∧ T < t + 1000 := by
  have hP := Machine.along_of_invariant
    (fun (s : System χ) e (hs : s.firmware.mqtt.isEnabled = true)
        (he : Calm lib s e) => (step_isEnabled lib decimals he.1).trans hs)
    henabled hcalm
  have hgoverns := (telemetryGate_governs (χ := χ) lib decimals).mono
    (Q := fun s e => s.firmware.mqtt.isEnabled = true ∧ Calm lib s e)
    fun _ _ he => he.2.1
  have hreached : ∀ (s : System χ) e t,
      s.firmware.mqtt.isEnabled = true ∧ Calm lib s e →
      telemetryGate.time e = some t → telemetryGate.reached s e = true := by
    rintro s e t ⟨hs, -, hconnected⟩ htime
    cases e with
    | device e =>
        cases e with
        | mqttLoop t' connected =>
            exact Bool.and_eq_true_iff.mpr ⟨hs, hconnected⟩
        | _ => exact nomatch htime
    | _ => exact nomatch htime
  have hinterval : (telemetryGate (χ := χ)).interval.toNat = 1000 := rfl
  have hstamp : telemetryGate.stamp (initial (χ := χ) lib io flash) =
      BitVec.ofNat 32 0 := setup_previousMillisMQTT lib io flash
  obtain ⟨history, e, since, t, heq, hfires, hsince, hle, hlt⟩ :=
    hgoverns.exists_recent_firing hreached (by omega) hstamp hP hgaps rfl hpost
      (by omega)
  cases e with
  | device e =>
      cases e with
      | mqttLoop t' connected' =>
          obtain rfl : t' = t := Option.some.inj hfires.1
          have hpublishes := (telemetryGate_fires_iff _ _ _).mp hfires
          obtain rfl : connected' = true := hpublishes.2.1
          exact ⟨history, t', since, heq, hpublishes, hsince, hle, hlt⟩
      | _ => exact nomatch hfires.1
  | _ => exact nomatch hfires.1

/-- For every boot with MQTT enabled and every run of the system until the next
one in which nothing is lost, the client is connected at every pass of the MQTT
loop, and the passes are in order of time without a gap too long for the
counter.  From the first second on, with a client library that sends in order, a
subscriber since before the first pass, to whom everything has been delivered,
shows the values of one state of the device on all topics, and the device was in
that state less than a second before the last pass of the loop. -/
theorem subscriber_shows_recent_state
    (lib : ArduinoJson) (decimals : ExtRat → ℕ → String)
    (io : BootInputs) (flash : LittleFS) (first pre post : List (Event χ))
    (T : ℕ) (connected : Bool) (x : χ)
    (henabled : (Main.setup lib io flash).mqtt.isEnabled = true)
    (hcalm : Along lib decimals (Calm lib) (initial lib io flash)
      (first ++ pre ++ .device (.mqttLoop T connected) :: post))
    (hgaps : telemetryGate.Gapless 0
      (first ++ pre ++ .device (.mqttLoop T connected) :: post))
    (hfirst : ∀ e ∈ first, telemetryGate.time e = none)
    (hpost : ∀ e ∈ post, telemetryGate.time e = none)
    (hT : 1000 ≤ T)
    (hsubscribed : ∀ topic ∈ topics,
      (run lib decimals (initial lib io flash)
        first).uplink.broker.subscribed x topic = true)
    (hdrained : Drained (run lib decimals (initial lib io flash)
      (first ++ pre ++ .device (.mqttLoop T connected) :: post)) x) :
    let after := run lib decimals (initial lib io flash)
      (first ++ pre ++ .device (.mqttLoop T connected) :: post)
    ∃ history t,
      history ++ [.device (.mqttLoop t true)] <+:
        first ++ pre ++ [.device (.mqttLoop T connected)] ∧
      t ≤ T ∧ T < t + 1000 ∧
      ∀ m ∈ telemetry decimals t
          (run lib decimals (initial lib io flash) history).firmware.control,
        after.uplink.broker.latest x m.topic = some m.payload := by
  intro after
  obtain ⟨history, t, since, heq, hbatch, hquiet, hle, hlt⟩ :=
    exists_recent_batch lib decimals henabled hcalm hgaps hpost hT
  have hbatchPrefix : history ++ [.device (.mqttLoop t true)] <+:
      first ++ pre ++ .device (.mqttLoop T connected) :: post :=
    ⟨since, by rw [heq]; simp⟩
  refine ⟨history, t, ?_, hle, hlt, ?_⟩
  · exact IntervalGate.prefix_of_last_call hpost hbatchPrefix rfl
  · intro m hm
    have hhistory : first <+: history :=
      prefix_of_first_call hfirst
        ((List.prefix_append first pre).trans (List.prefix_append _ _))
        hbatchPrefix rfl
    obtain ⟨mid, rfl⟩ := hhistory
    have htopic : m.topic ∈ topics := by
      rw [← telemetry_topics decimals t]
      exact List.mem_map_of_mem hm
    have hsince : Along lib decimals (fun s e => ¬ Loses lib s e)
        (run lib decimals (initial lib io flash)
          (first ++ mid ++ [.device (.mqttLoop t true)])) since := by
      rw [heq, List.append_cons] at hcalm
      exact Machine.along_mono (fun _ _ he => he.1)
        (Machine.along_append.mp hcalm).2
    have hsubscribed' : (run lib decimals (initial lib io flash)
        (first ++ mid)).uplink.broker.subscribed x m.topic = true := by
      rw [run, Machine.run_append]
      exact run_subscribed lib decimals (hsubscribed m.topic htopic) mid
    rw [Mqtt.Uplink.latest_eq_due hdrained.1 hdrained.2, heq]
    exact due_after_batch lib decimals io flash hbatch
      (Machine.along_and hsince hquiet) hm hsubscribed'

/-- A client follows all topics.  The device publishes after a second and a
half, passes the loop once more, and everything arrives. -/
def followed : List (Event ℕ) := topics.map (.subscribe 0)

def published1500 : List (Event ℕ) := [.device (.mqttLoop 1500 true)]

def delivered : List (Event ℕ) :=
  List.replicate 11 .arrive ++ List.replicate 11 (.deliver 0)

theorem subscriber_shows_recent_state_at_2000 :
    ∃ history t,
      history ++ [.device (.mqttLoop t true)] <+:
        followed ++ published1500 ++ [.device (.mqttLoop 2000 true)] ∧
      t ≤ 2000 ∧ 2000 < t + 1000 ∧
      ∀ m ∈ telemetry ExtRat.toFixed t
          (run Firmware.brokerLib ExtRat.toFixed
            (initial Firmware.brokerLib (.plain true) Firmware.brokerFlash)
            history).firmware.control,
        (run Firmware.brokerLib ExtRat.toFixed
          (initial Firmware.brokerLib (.plain true) Firmware.brokerFlash)
          (followed ++ published1500 ++ .device (.mqttLoop 2000 true) ::
            delivered)).uplink.broker.latest 0 m.topic = some m.payload := by
  refine subscriber_shows_recent_state Firmware.brokerLib ExtRat.toFixed
    (.plain true) Firmware.brokerFlash followed published1500 delivered 2000
    true 0 (by decide +kernel) ?_ (by decide +kernel) (by decide +kernel)
    (by decide +kernel) (by decide) (by decide +kernel) (by decide +kernel)
  decide +kernel

end Telemetry
end ByteWaterlevel
