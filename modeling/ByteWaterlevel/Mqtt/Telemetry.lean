import ByteWaterlevel.Firmware.MqttStartup
import ByteWaterlevel.Support.IntervalGate
import ByteWaterlevel.Support.Uplink

/-!
# What subscribers see of the device

The firmware publishes its state in batches.  The packets of a batch wait at the
client, travel to the broker and from there to the subscribers, while the device
goes on: the system of firmware, broker and subscribers takes these steps in any
order.  Packets that wait at the client can be lost, and are lost when the
device restarts.  The announcement of the connect listener and the will of a
broken connection travel the same way, on a topic of their own.

No batch is retained.  A subscriber is therefore due what was published last
since it subscribed, topic by topic, and all its topics are from one batch.

That the packets leave the client in the order of the calls of `publish` is an
assumption on the MQTT library, and the broker keeps the order of what arrives.
-/

namespace ByteWaterlevel

namespace MQTTHandler

open InternalConfig

/-- The pass of the loop publishes a batch. -/
def Publishes (t : ℕ) (connected : Bool) (s : State) : Prop :=
  s.isEnabled = true ∧ connected = true ∧
    millis t - s.previousMillisMQTT ≥ mqttInterval

instance (t : ℕ) (connected : Bool) (s : State) :
    Decidable (Publishes t connected s) :=
  inferInstanceAs (Decidable (_ ∧ _ ∧ _))

@[simp] theorem setup_previousMillisMQTT
    (lib : ArduinoJson) (config : Json) (t : ℕ) (s : State) :
    (setup lib config t s).previousMillisMQTT = s.previousMillisMQTT := by
  unfold setup
  dsimp only
  split_ifs <;> rfl

section

variable (lib : ArduinoJson) (decimals : ExtRat → ℕ → String) (config : Json)
  (t : ℕ) (connected : Bool) (c : Control) (s : State)

theorem loop_published :
    (loop lib decimals config t connected c s).2 =
      if Publishes t connected s then telemetry decimals t c else [] := by
  unfold loop Publishes
  by_cases henabled : s.isEnabled = true
  · cases connected with
    | true =>
        simp only [henabled, if_true, true_and]
        split_ifs <;> rfl
    | false =>
        simp only [henabled, if_true, Bool.false_eq_true, if_false, false_and,
          and_false]
        split_ifs <;> rfl
  · simp only [henabled, Bool.false_eq_true, if_false, false_and]

theorem loop_previousMillisMQTT :
    (loop lib decimals config t connected c s).1.previousMillisMQTT =
      if Publishes t connected s then millis t
      else s.previousMillisMQTT := by
  unfold loop Publishes
  by_cases henabled : s.isEnabled = true
  · cases connected with
    | true =>
        simp only [henabled, if_true, true_and]
        split_ifs <;> rfl
    | false =>
        simp only [henabled, if_true, Bool.false_eq_true, if_false, false_and,
          and_false]
        split_ifs
        · exact setup_previousMillisMQTT lib config t s
        · rfl
  · simp only [henabled, Bool.false_eq_true, if_false, false_and]

end

/-- The topics of a batch, in order. -/
def topics : List String :=
  ["waterlevel/voltage", "waterlevel/channel/1/state",
    "waterlevel/channel/1/duration", "waterlevel/channel/2/state",
    "waterlevel/channel/2/duration", "waterlevel/cpu", "waterlevel/level",
    "waterlevel/volume", "waterlevel/operation/fill",
    "waterlevel/operation/pump", "waterlevel/operation/mode"]

theorem telemetry_topics
    (decimals : ExtRat → ℕ → String) (t : ℕ) (c : Control) :
    (telemetry decimals t c).map Message.topic = topics := rfl

theorem telemetry_retain
    (decimals : ExtRat → ℕ → String) (t : ℕ) (c : Control) :
    ∀ m ∈ telemetry decimals t c, m.retain = false := by
  simp [telemetry, publish]

theorem topics_nodup : topics.Nodup := by decide

theorem statusTopic_not_mem_topics : statusTopic ∉ topics := by decide

end MQTTHandler

namespace Telemetry

open MQTTHandler InternalConfig

variable {χ : Type*}

inductive Event (χ : Type*) where
  /-- A call of one of the handlers of the device. -/
  | device (e : Firmware.Event)
  /-- The client has connected and calls the connect listener. -/
  | listener
  /-- The packet that waits longest at the client arrives at the broker. -/
  | arrive
  /-- What waits at the client is lost. -/
  | lose
  /-- The broker publishes the will of a broken connection. -/
  | will
  | subscribe (x : χ) (topic : String)
  | deliver (x : χ)

structure System (χ : Type*) where
  firmware : Firmware
  uplink : Mqtt.Uplink String String χ

def packet (m : Message) : Mqtt.Packet String String where
  topic := m.topic
  retain := m.retain
  payload := m.payload

variable (lib : ArduinoJson) (decimals : ExtRat → ℕ → String)

def initial (io : BootInputs) (flash : LittleFS) : System χ where
  firmware := Main.setup lib io flash
  uplink := .empty

/-- What a call hands to the client. -/
def published (fw : Firmware) : Firmware.Event → List Message
  | .mqttLoop t connected =>
      (MQTTHandler.loop lib decimals (FileHandler.getConfig fw.files) t
        connected fw.control fw.mqtt).2
  | _ => []

def restarts (fw : Firmware) : Firmware.Event → Bool
  | .api amb json _ => decide (WebHandler.Restarts lib amb fw.files json)
  | _ => false

variable [DecidableEq χ]

def step (s : System χ) : Event χ → System χ
  | .device e =>
      { firmware := Firmware.step lib decimals s.firmware e
        uplink :=
          if restarts lib s.firmware e then s.uplink.lose
          else s.uplink.send
            ((published lib decimals s.firmware e).map packet) }
  | .listener => { s with uplink := s.uplink.send [packet onConnect] }
  | .arrive => { s with uplink := s.uplink.arrive }
  | .lose => { s with uplink := s.uplink.lose }
  | .will =>
      { s with
        uplink.broker := s.uplink.broker.publish lastWill.topic
          lastWill.retain lastWill.payload }
  | .subscribe x topic =>
      { s with uplink.broker := s.uplink.broker.subscribe x topic }
  | .deliver x => { s with uplink.broker := s.uplink.broker.deliver x }

abbrev run (s : System χ) (es : List (Event χ)) : System χ :=
  Machine.run (step lib decimals) s es

abbrev Along := Machine.Along (step (χ := χ) lib decimals)

/-- The event loses what waits at the client. -/
def Loses (s : System χ) : Event χ → Prop
  | .device e => Firmware.RestartsDevice lib s.firmware e
  | .lose => True
  | _ => False

omit [DecidableEq χ] in
theorem restarts_eq_true_iff (fw : Firmware) (e : Firmware.Event) :
    restarts lib fw e = true ↔ Firmware.RestartsDevice lib fw e := by
  cases e with
  | api amb json reboot =>
      rw [restarts, decide_eq_true_iff]
      constructor
      · intro h
        exact ⟨amb, json, reboot, rfl, h⟩
      · rintro ⟨_, _, _, heq, h⟩
        cases heq
        exact h
  | _ =>
      refine iff_of_false Bool.false_ne_true ?_
      rintro ⟨_, _, _, heq, -⟩
      exact nomatch heq

instance (s : System χ) : (e : Event χ) → Decidable (Loses lib s e)
  | .device e => decidable_of_iff _ (restarts_eq_true_iff lib s.firmware e)
  | .lose => .isTrue trivial
  | .listener | .arrive | .will | .subscribe _ _ | .deliver _ => .isFalse id

/-- Everything that waits at the client has arrived at the broker, and all that
goes to the subscriber has been delivered. -/
def Drained (s : System χ) (x : χ) : Prop :=
  s.uplink.outbox = [] ∧ s.uplink.broker.inFlight x = []

instance (s : System χ) (x : χ) : Decidable (Drained s x) :=
  inferInstanceAs (Decidable (_ ∧ _))

/-! ## Nothing is retained but the will -/

/-- The packets that wait are not retained, and the broker retains nothing
outside the status topic. -/
structure Unretained (s : System χ) : Prop where
  outbox : ∀ p ∈ s.uplink.outbox, p.retain = false
  broker : ∀ topic, topic ≠ statusTopic →
    s.uplink.broker.retained topic = none

theorem published_retain (fw : Firmware) (e : Firmware.Event) :
    ∀ m ∈ published lib decimals fw e, m.retain = false := by
  cases e with
  | mqttLoop t connected =>
      rw [published, loop_published]
      split_ifs
      · exact telemetry_retain decimals t fw.control
      · simp
  | _ => simp [published]

omit [DecidableEq χ] in
theorem Unretained.send
    {s : System χ} (h : Unretained s) {ms : List Message}
    (hms : ∀ m ∈ ms, m.retain = false) (fw : Firmware) :
    Unretained { firmware := fw, uplink := s.uplink.send (ms.map packet) } where
  outbox := by
    intro p hp
    rcases List.mem_append.mp hp with hp | hp
    · exact h.outbox p hp
    · obtain ⟨m, hm, rfl⟩ := List.mem_map.mp hp
      exact hms m hm
  broker := h.broker

omit [DecidableEq χ] in
theorem Unretained.lose
    {s : System χ} (h : Unretained s) (fw : Firmware) :
    Unretained { firmware := fw, uplink := s.uplink.lose } where
  outbox := by simp [Mqtt.Uplink.lose]
  broker := h.broker

omit [DecidableEq χ] in
theorem Unretained.arrive {s : System χ} (h : Unretained s) :
    Unretained { s with uplink := s.uplink.arrive } := by
  unfold Mqtt.Uplink.arrive
  split
  · exact h
  · next p rest houtbox =>
      have hp : p.retain = false := h.outbox p (by simp [houtbox])
      constructor
      · intro q hq
        exact h.outbox q (by simp [houtbox, show q ∈ rest from hq])
      · intro topic htopic
        rw [hp]
        exact h.broker topic htopic

theorem Unretained.step
    {s : System χ} (h : Unretained s) (e : Event χ) :
    Unretained (step lib decimals s e) := by
  cases e with
  | device e =>
      rw [Telemetry.step]
      split_ifs
      · exact h.lose _
      · exact h.send (published_retain lib decimals s.firmware e) _
  | listener =>
      have honConnect : ∀ m ∈ [onConnect], m.retain = false := by
        simp [onConnect, publish]
      exact h.send honConnect _
  | arrive => exact h.arrive
  | lose => exact h.lose _
  | will =>
      refine ⟨h.outbox, ?_⟩
      intro topic htopic
      exact (Function.update_of_ne htopic _ _).trans (h.broker topic htopic)
  | subscribe x topic => exact ⟨h.outbox, h.broker⟩
  | deliver x =>
      refine ⟨h.outbox, ?_⟩
      intro topic htopic
      rw [Telemetry.step, Mqtt.Broker.deliver_retained]
      exact h.broker topic htopic

theorem unretained_run (io : BootInputs) (flash : LittleFS)
    (es : List (Event χ)) :
    Unretained (run lib decimals (initial lib io flash) es) := by
  have hinitial : Unretained (χ := χ) (initial lib io flash) :=
    ⟨by simp [initial, Mqtt.Uplink.empty], fun _ _ => rfl⟩
  exact Machine.run_invariant (fun _ e h => h.step lib decimals e) hinitial es

/-! ## Subscriptions -/

theorem step_subscribed
    {s : System χ} {x : χ} {topic : String}
    (h : s.uplink.broker.subscribed x topic = true) (e : Event χ) :
    (step lib decimals s e).uplink.broker.subscribed x topic = true := by
  cases e with
  | device e =>
      rw [step]
      split_ifs
      · exact h
      · exact h
  | listener => exact h
  | arrive =>
      simp only [step, Mqtt.Uplink.arrive]
      split
      · exact h
      · exact h
  | lose => exact h
  | will => exact h
  | subscribe y topic' =>
      by_cases hx : x = y
      · subst hx
        by_cases htopic : topic = topic'
        · subst htopic
          simp [step]
        · simpa [step, Mqtt.Broker.subscribe, htopic] using h
      · simpa [step, Mqtt.Broker.subscribe, hx] using h
  | deliver y =>
      rw [step, Mqtt.Broker.deliver_subscribed]
      exact h

theorem run_subscribed
    {s : System χ} {x : χ} {topic : String}
    (h : s.uplink.broker.subscribed x topic = true) (es : List (Event χ)) :
    (run lib decimals s es).uplink.broker.subscribed x topic = true := by
  have hstep : ∀ (s : System χ) (e : Event χ),
      s.uplink.broker.subscribed x topic = true →
      (step lib decimals s e).uplink.broker.subscribed x topic = true :=
    fun _ e hs => step_subscribed lib decimals hs e
  exact Machine.run_invariant hstep h es

/-! ## Batches -/

/-- The gate of the batches.  It is reached if MQTT is enabled and the client
is connected. -/
def telemetryGate : IntervalGate (System χ) (Event χ) 32 where
  interval := mqttInterval
  stamp := fun s => s.firmware.mqtt.previousMillisMQTT
  time
    | .device (.mqttLoop t _) => some t
    | _ => none
  reached
    | s, .device (.mqttLoop _ connected) =>
        s.firmware.mqtt.isEnabled && connected
    | _, _ => false

omit [DecidableEq χ] in
theorem telemetryGate_fires_iff (s : System χ) (t : ℕ) (connected : Bool) :
    telemetryGate.Fires s (.device (.mqttLoop t connected)) t ↔
      Publishes t connected s.firmware.mqtt := by
  constructor
  · rintro ⟨-, hreached, hdiff⟩
    obtain ⟨henabled, hconnected⟩ := Bool.and_eq_true_iff.mp hreached
    exact ⟨henabled, hconnected, hdiff⟩
  · rintro ⟨henabled, hconnected, hdiff⟩
    exact ⟨rfl, Bool.and_eq_true_iff.mpr ⟨henabled, hconnected⟩, hdiff⟩

omit [DecidableEq χ] in
/-- Only a firing publishes. -/
theorem published_of_not_fires
    {s : System χ} {e : Firmware.Event}
    (h : ∀ t, ¬ telemetryGate.Fires s (.device e) t) :
    published lib decimals s.firmware e = [] := by
  cases e with
  | mqttLoop t connected =>
      have hnot := h t
      rw [telemetryGate_fires_iff] at hnot
      rw [published, loop_published, if_neg hnot]
  | _ => rfl

/-- A step that loses nothing and publishes no batch changes nothing that is due
to a subscriber. -/
theorem step_due
    {s : System χ} (hs : Unretained s) {x : χ} {topic : String}
    (htopic : topic ∈ topics)
    (hsubscribed : s.uplink.broker.subscribed x topic = true) {e : Event χ}
    (hloses : ¬ Loses lib s e) (hquiet : ∀ t, ¬ telemetryGate.Fires s e t) :
    (step lib decimals s e).uplink.due x topic = s.uplink.due x topic := by
  have hstatus : statusTopic ≠ topic := by
    rintro rfl
    exact statusTopic_not_mem_topics htopic
  cases e with
  | device e =>
      have hrestarts : ¬ restarts lib s.firmware e = true := by
        rw [restarts_eq_true_iff]
        exact hloses
      rw [step, published_of_not_fires lib decimals hquiet]
      dsimp only
      rw [if_neg hrestarts, Mqtt.Uplink.due_send]
      rfl
  | listener =>
      rw [step, Mqtt.Uplink.due_send]
      exact if_neg hstatus
  | arrive => exact Mqtt.Uplink.due_arrive hsubscribed
  | lose => exact absurd trivial hloses
  | will => exact Mqtt.Uplink.due_publish_of_ne s.uplink x hstatus _ _
  | subscribe y topic' =>
      have hretained := hs.broker topic hstatus.symm
      exact Mqtt.Uplink.due_subscribe hretained x y topic'
  | deliver y => exact Mqtt.Uplink.due_deliver s.uplink x y topic

theorem run_due
    {s : System χ} (hs : Unretained s) {x : χ} {topic : String}
    (htopic : topic ∈ topics)
    (hsubscribed : s.uplink.broker.subscribed x topic = true)
    {es : List (Event χ)}
    (h : Along lib decimals
      (fun s e => ¬ Loses lib s e ∧ ∀ t, ¬ telemetryGate.Fires s e t) s es) :
    (run lib decimals s es).uplink.due x topic = s.uplink.due x topic := by
  induction es generalizing s with
  | nil => rfl
  | cons e es ih =>
      obtain ⟨⟨hloses, hquiet⟩, hrest⟩ := h
      have hstep := step_due lib decimals hs htopic hsubscribed hloses hquiet
      exact (ih (hs.step lib decimals e)
        (step_subscribed lib decimals hsubscribed e) hrest).trans hstep

/-- A batch is due to every subscriber of its topics. -/
theorem step_due_of_publishes
    {s : System χ} {t : ℕ} {connected : Bool}
    (h : Publishes t connected s.firmware.mqtt) {m : Message}
    (hm : m ∈ telemetry decimals t s.firmware.control) (x : χ) :
    (step lib decimals s (.device (.mqttLoop t connected))).uplink.due x
      m.topic = some m.payload := by
  have hpublished :
      published lib decimals s.firmware (.mqttLoop t connected) =
        telemetry decimals t s.firmware.control := by
    rw [published, loop_published, if_pos h]
  rw [step, hpublished]
  dsimp only
  rw [if_neg (by simp [restarts]), Mqtt.Uplink.due_send, List.map_map]
  refine Mqtt.Uplink.foldl_receive_of_mem ?_ ?_ _
  · rw [List.map_map]
    exact topics_nodup
  · exact List.mem_map.mpr ⟨m, hm, rfl⟩

/-- A batch stays due until the next one, if nothing is lost. -/
theorem due_after_batch
    (io : BootInputs) (flash : LittleFS) {pre post : List (Event χ)} {t : ℕ}
    {connected : Bool} {x : χ}
    (hbatch : Publishes t connected
      (run lib decimals (initial lib io flash) pre).firmware.mqtt)
    (hpost : Along lib decimals
      (fun s e => ¬ Loses lib s e ∧ ∀ t, ¬ telemetryGate.Fires s e t)
      (run lib decimals (initial lib io flash)
        (pre ++ [.device (.mqttLoop t connected)])) post)
    {m : Message}
    (hm : m ∈ telemetry decimals t
      (run lib decimals (initial lib io flash) pre).firmware.control)
    (hsubscribed : (run lib decimals (initial lib io flash)
      pre).uplink.broker.subscribed x m.topic = true) :
    (run lib decimals (initial lib io flash)
      (pre ++ .device (.mqttLoop t connected) :: post)).uplink.due x m.topic =
        some m.payload := by
  have htopic : m.topic ∈ topics := by
    rw [← telemetry_topics decimals t]
    exact List.mem_map_of_mem hm
  rw [run, Machine.run_append, Machine.run_cons, Machine.run_nil] at hpost
  have hdue := run_due lib decimals
    ((unretained_run lib decimals io flash pre).step lib decimals
      (.device (.mqttLoop t connected))) htopic
    (step_subscribed lib decimals hsubscribed _) hpost
  rw [run, Machine.run_append, Machine.run_cons]
  exact hdue.trans (step_due_of_publishes lib decimals hbatch hm x)

/-- For every run of the system, with any losses, broken connections and
restarts, and a client library that sends in order: if the device has published a batch, and since then has published no
further one and lost nothing, then a subscriber to whom everything has been
delivered shows, on each topic to which it had subscribed before, what the
device held when it published that batch. -/
theorem subscriber_shows_last_batch
    (lib : ArduinoJson) (decimals : ExtRat → ℕ → String)
    (io : BootInputs) (flash : LittleFS) (pre post : List (Event χ)) (t : ℕ)
    (connected : Bool) (x : χ)
    (hbatch : Publishes t connected
      (run lib decimals (initial lib io flash) pre).firmware.mqtt)
    (hpost : Along lib decimals
      (fun s e => ¬ Loses lib s e ∧ ∀ t, ¬ telemetryGate.Fires s e t)
      (run lib decimals (initial lib io flash)
        (pre ++ [.device (.mqttLoop t connected)])) post)
    (hdrained : Drained (run lib decimals (initial lib io flash)
      (pre ++ .device (.mqttLoop t connected) :: post)) x) :
    let before := run lib decimals (initial lib io flash) pre
    let after := run lib decimals (initial lib io flash)
      (pre ++ .device (.mqttLoop t connected) :: post)
    ∀ m ∈ telemetry decimals t before.firmware.control,
      before.uplink.broker.subscribed x m.topic = true →
      after.uplink.broker.latest x m.topic = some m.payload := by
  intro before after m hm hsubscribed
  rw [Mqtt.Uplink.latest_eq_due hdrained.1 hdrained.2]
  exact due_after_batch lib decimals io flash hbatch hpost hm hsubscribed

/-- A client follows the first channel when the device announces itself, with
the will of its last connection still to come, and publishes its first batch. -/
def firstBatch : List (Event ℕ) :=
  [.subscribe 0 "waterlevel/channel/1/state", .listener, .arrive, .will]

/-- All packets arrive. -/
def arrivals : List (Event ℕ) := List.replicate 11 .arrive ++ [.deliver 0]

theorem subscriber_shows_first_batch :
    (run Firmware.brokerLib ExtRat.toFixed
      (initial Firmware.brokerLib (.plain true) Firmware.brokerFlash)
      (firstBatch ++ .device (.mqttLoop 1500 true) ::
        arrivals)).uplink.broker.latest 0 "waterlevel/channel/1/state" =
      some "0" := by
  have hshows := subscriber_shows_last_batch Firmware.brokerLib
    ExtRat.toFixed (.plain true) Firmware.brokerFlash firstBatch arrivals 1500
    true 0 (by decide +kernel) ?_ (by decide +kernel)
  · have hstate := hshows (publish "waterlevel/channel/1/state" "0")
      (by decide +kernel) (by decide +kernel)
    simpa only [publish] using hstate
  refine Machine.along_of_forall_mem fun s e he => ?_
  rcases List.mem_append.mp he with he | he
  · rw [List.eq_of_mem_replicate he]
    exact ⟨id, IntervalGate.not_fires_of_time_eq_none rfl⟩
  · rw [List.mem_singleton.mp he]
    exact ⟨id, IntervalGate.not_fires_of_time_eq_none rfl⟩

end Telemetry
end ByteWaterlevel
