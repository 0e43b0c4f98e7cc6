import ByteWaterlevel.MQTTHandler
import ByteWaterlevel.Support.Broker
import ByteWaterlevel.Support.Machine

/-!
# Availability of the device

The device announces itself on the status topic when it has connected, and the
broker publishes its will there when the connection breaks.  The system of
device, broker and subscribers takes these steps in any order that is possible,
with subscriptions and deliveries in between.

The will is retained and the announcement is not.  A subscriber that was there
when the announcement was published settles on `online`.  One that subscribes
later is answered by the retained value: nothing as long as no connection has
ever broken, and `offline` from then on.
-/

namespace ByteWaterlevel
namespace Availability

open MQTTHandler

variable {χ : Type*}

inductive Event (χ : Type*) where
  /-- The broker accepts the connection of the device. -/
  | connect
  /-- The publish of the connect listener arrives at the broker. -/
  | announce
  /-- The connection breaks without a disconnect packet. -/
  | drop
  | subscribe (x : χ)
  | deliver (x : χ)
deriving DecidableEq

structure System (χ : Type*) where
  connected : Bool
  /-- The announcement of the present connection has arrived. -/
  announced : Bool
  broker : Mqtt.Broker String String χ

def initial : System χ where
  connected := false
  announced := false
  broker := .empty

/-- The message arrives at the broker. -/
def send (m : Message) (b : Mqtt.Broker String String χ) :
    Mqtt.Broker String String χ :=
  b.publish m.topic m.retain m.payload

/-- The event can happen in the given state. -/
def Possible (s : System χ) : Event χ → Prop
  | .connect => s.connected = false
  | .announce => s.connected = true ∧ s.announced = false
  | .drop => s.connected = true
  | .subscribe _ | .deliver _ => True

instance (s : System χ) : (e : Event χ) → Decidable (Possible s e)
  | .connect => inferInstanceAs (Decidable (_ = _))
  | .announce => inferInstanceAs (Decidable (_ ∧ _))
  | .drop => inferInstanceAs (Decidable (_ = _))
  | .subscribe _ => .isTrue trivial
  | .deliver _ => .isTrue trivial

variable [DecidableEq χ]

def step (s : System χ) : Event χ → System χ
  | .connect => { s with connected := true, announced := false }
  | .announce =>
      { s with announced := true, broker := send onConnect s.broker }
  | .drop => { s with connected := false, broker := send lastWill s.broker }
  | .subscribe x => { s with broker := s.broker.subscribe x statusTopic }
  | .deliver x => { s with broker := s.broker.deliver x }

abbrev run (s : System χ) (es : List (Event χ)) : System χ :=
  Machine.run step s es

/-- The value on the status topic that the subscriber settles on. -/
def settled (s : System χ) (x : χ) : Option String :=
  s.broker.settled x statusTopic

/-- A broken connection leaves its will behind, and nothing else is
retained. -/
theorem run_retained (s : System χ) (es : List (Event χ)) :
    (run s es).broker.retained statusTopic =
      if .drop ∈ es then some lastWill.payload
      else s.broker.retained statusTopic := by
  induction es generalizing s with
  | nil => simp
  | cons e es ih =>
      rw [run, Machine.run_cons, ih (step s e)]
      by_cases hdrop : Event.drop ∈ es
      · simp [hdrop]
      · cases e with
        | connect => simp [hdrop, step]
        | announce => simp [hdrop, step, send, onConnect, publish]
        | drop => simp [hdrop, step, send, lastWill]
        | subscribe x => simp [hdrop, step]
        | deliver x => simp [hdrop, step]

theorem run_subscribed (s : System χ) (es : List (Event χ)) (x : χ) :
    (run s es).broker.subscribed x statusTopic = true ↔
      s.broker.subscribed x statusTopic = true ∨ .subscribe x ∈ es := by
  induction es generalizing s with
  | nil => simp
  | cons e es ih =>
      rw [run, Machine.run_cons, ih (step s e)]
      cases e with
      | connect => simp [step]
      | announce => simp [step, send]
      | drop => simp [step, send]
      | subscribe y =>
          simp only [step, Mqtt.Broker.subscribe_subscribed, List.mem_cons,
            Event.subscribe.injEq]
          tauto
      | deliver y => simp [step]

/-- Nothing reaches a client before it subscribes. -/
theorem settled_run_of_not_subscribed
    {s : System χ} {es : List (Event χ)} {x : χ}
    (hs : s.broker.subscribed x statusTopic = false)
    (hes : .subscribe x ∉ es) : settled (run s es) x = settled s x := by
  induction es generalizing s with
  | nil => rfl
  | cons e es ih =>
      rw [List.mem_cons, not_or] at hes
      obtain ⟨hne, hes⟩ := hes
      have hsent : ∀ m : Message, m.topic = statusTopic →
          (send m s.broker).settled x statusTopic =
            s.broker.settled x statusTopic := by
        intro m hm
        rw [send, hm, Mqtt.Broker.settled_publish, hs]
        rfl
      have hstep : (step s e).broker.subscribed x statusTopic = false ∧
          settled (step s e) x = settled s x := by
        cases e with
        | connect => exact ⟨hs, rfl⟩
        | announce => exact ⟨hs, hsent onConnect rfl⟩
        | drop => exact ⟨hs, hsent lastWill rfl⟩
        | subscribe y =>
            have hxy : x ≠ y := fun h => hne (by rw [h])
            refine ⟨?_, Mqtt.Broker.settled_subscribe_of_ne _ hxy _ _⟩
            rw [← Bool.not_eq_true] at hs ⊢
            simpa [step, hxy] using hs
        | deliver y =>
            refine ⟨?_, Mqtt.Broker.settled_deliver _ _ _ _⟩
            simpa [step] using hs
      rw [run, Machine.run_cons]
      exact (ih hstep.1 hes).trans hstep.2

/-- While the connection stands, a client's value changes only when the client
subscribes again. -/
theorem settled_run_of_up
    {s : System χ} {es : List (Event χ)} (x : χ)
    (hconnected : s.connected = true) (hannounced : s.announced = true)
    (hpossible : Machine.Along step Possible s es) (hup : .drop ∉ es) :
    settled (run s es) x =
      if .subscribe x ∈ es then
        (s.broker.retained statusTopic).or (settled s x)
      else settled s x := by
  induction es generalizing s with
  | nil => simp
  | cons e es ih =>
      rw [List.mem_cons, not_or] at hup
      obtain ⟨hne, hup⟩ := hup
      cases e with
      | connect =>
          have hnot : s.connected = false := hpossible.1
          rw [hconnected] at hnot
          exact absurd hnot (by decide)
      | announce =>
          have hnot : s.announced = false := hpossible.1.2
          rw [hannounced] at hnot
          exact absurd hnot (by decide)
      | drop => exact absurd rfl hne
      | subscribe y =>
          have htail := ih (s := step s (.subscribe y)) hconnected hannounced
            hpossible.2 hup
          rw [run, Machine.run_cons, htail]
          by_cases hxy : x = y
          · subst hxy
            have hself : settled (step s (.subscribe x)) x =
                (s.broker.retained statusTopic).or (settled s x) :=
              Mqtt.Broker.settled_subscribe_self _ x statusTopic
            rw [hself]
            cases hretained : s.broker.retained statusTopic with
            | none => simp [step, hretained]
            | some payload => simp [step, hretained]
          · have hother : settled (step s (.subscribe y)) x = settled s x :=
              Mqtt.Broker.settled_subscribe_of_ne _ hxy _ _
            rw [hother]
            simp [hxy, step]
      | deliver y =>
          have htail := ih (s := step s (.deliver y)) hconnected hannounced
            hpossible.2 hup
          have hsame : settled (step s (.deliver y)) x = settled s x :=
            Mqtt.Broker.settled_deliver _ _ _ _
          rw [run, Machine.run_cons, htail, hsame]
          simp [step]

/-- What a client settles on after an announcement: the announcement if the
client was subscribed, unless the retained will has been sent to it since. -/
theorem settled_after_announce
    (x : χ) (pre post : List (Event χ))
    (hpossible : Machine.Along step Possible initial
      (pre ++ .announce :: post))
    (hup : .drop ∉ post) :
    settled (run initial (pre ++ .announce :: post)) x =
      let announced :=
        if .subscribe x ∈ pre then some onConnect.payload else none
      if .subscribe x ∈ post then
        (if .drop ∈ pre then some lastWill.payload else none).or announced
      else announced := by
  rw [Machine.along_append] at hpossible
  obtain ⟨-, hannounce, hpost⟩ := hpossible
  have hretained : (step (run initial pre) .announce).broker.retained
      statusTopic = if .drop ∈ pre then some lastWill.payload else none :=
    run_retained initial pre
  have hsettled : settled (step (run initial pre) .announce) x =
      if .subscribe x ∈ pre then some onConnect.payload else none := by
    have hpublish : settled (step (run initial pre) .announce) x =
        if (run initial pre).broker.subscribed x statusTopic then
          some onConnect.payload
        else settled (run initial pre) x :=
      Mqtt.Broker.settled_publish _ x statusTopic _ _
    have hsubscribed := run_subscribed initial pre x
    rw [hpublish]
    by_cases hpre : Event.subscribe x ∈ pre
    · rw [if_pos (hsubscribed.mpr (Or.inr hpre)), if_pos hpre]
    · have hnot : ¬ (run initial pre).broker.subscribed x statusTopic =
          true := by
        rw [hsubscribed]
        rintro (hinitial | hmem)
        · exact Bool.false_ne_true hinitial
        · exact hpre hmem
      rw [if_neg hnot, if_neg hpre]
      exact settled_run_of_not_subscribed rfl hpre
  have hconnected : (step (run initial pre) .announce).connected = true :=
    hannounce.1
  rw [run, Machine.run_append, Machine.run_cons]
  rw [settled_run_of_up x hconnected rfl hpost hup, hretained, hsettled]

/-- For every possible interleaving in which the announcement has arrived and
the connection still stands, and for every client that has received all its
messages: the client's latest value is `online` if and only if it had
subscribed before the announcement arrived, and either has not subscribed
again since or no connection of the device had broken before. -/
theorem latest_online_iff
    (x : χ) (pre post : List (Event χ))
    (hpossible : Machine.Along step Possible initial
      (pre ++ .announce :: post))
    (hup : .drop ∉ post)
    (hdrained :
      (run initial (pre ++ .announce :: post)).broker.inFlight x = []) :
    (run initial (pre ++ .announce :: post)).broker.latest x statusTopic =
        some "online" ↔
      .subscribe x ∈ pre ∧ (.subscribe x ∉ post ∨ .drop ∉ pre) := by
  have hsettled := settled_after_announce x pre post hpossible hup
  have hpayloads : lastWill.payload ≠ onConnect.payload := by decide
  rw [Mqtt.Broker.latest_eq_settled hdrained, ← settled, hsettled]
  change _ = some onConnect.payload ↔ _
  by_cases hpre : Event.subscribe x ∈ pre
  · by_cases hpost : Event.subscribe x ∈ post
    · by_cases hdrop : Event.drop ∈ pre
      · simp [hpre, hpost, hdrop, hpayloads]
      · simp [hpre, hpost, hdrop]
    · simp [hpre, hpost]
  · by_cases hpost : Event.subscribe x ∈ post
    · by_cases hdrop : Event.drop ∈ pre
      · simp [hpre, hpost, hdrop, hpayloads]
      · simp [hpre, hpost, hdrop]
    · simp [hpre, hpost]

/-- The device connects, loses its connection and connects again; what it
published last is still on its way. -/
def outage : List (Event ℕ) := [.connect, .announce, .drop, .connect]

/-- A subscriber from the start sees the device come, go and come back. -/
theorem latest_online_of_first_subscriber :
    (run initial ((.subscribe 0 :: outage) ++
      .announce :: [.deliver 0, .deliver 0, .deliver 0])).broker.latest
        0 statusTopic = some "online" :=
  (latest_online_iff 0 (.subscribe 0 :: outage)
    [.deliver 0, .deliver 0, .deliver 0] (by decide +kernel) (by decide)
    (by decide +kernel)).mpr (by decide)

/-- A subscriber that comes after the device is connected and announced
again. -/
theorem latest_offline_of_late_subscriber :
    let es := outage ++ .announce :: [.subscribe 0, .deliver 0]
    Machine.Along step Possible initial es ∧
      (run initial es).connected = true ∧
      (run initial es).broker.inFlight 0 = [] ∧
      (run initial es).broker.latest 0 statusTopic = some "offline" := by
  decide +kernel

end Availability
end ByteWaterlevel
