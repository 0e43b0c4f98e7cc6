import ByteWaterlevel.Support.Broker
import Mathlib.Data.List.Nodup

/-!
# A publisher in front of a broker

What a publisher hands to its client waits in an outbox and arrives at the
broker in order.  From there it travels to the subscribers, again in order.

`due` is the value that a subscriber holds once the outbox has arrived and all
its own messages have been delivered.  Neither an arrival nor a delivery changes
it, and neither does a subscription to a topic without a retained value, so that
only what is put into the outbox and what is lost from it has to be followed.
-/

namespace Mqtt

/-- A publish packet of a topic `τ` and a payload `π`. -/
structure Packet (τ π : Type*) where
  topic : τ
  retain : Bool
  payload : π
deriving DecidableEq

namespace Packet

variable {τ π : Type*}

/-- What a subscriber receives of the packet. -/
def message (p : Packet τ π) : τ × π := (p.topic, p.payload)

end Packet

structure Uplink (τ π χ : Type*) where
  /-- The packets that wait at the publisher, the oldest one first. -/
  outbox : List (Packet τ π)
  broker : Broker τ π χ

namespace Uplink

variable {τ π χ : Type*}

def empty : Uplink τ π χ where
  outbox := []
  broker := .empty

/-- The publisher hands packets to its client. -/
def send (ps : List (Packet τ π)) (u : Uplink τ π χ) : Uplink τ π χ :=
  { u with outbox := u.outbox ++ ps }

/-- What waits at the publisher is lost. -/
def lose (u : Uplink τ π χ) : Uplink τ π χ :=
  { u with outbox := [] }

variable [DecidableEq τ]

/-- The oldest packet arrives at the broker. -/
def arrive (u : Uplink τ π χ) : Uplink τ π χ :=
  match u.outbox with
  | [] => u
  | p :: rest =>
      { outbox := rest
        broker := u.broker.publish p.topic p.retain p.payload }

/-- The value that the client holds once everything has arrived, if it is
subscribed. -/
def due (u : Uplink τ π χ) (x : χ) (topic : τ) : Option π :=
  (u.outbox.map Packet.message).foldl (Broker.receive topic)
    (u.broker.settled x topic)

/-! ## Messages in a row -/

theorem foldl_receive_of_not_mem
    {topic : τ} {ms : List (τ × π)} (h : topic ∉ ms.map Prod.fst)
    (value : Option π) : ms.foldl (Broker.receive topic) value = value := by
  induction ms generalizing value with
  | nil => rfl
  | cons m ms ih =>
      rw [List.map_cons, List.mem_cons, not_or] at h
      rw [List.foldl_cons, ih h.2, Broker.receive, if_neg (Ne.symm h.1)]

/-- If no topic occurs twice, each one ends with its own payload. -/
theorem foldl_receive_of_mem
    {topic : τ} {payload : π} {ms : List (τ × π)}
    (hnodup : (ms.map Prod.fst).Nodup) (h : (topic, payload) ∈ ms)
    (value : Option π) :
    ms.foldl (Broker.receive topic) value = some payload := by
  induction ms generalizing value with
  | nil => exact absurd h List.not_mem_nil
  | cons m ms ih =>
      rw [List.map_cons, List.nodup_cons] at hnodup
      rw [List.foldl_cons]
      rcases List.mem_cons.mp h with rfl | hrest
      · rw [foldl_receive_of_not_mem hnodup.1, Broker.receive, if_pos rfl]
      · exact ih hnodup.2 hrest _

/-! ## The value that is due -/

theorem latest_eq_due
    {u : Uplink τ π χ} {x : χ} (houtbox : u.outbox = [])
    (hinFlight : u.broker.inFlight x = []) (topic : τ) :
    u.broker.latest x topic = u.due x topic := by
  rw [Broker.latest_eq_settled hinFlight, due, houtbox]
  rfl

theorem due_send (u : Uplink τ π χ) (ps : List (Packet τ π)) (x : χ)
    (topic : τ) :
    (u.send ps).due x topic =
      (ps.map Packet.message).foldl (Broker.receive topic) (u.due x topic) := by
  rw [due, send, List.map_append, List.foldl_append, due]

/-- An arrival changes no value that is due to a subscriber. -/
theorem due_arrive
    {u : Uplink τ π χ} {x : χ} {topic : τ}
    (h : u.broker.subscribed x topic = true) :
    u.arrive.due x topic = u.due x topic := by
  unfold arrive
  split
  · rfl
  · next p rest houtbox =>
      rw [due, due, houtbox, List.map_cons, List.foldl_cons]
      congr 1
      by_cases htopic : p.topic = topic
      · subst htopic
        rw [Broker.settled_publish, if_pos h, Broker.receive]
        exact (if_pos rfl).symm
      · rw [Broker.settled_publish_of_ne _ _ htopic, Broker.receive]
        exact (if_neg htopic).symm

/-- What the broker itself publishes on another topic changes nothing. -/
theorem due_publish_of_ne
    (u : Uplink τ π χ) (x : χ) {topic topic' : τ} (h : topic' ≠ topic)
    (retain : Bool) (payload : π) :
    due { u with broker := u.broker.publish topic' retain payload } x topic =
      u.due x topic := by
  rw [due, Broker.settled_publish_of_ne _ _ h, due]

variable [DecidableEq χ]

theorem due_deliver (u : Uplink τ π χ) (x y : χ) (topic : τ) :
    due { u with broker := u.broker.deliver y } x topic = u.due x topic := by
  rw [due, Broker.settled_deliver, due]

theorem due_subscribe
    {u : Uplink τ π χ} {topic : τ} (h : u.broker.retained topic = none)
    (x y : χ) (topic' : τ) :
    due { u with broker := u.broker.subscribe y topic' } x topic =
      u.due x topic := by
  rw [due, Broker.settled_subscribe_of_retained_eq_none h, due]

end Uplink
end Mqtt
