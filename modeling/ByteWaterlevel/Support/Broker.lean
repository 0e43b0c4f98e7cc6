import Mathlib.Logic.Function.Basic

/-!
# A message broker with retained values

The publish and subscribe side of an MQTT 3.1.1 broker.  A publish reaches the
current subscribers of its topic and, if it is retained, replaces the retained
value of the topic.  A subscription is answered by the retained value, also if
the subscriber was subscribed before.  Messages travel to each subscriber in
order and arrive when they are delivered.  Payloads are not empty; the empty
retained payload, which removes the retained value, is left out.

`settled` is the value that a subscriber holds once everything on its way has
arrived.  The other operations act on it in a simple way and a delivery leaves
it alone, so that results about settled values need not follow deliveries.
-/

namespace Mqtt

/-- Topics `τ`, payloads `π` and clients `χ`. -/
structure Broker (τ π χ : Type*) where
  retained : τ → Option π
  subscribed : χ → τ → Bool
  /-- The messages on their way to a client, the oldest one first. -/
  inFlight : χ → List (τ × π)
  /-- The value that a client has received last on a topic. -/
  latest : χ → τ → Option π

namespace Broker

variable {τ π χ : Type*}

/-- A broker without retained values and without clients. -/
def empty : Broker τ π χ where
  retained := fun _ => none
  subscribed := fun _ _ => false
  inFlight := fun _ => []
  latest := fun _ _ => none

variable [DecidableEq τ] [DecidableEq χ]

def publish (topic : τ) (retain : Bool) (payload : π) (b : Broker τ π χ) :
    Broker τ π χ :=
  { b with
    retained :=
      if retain then Function.update b.retained topic (some payload)
      else b.retained
    inFlight := fun x =>
      if b.subscribed x topic then b.inFlight x ++ [(topic, payload)]
      else b.inFlight x }

def subscribe (x : χ) (topic : τ) (b : Broker τ π χ) : Broker τ π χ :=
  { b with
    subscribed := Function.update b.subscribed x
      (Function.update (b.subscribed x) topic true)
    inFlight := Function.update b.inFlight x
      (b.inFlight x ++
        ((b.retained topic).map fun payload => (topic, payload)).toList) }

/-- The oldest message on its way to the client arrives. -/
def deliver (x : χ) (b : Broker τ π χ) : Broker τ π χ :=
  match b.inFlight x with
  | [] => b
  | (topic, payload) :: rest =>
      { b with
        inFlight := Function.update b.inFlight x rest
        latest := Function.update b.latest x
          (Function.update (b.latest x) topic (some payload)) }

omit [DecidableEq χ] in
@[simp] theorem publish_retained_of_not_retain
    (b : Broker τ π χ) (topic : τ) (payload : π) :
    (b.publish topic false payload).retained = b.retained := rfl

omit [DecidableEq χ] in
@[simp] theorem publish_retained_self
    (b : Broker τ π χ) (topic : τ) (payload : π) :
    (b.publish topic true payload).retained topic = some payload :=
  Function.update_self topic _ _

omit [DecidableEq χ] in
@[simp] theorem publish_subscribed
    (b : Broker τ π χ) (topic : τ) (retain : Bool) (payload : π) :
    (b.publish topic retain payload).subscribed = b.subscribed := rfl

@[simp] theorem subscribe_retained (b : Broker τ π χ) (x : χ) (topic : τ) :
    (b.subscribe x topic).retained = b.retained := rfl

@[simp] theorem subscribe_subscribed
    (b : Broker τ π χ) (x y : χ) (topic : τ) :
    (b.subscribe x topic).subscribed y topic = true ↔
      y = x ∨ b.subscribed y topic = true := by
  by_cases hy : y = x
  · subst hy
    simp [subscribe]
  · simp [subscribe, hy]

@[simp] theorem deliver_retained (b : Broker τ π χ) (x : χ) :
    (b.deliver x).retained = b.retained := by
  unfold deliver
  split <;> rfl

@[simp] theorem deliver_subscribed (b : Broker τ π χ) (x : χ) :
    (b.deliver x).subscribed = b.subscribed := by
  unfold deliver
  split <;> rfl

/-! ## Settled values -/

/-- The value on a topic after a message. -/
def receive (topic : τ) (value : Option π) (message : τ × π) : Option π :=
  if message.1 = topic then some message.2 else value

/-- The value that the client holds once all its messages have arrived. -/
def settled (b : Broker τ π χ) (x : χ) (topic : τ) : Option π :=
  (b.inFlight x).foldl (receive topic) (b.latest x topic)

omit [DecidableEq χ] in
theorem latest_eq_settled
    {b : Broker τ π χ} {x : χ} (h : b.inFlight x = []) (topic : τ) :
    b.latest x topic = b.settled x topic := by
  rw [settled, h, List.foldl_nil]

omit [DecidableEq χ] in
theorem settled_publish
    (b : Broker τ π χ) (x : χ) (topic : τ) (retain : Bool) (payload : π) :
    (b.publish topic retain payload).settled x topic =
      if b.subscribed x topic then some payload else b.settled x topic := by
  unfold settled publish
  dsimp only
  by_cases hx : b.subscribed x topic = true
  · rw [if_pos hx, if_pos hx, List.foldl_append]
    simp [receive]
  · rw [if_neg hx, if_neg hx]

omit [DecidableEq χ] in
theorem settled_publish_of_ne
    (b : Broker τ π χ) (x : χ) {topic topic' : τ} (h : topic' ≠ topic)
    (retain : Bool) (payload : π) :
    (b.publish topic' retain payload).settled x topic =
      b.settled x topic := by
  unfold settled publish
  dsimp only
  by_cases hx : b.subscribed x topic' = true
  · rw [if_pos hx, List.foldl_append]
    exact if_neg h
  · rw [if_neg hx]

theorem settled_subscribe_self
    (b : Broker τ π χ) (x : χ) (topic : τ) :
    (b.subscribe x topic).settled x topic =
      (b.retained topic).or (b.settled x topic) := by
  unfold settled subscribe
  dsimp only
  rw [Function.update_self, List.foldl_append]
  cases b.retained topic with
  | none => rfl
  | some payload => simp [receive]

theorem settled_subscribe_of_ne
    (b : Broker τ π χ) {x y : χ} (h : y ≠ x) (topic topic' : τ) :
    (b.subscribe x topic).settled y topic' = b.settled y topic' := by
  unfold settled subscribe
  dsimp only
  rw [Function.update_of_ne h]

/-- A subscription brings nothing on a topic without a retained value. -/
theorem settled_subscribe_of_retained_eq_none
    {b : Broker τ π χ} {topic : τ} (h : b.retained topic = none)
    (x y : χ) (topic' : τ) :
    (b.subscribe y topic').settled x topic = b.settled x topic := by
  by_cases hx : x = y
  · subst hx
    unfold settled subscribe
    dsimp only
    rw [Function.update_self, List.foldl_append]
    cases hretained : b.retained topic' with
    | none => rfl
    | some payload =>
        have htopic : topic' ≠ topic := by
          rintro rfl
          rw [h] at hretained
          exact nomatch hretained
        exact if_neg htopic
  · exact settled_subscribe_of_ne b hx topic' topic

/-- A delivery changes no settled value. -/
@[simp] theorem settled_deliver
    (b : Broker τ π χ) (x y : χ) (topic : τ) :
    (b.deliver x).settled y topic = b.settled y topic := by
  unfold settled deliver
  split
  · rfl
  · next topic' payload rest hx =>
      by_cases hy : y = x
      · subst hy
        rw [hx, List.foldl_cons]
        simp only [Function.update_self]
        congr 1
        by_cases htopic : topic' = topic
        · subst htopic
          simp [receive]
        · rw [Function.update_of_ne (Ne.symm htopic)]
          simp [receive, htopic]
      · simp [hy]

end Broker
end Mqtt
