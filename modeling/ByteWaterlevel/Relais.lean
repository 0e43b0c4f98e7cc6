import ByteWaterlevel.DeviceHandler

/-!
# Relay channels

The two channels of the device are treated alike by every function that
switches or times a relay.  This module names them, gives each its slot of the
device state, and states once for both what `setRelais`, `setRelaisDuration`
and `handleRelais` do to a slot.  The variables of the sensor pipeline are
grouped in the same way; switching and polling leave them alone.  Later modules
use these equations and do not unfold the functions.
-/

namespace ByteWaterlevel

/-- A channel that exists. -/
inductive Channel where
  | one
  | two
deriving DecidableEq

namespace Channel

/-- The channel number as an `int`. -/
def number : Channel → CInt
  | one => 1
  | two => 2

/-- The channel number as `setRelais` receives it. -/
def number8 : Channel → CInt8
  | one => 1
  | two => 2

theorem number8_injective : Function.Injective number8 := by
  intro c c' h
  cases c <;> cases c' <;> first | rfl | exact absurd h (by decide)

@[simp] theorem number8_eq_iff {c c' : Channel} :
    c.number8 = c'.number8 ↔ c = c' :=
  number8_injective.eq_iff

theorem ne_number8 {relais : CInt8}
    (h1 : relais ≠ 1) (h2 : relais ≠ 2) (c : Channel) :
    relais ≠ c.number8 := by
  cases c with
  | one => exact h1
  | two => exact h2

@[simp] theorem setWidth_number (c : Channel) :
    c.number.setWidth 8 = c.number8 := by
  cases c <;> rfl

end Channel

namespace DeviceHandler

/-- The variables of one channel: the state of its relay and its deadline,
which is `noTimer` if the channel has none. -/
structure Slot where
  relay : Bool
  timer : ULong
deriving DecidableEq

def State.slot (d : State) : Channel → Slot
  | .one => ⟨d.relay1, d.ch1⟩
  | .two => ⟨d.relay2, d.ch2⟩

/-- The variables of the sensor pipeline. -/
structure Sensors where
  scanMillis : ULong
  latestVoltage : ExtRat
  maxV : ExtRat
  minV : ExtRat
  tankVolume : ExtRat
  scanWaterLevel : ExtRat
  scanWaterVolume : ExtRat
  adcTasks : ℕ

def State.sensors (d : State) : Sensors where
  scanMillis := d.scanMillis
  latestVoltage := d.latestVoltage
  maxV := d.maxV
  minV := d.minV
  tankVolume := d.tankVolume
  scanWaterLevel := d.scanWaterLevel
  scanWaterVolume := d.scanWaterVolume
  adcTasks := d.adcTasks

/-- A slot after its relay was switched. -/
def Slot.switched (state : Bool) : Slot := ⟨state, noTimer⟩

/-- A poll at uptime `t` finds the deadline reached. -/
def Expired (t : ℕ) (deadline : ULong) : Prop :=
  deadline ≠ noTimer ∧ millis t ≥ deadline

instance (t : ℕ) (deadline : ULong) : Decidable (Expired t deadline) :=
  inferInstanceAs (Decidable (_ ∧ _))

@[simp] theorem not_expired_noTimer (t : ℕ) : ¬ Expired t noTimer :=
  fun h => h.1 rfl

/-! ## Switching -/

/-- A number that names no channel reaches only the pin and the output. -/
theorem setRelais_of_ne
    (pin : ULong) {relais : CInt8} (state : Bool) (d : State)
    (h1 : relais ≠ 1) (h2 : relais ≠ 2) :
    setRelais pin relais state d =
      { digitalWrite (pin.setWidth 8) state d with
        serial := ⟨relais, state⟩ :: d.serial } := by
  unfold setRelais
  rw [if_neg h1, if_neg h2]
  rfl

theorem setRelais_slot
    (pin : ULong) (relais : CInt8) (state : Bool) (d : State) (c : Channel) :
    (setRelais pin relais state d).slot c =
      if relais = c.number8 then .switched state else d.slot c := by
  by_cases h1 : relais = 1
  · subst relais
    cases c <;> rfl
  · by_cases h2 : relais = 2
    · subst relais
      cases c <;> rfl
    · rw [setRelais_of_ne pin state d h1 h2,
        if_neg (Channel.ne_number8 h1 h2 c)]
      cases c <;> rfl

@[simp] theorem setRelais_serial
    (pin : ULong) (relais : CInt8) (state : Bool) (d : State) :
    (setRelais pin relais state d).serial = ⟨relais, state⟩ :: d.serial := by
  unfold setRelais
  split_ifs <;> rfl

/-! ## Arming -/

theorem setRelaisDuration_slot
    (t : ℕ) (channel duration : CInt) (d : State) (c : Channel) :
    (setRelaisDuration t channel duration d).slot c =
      if channel = c.number then
        { d.slot c with timer := millis t + duration * 1000 }
      else d.slot c := by
  by_cases h1 : channel = 1
  · subst channel
    cases c <;> rfl
  · by_cases h2 : channel = 2
    · subst channel
      cases c <;> rfl
    · have hne : channel ≠ c.number := by
        cases c with
        | one => exact h1
        | two => exact h2
      rw [setRelaisDuration, if_neg h1, if_neg h2, if_neg hne]

@[simp] theorem setRelaisDuration_serial
    (t : ℕ) (channel duration : CInt) (d : State) :
    (setRelaisDuration t channel duration d).serial = d.serial := by
  unfold setRelaisDuration
  split_ifs <;> rfl

/-- The wrapped deadline, in terms of the true uptime and of the signed
duration. -/
theorem toNat_deadline (t : ℕ) (duration : CInt) :
    ((millis t + duration * 1000).toNat : ℤ) =
      ((t : ℤ) + 1000 * duration.toInt) % 2 ^ 32 := by
  have hduration := BitVec.toInt_eq_toNat_cond duration
  have hlt := duration.isLt
  rw [BitVec.toNat_add, BitVec.toNat_mul, toNat_millis]
  simp only [BitVec.ofNat_eq_ofNat, BitVec.toNat_ofNat]
  split at hduration <;> omega

/-! ## Polling -/

/-- The poll of one channel. -/
def pollChannel (t : ℕ) (c : Channel) (d : State) : State :=
  if Expired t (d.slot c).timer then setRelais 0 c.number8 false d else d

theorem handleRelais_eq (t : ℕ) (d : State) :
    handleRelais t d = pollChannel t .two (pollChannel t .one d) := rfl

theorem pollChannel_slot_self (t : ℕ) (c : Channel) (d : State) :
    (pollChannel t c d).slot c =
      if Expired t (d.slot c).timer then .switched false else d.slot c := by
  unfold pollChannel
  split_ifs
  · rw [setRelais_slot, if_pos rfl]
  · rfl

theorem pollChannel_slot_of_ne
    (t : ℕ) {p c : Channel} (d : State) (h : p ≠ c) :
    (pollChannel t p d).slot c = d.slot c := by
  unfold pollChannel
  split_ifs
  · rw [setRelais_slot, if_neg (by simpa using h)]
  · rfl

/-- A poll switches off exactly the channels whose deadline is reached. -/
theorem handleRelais_slot (t : ℕ) (d : State) (c : Channel) :
    (handleRelais t d).slot c =
      if Expired t (d.slot c).timer then .switched false else d.slot c := by
  rw [handleRelais_eq]
  cases c with
  | one =>
      rw [pollChannel_slot_of_ne t _ (by decide), pollChannel_slot_self]
  | two =>
      rw [pollChannel_slot_self, pollChannel_slot_of_ne t d (by decide)]

/-! ## Everything else -/

/-- A view of the device that neither switching nor arming a relay changes. -/
structure AwayFromRelays {α : Type*} (v : State → α) : Prop where
  setRelais : ∀ pin relais state d, v (setRelais pin relais state d) = v d
  setRelaisDuration : ∀ t channel duration d,
    v (setRelaisDuration t channel duration d) = v d

/-- The device with everything that switching and arming write blanked. -/
def State.withoutRelays (d : State) : State :=
  { d with
    ch1 := noTimer
    ch2 := noTimer
    relay1 := false
    relay2 := false
    pins := fun _ => false
    serial := [] }

theorem awayFromRelays_withoutRelays : AwayFromRelays State.withoutRelays where
  setRelais pin relais state d := by
    unfold setRelais
    split_ifs <;> rfl
  setRelaisDuration t channel duration d := by
    unfold setRelaisDuration
    split_ifs <;> rfl

/-- A view that does not read what switching and arming write. -/
theorem AwayFromRelays.of_withoutRelays
    {α : Type*} {v : State → α} (h : ∀ d : State, v d.withoutRelays = v d) :
    AwayFromRelays v where
  setRelais pin relais state d := by
    rw [← h, awayFromRelays_withoutRelays.setRelais, h]
  setRelaisDuration t channel duration d := by
    rw [← h, awayFromRelays_withoutRelays.setRelaisDuration, h]

theorem awayFromRelays_sensors : AwayFromRelays State.sensors :=
  .of_withoutRelays fun _ => rfl

theorem AwayFromRelays.handleRelais
    {α : Type*} {v : State → α} (h : AwayFromRelays v) (t : ℕ) (d : State) :
    v (handleRelais t d) = v d := by
  have hpoll : ∀ c d, v (pollChannel t c d) = v d := by
    intro c d
    unfold pollChannel
    split_ifs
    · exact h.setRelais 0 c.number8 false d
    · rfl
  rw [handleRelais_eq, hpoll, hpoll]

end DeviceHandler
end ByteWaterlevel
