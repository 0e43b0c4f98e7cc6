import ByteWaterlevel.Control.Tick

/-!
# Reported states and driven pins

`setRelais` keeps a shadow variable for each relay, which `getState` reports,
and drives the pin of the relay.  A number that names no channel leaves the
shadows alone and drives the pin whose number are the low eight bits of what the
uninitialised variable happens to hold.  A run reports what it drives exactly if no request does so
with the pin of a relay and a level that this relay does not have.
-/

namespace ByteWaterlevel

/-- The output pin of the channel's relay. -/
def Channel.pin : Channel → CUInt8
  | .one => InternalConfig.relaisCh1.setWidth 8
  | .two => InternalConfig.relaisCh2.setWidth 8

theorem Channel.pin_injective : Function.Injective Channel.pin := by
  intro c c' h
  cases c <;> cases c' <;> first | rfl | exact absurd h (by decide)

namespace DeviceHandler

@[simp] theorem getState_number (c : Channel) (d : State) :
    getState c.number d = (d.slot c).relay := by
  cases c <;> rfl

/-- A call on a channel drives the pin of that channel. -/
theorem setRelais_pins_of_channel
    (pin : ULong) (c : Channel) (state : Bool) (d : State) :
    (setRelais pin c.number8 state d).pins =
      Function.update d.pins c.pin state := by
  cases c <;> rfl

/-- A call on no channel drives the pin that it finds, cut to eight bits. -/
theorem setRelais_pins_of_ne
    (pin : ULong) {relais : CInt8} (state : Bool) (d : State)
    (h : ∀ c : Channel, relais ≠ c.number8) :
    (setRelais pin relais state d).pins =
      Function.update d.pins (pin.setWidth 8) state := by
  rw [setRelais_of_ne pin state d (h .one) (h .two)]
  rfl

@[simp] theorem setRelaisDuration_pins
    (t : ℕ) (channel duration : CInt) (d : State) :
    (setRelaisDuration t channel duration d).pins = d.pins := by
  unfold setRelaisDuration
  split_ifs <;> rfl

/-- What is reported about each relay is the level of its pin. -/
def ReportsPins (d : State) : Prop :=
  ∀ c : Channel, getState c.number d = d.pins c.pin

/-- Switching an existing channel keeps reports and pins together. -/
theorem reportsPins_setRelais
    {d : State} (h : ReportsPins d) (pin : ULong) (p : Channel)
    (state : Bool) : ReportsPins (setRelais pin p.number8 state d) := by
  intro c
  rw [getState_number, setRelais_slot, setRelais_pins_of_channel]
  by_cases hc : p = c
  · subst hc
    simp [Slot.switched]
  · have hpin : c.pin ≠ p.pin := fun heq => hc (Channel.pin_injective heq.symm)
    rw [if_neg (by simpa using hc), Function.update_of_ne hpin]
    simpa using h c

theorem reportsPins_setRelaisDuration
    {d : State} (t : ℕ) (channel duration : CInt) :
    ReportsPins (setRelaisDuration t channel duration d) ↔
      ReportsPins d := by
  refine forall_congr' fun c => ?_
  rw [getState_number, getState_number, setRelaisDuration_slot,
    setRelaisDuration_pins]
  split_ifs <;> rfl

theorem reportsPins_handleRelais
    {d : State} (h : ReportsPins d) (t : ℕ) :
    ReportsPins (handleRelais t d) := by
  have hpoll : ∀ (p : Channel) (d : State),
      ReportsPins d → ReportsPins (pollChannel t p d) := by
    intro p d hd
    unfold pollChannel
    split_ifs
    · exact reportsPins_setRelais hd 0 p false
    · exact hd
  rw [handleRelais_eq]
  exact hpoll .two _ (hpoll .one d h)

/-- Switching a channel that does not exist keeps reports and pins together
exactly if the level is the state of every relay whose pin it drives. -/
theorem reportsPins_setRelais_iff_of_ne
    {d : State} (h : ReportsPins d) (pin : ULong) {relais : CInt8}
    (state : Bool) (hne : ∀ c : Channel, relais ≠ c.number8) :
    ReportsPins (setRelais pin relais state d) ↔
      ∀ c : Channel, pin.setWidth 8 = c.pin →
        state = getState c.number d := by
  refine forall_congr' fun c => ?_
  rw [getState_number, setRelais_slot, if_neg (hne c),
    setRelais_pins_of_ne pin state d hne, ← getState_number]
  by_cases hpin : pin.setWidth 8 = c.pin
  · rw [hpin]
    simp [eq_comm]
  · have hne : c.pin ≠ pin.setWidth 8 := fun heq => hpin heq.symm
    simp [Function.update_of_ne hne, hpin, h c]

end DeviceHandler

namespace Control

open DeviceHandler AutomationHandler WebHandler

/-- The event is a request on a channel that does not exist, carried out while
the low eight bits of the uninitialised variable are the pin of a relay, with a
level that this relay does not have. -/
def DrivesForeignPin (lib : ArduinoJson) (c : Control) (e : Event) : Prop :=
  ∃ files amb json next r, e = .api files amb json next ∧
    relaisRequest lib amb files json = some r ∧
    (∀ ch : Channel, r.channel.setWidth 8 ≠ ch.number8) ∧
    ∃ ch : Channel, amb.pin.setWidth 8 = ch.pin ∧
      r.state ≠ getState ch.number c.device

theorem reportsPins_passive
    {lib : ArduinoJson} {c : Control} {e : Event} (he : e.Passive)
    (h : ReportsPins c.device) : ReportsPins (step lib c e).device := by
  intro ch
  have hsame := sameOutputs_step_passive lib c he
  have hpin : ch.pin ≠ InternalConfig.ledPin := by
    cases ch <;> decide
  rw [getState_number, hsame.slot, hsame.pins ch.pin hpin, ← getState_number]
  exact h ch

theorem reportsPins_loop
    {c : Control} (h : ReportsPins c.device) (t : ℕ) :
    ReportsPins (loop t c).device := by
  refine loop_preserves (P := fun c => ReportsPins c.device)
    (fun _ _ hc => hc) ?_ ?_ t h
  · intro cond c hc
    exact reportsPins_setRelais hc 0 .one cond
  · intro cond c hc
    exact reportsPins_setRelais hc 0 .two cond

theorem reportsPins_apply_iff
    {d : DeviceHandler.State} (h : ReportsPins d) (amb : Ambient)
    (r : RelaisRequest) :
    ReportsPins (r.apply amb d) ↔
      ¬ ((∀ ch : Channel, r.channel.setWidth 8 ≠ ch.number8) ∧
        ∃ ch : Channel, amb.pin.setWidth 8 = ch.pin ∧
          r.state ≠ getState ch.number d) := by
  have hswitch : ReportsPins (r.apply amb d) ↔
      ReportsPins
        (setRelais amb.pin (r.channel.setWidth 8) r.state d) := by
    unfold RelaisRequest.apply
    cases r.duration with
    | none => exact Iff.rfl
    | some duration =>
        exact reportsPins_setRelaisDuration amb.uptime r.channel duration
  rw [hswitch]
  by_cases hne : ∀ ch : Channel, r.channel.setWidth 8 ≠ ch.number8
  · rw [reportsPins_setRelais_iff_of_ne h amb.pin r.state hne]
    constructor
    · rintro hpins ⟨-, ch, hpin, hstate⟩
      exact hstate (hpins ch hpin)
    · intro hnot ch hpin
      by_contra hstate
      exact hnot ⟨hne, ch, hpin, hstate⟩
  · refine iff_of_true ?_ fun hforeign => hne hforeign.1
    simp only [not_forall, not_not] at hne
    obtain ⟨ch, hch⟩ := hne
    rw [hch]
    exact reportsPins_setRelais h amb.pin ch r.state

/-- A step from a state that reports its pins ends in one exactly if it does
not drive the pin of a relay behind the relay's back. -/
theorem reportsPins_step_iff
    (lib : ArduinoJson) (c : Control) (e : Event)
    (h : ReportsPins c.device) :
    ReportsPins (step lib c e).device ↔ ¬ DrivesForeignPin lib c e := by
  rcases e.kinds with hpassive | ⟨files, amb, json, next, rfl⟩ | ⟨t, rfl⟩ |
    ⟨t, rfl⟩
  · refine iff_of_true (reportsPins_passive hpassive h) ?_
    rintro ⟨files, amb, json, next, r, rfl, -⟩
    exact hpassive
  · rcases step_api_cases lib c files amb json next with
      ⟨r, hrequest, heq⟩ | ⟨hrestarts, heq⟩ | ⟨hnone, -, heq⟩
    · rw [heq, reportsPins_apply_iff h]
      refine not_congr ⟨?_, ?_⟩
      · rintro ⟨hne, hpin⟩
        exact ⟨files, amb, json, next, r, rfl, hrequest, hne, hpin⟩
      · rintro ⟨_, _, _, _, r', ⟨⟩, hrequest', hne, hpin⟩
        obtain rfl : r = r' := Option.some.inj (hrequest.symm.trans hrequest')
        exact ⟨hne, hpin⟩
    · rw [heq]
      refine iff_of_true ?_ ?_
      · intro ch
        cases ch <;> rfl
      · rintro ⟨_, _, _, _, r, ⟨⟩, hrequest, -⟩
        exact not_restarts_of_relaisRequest hrequest hrestarts
    · rw [heq]
      refine iff_of_true h ?_
      rintro ⟨_, _, _, _, r, ⟨⟩, hrequest, -⟩
      exact absurd (hnone.symm.trans hrequest) (by simp)
  · refine iff_of_true (reportsPins_handleRelais h t) ?_
    rintro ⟨files, amb, json, next, r, heq, -⟩
    exact absurd heq (by simp)
  · refine iff_of_true (reportsPins_loop h t) ?_
    rintro ⟨files, amb, json, next, r, heq, -⟩
    exact absurd heq (by simp)

/-- In a run from boot, the reported states are the driven pins in every state
exactly if no request drives the pin of a relay behind the relay's back. -/
theorem reportsPins_throughout_iff
    (lib : ArduinoJson) (settings : Settings) (es : List Event) :
    Machine.Always (step lib) (fun c => ReportsPins c.device)
        (boot settings) es ↔
      Along lib (fun c e => ¬ DrivesForeignPin lib c e)
        (boot settings) es := by
  apply Machine.always_iff_along (reportsPins_step_iff lib)
  intro ch
  cases ch <;> rfl

/-- A request to switch on channel 5, which does not exist, handled while the
uninitialised variable holds 0, the pin of the first relay. -/
def switchOnChannelFive : Event :=
  .api FileHandler.emptyState (.plain 1500)
    (RelaisRequest.payload 5 true none) (.delivered 0)

/-- The request turns the first relay's pin on, and its state is reported as
off. -/
theorem not_reportsPins_after_switchOnChannelFive :
    ¬ Machine.Always (step .textless) (fun c => ReportsPins c.device)
      (boot (.delivered 0)) [switchOnChannelFive] := by
  intro h
  have hlast := h _ (List.prefix_refl _)
  exact absurd (hlast .one) (by decide)

end Control
end ByteWaterlevel
