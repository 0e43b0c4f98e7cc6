import ByteWaterlevel.Control.Latch
import ByteWaterlevel.MQTTHandler

/-!
# The published operation flags

`isFilling` and `isPumping` report the flags of the automation, while
`getState` reports the relays.  The automation keeps each flag in step with its
relay, but an API request and an expired timer switch a relay off behind its
back.  A run publishes truthful flags exactly if no step does this to a relay
whose flag is set.
-/

namespace ByteWaterlevel
namespace Control

open DeviceHandler AutomationHandler WebHandler MQTTHandler

/-- The flag of the automation that speaks about the channel. -/
def operationFlag (a : AutomationHandler.State) : Channel → Bool
  | .one => isFilling a
  | .two => isPumping a

/-- A set flag means that the relay of its channel is on. -/
def Truthful (c : Control) : Prop :=
  (isFilling c.auto = true → getState 1 c.device = true) ∧
    (isPumping c.auto = true → getState 2 c.device = true)

/-- An operation that a batch reports as running comes with the state of its
channel reported as on. -/
def BatchTruthful (batch : List Message) : Prop :=
  (publish "waterlevel/operation/fill" "1" ∈ batch →
      publish "waterlevel/channel/1/state" "1" ∈ batch) ∧
    (publish "waterlevel/operation/pump" "1" ∈ batch →
      publish "waterlevel/channel/2/state" "1" ∈ batch)

/-- The flags are truthful, and so is whatever a call of the MQTT loop
publishes in this state. -/
def PublishesTruthfully (lib : ArduinoJson)
    (decimals : ExtRat → ℕ → String) (c : Control) : Prop :=
  Truthful c ∧
    ∀ config t connected s,
      BatchTruthful (MQTTHandler.loop lib decimals config t connected c s).2

/-- A relay is switched off while its flag says that it is on. -/
def SwitchesOffFlagged (lib : ArduinoJson) (c : Control) (e : Event) : Prop :=
  ∃ ch, operationFlag c.auto ch = true ∧ SwitchesOff lib ch c e

theorem truthful_iff (c : Control) :
    Truthful c ↔
      ∀ ch, operationFlag c.auto ch = true →
        (c.device.slot ch).relay = true := by
  constructor
  · rintro ⟨hfill, hpump⟩ ch hflag
    cases ch with
    | one => exact hfill hflag
    | two => exact hpump hflag
  · intro h
    exact ⟨h .one, h .two⟩

/-! ## The automation keeps the flags truthful -/

theorem truthful_setFill
    {c : Control} (h : Truthful c) (cond : Bool) :
    Truthful (setFill cond c) := by
  rw [truthful_iff] at h ⊢
  intro ch hflag
  cases ch with
  | one => exact hflag
  | two => exact h .two hflag

theorem truthful_setPump
    {c : Control} (h : Truthful c) (cond : Bool) :
    Truthful (setPump cond c) := by
  rw [truthful_iff] at h ⊢
  intro ch hflag
  cases ch with
  | one => exact h .one hflag
  | two => exact hflag

theorem truthful_loop (t : ℕ) {c : Control} (h : Truthful c) :
    Truthful (AutomationHandler.loop t c) := by
  refine loop_preserves (P := Truthful) (fun _ _ hc => hc) ?_ ?_ t h
  · intro cond c hc
    exact truthful_setFill hc cond
  · intro cond c hc
    exact truthful_setPump hc cond

theorem truthful_boot (settings : Settings) : Truthful (boot settings) :=
  ⟨fun h => absurd h Bool.false_ne_true, fun h => absurd h Bool.false_ne_true⟩

/-! ## Steps and runs -/

/-- The relay of a channel after a request. -/
theorem relay_of_request
    {r : RelaisRequest} (amb : Ambient) (d : DeviceHandler.State)
    (ch : Channel) :
    ((r.apply amb d).slot ch).relay =
      if r.channel.setWidth 8 = ch.number8 then r.state
      else (d.slot ch).relay := by
  split_ifs with hch
  · rw [RelaisRequest.apply_slot_self amb d hch]
  · rw [RelaisRequest.apply_slot_of_ne amb d hch]

/-- A request keeps the flags truthful exactly if it switches no flagged
channel off. -/
theorem truthful_apply_iff
    {c : Control} (h : Truthful c) (amb : Ambient) (r : RelaisRequest) :
    Truthful { c with device := r.apply amb c.device } ↔
      ∀ ch, operationFlag c.auto ch = true →
        r.channel.setWidth 8 = ch.number8 → r.state = true := by
  have hrelay := (truthful_iff c).mp h
  rw [truthful_iff]
  refine forall_congr' fun ch => forall_congr' fun hflag => ?_
  rw [relay_of_request]
  by_cases hch : r.channel.setWidth 8 = ch.number8
  · simp [hch]
  · simp [hch, hrelay ch hflag]

/-- A poll keeps the flags truthful exactly if no flagged channel expires. -/
theorem truthful_poll_iff {c : Control} (h : Truthful c) (t : ℕ) :
    Truthful { c with device := handleRelais t c.device } ↔
      ∀ ch, operationFlag c.auto ch = true →
        ¬ Expired t (c.device.slot ch).timer := by
  have hrelay := (truthful_iff c).mp h
  rw [truthful_iff]
  refine forall_congr' fun ch => forall_congr' fun hflag => ?_
  rw [handleRelais_slot]
  by_cases hexpired : Expired t (c.device.slot ch).timer
  · simp [hexpired, Slot.switched]
  · simp [hexpired, hrelay ch hflag]

/-- A step from a truthful state ends in one exactly if it does not switch a
relay off while its flag is set. -/
theorem truthful_step_iff
    (lib : ArduinoJson) (c : Control) (e : Event) (h : Truthful c) :
    Truthful (step lib c e) ↔ ¬ SwitchesOffFlagged lib c e := by
  rcases e.kinds with hpassive | ⟨files, amb, json, next, rfl⟩ | ⟨t, rfl⟩ |
    ⟨t, rfl⟩
  · have hnot : ¬ SwitchesOffFlagged lib c e := by
      rintro ⟨ch, -, hoff⟩
      cases e <;> first | exact hoff | exact hpassive
    refine iff_of_true ?_ hnot
    rw [truthful_iff, step_passive_auto lib c hpassive]
    intro ch hflag
    rw [step_passive_slot lib c hpassive]
    exact (truthful_iff c).mp h ch hflag
  · rcases step_api_cases lib c files amb json next with
      ⟨r, hrequest, heq⟩ | ⟨hrestarts, heq⟩ | ⟨hnone, -, heq⟩
    · rw [heq, truthful_apply_iff h]
      simp only [SwitchesOffFlagged, SwitchesOff, hrequest, Option.some.injEq,
        exists_eq_left', not_exists, not_and, Bool.not_eq_false]
    · have hnot : ¬ SwitchesOffFlagged lib c (.api files amb json next) := by
        rintro ⟨ch, -, r, hrequest, -⟩
        exact not_restarts_of_relaisRequest hrequest hrestarts
      rw [heq]
      exact iff_of_true (truthful_boot next) hnot
    · have hnot : ¬ SwitchesOffFlagged lib c (.api files amb json next) := by
        rintro ⟨ch, -, r, hrequest, -⟩
        exact absurd (hnone.symm.trans hrequest) (by simp)
      rw [heq]
      exact iff_of_true h hnot
  · rw [step, truthful_poll_iff h]
    simp only [SwitchesOffFlagged, SwitchesOff, not_exists, not_and]
  · have hnot : ¬ SwitchesOffFlagged lib c (.automation t) := by
      rintro ⟨ch, -, hoff⟩
      exact hoff
    exact iff_of_true (truthful_loop t h) hnot

/-- What a batch says about the operations and the channels. -/
theorem mem_telemetry
    (decimals : ExtRat → ℕ → String) (t : ℕ) (c : Control) :
    (publish "waterlevel/operation/fill" "1" ∈ telemetry decimals t c ↔
        isFilling c.auto = true) ∧
      (publish "waterlevel/operation/pump" "1" ∈ telemetry decimals t c ↔
        isPumping c.auto = true) ∧
      (publish "waterlevel/channel/1/state" "1" ∈ telemetry decimals t c ↔
        getState 1 c.device = true) ∧
      (publish "waterlevel/channel/2/state" "1" ∈ telemetry decimals t c ↔
        getState 2 c.device = true) := by
  have hflag : ∀ b, "1" = flag b ↔ b = true := by decide
  simp [telemetry, publish, hflag]

theorem publishesTruthfully_iff
    (lib : ArduinoJson) (decimals : ExtRat → ℕ → String) (c : Control) :
    PublishesTruthfully lib decimals c ↔ Truthful c := by
  constructor
  · intro h
    exact h.1
  · intro h
    refine ⟨h, ?_⟩
    intro config t connected s
    have hbatch : BatchTruthful (telemetry decimals t c) := by
      obtain ⟨hfill, hpump, hone, htwo⟩ := mem_telemetry decimals t c
      rw [BatchTruthful, hfill, hpump, hone, htwo]
      exact h
    have hempty : BatchTruthful [] := by simp [BatchTruthful]
    unfold MQTTHandler.loop
    dsimp only
    split_ifs
    · exact hbatch
    · exact hempty
    · exact hempty
    · exact hempty
    · exact hempty

/-- In a run from boot, flags and batches are truthful in every state exactly
if no step switches a relay off while its flag is set. -/
theorem publishesTruthfully_throughout_iff
    (lib : ArduinoJson) (decimals : ExtRat → ℕ → String)
    (settings : Settings) (es : List Event) :
    Machine.Always (step lib) (PublishesTruthfully lib decimals)
        (boot settings) es ↔
      Along lib (fun c e => ¬ SwitchesOffFlagged lib c e)
        (boot settings) es := by
  apply Machine.always_iff_along
  · intro c e h
    rw [publishesTruthfully_iff] at h ⊢
    exact truthful_step_iff lib c e h
  · rw [publishesTruthfully_iff]
    exact truthful_boot settings

/-- The automation starts to fill at uptime 1000, and a manual command at
uptime 1500 switches the fill relay off.  From then on the batches report a
running fill on a channel that is off. -/
theorem not_publishesTruthfully_after_switchFillOff :
    ¬ Machine.Always (step .textless)
      (PublishesTruthfully .textless fun _ _ => "")
      (boot (.delivered 1)) [.automation 1000, switchFillOff] := by
  intro h
  have hlast := h _ (List.prefix_refl _)
  exact absurd (hlast.1.1 (by decide)) (by decide)

end Control
end ByteWaterlevel
