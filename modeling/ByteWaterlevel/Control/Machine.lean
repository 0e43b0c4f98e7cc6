import ByteWaterlevel.AutomationHandler
import ByteWaterlevel.Request
import ByteWaterlevel.Support.Machine

/-!
# The relay control as an event machine

Relays, timers and automation are driven by handlers that run to completion
one after the other in any order: API requests, polls of the timers, scans of
the sensors, completions of ADC tasks and calls of the automation loop.  This
module turns them into the events of one machine on `Control`.

What the sensors deliver is left open.  A scan stores arbitrary readings and an
ADC task leaves an arbitrary voltage behind, so that the results on this
machine hold for every plant and every calibration.  In the same way an API
request comes with an arbitrary state of the files.  A request that restarts
the device leads to the boot state of arbitrary settings.
-/

namespace ByteWaterlevel
namespace Control

open DeviceHandler AutomationHandler WebHandler

/-- What the setup functions read out of the configuration. -/
structure Settings where
  systemLed : Bool
  maxV : ExtRat
  minV : ExtRat
  tankVolume : ExtRat
  displayEnabled : Bool
  mode : CInt
  maxL : ExtRat
  minL : ExtRat
  fillL : ExtRat

/-- The values of the delivered configuration, with the automation in the
given mode. -/
def Settings.delivered (mode : CInt) : Settings where
  systemLed := true
  maxV := .fin (12 / 5)
  minV := .fin 0
  tankVolume := .fin 1000
  displayEnabled := false
  mode := mode
  maxL := .fin 80
  minL := .fin 10
  fillL := .fin 20

/-- The state in which the main loop starts. -/
def boot (settings : Settings) : Control where
  device :=
    { DeviceHandler.initialState with
      systemLed := settings.systemLed
      maxV := settings.maxV
      minV := settings.minV
      tankVolume := settings.tankVolume
      displayEnabled := settings.displayEnabled }
  auto :=
    { AutomationHandler.initialState with
      mode := settings.mode
      maxL := settings.maxL
      minL := settings.minL
      fillL := settings.fillL }

/-- `handleScan` with arbitrary readings. -/
def scanWith (t : ℕ) (r : Readings) (d : DeviceHandler.State) :
    DeviceHandler.State :=
  if millis t - d.scanMillis ≥ InternalConfig.scanInterval then
    cacheReadings r
      { d with scanMillis := millis t, adcTasks := d.adcTasks + 1 }
  else d

/-- Readings with the given level of a tank of 1000 litres. -/
def readingsAt (level : ℚ) : Readings where
  current := .fin 0
  temperature := .fin 20
  level := .fin level
  volume := .fin (10 * level)

inductive Event where
  | api (files : FileHandler.State) (amb : Ambient) (json : Json)
      (next : Settings)
  | poll (t : ℕ)
  | scan (t : ℕ) (r : Readings)
  | adc (voltage : ExtRat) (adcTasks : ℕ)
  | blink (t : ℕ)
  | display (t : ℕ)
  | automation (t : ℕ)

def step (lib : ArduinoJson) (c : Control) : Event → Control
  | .api files amb json next =>
      let w := apiRoute lib amb json
        { device := c.device, files := files, responses := [], action := none }
      if w.action = some .restart then boot next
      else { c with device := w.device }
  | .poll t => { c with device := handleRelais t c.device }
  | .scan t r => { c with device := scanWith t r c.device }
  | .adc voltage adcTasks =>
      { c with
        device :=
          { c.device with latestVoltage := voltage, adcTasks := adcTasks } }
  | .blink t => { c with device := handleBlink t c.device }
  | .display t => { c with device := handleDisplay t c.device }
  | .automation t => AutomationHandler.loop t c

abbrev run (lib : ArduinoJson) := Machine.run (step lib)

abbrev Along (lib : ArduinoJson) := Machine.Along (step lib)

/-- An API request either restarts the device or carries out its relay
request, if it has one. -/
theorem step_api
    (lib : ArduinoJson) (c : Control) (files : FileHandler.State)
    (amb : Ambient) (json : Json) (next : Settings) :
    step lib c (.api files amb json next) =
      if Restarts lib amb files json then boot next
      else
        { c with
          device := applyRequest amb (relaisRequest lib amb files json)
            c.device } := by
  have hrestart := apiRoute_action_restart_iff lib amb json
    (w := { device := c.device, files := files, responses := [],
            action := none }) rfl
  have hdevice := apiRoute_device lib amb json
    { device := c.device, files := files, responses := [], action := none }
  simp only [step, hrestart, hdevice]

theorem step_api_of_request
    {lib : ArduinoJson} (c : Control) {files : FileHandler.State}
    {amb : Ambient} {json : Json} (next : Settings) {r : RelaisRequest}
    (h : relaisRequest lib amb files json = some r) :
    step lib c (.api files amb json next) =
      { c with device := r.apply amb c.device } := by
  rw [step_api, if_neg (not_restarts_of_relaisRequest h), h]
  rfl

/-- The three outcomes of an API request. -/
theorem step_api_cases
    (lib : ArduinoJson) (c : Control) (files : FileHandler.State)
    (amb : Ambient) (json : Json) (next : Settings) :
    (∃ r, relaisRequest lib amb files json = some r ∧
        step lib c (.api files amb json next) =
          { c with device := r.apply amb c.device }) ∨
      (Restarts lib amb files json ∧
        step lib c (.api files amb json next) = boot next) ∨
      (relaisRequest lib amb files json = none ∧
        ¬ Restarts lib amb files json ∧
        step lib c (.api files amb json next) = c) := by
  cases hrequest : relaisRequest lib amb files json with
  | some r =>
      left
      exact ⟨r, rfl, step_api_of_request c next hrequest⟩
  | none =>
      right
      by_cases hrestarts : Restarts lib amb files json
      · left
        exact ⟨hrestarts, by rw [step_api, if_pos hrestarts]⟩
      · right
        refine ⟨rfl, hrestarts, ?_⟩
        rw [step_api, if_neg hrestarts, hrequest]
        rfl

/-! ## Steps that switch no relay -/

/-- The events that neither switch a relay nor touch a timer. -/
def Event.Passive : Event → Prop
  | .scan _ _ | .adc _ _ | .blink _ | .display _ => True
  | _ => False

/-- Every event is passive, an API request, a poll or a call of the
automation loop. -/
theorem Event.kinds (e : Event) :
    e.Passive ∨ (∃ files amb json next, e = .api files amb json next) ∨
      (∃ t, e = .poll t) ∨ ∃ t, e = .automation t := by
  cases e with
  | api files amb json next => exact Or.inr (Or.inl ⟨files, amb, json, next, rfl⟩)
  | poll t => exact Or.inr (Or.inr (Or.inl ⟨t, rfl⟩))
  | automation t => exact Or.inr (Or.inr (Or.inr ⟨t, rfl⟩))
  | scan t r => exact Or.inl trivial
  | adc voltage adcTasks => exact Or.inl trivial
  | blink t => exact Or.inl trivial
  | display t => exact Or.inl trivial

/-- The devices agree on the slots, on the serial output and on all pins but
that of the LED. -/
structure SameOutputs (d d' : DeviceHandler.State) : Prop where
  slot : ∀ ch, d'.slot ch = d.slot ch
  serial : d'.serial = d.serial
  pins : ∀ pin, pin ≠ InternalConfig.ledPin → d'.pins pin = d.pins pin

theorem sameOutputs_refl (d : DeviceHandler.State) : SameOutputs d d :=
  ⟨fun _ => rfl, rfl, fun _ _ => rfl⟩

theorem sameOutputs_scanWith
    (t : ℕ) (r : Readings) (d : DeviceHandler.State) :
    SameOutputs d (scanWith t r d) := by
  unfold scanWith
  split_ifs
  · exact ⟨fun ch => by cases ch <;> rfl, rfl, fun _ _ => rfl⟩
  · exact sameOutputs_refl d

theorem sameOutputs_handleDisplay (t : ℕ) (d : DeviceHandler.State) :
    SameOutputs d (handleDisplay t d) := by
  unfold handleDisplay
  dsimp only
  split_ifs
  · exact ⟨fun ch => by cases ch <;> rfl, rfl, fun _ _ => rfl⟩
  · exact sameOutputs_refl d
  · exact sameOutputs_refl d

theorem sameOutputs_handleBlink (t : ℕ) (d : DeviceHandler.State) :
    SameOutputs d (handleBlink t d) := by
  unfold handleBlink
  dsimp only
  split_ifs
  · exact ⟨fun ch => by cases ch <;> rfl, rfl,
      fun _ hpin => Function.update_of_ne hpin _ _⟩
  · exact sameOutputs_refl d

/-- A passive event changes no output but the LED. -/
theorem sameOutputs_step_passive
    (lib : ArduinoJson) (c : Control) {e : Event} (he : e.Passive) :
    SameOutputs c.device (step lib c e).device := by
  cases e with
  | api files amb json next => exact he.elim
  | poll t => exact he.elim
  | automation t => exact he.elim
  | adc voltage tasks =>
      exact ⟨fun ch => by cases ch <;> rfl, rfl, fun _ _ => rfl⟩
  | scan t r => exact sameOutputs_scanWith t r c.device
  | blink t => exact sameOutputs_handleBlink t c.device
  | display t => exact sameOutputs_handleDisplay t c.device

theorem step_passive_slot
    (lib : ArduinoJson) (c : Control) {e : Event} (he : e.Passive)
    (ch : Channel) : (step lib c e).device.slot ch = c.device.slot ch :=
  (sameOutputs_step_passive lib c he).slot ch

theorem step_passive_auto
    (lib : ArduinoJson) (c : Control) {e : Event} (he : e.Passive) :
    (step lib c e).auto = c.auto := by
  cases e <;> first | exact he.elim | rfl

@[simp] theorem boot_slot (settings : Settings) (ch : Channel) :
    (boot settings).device.slot ch = .switched false := by
  cases ch <;> rfl

/-! ## Steps of the automation -/

/-- The device after the given calls of `setRelais`, the last one first. -/
def replay (calls : List RelaisLine) (d : DeviceHandler.State) :
    DeviceHandler.State :=
  calls.foldr (fun call d => setRelais 0 call.relais call.state d) d

@[simp] theorem replay_serial
    (calls : List RelaisLine) (d : DeviceHandler.State) :
    (replay calls d).serial = calls ++ d.serial := by
  induction calls with
  | nil => rfl
  | cons call calls ih =>
      rw [replay, List.foldr_cons, setRelais_serial, ← replay, ih]
      rfl

theorem replay_slot_of_forall_ne
    {calls : List RelaisLine} (d : DeviceHandler.State) {ch : Channel}
    (h : ∀ call ∈ calls, call.relais ≠ ch.number8) :
    (replay calls d).slot ch = d.slot ch := by
  induction calls with
  | nil => rfl
  | cons call calls ih =>
      rw [replay, List.foldr_cons, setRelais_slot,
        if_neg (h call List.mem_cons_self), ← replay]
      exact ih fun other hother => h other (List.mem_cons_of_mem call hother)

theorem replay_of_away
    {α : Type*} {v : DeviceHandler.State → α} (h : AwayFromRelays v)
    (calls : List RelaisLine) (d : DeviceHandler.State) :
    v (replay calls d) = v d := by
  induction calls with
  | nil => rfl
  | cons call calls ih =>
      rw [replay, List.foldr_cons, h.setRelais, ← replay, ih]

theorem handleFill_calls (c : Control) :
    ∃ calls, (handleFill c).device = replay calls c.device := by
  unfold handleFill
  split_ifs
  · exact ⟨[⟨InternalConfig.pumpFill, true⟩], rfl⟩
  · exact ⟨[], rfl⟩
  · exact ⟨[⟨InternalConfig.pumpFill, false⟩], rfl⟩

theorem handlePump_calls (c : Control) :
    ∃ state, (handlePump c).device =
      replay [⟨InternalConfig.pumpEmpty, state⟩] c.device := by
  unfold handlePump
  split_ifs
  · exact ⟨true, rfl⟩
  · exact ⟨false, rfl⟩

/-- Whatever the mode, the automation acts on the device by calls of
`setRelais` and in no other way. -/
theorem loop_calls (t : ℕ) (c : Control) :
    ∃ calls, (loop t c).device = replay calls c.device := by
  unfold loop tick
  split_ifs
  · obtain ⟨fill, hfill⟩ := handleFill_calls
      { c with auto := { c.auto with autoMillis := millis t } }
    obtain ⟨state, hpump⟩ := handlePump_calls (handleFill
      { c with auto := { c.auto with autoMillis := millis t } })
    refine ⟨⟨InternalConfig.pumpEmpty, state⟩ :: fill, ?_⟩
    rw [hpump, hfill]
    rfl
  · exact handleFill_calls _
  · exact ⟨[⟨InternalConfig.pumpFill, false⟩,
      ⟨InternalConfig.pumpEmpty, false⟩], rfl⟩
  · exact ⟨[], rfl⟩
  · exact ⟨[], rfl⟩

theorem loop_of_away
    {α : Type*} {v : DeviceHandler.State → α} (h : AwayFromRelays v)
    (t : ℕ) (c : Control) : v (loop t c).device = v c.device := by
  obtain ⟨calls, hcalls⟩ := loop_calls t c
  rw [hcalls, replay_of_away h]

/-- The lines that a step from `d` to `d'` has printed: one for each call of
`setRelais`, the last one first. -/
def printed (d d' : DeviceHandler.State) : List RelaisLine :=
  d'.serial.take (d'.serial.length - d.serial.length)

@[simp] theorem printed_replay
    (calls : List RelaisLine) (d : DeviceHandler.State) :
    printed d (replay calls d) = calls := by
  simp [printed]

@[simp] theorem printed_self (d : DeviceHandler.State) :
    printed d d = [] :=
  printed_replay [] d

/-- An automation step that prints nothing for a channel leaves its slot
alone. -/
theorem loop_slot_of_not_printed
    {t : ℕ} {c : Control} {ch : Channel}
    (h : ∀ line ∈ printed c.device (loop t c).device,
      line.relais ≠ ch.number8) :
    (loop t c).device.slot ch = c.device.slot ch := by
  obtain ⟨calls, hcalls⟩ := loop_calls t c
  rw [hcalls, printed_replay] at h
  rw [hcalls]
  exact replay_slot_of_forall_ne c.device h

end Control
end ByteWaterlevel
