import ByteWaterlevel.Control.Origin
import ByteWaterlevel.Support.TimedSwitch

/-!
# The relays as timed switches

A channel is a timed switch: API requests, calls of the automation and restarts
set it, and the polls of its timer open it.  The device tells the time by its
counter and keeps a deadline as a counter value.  `switch_run` says that a
channel is exactly the timed switch on counter values, for all events at all
times.

On the true time, a deadline is the time of the request plus its duration.  In
the first period of the counter the two ways of telling the time agree, and the
device refines the ideal switch on the true time.
-/

namespace ByteWaterlevel
namespace Control

open DeviceHandler AutomationHandler WebHandler TimedSwitch

/-- How time is told: the time of a poll, and the deadline of a request at a
given uptime with a given duration. -/
structure Clock (τ : Type) where
  now : ℕ → τ
  deadline : ℕ → CInt → Option τ

/-- A stored deadline. -/
def decodeTimer (timer : ULong) : Option ULong :=
  if timer = noTimer then none else some timer

/-- The counter of the device. -/
def Clock.counter : Clock ULong where
  now := millis
  deadline := fun t duration => decodeTimer (millis t + duration * 1000)

/-- The true time. -/
def Clock.ideal : Clock ℤ where
  now := fun t => t
  deadline := fun t duration => some (t + 1000 * duration.toInt)

/-- The command that an API request is for a channel.  The switch is that of
the channel number as an `int8_t`, the deadline that of the full number. -/
def requestCommand {τ : Type} (clock : Clock τ) (ch : Channel) (uptime : ℕ)
    (r : RelaisRequest) : List (Command τ) :=
  if r.channel.setWidth 8 = ch.number8 then
    [.set r.state
      (if r.channel = ch.number then r.duration.bind (clock.deadline uptime)
        else none)]
  else []

/-- The commands that calls of `setRelais` are for a channel, the last call
first. -/
def callCommands {τ : Type} (ch : Channel) (calls : List RelaisLine) :
    List (Command τ) :=
  (calls.reverse.filter fun call => call.relais = ch.number8).map
    fun call => .set call.state none

/-- The commands that a step of the device is for a channel. -/
def commands {τ : Type} (clock : Clock τ) (lib : ArduinoJson) (ch : Channel)
    (c : Control) : Event → List (Command τ)
  | .api files amb json _ =>
      if Restarts lib amb files json then [.set false none]
      else
        match relaisRequest lib amb files json with
        | some r => requestCommand clock ch amb.uptime r
        | none => []
  | .poll t => [.poll (clock.now t)]
  | .automation t => callCommands ch (printed c.device (loop t c).device)
  | _ => []

/-- The commands of a run. -/
def commandTrace {τ : Type} (clock : Clock τ) (lib : ArduinoJson)
    (ch : Channel) (c : Control) (es : List Event) : List (Command τ) :=
  Machine.trace (step lib) (commands clock lib ch) c es

/-- A channel as a timed switch. -/
def switch (ch : Channel) (c : Control) : TimedSwitch.State ULong where
  on := (c.device.slot ch).relay
  deadline := decodeTimer (c.device.slot ch).timer

theorem switch_of_slot
    {c c' : Control} {ch : Channel}
    (h : c'.device.slot ch = c.device.slot ch) : switch ch c' = switch ch c := by
  simp only [switch, h]

theorem switch_boot (settings : Settings) (ch : Channel) :
    switch ch (boot settings) = off := by
  simp only [switch, boot_slot]
  rfl

/-- A poll finds a deadline reached on the counter as a switch does. -/
theorem reached_decodeTimer_iff (t : ℕ) (timer : ULong) :
    Reached (millis t) (decodeTimer timer) ↔ Expired t timer := by
  unfold decodeTimer
  split_ifs with hnone
  · simp [Reached, hnone]
  · simp [Reached, Expired, hnone]

/-- The calls of `setRelais` act on a channel as the commands that they are. -/
theorem switch_replay
    (ch : Channel) (calls : List RelaisLine) (c : Control) :
    switch ch { c with device := replay calls c.device } =
      Machine.run TimedSwitch.step (switch ch c) (callCommands ch calls) := by
  induction calls with
  | nil => rfl
  | cons call calls ih =>
      have hslot := setRelais_slot 0 call.relais call.state
        (replay calls c.device) ch
      have hcommands : (callCommands ch (call :: calls) :
          List (Command ULong)) =
          callCommands ch calls ++
            if call.relais = ch.number8 then [.set call.state none] else [] := by
        simp only [callCommands, List.reverse_cons, List.filter_append,
          List.map_append]
        split_ifs with hcall
        · simp [hcall]
        · simp [hcall]
      rw [hcommands, Machine.run_append, ← ih]
      simp only [switch, replay, List.foldr_cons] at hslot ⊢
      rw [hslot]
      split_ifs with hcall
      · rfl
      · rfl

theorem switch_request
    (ch : Channel) (amb : Ambient) (r : RelaisRequest) (c : Control) :
    switch ch { c with device := r.apply amb c.device } =
      Machine.run TimedSwitch.step (switch ch c)
        (requestCommand .counter ch amb.uptime r) := by
  unfold requestCommand
  split_ifs with hch hchannel
  · simp only [switch, RelaisRequest.apply_slot_self amb c.device hch,
      if_pos hchannel]
    cases r.duration with
    | none => rfl
    | some duration => rfl
  · simp only [switch, RelaisRequest.apply_slot_self amb c.device hch,
      if_neg hchannel]
    cases r.duration with
    | none => rfl
    | some duration => rfl
  · exact switch_of_slot (RelaisRequest.apply_slot_of_ne amb c.device hch)

/-- Every step acts on a channel as the commands that it is for the channel. -/
theorem switch_step
    (lib : ArduinoJson) (ch : Channel) (c : Control) (e : Event) :
    switch ch (step lib c e) =
      Machine.run TimedSwitch.step (switch ch c)
        (commands .counter lib ch c e) := by
  rcases e.kinds with hpassive | ⟨files, amb, json, next, rfl⟩ | ⟨t, rfl⟩ |
    ⟨t, rfl⟩
  · have hnone : (commands .counter lib ch c e) = [] := by
      cases e <;> first | exact hpassive.elim | rfl
    rw [hnone]
    exact switch_of_slot (step_passive_slot lib c hpassive ch)
  · rw [step_api, commands]
    by_cases hrestarts : Restarts lib amb files json
    · rw [if_pos hrestarts, if_pos hrestarts, switch_boot]
      rfl
    · rw [if_neg hrestarts, if_neg hrestarts]
      cases hrequest : relaisRequest lib amb files json with
      | none => rfl
      | some r => exact switch_request ch amb r c
  · have hslot := handleRelais_slot t c.device ch
    have hreached := reached_decodeTimer_iff t (c.device.slot ch).timer
    simp only [commands, Machine.run_cons, Machine.run_nil,
      TimedSwitch.step, switch, step, Clock.counter, hslot, hreached]
    split_ifs with hexpired
    · rfl
    · rfl
  · obtain ⟨calls, hcalls⟩ := loop_calls t c
    have hprinted : printed c.device (loop t c).device = calls := by
      rw [hcalls, printed_replay]
    rw [commands, hprinted, ← switch_replay]
    apply switch_of_slot
    rw [step, hcalls]

/-- A channel is the timed switch on counter values. -/
theorem switch_run
    (lib : ArduinoJson) (settings : Settings) (es : List Event)
    (ch : Channel) :
    switch ch (run lib (boot settings) es) =
      Machine.run TimedSwitch.step off
        (commandTrace .counter lib ch (boot settings) es) := by
  rw [← switch_boot settings ch]
  exact Machine.run_projection (switch_step lib ch) (boot settings) es

/-- After any run from boot, a relay is on exactly if the last command for its
channel has switched it on and no poll since then has found the counter at or
past the deadline that the command stored. -/
theorem relay_on_iff_last_command
    (lib : ArduinoJson) (settings : Settings) (es : List Event)
    (ch : Channel) :
    ((run lib (boot settings) es).device.slot ch).relay = true ↔
      ∃ deadline pre post,
        commandTrace .counter lib ch (boot settings) es =
          pre ++ .set true deadline :: post ∧
        ∀ command ∈ post, ∃ now, command = .poll now ∧
          ¬ Reached now deadline := by
  change (switch ch (run lib (boot settings) es)).on = true ↔ _
  rw [switch_run, run_on_iff]
  rfl

/-! ## The true time -/

/-- The event lies in the first period of the counter: a poll comes before its
end, and a request with a duration has its deadline before the value that
stands for no timer. -/
def InPeriod (lib : ArduinoJson) : Event → Prop
  | .poll t => t < 2 ^ 32
  | .api files amb json _ =>
      ∀ r ∈ relaisRequest lib amb files json, ∀ duration ∈ r.duration,
        0 ≤ (amb.uptime : ℤ) + 1000 * duration.toInt ∧
          (amb.uptime : ℤ) + 1000 * duration.toInt < 2 ^ 32 - 1
  | _ => True

/-- The counter value is the given time. -/
def Shows (word : ULong) (time : ℤ) : Prop := (word.toNat : ℤ) = time

theorem shows_le_iff
    (d : ULong) (d' : ℤ) (now : ULong) (now' : ℤ) (hd : Shows d d')
    (hnow : Shows now now') :
    d ≤ now ↔ d' ≤ now' := by
  rw [BitVec.le_def, ← hd, ← hnow]
  exact Nat.cast_le.symm

theorem shows_millis {t : ℕ} (h : t < 2 ^ 32) : Shows (millis t) t := by
  rw [Shows, toNat_millis, Nat.mod_eq_of_lt h]

/-- In the first period the stored deadline shows the true one. -/
theorem shows_deadline
    {t : ℕ} {duration : CInt} (hlow : 0 ≤ (t : ℤ) + 1000 * duration.toInt)
    (hhigh : (t : ℤ) + 1000 * duration.toInt < 2 ^ 32 - 1) :
    Option.Rel Shows (Clock.counter.deadline t duration)
      (Clock.ideal.deadline t duration) := by
  have hword : ((millis t + duration * 1000).toNat : ℤ) =
      (t : ℤ) + 1000 * duration.toInt := by
    rw [toNat_deadline]
    exact Int.emod_eq_of_lt hlow (by omega)
  have hne : millis t + duration * 1000 ≠ noTimer := by
    intro heq
    rw [heq] at hword
    have hnone : noTimer.toNat = 2 ^ 32 - 1 := by decide
    omega
  rw [show Clock.counter.deadline t duration =
      some (millis t + duration * 1000) from if_neg hne]
  exact .some hword

theorem requestCommand_related
    (ch : Channel) {uptime : ℕ} {r : RelaisRequest}
    (h : ∀ duration ∈ r.duration,
      0 ≤ (uptime : ℤ) + 1000 * duration.toInt ∧
        (uptime : ℤ) + 1000 * duration.toInt < 2 ^ 32 - 1) :
    List.Forall₂ (Command.Related Shows Shows)
      (requestCommand .counter ch uptime r)
      (requestCommand .ideal ch uptime r) := by
  unfold requestCommand
  split_ifs
  · refine .cons ⟨rfl, ?_⟩ .nil
    cases hduration : r.duration with
    | none => exact .none
    | some duration =>
        obtain ⟨hlow, hhigh⟩ := h duration hduration
        exact shows_deadline hlow hhigh
  · exact .cons ⟨rfl, .none⟩ .nil
  · exact .nil

theorem callCommands_related (ch : Channel) (calls : List RelaisLine) :
    List.Forall₂ (Command.Related Shows Shows) (callCommands ch calls)
      (callCommands ch calls) := by
  unfold callCommands
  rw [List.forall₂_map_left_iff, List.forall₂_map_right_iff]
  exact List.forall₂_same.mpr fun _ _ => ⟨rfl, .none⟩

theorem commands_related
    {lib : ArduinoJson} (ch : Channel) (c : Control) {e : Event}
    (h : InPeriod lib e) :
    List.Forall₂ (Command.Related Shows Shows)
      (commands .counter lib ch c e) (commands .ideal lib ch c e) := by
  cases e with
  | api files amb json next =>
      simp only [commands]
      split_ifs
      · exact .cons ⟨rfl, .none⟩ .nil
      · cases hrequest : relaisRequest lib amb files json with
        | none => exact .nil
        | some r => exact requestCommand_related ch (h r hrequest)
  | poll t => exact .cons (shows_millis h) .nil
  | automation t => exact callCommands_related ch _
  | scan t r => exact .nil
  | adc voltage tasks => exact .nil
  | blink t => exact .nil
  | display t => exact .nil

/-- In the first period of the counter the relays and timers of the device are
in every run those of the ideal switches on the true time. -/
theorem switches_refine_ideal
    (lib : ArduinoJson) (settings : Settings) (es : List Event)
    (ch : Channel) (hes : ∀ e ∈ es, InPeriod lib e) :
    (switch ch (run lib (boot settings) es)).Related Shows
      (Machine.run TimedSwitch.step off
        (commandTrace .ideal lib ch (boot settings) es)) := by
  have hoff : (off : TimedSwitch.State ULong).Related Shows off :=
    ⟨rfl, .none⟩
  rw [switch_run]
  refine run_related shows_le_iff hoff (Machine.trace_rel ?_)
  exact Machine.along_of_forall_mem fun c e he =>
    commands_related ch c (hes e he)

theorem inPeriod_switchOnForMinute :
    ∀ e ∈ [switchOnForMinute 1000, .poll 30000] ++ [.poll 61000],
      InPeriod .textless e := by
  intro e he
  simp only [List.cons_append, List.nil_append, List.mem_cons,
    List.not_mem_nil, or_false] at he
  rcases he with rfl | rfl | rfl
  · rintro r hr duration hduration
    obtain rfl : (⟨1, true, some 60⟩ : RelaisRequest) = r := Option.some.inj hr
    obtain rfl : (60 : CInt) = duration := Option.some.inj hduration
    decide
  · exact (by decide : 30000 < 2 ^ 32)
  · exact (by decide : 61000 < 2 ^ 32)

/-- A minute from the first second: the ideal switch is on with its deadline
at half a minute, and so is the device; at the deadline both are off. -/
theorem switches_refine_ideal_for_a_minute :
    (switch .one (run .textless (boot (.delivered 0))
        [switchOnForMinute 1000, .poll 30000])).Related Shows
        ⟨true, some 61000⟩ ∧
      (switch .one (run .textless (boot (.delivered 0))
        [switchOnForMinute 1000, .poll 30000, .poll 61000])).Related Shows
        off := by
  constructor
  · exact switches_refine_ideal .textless (.delivered 0)
      [switchOnForMinute 1000, .poll 30000] .one
      (fun e he => inPeriod_switchOnForMinute e
        (List.mem_append_left _ he))
  · exact switches_refine_ideal .textless (.delivered 0)
      [switchOnForMinute 1000, .poll 30000, .poll 61000] .one
      inPeriod_switchOnForMinute

end Control
end ByteWaterlevel
