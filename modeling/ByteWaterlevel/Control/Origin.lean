import ByteWaterlevel.Control.Timer

/-!
# Where an armed timer comes from

Every call of `setRelais` prints a line, so the lines printed by a step show
which channels it has called.  A call cancels the timer of its channel, and
only the API request that made the call can arm it again.  An armed timer is
therefore never older than the last call on its channel: whatever a poll
switches off was asked for by the very request whose deadline it is.
-/

namespace ByteWaterlevel
namespace Control

open DeviceHandler AutomationHandler WebHandler

/-- The step calls `setRelais` on the channel. -/
def CallsOn (lib : ArduinoJson) (ch : Channel) (c : Control) (e : Event) :
    Prop :=
  ∃ line ∈ printed c.device (step lib c e).device, line.relais = ch.number8

/-- The event is a request at uptime `t₀` that switches the channel to `state`
and arms its timer for `d` seconds. -/
def Arms (lib : ArduinoJson) (ch : Channel) (state : Bool) (t₀ : ℕ)
    (d : CInt) (e : Event) : Prop :=
  ∃ files amb json next, e = .api files amb json next ∧ amb.uptime = t₀ ∧
    relaisRequest lib amb files json = some ⟨ch.number, state, some d⟩

/-- The timer of the channel after the events `es` is the deadline of one of
these events.  This request has asked for the state that the relay still has,
and it has made the last call of `setRelais` on the channel. -/
def ArmedByLastCall (lib : ArduinoJson) (ch : Channel) (c : Control)
    (es : List Event) : Prop :=
  ∃ pre e post t₀ d, es = pre ++ e :: post ∧
    Arms lib ch ((run lib c es).device.slot ch).relay t₀ d e ∧
    ((run lib c es).device.slot ch).timer = millis t₀ + d * 1000 ∧
    CallsOn lib ch (run lib c pre) e ∧
    Along lib (fun c e => ¬ CallsOn lib ch c e) (run lib c (pre ++ [e])) post

/-! ## The calls of a step -/

theorem printed_of_serial
    {d d' : DeviceHandler.State} {lines : List RelaisLine}
    (h : d'.serial = lines ++ d.serial) : printed d d' = lines := by
  simp [printed, h]

theorem printed_apply
    (amb : Ambient) (r : RelaisRequest) (d : DeviceHandler.State) :
    printed d (r.apply amb d) = [⟨r.channel.setWidth 8, r.state⟩] :=
  printed_of_serial (RelaisRequest.apply_serial amb r d)

/-- A call on a channel cancels its timer. -/
theorem replay_timer_of_mem
    {calls : List RelaisLine} (d : DeviceHandler.State) {ch : Channel}
    (h : ∃ line ∈ calls, line.relais = ch.number8) :
    ((replay calls d).slot ch).timer = noTimer := by
  induction calls with
  | nil =>
      obtain ⟨line, hline, -⟩ := h
      exact absurd hline List.not_mem_nil
  | cons call calls ih =>
      rw [replay, List.foldr_cons, setRelais_slot, ← replay]
      split_ifs with hcall
      · rfl
      · obtain ⟨line, hline, hch⟩ := h
        rcases List.mem_cons.mp hline with rfl | hmem
        · exact absurd hch hcall
        · exact ih ⟨line, hmem, hch⟩

/-- The poll of a channel as calls of `setRelais`. -/
def pollCalls (t : ℕ) (c : Channel) (d : DeviceHandler.State) :
    List RelaisLine :=
  if Expired t (d.slot c).timer then [⟨c.number8, false⟩] else []

theorem pollChannel_eq_replay
    (t : ℕ) (c : Channel) (d : DeviceHandler.State) :
    pollChannel t c d = replay (pollCalls t c d) d := by
  unfold pollChannel pollCalls
  split_ifs <;> rfl

theorem printed_handleRelais (t : ℕ) (d : DeviceHandler.State) :
    printed d (handleRelais t d) = pollCalls t .two d ++ pollCalls t .one d := by
  have htwo : pollCalls t .two (pollChannel t .one d) = pollCalls t .two d := by
    rw [pollCalls, pollChannel_slot_of_ne t d (by decide), pollCalls]
  apply printed_of_serial
  rw [handleRelais_eq, pollChannel_eq_replay, htwo, replay_serial,
    pollChannel_eq_replay, replay_serial, List.append_assoc]

/-- A poll calls `setRelais` on a channel exactly if it finds the deadline of
the channel reached. -/
theorem callsOn_poll_iff
    (lib : ArduinoJson) (ch : Channel) (c : Control) (t : ℕ) :
    CallsOn lib ch c (.poll t) ↔ Expired t (c.device.slot ch).timer := by
  have hmem : ∀ p : Channel,
      (∃ line ∈ pollCalls t p c.device, line.relais = ch.number8) ↔
        p = ch ∧ Expired t (c.device.slot p).timer := by
    intro p
    unfold pollCalls
    split_ifs with hexpired
    · simp [hexpired]
    · simp [hexpired]
  simp only [CallsOn, step, printed_handleRelais, List.mem_append, or_and_right,
    exists_or, hmem]
  cases ch <;> simp

theorem not_callsOn_passive
    {lib : ArduinoJson} {ch : Channel} {c : Control} {e : Event}
    (he : e.Passive) : ¬ CallsOn lib ch c e := by
  have hnone : printed c.device (step lib c e).device = [] :=
    printed_of_serial (sameOutputs_step_passive lib c he).serial
  rintro ⟨line, hline, -⟩
  rw [hnone] at hline
  exact absurd hline List.not_mem_nil

/-! ## The origin of a timer -/

/-- A request that leaves the timer of its channel armed has armed it. -/
theorem arms_of_timer
    {lib : ArduinoJson} {ch : Channel} {c : Control}
    {files : FileHandler.State} {amb : Ambient} {json : Json}
    {next : Settings} {r : RelaisRequest}
    (hrequest : relaisRequest lib amb files json = some r)
    (hch : r.channel.setWidth 8 = ch.number8)
    (h : ((r.apply amb c.device).slot ch).timer ≠ noTimer) :
    ∃ d, Arms lib ch ((r.apply amb c.device).slot ch).relay amb.uptime d
        (.api files amb json next) ∧
      ((r.apply amb c.device).slot ch).timer =
        millis amb.uptime + d * 1000 := by
  obtain ⟨channel, state, duration⟩ := r
  rw [RelaisRequest.apply_slot_self amb c.device hch] at h ⊢
  cases duration with
  | none => exact absurd rfl h
  | some d =>
      by_cases hchannel : channel = ch.number
      · subst hchannel
        exact ⟨d, ⟨files, amb, json, next, rfl, rfl, hrequest⟩,
          if_pos rfl⟩
      · exact absurd (if_neg hchannel) h

/-- The step is the request that has armed the timer of the channel. -/
def ArmsBy (lib : ArduinoJson) (ch : Channel) (c : Control) (e : Event) :
    Prop :=
  CallsOn lib ch c e ∧
    ∃ t₀ d, Arms lib ch ((step lib c e).device.slot ch).relay t₀ d e ∧
      ((step lib c e).device.slot ch).timer = millis t₀ + d * 1000

/-- The step has left the channel alone. -/
def LeavesAlone (lib : ArduinoJson) (ch : Channel) (c : Control) (e : Event) :
    Prop :=
  (step lib c e).device.slot ch = c.device.slot ch ∧ ¬ CallsOn lib ch c e

theorem timer_origin_of_request
    {lib : ArduinoJson} {ch : Channel} {c : Control}
    {files : FileHandler.State} {amb : Ambient} {json : Json}
    {next : Settings} {r : RelaisRequest}
    (hrequest : relaisRequest lib amb files json = some r)
    (h : ((step lib c (.api files amb json next)).device.slot ch).timer ≠
      noTimer) :
    ArmsBy lib ch c (.api files amb json next) ∨
      LeavesAlone lib ch c (.api files amb json next) := by
  have heq := step_api_of_request c next hrequest
  rw [heq] at h
  by_cases hch : r.channel.setWidth 8 = ch.number8
  · left
    rw [ArmsBy, CallsOn, heq, printed_apply]
    obtain ⟨d, harms, htimer⟩ := arms_of_timer hrequest hch h
    exact ⟨⟨_, List.mem_singleton_self _, hch⟩, amb.uptime, d, harms, htimer⟩
  · right
    rw [LeavesAlone, CallsOn, heq, printed_apply]
    refine ⟨RelaisRequest.apply_slot_of_ne amb c.device hch, ?_⟩
    rintro ⟨line, hline, hrelais⟩
    rw [List.mem_singleton.mp hline] at hrelais
    exact hch hrelais

/-- After a step that leaves the timer of a channel armed, either the step is
the request that has armed it, or the step has left the channel alone. -/
theorem step_timer_origin
    (lib : ArduinoJson) (ch : Channel) (c : Control) (e : Event)
    (h : ((step lib c e).device.slot ch).timer ≠ noTimer) :
    ArmsBy lib ch c e ∨ LeavesAlone lib ch c e := by
  rcases e.kinds with hpassive | ⟨files, amb, json, next, rfl⟩ | ⟨t, rfl⟩ |
    ⟨t, rfl⟩
  · right
    exact ⟨step_passive_slot lib c hpassive ch, not_callsOn_passive hpassive⟩
  · rcases step_api_cases lib c files amb json next with
      ⟨r, hrequest, -⟩ | ⟨-, heq⟩ | ⟨-, -, heq⟩
    · exact timer_origin_of_request hrequest h
    · rw [heq, boot_slot] at h
      exact absurd rfl h
    · right
      rw [LeavesAlone, CallsOn, heq, printed_self]
      exact ⟨rfl, by simp⟩
  · right
    rw [LeavesAlone, callsOn_poll_iff]
    simp only [step, handleRelais_slot] at h ⊢
    split_ifs at h ⊢ with hexpired
    · exact absurd rfl h
    · exact ⟨rfl, hexpired⟩
  · right
    obtain ⟨calls, hcalls⟩ := loop_calls t c
    have hnot : ¬ CallsOn lib ch c (.automation t) := by
      intro hcallsOn
      simp only [CallsOn, step, hcalls, printed_replay] at hcallsOn
      simp only [step, hcalls] at h
      exact h (replay_timer_of_mem c.device hcallsOn)
    refine ⟨loop_slot_of_not_printed ?_, hnot⟩
    intro line hline hrelais
    exact hnot ⟨line, hline, hrelais⟩

/-- In every state reachable from boot, an armed timer was armed by the request
that made the last call on its channel, and the relay has the state which that
request asked for.  In particular this holds whenever a poll switches a channel
off. -/
theorem armed_by_last_call
    (lib : ArduinoJson) (settings : Settings) (es : List Event)
    (ch : Channel) :
    (((run lib (boot settings) es).device.slot ch).timer ≠ noTimer →
        ArmedByLastCall lib ch (boot settings) es) ∧
      ∀ t, CallsOn lib ch (run lib (boot settings) es) (.poll t) →
        ArmedByLastCall lib ch (boot settings) es ∧
          Expired t ((run lib (boot settings) es).device.slot ch).timer ∧
          (step lib (run lib (boot settings) es) (.poll t)).device.slot ch =
            .switched false := by
  have harmed :
      ((run lib (boot settings) es).device.slot ch).timer ≠ noTimer →
        ArmedByLastCall lib ch (boot settings) es := by
    intro h
    have hboot :
        ¬ ((boot settings).device.slot ch).timer ≠ noTimer := by
      rw [boot_slot]
      exact fun hne => hne rfl
    obtain ⟨pre, e, post, hes, ⟨hcalls, t₀, d, harms, htimer⟩, hsince, hpost⟩ :=
      Machine.exists_origin (v := fun c : Control => c.device.slot ch)
        (A := fun slot => slot.timer ≠ noTimer) (step_timer_origin lib ch)
        hboot h
    have hslot : (run lib (boot settings) es).device.slot ch =
        (step lib (run lib (boot settings) pre) e).device.slot ch := by
      rw [hsince, Machine.run_append]
      rfl
    rw [← hslot] at harms htimer
    exact ⟨pre, e, post, t₀, d, hes, harms, htimer, hcalls, hpost⟩
  refine ⟨harmed, ?_⟩
  intro t hpoll
  rw [callsOn_poll_iff] at hpoll
  refine ⟨harmed hpoll.1, hpoll, ?_⟩
  rw [step, handleRelais_slot, if_pos hpoll]

/-- A minute on channel 1 that starts at uptime 1000, and the poll that ends
it. -/
theorem armed_by_last_call_minute :
    ArmedByLastCall .textless .one (boot (.delivered 0))
        [switchOnForMinute 1000, .poll 30000] ∧
      Expired 61000
        ((run .textless (boot (.delivered 0))
          [switchOnForMinute 1000, .poll 30000]).device.slot .one).timer := by
  have h := armed_by_last_call .textless (.delivered 0)
    [switchOnForMinute 1000, .poll 30000] .one
  have hpoll := h.2 61000 ⟨⟨1, false⟩, by decide, rfl⟩
  exact ⟨h.1 (by decide), hpoll.2.1⟩

end Control
end ByteWaterlevel
