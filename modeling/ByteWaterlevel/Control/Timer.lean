import ByteWaterlevel.Control.Safety

/-!
# Timed relays

A request with a duration stores the absolute deadline `t₀ + 1000 d` in a
32-bit counter, where the value `-1` means that there is no deadline, and a
poll compares the counter with it.  As long as no command addresses the
channel, the slot of the channel is a function of the polls alone:
`run_slot_of_not_addresses` says which.  From it we read off exactly when a
timed relay is switched off in time, and exactly when it is not switched off
early.
-/

namespace ByteWaterlevel
namespace Control

open DeviceHandler AutomationHandler WebHandler

/-- The request restarts the device. -/
def RestartsDevice (lib : ArduinoJson) (e : Event) : Prop :=
  ∃ files amb json next, e = .api files amb json next ∧
    Restarts lib amb files json

/-- The event is a command for the channel: an API request or an automation
step that calls `setRelais` on it, or a restart of the whole device. -/
def Addresses (lib : ArduinoJson) (ch : Channel) (c : Control) (e : Event) :
    Prop :=
  CallsSetRelais lib ch e ∨ RestartsDevice lib e ∨
    ∃ t, e = .automation t ∧
      ∃ line ∈ printed c.device (loop t c).device, line.relais = ch.number8

/-- The uptimes of the polls among the events. -/
def pollTimes (es : List Event) : List ℕ :=
  es.filterMap fun
    | .poll t => some t
    | _ => none

@[simp] theorem pollTimes_nil : pollTimes [] = [] := rfl

@[simp] theorem pollTimes_poll (t : ℕ) (es : List Event) :
    pollTimes (.poll t :: es) = t :: pollTimes es := rfl

@[simp] theorem pollTimes_append (xs ys : List Event) :
    pollTimes (xs ++ ys) = pollTimes xs ++ pollTimes ys :=
  List.filterMap_append

theorem pollTimes_cons_of_ne_poll
    {e : Event} (he : ∀ t, e ≠ .poll t) (es : List Event) :
    pollTimes (e :: es) = pollTimes es := by
  cases e with
  | poll t => exact absurd rfl (he t)
  | api files amb json next => rfl
  | scan t r => rfl
  | adc voltage tasks => rfl
  | blink t => rfl
  | display t => rfl
  | automation t => rfl

/-- A step that is no poll and no command for the channel leaves its slot
alone. -/
theorem step_slot_of_not_addresses
    {lib : ArduinoJson} {c : Control} {e : Event} {ch : Channel}
    (he : ∀ t, e ≠ .poll t) (h : ¬ Addresses lib ch c e) :
    (step lib c e).device.slot ch = c.device.slot ch := by
  rcases e.kinds with hpassive | ⟨files, amb, json, next, rfl⟩ | ⟨t, rfl⟩ |
    ⟨t, rfl⟩
  · exact step_passive_slot lib c hpassive ch
  · rcases step_api_cases lib c files amb json next with
      ⟨r, hrequest, heq⟩ | ⟨hrestarts, -⟩ | ⟨-, -, heq⟩
    · have hne : r.channel.setWidth 8 ≠ ch.number8 := fun hch =>
        h (Or.inl ⟨files, amb, json, next, r, rfl, hrequest, hch⟩)
      rw [heq]
      exact RelaisRequest.apply_slot_of_ne amb c.device hne
    · exact absurd
        (Or.inr (Or.inl ⟨files, amb, json, next, rfl, hrestarts⟩)) h
    · rw [heq]
  · exact absurd rfl (he t)
  · apply loop_slot_of_not_printed
    intro line hline hch
    exact h (Or.inr (Or.inr ⟨t, rfl, line, hline, hch⟩))

/-- While no command addresses a channel, its slot stays as it is until the
first poll that finds its deadline reached, and is switched off from then
on. -/
theorem run_slot_of_not_addresses
    {lib : ArduinoJson} {c : Control} {es : List Event} {ch : Channel}
    (h : Along lib (fun c e => ¬ Addresses lib ch c e) c es) :
    (run lib c es).device.slot ch =
      if ∃ q ∈ pollTimes es, Expired q (c.device.slot ch).timer then
        .switched false
      else c.device.slot ch := by
  induction es generalizing c with
  | nil => simp
  | cons e es ih =>
      have htail := ih h.2
      by_cases hpoll : ∃ t, e = .poll t
      · obtain ⟨t, rfl⟩ := hpoll
        have hslot := handleRelais_slot t c.device ch
        rw [run, Machine.run_cons, ← run, htail]
        simp only [step, hslot, pollTimes_poll]
        by_cases hexpired : Expired t (c.device.slot ch).timer
        · simp [hexpired, Slot.switched]
        · simp [hexpired]
      · have hne : ∀ t, e ≠ .poll t := fun t heq => hpoll ⟨t, heq⟩
        rw [run, Machine.run_cons, ← run, htail,
          step_slot_of_not_addresses hne h.1,
          pollTimes_cons_of_ne_poll hne]

/-! ## Deadlines -/

/-- The wrapped deadline of a request at uptime `t₀`. -/
def deadline (t₀ : ℕ) (d : CInt) : ℤ :=
  ((t₀ : ℤ) + 1000 * d.toInt) % 2 ^ 32

/-- A poll finds a deadline reached if the deadline is not the value that
stands for none, and the counter has passed it. -/
theorem expired_iff (q t₀ : ℕ) (d : CInt) :
    Expired q (millis t₀ + d * 1000) ↔
      deadline t₀ d ≠ 2 ^ 32 - 1 ∧ deadline t₀ d ≤ (q : ℤ) % 2 ^ 32 := by
  have hdeadline : ((millis t₀ + d * 1000).toNat : ℤ) = deadline t₀ d :=
    toNat_deadline t₀ d
  have hnone : noTimer.toNat = 2 ^ 32 - 1 := by decide
  rw [Expired, ne_eq, ← BitVec.toNat_inj, hnone, ge_iff_le, BitVec.le_def,
    toNat_millis, ← hdeadline]
  generalize (millis t₀ + d * 1000).toNat = w
  norm_num
  omega

/-- The event is a request at uptime `t₀` that switches the channel on for
`d` seconds. -/
def SwitchesOnFor (lib : ArduinoJson) (ch : Channel) (t₀ : ℕ) (d : CInt)
    (e : Event) : Prop :=
  ∃ files amb json next, e = .api files amb json next ∧ amb.uptime = t₀ ∧
    relaisRequest lib amb files json = some ⟨ch.number, true, some d⟩

theorem slot_of_switchesOnFor
    {lib : ArduinoJson} {ch : Channel} {t₀ : ℕ} {d : CInt} {e : Event}
    (h : SwitchesOnFor lib ch t₀ d e) (c : Control) :
    (step lib c e).device.slot ch = ⟨true, millis t₀ + d * 1000⟩ := by
  obtain ⟨files, amb, json, next, rfl, rfl, hrequest⟩ := h
  rw [step_api_of_request c next hrequest]
  simp [RelaisRequest.apply_slot_self amb c.device
    (r := ⟨ch.number, true, some d⟩) (Channel.setWidth_number ch)]

/-- After a timed request that no command follows, the relay is off exactly if
one of the polls has found the deadline reached. -/
theorem relay_off_iff_polled
    {lib : ArduinoJson} {ch : Channel} {t₀ : ℕ} {d : CInt} {e : Event}
    (he : SwitchesOnFor lib ch t₀ d e) {c : Control} {es : List Event}
    (h : Along lib (fun c e => ¬ Addresses lib ch c e) (step lib c e) es) :
    ((run lib (step lib c e) es).device.slot ch).relay = false ↔
      deadline t₀ d ≠ 2 ^ 32 - 1 ∧
        ∃ q ∈ pollTimes es, deadline t₀ d ≤ (q : ℤ) % 2 ^ 32 := by
  rw [run_slot_of_not_addresses h, slot_of_switchesOnFor he]
  simp only [expired_iff]
  split_ifs with hpolled
  · obtain ⟨q, hq, hnone, hreached⟩ := hpolled
    simp only [Slot.switched, true_iff]
    exact ⟨hnone, q, hq, hreached⟩
  · simp only [false_iff]
    rintro ⟨hnone, q, hq, hreached⟩
    exact hpolled ⟨q, hq, hnone, hreached⟩

/-! ## Never late -/

/-- The poll at uptime `p`, after the events `pre`, is the first one at or
after the true deadline. -/
def FirstLatePoll (t₀ : ℕ) (d : CInt) (es pre : List Event) (p : ℕ) : Prop :=
  (∃ post, es = pre ++ .poll p :: post) ∧
    (∀ q ∈ pollTimes pre, (q : ℤ) < t₀ + 1000 * max d.toInt 0) ∧
    (t₀ : ℤ) + 1000 * max d.toInt 0 ≤ p

/-- The relay is off after the first poll at or after the true deadline. -/
def OffAtFirstLatePoll (lib : ArduinoJson) (ch : Channel) (t₀ : ℕ) (d : CInt)
    (c : Control) (es : List Event) : Prop :=
  ∀ pre p, FirstLatePoll t₀ d es pre p →
    ((run lib c (pre ++ [.poll p])).device.slot ch).relay = false

/-- The wrapped deadline is a deadline, and up to the first poll at or after
the true deadline one poll finds the counter at or past the wrapped one. -/
def PolledPastDeadline (t₀ : ℕ) (d : CInt) (es : List Event) : Prop :=
  ∀ pre p, FirstLatePoll t₀ d es pre p →
    deadline t₀ d ≠ 2 ^ 32 - 1 ∧
      ∃ q ∈ pollTimes pre ++ [p], deadline t₀ d ≤ (q : ℤ) % 2 ^ 32

theorem along_of_firstLatePoll
    {lib : ArduinoJson} {P : Control → Event → Prop} {c : Control}
    {t₀ : ℕ} {d : CInt} {es pre : List Event} {p : ℕ}
    (h : Along lib P c es) (hfirst : FirstLatePoll t₀ d es pre p) :
    Along lib P c (pre ++ [.poll p]) := by
  obtain ⟨⟨post, rfl⟩, -, -⟩ := hfirst
  rw [List.append_cons] at h
  exact (Machine.along_append.mp h).1

/-- A timed relay that no later command addresses is switched off in time
exactly if the polls catch the wrapped deadline. -/
theorem offAtFirstLatePoll_iff
    (lib : ArduinoJson) (ch : Channel) (t₀ : ℕ) (d : CInt) (e : Event)
    (c : Control) (es : List Event)
    (he : SwitchesOnFor lib ch t₀ d e)
    (hes : Along lib (fun c e => ¬ Addresses lib ch c e) (step lib c e) es) :
    OffAtFirstLatePoll lib ch t₀ d (step lib c e) es ↔
      PolledPastDeadline t₀ d es := by
  have hpoll : ∀ pre p, FirstLatePoll t₀ d es pre p →
      (((run lib (step lib c e) (pre ++ [.poll p])).device.slot ch).relay =
          false ↔
        deadline t₀ d ≠ 2 ^ 32 - 1 ∧
          ∃ q ∈ pollTimes pre ++ [p], deadline t₀ d ≤ (q : ℤ) % 2 ^ 32) := by
    intro pre p hfirst
    have h := relay_off_iff_polled he (along_of_firstLatePoll hes hfirst)
    rwa [pollTimes_append, pollTimes_poll, pollTimes_nil] at h
  constructor
  · intro hoff pre p hfirst
    exact (hpoll pre p hfirst).mp (hoff pre p hfirst)
  · intro hpolled pre p hfirst
    exact (hpoll pre p hfirst).mpr (hpolled pre p hfirst)

/-- The polls catch the deadline if it does not fall on the last value of the
counter and if deadline and polls lie in one period of the counter. -/
theorem polledPastDeadline_of_same_period
    {t₀ : ℕ} {d : CInt} {es : List Event} (hd : 0 ≤ d.toInt)
    (hdeadline : (t₀ : ℤ) % 2 ^ 32 + 1000 * d.toInt < 2 ^ 32 - 1)
    (hperiod : ∀ q ∈ pollTimes es, q / 2 ^ 32 = t₀ / 2 ^ 32) :
    PolledPastDeadline t₀ d es := by
  rintro pre p ⟨⟨post, rfl⟩, -, hlate⟩
  have hp : p / 2 ^ 32 = t₀ / 2 ^ 32 := hperiod p (by simp)
  rw [max_eq_left hd] at hlate
  refine ⟨?_, p, by simp, ?_⟩
  · unfold deadline
    omega
  · unfold deadline
    omega

/-- A manual command that switches the fill relay on for a minute. -/
def switchOnForMinute (t₀ : ℕ) : Event :=
  .api FileHandler.emptyState (.plain t₀)
    (RelaisRequest.payload 1 true (some (.int 60))) (.delivered 0)

theorem switchesOnFor_switchOnForMinute (t₀ : ℕ) :
    SwitchesOnFor .textless .one t₀ 60 (switchOnForMinute t₀) :=
  ⟨FileHandler.emptyState, .plain t₀, _, .delivered 0, rfl, rfl, rfl⟩

theorem not_addresses_poll
    (lib : ArduinoJson) (ch : Channel) (c : Control) (p : ℕ) :
    ¬ Addresses lib ch c (.poll p) := by
  rintro (⟨_, _, _, _, _, h, -⟩ | ⟨_, _, _, _, h, -⟩ | ⟨_, h, -⟩)
  · exact Event.noConfusion h
  · exact Event.noConfusion h
  · exact Event.noConfusion h

theorem offAtFirstLatePoll_after_a_minute :
    OffAtFirstLatePoll .textless .one 1000 60
      (step .textless (boot (.delivered 0)) (switchOnForMinute 1000))
      [.poll 30000, .poll 61000] := by
  apply (offAtFirstLatePoll_iff .textless .one 1000 60 (switchOnForMinute 1000)
    (boot (.delivered 0)) [.poll 30000, .poll 61000]
    (switchesOnFor_switchOnForMinute 1000)
    ⟨not_addresses_poll _ _ _ _, not_addresses_poll _ _ _ _, trivial⟩).mpr
  apply polledPastDeadline_of_same_period (by decide) (by decide)
  intro q hq
  simp at hq
  omega

/-- A minute that ends on the last value of the counter: the deadline is the
value that stands for no timer, and the poll at the deadline leaves the relay
on. -/
theorem not_offAtFirstLatePoll_at_last_value :
    SwitchesOnFor .textless .one 4294907295 60
        (switchOnForMinute 4294907295) ∧
      Along .textless (fun c e => ¬ Addresses .textless .one c e)
        (step .textless (boot (.delivered 0)) (switchOnForMinute 4294907295))
        [.poll 4294967295] ∧
      ¬ OffAtFirstLatePoll .textless .one 4294907295 60
        (step .textless (boot (.delivered 0)) (switchOnForMinute 4294907295))
        [.poll 4294967295] := by
  refine ⟨switchesOnFor_switchOnForMinute _,
    ⟨not_addresses_poll _ _ _ _, trivial⟩, ?_⟩
  intro h
  have hoff := h [] 4294967295 ⟨⟨[], rfl⟩, by simp, by decide⟩
  exact absurd hoff (by decide)

/-! ## Never early -/

/-- The relay is on after every poll before the true deadline. -/
def OnBeforeDeadline (lib : ArduinoJson) (ch : Channel) (t₀ : ℕ) (d : CInt)
    (c : Control) (es : List Event) : Prop :=
  ∀ pre p post, es = pre ++ .poll p :: post → t₀ ≤ p →
    (p : ℤ) < t₀ + 1000 * d.toInt →
    ((run lib c (pre ++ [.poll p])).device.slot ch).relay = true

/-- No poll before the true deadline finds the wrapped deadline reached if the
deadline does not cross the wrap of the counter, or if it is the value that
stands for none. -/
theorem not_reached_before_deadline
    {t₀ q : ℕ} {d : CInt}
    (h : (t₀ : ℤ) % 2 ^ 32 + 1000 * d.toInt < 2 ^ 32 ∨
      deadline t₀ d = 2 ^ 32 - 1)
    (hlo : t₀ ≤ q) (hhi : (q : ℤ) < t₀ + 1000 * d.toInt)
    (hnone : deadline t₀ d ≠ 2 ^ 32 - 1) :
    ¬ deadline t₀ d ≤ (q : ℤ) % 2 ^ 32 := by
  have hwrap := h.resolve_right hnone
  unfold deadline
  omega

/-- If the deadline crosses the wrap, the last moment before the wrap lies
before the deadline. -/
theorem exists_reached_before_deadline
    {t₀ : ℕ} {d : CInt}
    (h : ¬ (t₀ : ℤ) % 2 ^ 32 + 1000 * d.toInt < 2 ^ 32) :
    ∃ p : ℕ, t₀ ≤ p ∧ (p : ℤ) < t₀ + 1000 * d.toInt ∧
      deadline t₀ d ≤ (p : ℤ) % 2 ^ 32 := by
  refine ⟨t₀ + (2 ^ 32 - 1 - t₀ % 2 ^ 32), by omega, by omega, ?_⟩
  unfold deadline
  omega

/-- A relay switched on for `d` seconds is never switched off early exactly if
the deadline does not cross the wrap of the counter, or if it falls on the
value that stands for no timer. -/
theorem onBeforeDeadline_iff
    (lib : ArduinoJson) (ch : Channel) (t₀ : ℕ) (d : CInt) (e : Event)
    (c : Control) (he : SwitchesOnFor lib ch t₀ d e) :
    (∀ es, Along lib (fun c e => ¬ Addresses lib ch c e) (step lib c e) es →
        (t₀ :: pollTimes es).Pairwise (· ≤ ·) →
        OnBeforeDeadline lib ch t₀ d (step lib c e) es) ↔
      (t₀ : ℤ) % 2 ^ 32 + 1000 * d.toInt < 2 ^ 32 ∨
        deadline t₀ d = 2 ^ 32 - 1 := by
  constructor
  · intro hon
    by_contra hcross
    rw [not_or] at hcross
    obtain ⟨p, hlo, hhi, hreached⟩ := exists_reached_before_deadline hcross.1
    have hquiet : Along lib (fun c e => ¬ Addresses lib ch c e)
        (step lib c e) [.poll p] :=
      ⟨not_addresses_poll lib ch _ p, trivial⟩
    have hoff : ((run lib (step lib c e) [.poll p]).device.slot ch).relay =
        false :=
      (relay_off_iff_polled he hquiet).mpr
        ⟨hcross.2, p, by simp, hreached⟩
    have hstill := hon [.poll p] hquiet (by simpa using hlo)
      [] p [] rfl hlo hhi
    exact absurd (hstill.symm.trans hoff) (by decide)
  · rintro hsafe es hes hsorted pre p post rfl hlo hhi
    have hes' : Along lib (fun c e => ¬ Addresses lib ch c e) (step lib c e)
        (pre ++ [.poll p]) := by
      rw [List.append_cons] at hes
      exact (Machine.along_append.mp hes).1
    rw [← Bool.not_eq_false]
    intro hoff
    obtain ⟨hnone, q, hq, hreached⟩ := (relay_off_iff_polled he hes').mp hoff
    rw [pollTimes_append, pollTimes_poll, List.pairwise_cons,
      List.pairwise_append] at hsorted
    obtain ⟨hfrom, -, -, hbefore⟩ := hsorted
    have hqmem : q ∈ pollTimes pre ∨ q = p := by
      simpa [pollTimes_append] using hq
    have hqlo : t₀ ≤ q := by
      apply hfrom
      rcases hqmem with hq | rfl
      · exact List.mem_append_left _ hq
      · exact List.mem_append_right _ List.mem_cons_self
    have hqhi : q ≤ p := by
      rcases hqmem with hq | rfl
      · exact hbefore q hq p List.mem_cons_self
      · exact le_rfl
    exact not_reached_before_deadline hsafe hqlo (by omega) hnone hreached

theorem onBeforeDeadline_for_a_minute :
    OnBeforeDeadline .textless .one 1000 60
      (step .textless (boot (.delivered 0)) (switchOnForMinute 1000))
      [.poll 30000, .poll 60999] := by
  apply (onBeforeDeadline_iff .textless .one 1000 60 (switchOnForMinute 1000)
    (boot (.delivered 0)) (switchesOnFor_switchOnForMinute 1000)).mpr
  · exact Or.inl (by decide)
  · exact ⟨not_addresses_poll _ _ _ _, not_addresses_poll _ _ _ _, trivial⟩
  · decide

/-- A minute that crosses the wrap of the counter: the first poll, a
millisecond after the request, switches the relay off. -/
theorem not_onBeforeDeadline_across_wrap :
    SwitchesOnFor .textless .one 4294960000 60
        (switchOnForMinute 4294960000) ∧
      Along .textless (fun c e => ¬ Addresses .textless .one c e)
        (step .textless (boot (.delivered 0)) (switchOnForMinute 4294960000))
        [.poll 4294960001] ∧
      ¬ OnBeforeDeadline .textless .one 4294960000 60
        (step .textless (boot (.delivered 0)) (switchOnForMinute 4294960000))
        [.poll 4294960001] := by
  refine ⟨switchesOnFor_switchOnForMinute _,
    ⟨not_addresses_poll _ _ _ _, trivial⟩, ?_⟩
  intro h
  have hon := h [] 4294960001 [] rfl (by decide) (by decide)
  exact absurd hon (by decide)

end Control
end ByteWaterlevel
