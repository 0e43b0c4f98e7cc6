import ByteWaterlevel.Control.Timer

/-!
# Independence of the two channels

Seen from one channel, a run consists of the polls, of the requests that name
this channel and, if the automation owns the channel in the mode at hand, of
the levels that its ticks read.  `ChannelView` is a machine on these events
alone, and the projection `run_channelView` says that the slot of the channel
follows it.  Two runs that look the same from a channel therefore treat it in
the same way.

In a mode other than 1 and 2 the automation would switch both relays off if one
of its flags were set; the invariant `Follows` contains that none ever is.
-/

namespace ByteWaterlevel
namespace Control

open DeviceHandler AutomationHandler WebHandler

/-- The automation decides about the channel in this mode. -/
def Owned (ch : Channel) (mode : CInt) : Prop :=
  match ch with
  | .one => mode = 1 ∨ mode = 2
  | .two => mode = 1

instance (ch : Channel) (mode : CInt) : Decidable (Owned ch mode) :=
  match ch with
  | .one => inferInstanceAs (Decidable (_ ∨ _))
  | .two => inferInstanceAs (Decidable (_ = _))

/-- The thresholds that the decision about the channel reads are the same. -/
def SameThresholds (ch : Channel) (s s' : Settings) : Prop :=
  match ch with
  | .one => s.fillL = s'.fillL ∧ s.maxL = s'.maxL
  | .two => s.minL = s'.minL

/-- What a channel sees of a run. -/
inductive ChannelEvent where
  | poll (t : ℕ)
  | request (uptime : ℕ) (r : RelaisRequest)
  | tick (level : ExtRat)
deriving DecidableEq

/-- What a channel sees of a step: a poll with its time, a request whose
channel number, as an `int8_t`, is that of the channel, and the level read by
an executed tick if the automation owns the channel. -/
def channelEvents (lib : ArduinoJson) (ch : Channel) (c : Control) :
    Event → List ChannelEvent
  | .poll t => [.poll t]
  | .api files amb json _ =>
      match relaisRequest lib amb files json with
      | some r =>
          if r.channel.setWidth 8 = ch.number8 then [.request amb.uptime r]
          else []
      | none => []
  | .automation t =>
      if Owned ch c.auto.mode ∧ Due t c.auto then
        [.tick (getLevelCached c.device)]
      else []
  | _ => []

/-- What a channel sees of a run. -/
def channelTrace (lib : ArduinoJson) (ch : Channel) (c : Control)
    (es : List Event) : List ChannelEvent :=
  Machine.trace (step lib) (channelEvents lib ch) c es

/-! ## The channel as a machine of its own -/

/-- The slot of a channel and, for the first channel, the fill latch. -/
structure ChannelView where
  slot : Slot
  latch : Bool

def channelView (ch : Channel) (c : Control) : ChannelView where
  slot := c.device.slot ch
  latch :=
    match ch with
    | .one => c.auto.fillM
    | .two => false

/-- The slot that a request leaves on the channel that it switches. -/
def requestSlot (ch : Channel) (uptime : ℕ) (r : RelaisRequest) : Slot where
  relay := r.state
  timer :=
    match r.duration with
    | some duration =>
        if r.channel = ch.number then millis uptime + duration * 1000
        else noTimer
    | none => noTimer

def ChannelView.step (settings : Settings) (ch : Channel) (v : ChannelView) :
    ChannelEvent → ChannelView
  | .poll t =>
      if Expired t v.slot.timer then { v with slot := .switched false } else v
  | .request uptime r => { v with slot := requestSlot ch uptime r }
  | .tick level =>
      match ch with
      | .one =>
          if level < settings.maxL then
            if v.latch = false ∧ level ≤ settings.fillL then
              ⟨.switched true, true⟩
            else v
          else ⟨.switched false, false⟩
      | .two => { v with slot := .switched (decide (level > settings.minL)) }

theorem ChannelView.step_of_sameThresholds
    {s s' : Settings} {ch : Channel} (h : SameThresholds ch s s') :
    ChannelView.step s ch = ChannelView.step s' ch := by
  funext v e
  cases e with
  | poll t => rfl
  | request uptime r => rfl
  | tick level =>
      cases ch with
      | one => simp only [ChannelView.step, h.1, h.2]
      | two =>
          have hmin : s.minL = s'.minL := h
          simp only [ChannelView.step, hmin]

/-! ## The projection onto a channel -/

/-- The automation works with the given settings, and outside of modes 1 and 2
its flags are not set. -/
def Follows (settings : Settings) (c : Control) : Prop :=
  c.auto.mode = settings.mode ∧ c.auto.maxL = settings.maxL ∧
    c.auto.minL = settings.minL ∧ c.auto.fillL = settings.fillL ∧
    (settings.mode ≠ 1 → settings.mode ≠ 2 →
      c.auto.fillM = false ∧ c.auto.pumpM = false)

theorem follows_boot (settings : Settings) :
    Follows settings (boot settings) :=
  ⟨rfl, rfl, rfl, rfl, fun _ _ => ⟨rfl, rfl⟩⟩

theorem follows_loop
    {settings : Settings} {c : Control} (h : Follows settings c) (t : ℕ) :
    Follows settings (loop t c) := by
  obtain ⟨hmode, hmax, hmin, hfill, -⟩ := loop_settings t c
  rw [Follows, hmode, hmax, hmin, hfill]
  refine ⟨h.1, h.2.1, h.2.2.1, h.2.2.2.1, ?_⟩
  intro h1 h2
  have hflags := h.2.2.2.2 h1 h2
  have hmode' := h.1
  rcases loop_cases t c with ⟨-, heq⟩ | ⟨-, hm, -⟩ | ⟨-, hm, -⟩ |
    ⟨-, -, -, -, heq⟩ | ⟨-, -, -, heq⟩
  · rw [heq]
    exact hflags
  · exact absurd (hmode'.symm.trans hm) h1
  · exact absurd (hmode'.symm.trans hm) h2
  · rw [heq]
    exact ⟨rfl, rfl⟩
  · rw [heq]
    exact hflags

theorem follows_step
    {lib : ArduinoJson} {settings : Settings} {c : Control} {e : Event}
    (h : Follows settings c) (he : ¬ RestartsDevice lib e) :
    Follows settings (step lib c e) := by
  rcases e.kinds with hpassive | ⟨files, amb, json, next, rfl⟩ | ⟨t, rfl⟩ |
    ⟨t, rfl⟩
  · rw [Follows, step_passive_auto lib c hpassive]
    exact h
  · have hrestarts : ¬ Restarts lib amb files json := fun hr =>
      he ⟨files, amb, json, next, rfl, hr⟩
    rw [step_api, if_neg hrestarts]
    exact h
  · exact h
  · exact follows_loop h t

/-- The fill decision is what the first channel sees of it. -/
theorem handleFill_view
    {settings : Settings} {c : Control} (h : Follows settings c) :
    channelView .one (handleFill c) =
      ChannelView.step settings .one (channelView .one c)
        (.tick (getLevelCached c.device)) := by
  obtain ⟨-, hmax, -, hfill, -⟩ := h
  rw [ChannelView.step, ← hmax, ← hfill]
  rcases handleFill_cases c with
    ⟨hlt, hopen, hle, heq⟩ | ⟨hlt, hkeep, heq⟩ | ⟨hnot, heq⟩
  · rw [heq, if_pos hlt, if_pos ⟨hopen, hle⟩]
    rfl
  · have hnot : ¬ ((channelView .one c).latch = false ∧
        getLevelCached c.device ≤ c.auto.fillL) := by
      rintro ⟨hopen, hle⟩
      rcases hkeep with hlatch | hnot
      · exact absurd (hlatch.symm.trans hopen) (by decide)
      · exact hnot hle
    rw [heq, if_pos hlt, if_neg hnot]
  · rw [heq, if_neg hnot]
    rfl

/-- The fill decision is invisible from the second channel. -/
theorem handleFill_view_two (c : Control) :
    channelView .two (handleFill c) = channelView .two c := by
  rcases handleFill_cases c with ⟨-, -, -, heq⟩ | ⟨-, -, heq⟩ | ⟨-, heq⟩
  · rw [heq]
    rfl
  · rw [heq]
  · rw [heq]
    rfl

/-- An executed tick in a mode that owns the channel is what the channel sees
of it. -/
theorem loop_view_of_owned
    {settings : Settings} {c : Control} {t : ℕ} {ch : Channel}
    (h : Follows settings c) (hdue : Due t c.auto)
    (howned : Owned ch c.auto.mode) :
    channelView ch (loop t c) =
      ChannelView.step settings ch (channelView ch c)
        (.tick (getLevelCached c.device)) := by
  have hstamp : Follows settings (stamp t c) := h
  obtain ⟨-, -, hmin, -, hlevel⟩ := handleFill_settings (stamp t c)
  cases ch with
  | one =>
      rcases loop_cases t c with ⟨hnot, -⟩ | ⟨-, -, heq⟩ | ⟨-, -, heq⟩ |
        ⟨-, h1, h2, -⟩ | ⟨-, h1, h2, -⟩
      · exact absurd hdue hnot
      · rw [heq, handlePump_eq]
        exact handleFill_view hstamp
      · rw [heq]
        exact handleFill_view hstamp
      · exact (howned.elim h1 h2).elim
      · exact (howned.elim h1 h2).elim
  | two =>
      have hmode : c.auto.mode = 1 := howned
      rcases loop_cases t c with ⟨hnot, -⟩ | ⟨-, -, heq⟩ | ⟨-, h2, -⟩ |
        ⟨-, h1, -⟩ | ⟨-, h1, -⟩
      · exact absurd hdue hnot
      · rw [heq, handlePump_eq, hlevel, hmin, hstamp.2.2.1]
        rfl
      · exact absurd (hmode.symm.trans h2) (by decide)
      · exact absurd hmode h1
      · exact absurd hmode h1

/-- A tick in a mode that does not own the channel is invisible from it. -/
theorem loop_view_of_not_owned
    {settings : Settings} {c : Control} {ch : Channel} (t : ℕ)
    (h : Follows settings c) (howned : ¬ Owned ch c.auto.mode) :
    channelView ch (loop t c) = channelView ch c := by
  rcases loop_cases t c with ⟨-, heq⟩ | ⟨-, hm, -⟩ | ⟨-, hm, heq⟩ |
    ⟨-, h1, h2, hflags, -⟩ | ⟨-, -, -, heq⟩
  · rw [heq]
  · cases ch with
    | one => exact absurd (Or.inl hm) howned
    | two => exact absurd hm howned
  · cases ch with
    | one => exact absurd (Or.inr hm) howned
    | two =>
        rw [heq]
        exact handleFill_view_two (stamp t c)
  · rw [h.1] at h1 h2
    obtain ⟨hfill, hpump⟩ := h.2.2.2.2 h1 h2
    rcases hflags with hflag | hflag
    · exact absurd (hfill.symm.trans hflag) (by decide)
    · exact absurd (hpump.symm.trans hflag) (by decide)
  · rw [heq]
    rfl

/-- Every step acts on the view of a channel as what the channel sees of
it. -/
theorem step_channelView
    {lib : ArduinoJson} {settings : Settings} {ch : Channel} {c : Control}
    {e : Event} (h : Follows settings c) (he : ¬ RestartsDevice lib e) :
    channelView ch (step lib c e) =
      Machine.run (ChannelView.step settings ch) (channelView ch c)
        (channelEvents lib ch c e) := by
  rcases e.kinds with hpassive | ⟨files, amb, json, next, rfl⟩ | ⟨t, rfl⟩ |
    ⟨t, rfl⟩
  · have hnone : channelEvents lib ch c e = [] := by
      cases e <;> first | exact hpassive.elim | rfl
    simp only [hnone, channelView, step_passive_slot lib c hpassive,
      step_passive_auto lib c hpassive, Machine.run_nil]
  · have hrestarts : ¬ Restarts lib amb files json := fun hr =>
      he ⟨files, amb, json, next, rfl, hr⟩
    rw [step_api, if_neg hrestarts, channelEvents]
    cases hrequest : relaisRequest lib amb files json with
    | none => rfl
    | some r =>
        dsimp only
        split_ifs with hch
        · simp only [channelView, applyRequest,
            RelaisRequest.apply_slot_self amb c.device hch]
          rfl
        · simp only [channelView, applyRequest,
            RelaisRequest.apply_slot_of_ne amb c.device hch]
          rfl
  · simp only [channelView, step, handleRelais_slot, channelEvents,
      Machine.run_cons, Machine.run_nil, ChannelView.step]
    split_ifs <;> rfl
  · rw [channelEvents]
    split_ifs with hseen
    · exact loop_view_of_owned h hseen.2 hseen.1
    · by_cases howned : Owned ch c.auto.mode
      · have hidle : loop t c = c :=
          loop_of_not_due fun hdue => hseen ⟨howned, hdue⟩
        rw [step, hidle]
        rfl
      · exact loop_view_of_not_owned t h howned

theorem along_follows
    {lib : ArduinoJson} (settings : Settings) {es : List Event}
    (hes : ∀ e ∈ es, ¬ RestartsDevice lib e) :
    Along lib (fun c e => Follows settings c ∧ ¬ RestartsDevice lib e)
      (boot settings) es :=
  Machine.along_of_invariant (fun _ _ h he => follows_step h he)
    (follows_boot settings) (Machine.along_of_forall_mem fun _ => hes)

/-- The view of a channel follows what the channel sees of the run. -/
theorem run_channelView
    {lib : ArduinoJson} (settings : Settings) {es : List Event}
    (hes : ∀ e ∈ es, ¬ RestartsDevice lib e) (ch : Channel) :
    channelView ch (run lib (boot settings) es) =
      Machine.run (ChannelView.step settings ch) ⟨.switched false, false⟩
        (channelTrace lib ch (boot settings) es) := by
  have hboot : channelView ch (boot settings) = ⟨.switched false, false⟩ := by
    cases ch <;> rfl
  rw [← hboot]
  exact Machine.run_projection_along
    (fun c e h => step_channelView h.1 h.2) (along_follows settings hes)

/-! ## Two runs -/

/-- A channel that the automation does not own sees no ticks. -/
theorem ne_tick_of_not_owned
    {lib : ArduinoJson} {settings : Settings} {es : List Event}
    (hes : ∀ e ∈ es, ¬ RestartsDevice lib e) {ch : Channel}
    (howned : ¬ Owned ch settings.mode) :
    ∀ x ∈ channelTrace lib ch (boot settings) es, ∀ level,
      x ≠ .tick level := by
  apply Machine.forall_mem_trace
  refine Machine.along_mono ?_ (along_follows settings hes)
  rintro c e ⟨hfollows, -⟩ x hx level rfl
  have hnot : ¬ Owned ch c.auto.mode := by rwa [hfollows.1]
  cases e with
  | automation t => simp [channelEvents, hnot] at hx
  | poll t => simp [channelEvents] at hx
  | api files amb json next =>
      simp only [channelEvents] at hx
      split at hx
      · split_ifs at hx
        · simp at hx
        · simp at hx
      · simp at hx
  | scan t r => simp [channelEvents] at hx
  | adc voltage tasks => simp [channelEvents] at hx
  | blink t => simp [channelEvents] at hx
  | display t => simp [channelEvents] at hx

/-- What a channel sees of a run determines its slot. -/
theorem slot_eq_of_channelTrace_eq
    {lib : ArduinoJson} {ch : Channel} {s s' : Settings}
    {es es' : List Event}
    (hthresholds : Owned ch s.mode → SameThresholds ch s s')
    (hes : ∀ e ∈ es, ¬ RestartsDevice lib e)
    (hes' : ∀ e ∈ es', ¬ RestartsDevice lib e)
    (htrace : channelTrace lib ch (boot s) es =
      channelTrace lib ch (boot s') es') :
    (run lib (boot s) es).device.slot ch =
      (run lib (boot s') es').device.slot ch := by
  have hview : channelView ch (run lib (boot s) es) =
      channelView ch (run lib (boot s') es') := by
    rw [run_channelView s hes, run_channelView s' hes', ← htrace]
    by_cases howned : Owned ch s.mode
    · rw [ChannelView.step_of_sameThresholds (hthresholds howned)]
    · apply List.foldl_ext
      intro v x hx
      cases x with
      | poll t => rfl
      | request uptime r => rfl
      | tick level =>
          exact absurd rfl (ne_tick_of_not_owned hes howned _ hx level)
  exact congrArg ChannelView.slot hview

/-- Take two runs from boot, each up to its next boot, that look the same from
a channel.  At any two points that lie behind equally many of the events which
the channel sees, its relay and its deadline are the same in both runs. -/
theorem channel_independence
    (lib : ArduinoJson) (ch : Channel) (s s' : Settings)
    (es es' : List Event)
    (hthresholds : Owned ch s.mode → SameThresholds ch s s')
    (hes : ∀ e ∈ es, ¬ RestartsDevice lib e)
    (hes' : ∀ e ∈ es', ¬ RestartsDevice lib e)
    (htrace : channelTrace lib ch (boot s) es =
      channelTrace lib ch (boot s') es') :
    ∀ pre pre', pre <+: es → pre' <+: es' →
      (channelTrace lib ch (boot s) pre).length =
        (channelTrace lib ch (boot s') pre').length →
      (run lib (boot s) pre).device.slot ch =
        (run lib (boot s') pre').device.slot ch := by
  intro pre pre' hpre hpre' hlength
  have hseen : channelTrace lib ch (boot s) pre <+:
      channelTrace lib ch (boot s) es := Machine.trace_prefix _ _ _ hpre
  have hseen' : channelTrace lib ch (boot s') pre' <+:
      channelTrace lib ch (boot s) es := by
    rw [htrace]
    exact Machine.trace_prefix _ _ _ hpre'
  refine slot_eq_of_channelTrace_eq hthresholds
    (fun e he => hes e (hpre.subset he))
    (fun e he => hes' e (hpre'.subset he)) ?_
  exact (List.prefix_of_prefix_length_le hseen hseen' hlength.le).eq_of_length
    hlength

/-- A request that switches the second channel on at uptime 500. -/
def switchOnPump : Event :=
  .api FileHandler.emptyState (.plain 500)
    (RelaisRequest.payload 2 true none) (.delivered 1)

theorem not_restartsDevice_switchOnPump :
    ¬ RestartsDevice .textless switchOnPump := by
  rintro ⟨files, amb, json, next, heq, hrestarts⟩
  injection heq with hfiles hamb hjson hnext
  subst hfiles hamb hjson
  exact absurd hrestarts (by decide)

/-- A request for the second channel and another minimum level make no
difference to the first channel in mode 1. -/
theorem channel_one_independent_of_switchOnPump :
    (run .textless (boot (.delivered 1))
        [.automation 1000, .poll 1500]).device.slot .one =
      (run .textless (boot { Settings.delivered 1 with minL := .fin 50 })
        [switchOnPump, .automation 1000, .poll 1500]).device.slot .one := by
  refine channel_independence .textless .one (.delivered 1)
    { Settings.delivered 1 with minL := .fin 50 }
    [.automation 1000, .poll 1500]
    [switchOnPump, .automation 1000, .poll 1500]
    (fun _ => ⟨rfl, rfl⟩) ?_ ?_ (by decide +kernel) _ _ (List.prefix_refl _)
    (List.prefix_refl _) (by decide +kernel)
  · rintro e he ⟨files, amb, json, next, rfl, -⟩
    simp at he
  · intro e he
    rcases List.mem_cons.mp he with rfl | he
    · exact not_restartsDevice_switchOnPump
    · rintro ⟨files, amb, json, next, rfl, -⟩
      simp at he

end Control
end ByteWaterlevel
