import ByteWaterlevel.Control.Tick

/-!
# The fill latch and the fill relay

The automation starts a fill only if its latch `fillM` is open.  The latch is
written by the automation alone, while the relay can also be switched off by
an API request and by a timer.  As long as neither happens while the latch is
set, latch and relay agree, and every tick that finds a low level leaves the
relay on.  One such step is enough to leave the relay off although every later
tick finds the level low.
-/

namespace ByteWaterlevel
namespace Control

open DeviceHandler AutomationHandler WebHandler

/-- The automation owns the fill relay. -/
def FillMode (a : AutomationHandler.State) : Prop :=
  a.mode = 1 ∨ a.mode = 2

instance (a : AutomationHandler.State) : Decidable (FillMode a) :=
  inferInstanceAs (Decidable (_ ∨ _))

/-- The cached level asks for filling. -/
def Low (c : Control) : Prop :=
  getLevelCached c.device < c.auto.maxL ∧
    getLevelCached c.device ≤ c.auto.fillL

instance (c : Control) : Decidable (Low c) :=
  inferInstanceAs (Decidable (_ ∧ _))

/-- The event is a call of the automation loop that passes its gate. -/
def Ticks (c : Control) (e : Event) : Prop :=
  ∃ t, e = .automation t ∧ Due t c.auto

/-- After every executed tick that leaves the level low, the fill relay is
on. -/
def FillsWhenLow (lib : ArduinoJson) : Control → List Event → Prop :=
  Along lib fun c e =>
    Ticks c e → FillMode (step lib c e).auto → Low (step lib c e) →
      ((step lib c e).device.slot .one).relay = true

/-- The event is a request or an expiry that switches the channel off. -/
def SwitchesOff (lib : ArduinoJson) (ch : Channel) (c : Control) :
    Event → Prop
  | .api files amb json _ =>
      ∃ r, relaisRequest lib amb files json = some r ∧
        r.channel.setWidth 8 = ch.number8 ∧ r.state = false
  | .poll t => Expired t (c.device.slot ch).timer
  | _ => False

/-- The event is a request or an expiry that switches the fill relay off. -/
def SwitchesFillOff (lib : ArduinoJson) (c : Control) (e : Event) : Prop :=
  SwitchesOff lib .one c e

/-- The fill relay is switched off while the latch says that it is on. -/
def Overrides (lib : ArduinoJson) (c : Control) (e : Event) : Prop :=
  c.auto.fillM = true ∧ SwitchesFillOff lib c e

/-- A set latch means that the relay is on. -/
def LatchAgrees (c : Control) : Prop :=
  c.auto.fillM = true → (c.device.slot .one).relay = true

theorem latchAgrees_boot (settings : Settings) :
    LatchAgrees (boot settings) := by
  intro h
  exact absurd h Bool.false_ne_true

/-- The automation itself keeps latch and relay in step, in every mode. -/
theorem latchAgrees_loop (t : ℕ) {c : Control} (h : LatchAgrees c) :
    LatchAgrees (loop t c) := by
  refine loop_preserves (fun _ _ hc => hc) ?_ ?_ t h
  · intro cond c _ hlatch
    exact hlatch
  · intro cond c hc hlatch
    exact hc hlatch

theorem latchAgrees_step
    {lib : ArduinoJson} (c : Control) (e : Event)
    (h : LatchAgrees c) (he : ¬ Overrides lib c e) :
    LatchAgrees (step lib c e) := by
  rcases e.kinds with hpassive | ⟨files, amb, json, next, rfl⟩ | ⟨t, rfl⟩ |
    ⟨t, rfl⟩
  · rw [LatchAgrees, step_passive_slot lib c hpassive,
      step_passive_auto lib c hpassive]
    exact h
  · rcases step_api_cases lib c files amb json next with
      ⟨r, hrequest, heq⟩ | ⟨-, heq⟩ | ⟨-, -, heq⟩
    · rw [heq]
      intro hlatch
      by_cases hone : r.channel.setWidth 8 = Channel.one.number8
      · have hstate : r.state = true := by
          by_contra hoff
          exact he ⟨hlatch, r, hrequest, hone,
            Bool.eq_false_of_not_eq_true hoff⟩
        simp [RelaisRequest.apply_slot_self amb c.device hone, hstate]
      · simpa [RelaisRequest.apply_slot_of_ne amb c.device hone] using
          h hlatch
    · rw [heq]
      exact latchAgrees_boot next
    · rwa [heq]
  · intro hlatch
    have hnot : ¬ Expired t (c.device.slot .one).timer :=
      fun hexpired => he ⟨hlatch, hexpired⟩
    simpa [step, handleRelais_slot, hnot] using h hlatch
  · exact latchAgrees_loop t h

/-- With latch and relay in step, a tick that leaves the level low leaves the
relay on. -/
theorem relay_on_of_tick
    {t : ℕ} {c : Control} (h : LatchAgrees c) (hdue : Due t c.auto)
    (hmode : FillMode (loop t c).auto) (hlow : Low (loop t c)) :
    ((loop t c).device.slot .one).relay = true := by
  obtain ⟨hm, hmax, -, hfill, hlevel⟩ := loop_settings t c
  rw [FillMode, hm] at hmode
  rw [Low, hmax, hfill, hlevel] at hlow
  have hrelay : ((handleFill (stamp t c)).device.slot .one).relay = true := by
    rcases handleFill_cases (stamp t c) with
      ⟨-, -, -, heq⟩ | ⟨-, hkeep, heq⟩ | ⟨hnot, -⟩
    · rw [heq]
      rfl
    · rw [heq]
      rcases hkeep with hlatch | hnot
      · exact h hlatch
      · exact absurd hlow.2 hnot
    · exact absurd hlow.1 hnot
  rcases loop_cases t c with ⟨hnot, -⟩ | ⟨-, -, heq⟩ | ⟨-, -, heq⟩ |
    ⟨-, h1, h2, -, -⟩ | ⟨-, h1, h2, -⟩
  · exact absurd hdue hnot
  · rw [heq, handlePump_eq]
    exact hrelay
  · rwa [heq]
  · exact (hmode.elim h1 h2).elim
  · exact (hmode.elim h1 h2).elim

/-- A run without overrides fills whenever a tick finds the level low. -/
theorem fillsWhenLow_of_latchAgrees
    {lib : ArduinoJson} {c : Control} {es : List Event}
    (h : LatchAgrees c)
    (hes : Along lib (fun c e => ¬ Overrides lib c e) c es) :
    FillsWhenLow lib c es := by
  induction es generalizing c with
  | nil => trivial
  | cons e es ih =>
      obtain ⟨he, hes⟩ := hes
      refine ⟨?_, ih (latchAgrees_step c e h he) hes⟩
      rintro ⟨t, rfl, hdue⟩ hmode hlow
      exact relay_on_of_tick h hdue hmode hlow

/-- An override leaves the relay off and the latch set, and disturbs neither
the settings nor the sensors. -/
theorem step_of_overrides
    {lib : ArduinoJson} {c : Control} {e : Event} (h : Overrides lib c e) :
    ((step lib c e).device.slot .one).relay = false ∧
      (step lib c e).auto = c.auto ∧
      (step lib c e).device.sensors = c.device.sensors := by
  obtain ⟨-, hoff⟩ := h
  rcases e.kinds with hpassive | ⟨files, amb, json, next, rfl⟩ | ⟨t, rfl⟩ |
    ⟨t, rfl⟩
  · cases e <;> first | exact hoff.elim | exact hpassive.elim
  · obtain ⟨r, hrequest, hone, hstate⟩ := hoff
    rw [step_api_of_request c next hrequest]
    simp [RelaisRequest.apply_slot_self amb c.device hone, hstate,
      RelaisRequest.apply_of_away awayFromRelays_sensors]
  · have hexpired : Expired t (c.device.slot .one).timer := hoff
    simp [step, handleRelais_slot, hexpired, Slot.switched,
      awayFromRelays_sensors.handleRelais]
  · exact hoff.elim

/-- A tick that finds the latch set and the level below the maximum does not
touch the fill relay. -/
theorem loop_slot_of_latched
    {t : ℕ} {c : Control} (hlatch : c.auto.fillM = true)
    (hmode : FillMode c.auto)
    (hmax : getLevelCached c.device < c.auto.maxL) :
    (loop t c).device.slot .one = c.device.slot .one := by
  have hkeep : handleFill (stamp t c) = stamp t c := by
    rcases handleFill_cases (stamp t c) with
      ⟨-, hopen, -⟩ | ⟨-, -, heq⟩ | ⟨hnot, -⟩
    · exact absurd (hlatch.symm.trans hopen) (by decide)
    · exact heq
    · exact absurd hmax hnot
  rcases loop_cases t c with ⟨-, heq⟩ | ⟨-, -, heq⟩ | ⟨-, -, heq⟩ |
    ⟨-, h1, h2, -⟩ | ⟨-, h1, h2, -⟩
  · rw [heq]
  · rw [heq, handlePump_eq, hkeep]
    rfl
  · rw [heq, hkeep]
    rfl
  · exact (hmode.elim h1 h2).elim
  · exact (hmode.elim h1 h2).elim

/-- A scan that is due replaces the cached level, and leaves the automation and
the fill relay alone. -/
theorem step_scan_of_due
    (lib : ArduinoJson) {c : Control} {t : ℕ} (r : Readings)
    (h : millis t - c.device.scanMillis ≥ InternalConfig.scanInterval) :
    (step lib c (.scan t r)).auto = c.auto ∧
      getLevelCached (step lib c (.scan t r)).device = r.level ∧
      (step lib c (.scan t r)).device.slot .one = c.device.slot .one := by
  rw [step, scanWith, if_pos h]
  exact ⟨rfl, rfl, rfl⟩

/-- After an override, a scan of a low level and a tick show the relay off. -/
theorem not_fillsWhenLow_of_overrides
    {lib : ArduinoJson} {c : Control} {e : Event} (h : Overrides lib c e)
    (hmode : FillMode c.auto) {t t' : ℕ} {r : Readings}
    (hscan : millis t - c.device.scanMillis ≥ InternalConfig.scanInterval)
    (hdue : Due t' c.auto)
    (hmax : r.level < c.auto.maxL) (hfill : r.level ≤ c.auto.fillL) :
    ¬ FillsWhenLow lib c [e, .scan t r, .automation t'] := by
  obtain ⟨hrelay, hauto, hsensors⟩ := step_of_overrides h
  have hscan' : millis t - (step lib c e).device.scanMillis ≥
      InternalConfig.scanInterval := by
    have hscanMillis : (step lib c e).device.scanMillis =
        c.device.scanMillis := congrArg Sensors.scanMillis hsensors
    rwa [hscanMillis]
  rintro ⟨-, -, hfills, -⟩
  obtain ⟨hsauto, hslevel, hsslot⟩ :=
    step_scan_of_due lib r hscan'
  generalize step lib (step lib c e) (.scan t r) = s at *
  rw [hauto] at hsauto
  have hoff : ((loop t' s).device.slot .one).relay = false := by
    rw [loop_slot_of_latched (by rw [hsauto]; exact h.1)
      (by rwa [hsauto]) (by rwa [hslevel, hsauto]), hsslot]
    exact hrelay
  obtain ⟨hm, hmaxL, -, hfillL, hlevel⟩ := loop_settings t' s
  have hon := hfills ⟨t', rfl, by rwa [hsauto]⟩
    (by simpa only [step, FillMode, hm, hsauto] using hmode)
    (by
      refine ⟨?_, ?_⟩
      · simpa only [step, hlevel, hmaxL, hslevel, hsauto] using hmax
      · simpa only [step, hlevel, hfillL, hslevel, hsauto] using hfill)
  exact absurd (hon.symm.trans hoff) (by decide)

/-- Every run from boot without overrides fills whenever a tick finds the
level low, and every override in fill mode can be continued, by a scan of a low
level and a tick, to a run in which the fill relay stays off. -/
theorem fillsWhenLow_unless_overridden
    (lib : ArduinoJson) (settings : Settings) (es : List Event) :
    (Along lib (fun c e => ¬ Overrides lib c e) (boot settings) es →
        FillsWhenLow lib (boot settings) es) ∧
      ∀ (e : Event) (t t' : ℕ) (r : Readings),
        let c := run lib (boot settings) es
        Overrides lib c e → FillMode c.auto →
        millis t - c.device.scanMillis ≥ InternalConfig.scanInterval →
        Due t' c.auto →
        r.level < c.auto.maxL → r.level ≤ c.auto.fillL →
        ¬ FillsWhenLow lib (boot settings)
          (es ++ [e, .scan t r, .automation t']) := by
  constructor
  · exact fillsWhenLow_of_latchAgrees (latchAgrees_boot settings)
  · intro e t t' r c hover hmode hscan hdue hmax hfill hfills
    exact not_fillsWhenLow_of_overrides hover hmode hscan hdue hmax hfill
      (Machine.along_append.mp hfills).2

/-- A manual command that switches the fill relay off at uptime 1500. -/
def switchFillOff : Event :=
  .api FileHandler.emptyState (.plain 1500)
    (RelaisRequest.payload 1 false none) (.delivered 1)

theorem fillsWhenLow_run_and_override :
    FillsWhenLow .textless (boot (.delivered 1))
        [.automation 1000, .poll 1500, .automation 2000] ∧
      ¬ FillsWhenLow .textless (boot (.delivered 1))
        ([.automation 1000] ++
          [switchFillOff, .scan 2000 (readingsAt 0), .automation 2000]) := by
  constructor
  · apply (fillsWhenLow_unless_overridden .textless (.delivered 1)
      [.automation 1000, .poll 1500, .automation 2000]).1
    exact ⟨fun h => h.2, fun h => not_expired_noTimer 1500 h.2,
      fun h => h.2, trivial⟩
  · apply (fillsWhenLow_unless_overridden .textless (.delivered 1)
      [.automation 1000]).2
    · exact ⟨by decide, ⟨1, false, none⟩, by decide, by decide, by decide⟩
    · exact Or.inl (by decide)
    · decide
    · decide
    · decide
    · decide

/-- The manual command is never undone: a second after it the level is still
low, the automation has ticked, and the relay is off. -/
theorem not_fillsWhenLow_after_switchFillOff :
    ¬ FillsWhenLow .textless (boot (.delivered 1))
      [.automation 1000, switchFillOff, .automation 2000] := by
  rintro ⟨-, -, h, -⟩
  have hon := h ⟨2000, rfl, by decide⟩ (by decide) ⟨by decide, by decide⟩
  exact absurd hon (by decide)

end Control
end ByteWaterlevel
