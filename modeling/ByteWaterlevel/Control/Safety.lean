import ByteWaterlevel.Control.Latch

/-!
# Overfill and dry-run safety

A tick leaves the fill relay on only if it has read a level below `maxL`, and
in mode 1 the pump relay only if it has read a level above `minL`.  Between
two executed ticks the relays can be switched on by API requests alone, so the
guarantee of the last tick holds until a request addresses the channel.
Levels and thresholds are arbitrary, `nan` included: every comparison with
`nan` is false, and a failed comparison switches off.
-/

namespace ByteWaterlevel
namespace Control

open DeviceHandler AutomationHandler WebHandler

/-- The event is an API request that calls `setRelais` on the channel. -/
def CallsSetRelais (lib : ArduinoJson) (ch : Channel) (e : Event) : Prop :=
  ∃ files amb json next r, e = .api files amb json next ∧
    relaisRequest lib amb files json = some r ∧
    r.channel.setWidth 8 = ch.number8

theorem relay_of_handleFill
    {c : Control}
    (h : ((handleFill c).device.slot .one).relay = true) :
    getLevelCached c.device < c.auto.maxL := by
  rcases handleFill_cases c with ⟨hmax, -⟩ | ⟨hmax, -⟩ | ⟨-, heq⟩
  · exact hmax
  · exact hmax
  · rw [heq] at h
    exact absurd h Bool.false_ne_true

/-- A tick in fill mode that leaves the fill relay on has read a level below
the maximum. -/
theorem level_lt_of_tick
    {t : ℕ} {c : Control} (hdue : Due t c.auto) (hmode : FillMode c.auto)
    (h : ((loop t c).device.slot .one).relay = true) :
    getLevelCached c.device < c.auto.maxL := by
  have hstamp : ((handleFill (stamp t c)).device.slot .one).relay = true →
      getLevelCached c.device < c.auto.maxL := relay_of_handleFill
  rcases loop_cases t c with ⟨hnot, -⟩ | ⟨-, -, heq⟩ | ⟨-, -, heq⟩ |
    ⟨-, h1, h2, -⟩ | ⟨-, h1, h2, -⟩
  · exact absurd hdue hnot
  · rw [heq, handlePump_eq] at h
    exact hstamp h
  · rw [heq] at h
    exact hstamp h
  · exact (hmode.elim h1 h2).elim
  · exact (hmode.elim h1 h2).elim

/-- A tick in mode 1 that leaves the pump relay on has read a level above the
minimum. -/
theorem level_gt_of_tick
    {t : ℕ} {c : Control} (hdue : Due t c.auto) (hmode : c.auto.mode = 1)
    (h : ((loop t c).device.slot .two).relay = true) :
    getLevelCached c.device > c.auto.minL := by
  rcases loop_cases t c with ⟨hnot, -⟩ | ⟨-, -, heq⟩ | ⟨-, h2, -⟩ |
    ⟨-, h1, -⟩ | ⟨-, h1, -⟩
  · exact absurd hdue hnot
  · have hread : getLevelCached (handleFill (stamp t c)).device >
        (handleFill (stamp t c)).auto.minL := by
      rw [heq, handlePump_eq] at h
      simpa [Slot.switched] using h
    obtain ⟨-, -, hmin, -, hlevel⟩ := handleFill_settings (stamp t c)
    rw [hlevel, hmin] at hread
    exact hread
  · exact absurd (hmode.symm.trans h2) (by decide)
  · exact absurd hmode h1
  · exact absurd hmode h1

/-- A step that is neither an executed tick nor a request for the channel
cannot switch its relay on. -/
theorem relay_of_step
    {lib : ArduinoJson} {c : Control} {e : Event} {ch : Channel}
    (hticks : ¬ Ticks c e) (hcalls : ¬ CallsSetRelais lib ch e)
    (h : ((step lib c e).device.slot ch).relay = true) :
    (c.device.slot ch).relay = true := by
  rcases e.kinds with hpassive | ⟨files, amb, json, next, rfl⟩ | ⟨t, rfl⟩ |
    ⟨t, rfl⟩
  · rwa [step_passive_slot lib c hpassive] at h
  · rcases step_api_cases lib c files amb json next with
      ⟨r, hrequest, heq⟩ | ⟨-, heq⟩ | ⟨-, -, heq⟩
    · have hne : r.channel.setWidth 8 ≠ ch.number8 := fun hch =>
        hcalls ⟨files, amb, json, next, r, rfl, hrequest, hch⟩
      rwa [heq, RelaisRequest.apply_slot_of_ne amb c.device hne] at h
    · rw [heq, boot_slot] at h
      exact absurd h Bool.false_ne_true
    · rwa [heq] at h
  · simp only [step, handleRelais_slot] at h
    split_ifs at h
    · exact absurd h Bool.false_ne_true
    · exact h
  · have hidle : loop t c = c :=
      loop_of_not_due fun hdue => hticks ⟨t, rfl, hdue⟩
    simpa only [step, hidle] using h

theorem relay_of_run
    {lib : ArduinoJson} {c : Control} {es : List Event} {ch : Channel}
    (hticks : Along lib (fun c e => ¬ Ticks c e) c es)
    (hcalls : ∀ e ∈ es, ¬ CallsSetRelais lib ch e)
    (h : ((run lib c es).device.slot ch).relay = true) :
    (c.device.slot ch).relay = true := by
  induction es generalizing c with
  | nil => exact h
  | cons e es ih =>
      have htail := ih hticks.2
        (fun e' he' => hcalls e' (List.mem_cons_of_mem e he')) h
      exact relay_of_step hticks.1 (hcalls e List.mem_cons_self) htail

/-- In every run from boot, with `t` the time of the last executed tick: a
relay that is on, and that no API request has addressed since, was allowed by
the level which that tick read. -/
theorem relay_on_allowed_by_last_tick
    (lib : ArduinoJson) (settings : Settings) (pre post : List Event) (t : ℕ)
    (hdue : Due t (run lib (boot settings) pre).auto)
    (hmode : FillMode (run lib (boot settings) pre).auto)
    (hlast : Along lib (fun c e => ¬ Ticks c e)
      (step lib (run lib (boot settings) pre) (.automation t)) post) :
    let c := run lib (boot settings) pre
    let c' := run lib (boot settings) (pre ++ .automation t :: post)
    ((∀ e ∈ post, ¬ CallsSetRelais lib .one e) →
        (c'.device.slot .one).relay = true →
        getLevelCached c.device < c.auto.maxL) ∧
      (c.auto.mode = 1 → (∀ e ∈ post, ¬ CallsSetRelais lib .two e) →
        (c'.device.slot .two).relay = true →
        getLevelCached c.device > c.auto.minL) := by
  intro c c'
  have hc' : c' = run lib (step lib c (.automation t)) post := by
    change run lib (boot settings) (pre ++ .automation t :: post) = _
    rw [run, Machine.run_append]
    rfl
  constructor
  · intro hcalls hon
    rw [hc'] at hon
    exact level_lt_of_tick hdue hmode (relay_of_run hlast hcalls hon)
  · intro hone hcalls hon
    rw [hc'] at hon
    exact level_gt_of_tick hdue hone (relay_of_run hlast hcalls hon)

/-- The tick at uptime 1000 reads the level 15 and switches both relays on;
half a second later they are on, and 15 lies between the thresholds. -/
theorem relay_on_allowed_at_level_fifteen :
    let c := run .textless (boot (.delivered 1)) [.scan 1000 (readingsAt 15)]
    getLevelCached c.device < c.auto.maxL ∧
      getLevelCached c.device > c.auto.minL := by
  have hquiet : ∀ ch, ∀ e ∈ [Event.poll 1500],
      ¬ CallsSetRelais .textless ch e := by
    rintro ch e he ⟨files, amb, json, next, r, rfl, -⟩
    simp at he
  have h := relay_on_allowed_by_last_tick .textless (.delivered 1)
    [.scan 1000 (readingsAt 15)] [.poll 1500] 1000 (by decide) (by decide)
    ⟨fun ⟨_, h, _⟩ => Event.noConfusion h, trivial⟩
  exact ⟨h.1 (hquiet .one) (by decide), h.2 (by decide) (hquiet .two) (by decide)⟩

end Control
end ByteWaterlevel
