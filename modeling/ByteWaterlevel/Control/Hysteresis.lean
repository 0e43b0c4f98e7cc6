import ByteWaterlevel.Control.Latch
import ByteWaterlevel.Support.SetReset

/-!
# The hysteresis of the fill relay

In modes 1 and 2 the automation is the only writer of the fill relay as long as
no API request switches a relay: no timer is ever armed, so no poll switches
anything.  Relay and latch are then one and the same variable, and it is a
set-reset latch of the levels that the executed ticks have read, set by a level
at or below `fillL` and held by a level below `maxL`.  The thresholds may stand
in any order, and levels and thresholds may be `nan`.
-/

namespace ByteWaterlevel
namespace Control

open DeviceHandler AutomationHandler WebHandler

/-- The event is no API request that switches a relay or restarts the device.
A restart begins a new run. -/
def Undisturbed (lib : ArduinoJson) (e : Event) : Prop :=
  ∀ files amb json next, e = .api files amb json next →
    relaisRequest lib amb files json = none ∧
      ¬ Restarts lib amb files json

/-- The level that a step reads if it is an executed tick. -/
def tickLevel (c : Control) : Event → List ExtRat
  | .automation t => if Due t c.auto then [getLevelCached c.device] else []
  | _ => []

/-- The levels read by the executed ticks of a run, in order. -/
def tickLevels (lib : ArduinoJson) (c : Control) (es : List Event) :
    List ExtRat :=
  Machine.trace (step lib) tickLevel c es

/-- The fill relay as a latch of the levels. -/
abbrev nextFill (settings : Settings) : Bool → ExtRat → Bool :=
  SetReset.next (· ≤ settings.fillL) (· < settings.maxL)

/-- The automation works with the given settings, in a mode that owns the fill
relay, and is the only one who has switched it. -/
def OwnsFill (settings : Settings) (c : Control) : Prop :=
  FillMode c.auto ∧ c.auto.maxL = settings.maxL ∧
    c.auto.fillL = settings.fillL ∧
    c.device.slot .one = .switched c.auto.fillM

theorem ownsFill_boot
    {settings : Settings} (hmode : settings.mode = 1 ∨ settings.mode = 2) :
    OwnsFill settings (boot settings) :=
  ⟨hmode, rfl, rfl, boot_slot settings .one⟩

/-- The fill decision is one step of the latch. -/
theorem handleFill_latch
    {settings : Settings} {c : Control} (h : OwnsFill settings c) :
    OwnsFill settings (handleFill c) ∧
      (handleFill c).auto.fillM =
        nextFill settings c.auto.fillM (getLevelCached c.device) := by
  obtain ⟨hmode, hmax, hfill, hslot⟩ := h
  rcases handleFill_cases c with
    ⟨hlt, -, hle, heq⟩ | ⟨hlt, hkeep, heq⟩ | ⟨hnot, heq⟩
  · rw [hmax] at hlt
    rw [hfill] at hle
    rw [heq]
    exact ⟨⟨hmode, hmax, hfill, rfl⟩, by simp [SetReset.next, hlt, hle]⟩
  · rw [hmax] at hlt
    rw [heq]
    refine ⟨⟨hmode, hmax, hfill, hslot⟩, ?_⟩
    rcases hkeep with hlatch | hnot
    · simp [SetReset.next, hlt, hlatch]
    · rw [hfill] at hnot
      simp [SetReset.next, hlt, hnot]
  · rw [hmax] at hnot
    rw [heq]
    exact ⟨⟨hmode, hmax, hfill, rfl⟩, by simp [SetReset.next, hnot]⟩

/-- An executed tick is one step of the latch. -/
theorem loop_latch
    {settings : Settings} {c : Control} (h : OwnsFill settings c) {t : ℕ}
    (hdue : Due t c.auto) :
    OwnsFill settings (loop t c) ∧
      (loop t c).auto.fillM =
        nextFill settings c.auto.fillM (getLevelCached c.device) := by
  have hstamp : OwnsFill settings (stamp t c) := h
  have hfill := handleFill_latch hstamp
  have hmode : FillMode c.auto := h.1
  rcases loop_cases t c with ⟨hnot, -⟩ | ⟨-, -, heq⟩ | ⟨-, -, heq⟩ |
    ⟨-, h1, h2, -⟩ | ⟨-, h1, h2, -⟩
  · exact absurd hdue hnot
  · rw [heq, handlePump_eq]
    exact hfill
  · rw [heq]
    exact hfill
  · exact (hmode.elim h1 h2).elim
  · exact (hmode.elim h1 h2).elim

/-- A step that is no executed tick changes neither relay nor latch. -/
theorem step_fill_of_not_ticks
    {lib : ArduinoJson} {settings : Settings} {c : Control} {e : Event}
    (h : OwnsFill settings c) (he : Undisturbed lib e) (hticks : ¬ Ticks c e) :
    (step lib c e).auto = c.auto ∧
      (step lib c e).device.slot .one = c.device.slot .one := by
  rcases e.kinds with hpassive | ⟨files, amb, json, next, rfl⟩ | ⟨t, rfl⟩ |
    ⟨t, rfl⟩
  · exact ⟨step_passive_auto lib c hpassive,
      step_passive_slot lib c hpassive .one⟩
  · obtain ⟨hnone, hrestarts⟩ := he files amb json next rfl
    rw [step_api, if_neg hrestarts, hnone]
    exact ⟨rfl, rfl⟩
  · refine ⟨rfl, ?_⟩
    have hnot : ¬ Expired t (c.device.slot .one).timer := by
      rw [h.2.2.2]
      exact not_expired_noTimer t
    rw [step, handleRelais_slot, if_neg hnot]
  · have hidle : loop t c = c :=
      loop_of_not_due fun hdue => hticks ⟨t, rfl, hdue⟩
    rw [step, hidle]
    exact ⟨rfl, rfl⟩

theorem tickLevel_of_not_ticks
    {c : Control} {e : Event} (h : ¬ Ticks c e) : tickLevel c e = [] := by
  cases e with
  | automation t => exact if_neg fun hdue => h ⟨t, rfl, hdue⟩
  | _ => rfl

/-- Every step acts on the latch as the levels that it reads. -/
theorem step_latch
    {lib : ArduinoJson} {settings : Settings} {c : Control} {e : Event}
    (h : OwnsFill settings c) (he : Undisturbed lib e) :
    OwnsFill settings (step lib c e) ∧
      (step lib c e).auto.fillM =
        Machine.run (nextFill settings) c.auto.fillM (tickLevel c e) := by
  by_cases hticks : Ticks c e
  · obtain ⟨t, rfl, hdue⟩ := hticks
    rw [tickLevel, if_pos hdue]
    exact loop_latch h hdue
  · obtain ⟨hauto, hslot⟩ := step_fill_of_not_ticks h he hticks
    rw [tickLevel_of_not_ticks hticks, OwnsFill, hauto, hslot]
    exact ⟨h, rfl⟩

/-- In a run from boot in mode 1 or 2 that no API request disturbs, the fill
relay is on exactly if one of the levels read so far was at or below `fillL`
and it and all later ones were below `maxL`.  Only executed ticks change the
relay. -/
theorem fill_relay_iff_levels
    (lib : ArduinoJson) (settings : Settings) (es : List Event)
    (hmode : settings.mode = 1 ∨ settings.mode = 2)
    (hes : ∀ e ∈ es, Undisturbed lib e) :
    let levels := tickLevels lib (boot settings) es
    (((run lib (boot settings) es).device.slot .one).relay = true ↔
        ∃ j, ∃ hj : j < levels.length, levels[j] ≤ settings.fillL ∧
          ∀ k, ∀ hk : k < levels.length, j ≤ k →
            levels[k] < settings.maxL) ∧
      Along lib
        (fun c e => ¬ Ticks c e →
          ((step lib c e).device.slot .one).relay =
            (c.device.slot .one).relay)
        (boot settings) es := by
  have hinv : Along lib
      (fun c e => OwnsFill settings c ∧ Undisturbed lib e)
      (boot settings) es :=
    Machine.along_of_invariant (fun c e h he => (step_latch h he).1)
      (ownsFill_boot hmode) (Machine.along_of_forall_mem fun _ => hes)
  have hlatch : (run lib (boot settings) es).auto.fillM =
      Machine.run (nextFill settings) false
        (tickLevels lib (boot settings) es) :=
    Machine.run_projection_along
      (π := fun c : Control => c.auto.fillM)
      (fun c e h => (step_latch h.1 h.2).2) hinv
  have hlast : OwnsFill settings (run lib (boot settings) es) :=
    Machine.run_invariant_along (fun c e _ h => (step_latch h.1 h.2).1)
      (ownsFill_boot hmode) hinv
  refine ⟨?_, ?_⟩
  · rw [hlast.2.2.2]
    change (run lib (boot settings) es).auto.fillM = true ↔ _
    rw [hlatch]
    exact SetReset.run_next_iff _ _ _
  · refine Machine.along_mono ?_ hinv
    rintro c e ⟨hown, hundisturbed⟩ hticks
    rw [(step_fill_of_not_ticks hown hundisturbed hticks).2]

/-- With the delivered thresholds, a tick at level 0 starts the fill, and the
tick at level 90 ends it. -/
theorem fill_relay_zero_then_ninety :
    ((run .textless (boot (.delivered 2)) [.automation 1000]).device.slot
        .one).relay = true ∧
      ((run .textless (boot (.delivered 2))
        [.automation 1000, .scan 1500 (readingsAt 90),
          .automation 2000]).device.slot .one).relay = false := by
  have hundisturbed : ∀ e ∈ ([.automation 1000, .scan 1500 (readingsAt 90),
      .automation 2000] : List Event), Undisturbed .textless e := by
    intro e he files amb json next heq
    subst heq
    simp at he
  constructor
  · refine (fill_relay_iff_levels .textless (.delivered 2) [.automation 1000]
      (Or.inr rfl) ?_).1.mpr ?_
    · intro e he
      exact hundisturbed e (by simp_all)
    · exact ⟨0, by decide, by decide, by decide⟩
  · rw [← Bool.not_eq_true]
    intro hon
    obtain ⟨j, hj, -, hheld⟩ := (fill_relay_iff_levels .textless (.delivered 2)
      _ (Or.inr rfl) hundisturbed).1.mp hon
    have hlength : j < 2 := hj
    exact absurd (hheld 1 (by decide) (by omega)) (by decide)

end Control
end ByteWaterlevel
