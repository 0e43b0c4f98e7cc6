import ByteWaterlevel.Control.Hysteresis
import ByteWaterlevel.Support.Chatter

/-!
# How often the fill relay is switched on

The hysteresis is there to keep the fill pump from starting again and again.
In a run that no API request disturbs, the starts of the pump are the closings
of the latch of `ByteWaterlevel.Control.Hysteresis`, and the levels that the
ticks read have to rise from `fillL` to `maxL` and to fall back from one start
to the next.  The way that the level covers bounds the number of starts.
-/

namespace ByteWaterlevel
namespace Control

open DeviceHandler AutomationHandler

variable (lib : ArduinoJson)

/-- The step, if it switches the fill relay on. -/
def fillStart (c : Control) (e : Event) : List Event :=
  if (c.device.slot .one).relay = false ∧
      ((step lib c e).device.slot .one).relay = true then [e]
  else []

/-- The number of steps of a run that switch the fill relay on. -/
def fillStarts (c : Control) (es : List Event) : ℕ :=
  (Machine.trace (step lib) (fillStart lib) c es).length

/-- The closings of the latch of the levels. -/
abbrev fillClosings (settings : Settings) : Bool → List ExtRat → ℕ :=
  SetReset.closings (· ≤ settings.fillL) (· < settings.maxL)

theorem tickLevel_cases (c : Control) (e : Event) :
    tickLevel c e = [] ∨ ∃ level, tickLevel c e = [level] := by
  cases e with
  | automation t =>
      by_cases hdue : Due t c.auto
      · exact Or.inr ⟨_, if_pos hdue⟩
      · exact Or.inl (if_neg hdue)
  | _ => exact Or.inl rfl

/-- A step switches the fill relay on as often as the level that it reads closes
the latch. -/
theorem fillStart_length
    {settings : Settings} {c : Control} {e : Event}
    (h : OwnsFill settings c) (he : Undisturbed lib e) :
    (fillStart lib c e).length =
      fillClosings settings c.auto.fillM (tickLevel c e) := by
  obtain ⟨hown, hlatch⟩ := step_latch h he
  have hbefore : (c.device.slot .one).relay = c.auto.fillM := by
    rw [h.2.2.2]
    rfl
  have hafter : ((step lib c e).device.slot .one).relay =
      (step lib c e).auto.fillM := by
    rw [hown.2.2.2]
    rfl
  rw [fillStart, hbefore, hafter, hlatch]
  rcases tickLevel_cases c e with hnone | ⟨level, hlevel⟩
  · have hkeep : ¬ (c.auto.fillM = false ∧
        Machine.run (nextFill settings) c.auto.fillM [] = true) := by
      rintro ⟨hoff, hon⟩
      rw [Machine.run_nil, hoff] at hon
      exact Bool.false_ne_true hon
    rw [hnone, if_neg hkeep]
    rfl
  · rw [hlevel, Machine.run_cons, Machine.run_nil]
    change _ = SetReset.closing _ _ _ level + 0
    rw [SetReset.closing]
    cases c.auto.fillM with
    | true => simp
    | false =>
        cases hnext : nextFill settings false level with
        | true => simp [hnext]
        | false => simp [hnext]

theorem fillStarts_eq_closings
    {settings : Settings} {c : Control} {es : List Event}
    (h : OwnsFill settings c) (hes : ∀ e ∈ es, Undisturbed lib e) :
    fillStarts lib c es =
      fillClosings settings c.auto.fillM (tickLevels lib c es) := by
  induction es generalizing c with
  | nil => rfl
  | cons e es ih =>
      rw [List.forall_mem_cons] at hes
      obtain ⟨hown, hlatch⟩ := step_latch h hes.1
      have hrest := ih hown hes.2
      rw [fillStarts, tickLevels] at hrest ⊢
      rw [Machine.trace, Machine.trace, List.length_append,
        fillStart_length lib h hes.1, hrest, hlatch]
      exact (SetReset.closings_append _ _ _ _ _).symm

/-- For every run from boot in mode 1 or 2 that no API request disturbs, with
any finite thresholds and any finite levels: the fill relay is switched on at
most once more often than the levels read by the ticks rise from `fillL` to
`maxL` and fall back, measured by the way that they cover.  The difference of
the natural numbers is cut at zero, for a run in which it is never switched
on. -/
theorem fill_starts_bounded_by_variation
    (lib : ArduinoJson) (settings : Settings) (es : List Event)
    (hmode : settings.mode = 1 ∨ settings.mode = 2)
    (hes : ∀ e ∈ es, Undisturbed lib e) (lo hi : ℚ)
    (hlo : settings.fillL = .fin lo) (hhi : settings.maxL = .fin hi)
    (levels : List ℚ)
    (hlevels : tickLevels lib (boot settings) es = levels.map .fin) :
    ((fillStarts lib (boot settings) es - 1 : ℕ) : ℚ) * (2 * (hi - lo)) ≤
      SetReset.variation levels := by
  rw [fillStarts_eq_closings lib (ownsFill_boot hmode) hes, hlevels,
    fillClosings, SetReset.closings_map]
  have hset : ∀ q ∈ levels, ExtRat.fin q ≤ settings.fillL → id q ≤ lo := by
    intro q _ hle
    rwa [hlo, ExtRat.fin_le_fin] at hle
  have hhold : ∀ q ∈ levels, ¬ ExtRat.fin q < settings.maxL → hi ≤ id q := by
    intro q _ hnot
    rw [hhi, ExtRat.fin_lt_fin] at hnot
    exact not_lt.mp hnot
  have hbound := SetReset.closings_sub_one_mul_le_variation hset hhold
  rw [List.map_id] at hbound
  exact hbound

/-- The level is 0, rises to 90 and falls to 0 again: two starts, and a way of
180 for the one band of 60 that lies between them. -/
theorem fill_starts_bounded_when_emptied :
    let es : List Event :=
      [.automation 1000, .scan 1500 (readingsAt 90), .automation 2000,
        .scan 2500 (readingsAt 0), .automation 3000]
    fillStarts .textless (boot (.delivered 2)) es = 2 ∧
      ((fillStarts .textless (boot (.delivered 2)) es - 1 : ℕ) : ℚ) *
          (2 * (80 - 20)) ≤
        SetReset.variation [0, 90, 0] := by
  refine ⟨by decide +kernel, ?_⟩
  refine fill_starts_bounded_by_variation .textless (.delivered 2) _
    (Or.inr rfl) ?_ 20 80 rfl rfl [0, 90, 0] (by decide +kernel)
  intro e he files amb json next heq
  subst heq
  simp at he

end Control
end ByteWaterlevel
