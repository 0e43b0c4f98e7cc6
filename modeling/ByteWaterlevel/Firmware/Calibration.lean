import ByteWaterlevel.Firmware.ColdStart
import ByteWaterlevel.Storage.Save

/-!
# The calibration of the level

The level is the position of the filtered voltage between the two calibration
voltages, in percent.  Both voltages come out of the configuration through the
loose conversion to a float, and neither the save nor the boot checks them.
With equal voltages the division is one by zero; a missing, empty or
non-numeric value counts as zero, so that an empty configuration is enough.
Voltages that single precision does not tell apart are equal as well.
`levelOf_defined_iff` says for which voltages the level is defined.
-/

namespace ByteWaterlevel

namespace DeviceHandler

/-- The span of the calibration is not zero, and the level is a number from 0
to 100. -/
def LevelDefined (d : State) : Prop :=
  d.maxV - d.minV ≠ .fin 0 ∧
    ∃ q : ℚ, getLevel d = .fin q ∧ 0 ≤ q ∧ q ≤ 100

/-- Without a finite lower voltage there is no level. -/
theorem levelOf_of_not_finite
    {minV : ExtRat} (h : ∀ lo, minV ≠ .fin lo) (maxV : ExtRat) (v : ℚ) :
    levelOf minV maxV (.fin v) = .nan := by
  cases minV with
  | fin lo => exact absurd rfl (h lo)
  | nan => cases maxV <;> rfl
  | negInf => cases maxV <;> rfl
  | posInf => cases maxV <;> rfl

/-- With an infinite upper voltage every voltage is at the level zero. -/
theorem levelOf_of_infinite
    {maxV : ExtRat} (h : maxV = .negInf ∨ maxV = .posInf) (lo v : ℚ) :
    levelOf (.fin lo) maxV (.fin v) = .fin 0 := by
  have hposition : (.fin v - .fin lo) / (maxV - .fin lo) * .fin 100 =
      ExtRat.fin 0 := by
    rcases h with rfl | rfl
    · exact congrArg ExtRat.fin (zero_mul 100)
    · exact congrArg ExtRat.fin (zero_mul 100)
  unfold levelOf
  rw [hposition]
  decide

/-- The calibrations with which the level of every voltage is defined. -/
theorem levelOf_defined_iff (minV maxV : ExtRat) (v : ℚ) :
    (maxV - minV ≠ .fin 0 ∧
        ∃ q : ℚ, levelOf minV maxV (.fin v) = .fin q ∧ 0 ≤ q ∧ q ≤ 100) ↔
      (∃ lo, minV = .fin lo) ∧ maxV ≠ .nan ∧ maxV ≠ minV := by
  by_cases hfinite : ∃ lo, minV = .fin lo
  · obtain ⟨lo, rfl⟩ := hfinite
    cases maxV with
    | nan =>
        refine iff_of_false ?_ fun h => h.2.1 rfl
        rintro ⟨-, q, hq, -⟩
        exact nomatch hq
    | negInf =>
        exact iff_of_true
          ⟨nofun, 0, levelOf_of_infinite (Or.inl rfl) lo v, le_refl 0,
            by norm_num⟩
          ⟨⟨lo, rfl⟩, nofun, nofun⟩
    | posInf =>
        exact iff_of_true
          ⟨nofun, 0, levelOf_of_infinite (Or.inr rfl) lo v, le_refl 0,
            by norm_num⟩
          ⟨⟨lo, rfl⟩, nofun, nofun⟩
    | fin hi =>
        by_cases heq : hi = lo
        · subst heq
          refine iff_of_false ?_ fun h => h.2.2 rfl
          rintro ⟨hspan, -⟩
          apply hspan
          rw [ExtRat.fin_sub_fin, sub_self]
        · refine iff_of_true ⟨?_, percent lo hi v, levelOf_fin_of_ne heq v,
            percent_mem lo hi v⟩ ⟨⟨lo, rfl⟩, nofun, ?_⟩
          · rw [ExtRat.fin_sub_fin]
            intro hzero
            exact sub_ne_zero.mpr heq (ExtRat.fin.inj hzero)
          · intro hsame
            exact heq (ExtRat.fin.inj hsame)
  · refine iff_of_false ?_ fun h => hfinite h.1
    rintro ⟨-, q, hq, -⟩
    rw [levelOf_of_not_finite (fun lo hlo => hfinite ⟨lo, hlo⟩)] at hq
    exact nomatch hq

end DeviceHandler

namespace Firmware

open DeviceHandler WebHandler

/-- The calibration voltages of the configuration, in single precision, are
different numbers, and the lower one is finite. -/
def Calibrated (lib : ArduinoJson) (config : Json) : Prop :=
  let calibration := config.get "calibration"
  let minV := (calibration.get "min").asFloat lib
  let maxV := (calibration.get "max").asFloat lib
  (∃ lo, minV = .fin lo) ∧ maxV ≠ .nan ∧ maxV ≠ minV

/-- The calibration in use, and that the filtered voltage is finite. -/
structure Measures (minV maxV : ExtRat) (fw : Firmware) : Prop where
  minV : fw.control.device.minV = minV
  maxV : fw.control.device.maxV = maxV
  voltage : ∃ v, fw.control.device.latestVoltage = .fin v

theorem measures_boot
    (lib : ArduinoJson) (io : BootInputs) (flash : LittleFS) :
    Measures
      (((bootConfig lib flash).get "calibration").get "min" |>.asFloat lib)
      (((bootConfig lib flash).get "calibration").get "max" |>.asFloat lib)
      (Main.setup lib io flash) := by
  have hboot := setup_control lib io flash
  constructor
  · rw [hboot]
    rfl
  · rw [hboot]
    rfl
  · refine ⟨0, ?_⟩
    rw [hboot]
    rfl

/-- Between two boots no step changes the calibration, and the filter stays
finite. -/
theorem measures_step
    (lib : ArduinoJson) (decimals : ExtRat → ℕ → String)
    {minV maxV : ExtRat} {fw : Firmware} {e : Event}
    (h : Measures minV maxV fw) (hrestart : ¬ RestartsDevice lib fw e) :
    Measures minV maxV (step lib decimals fw e) := by
  obtain ⟨hmin, hmax, v, hv⟩ := h
  have hkeeps : ∀ p : Pipeline, (step lib decimals fw e).pipeline = p →
      p.minV = fw.pipeline.minV → p.maxV = fw.pipeline.maxV →
      (∃ w, p.voltage = .fin w) →
      Measures minV maxV (step lib decimals fw e) := by
    rintro p rfl hmin' hmax' hvoltage
    exact ⟨hmin'.trans hmin, hmax'.trans hmax, hvoltage⟩
  rcases step_pipeline lib decimals hrestart with
    heq | heq | ⟨samples, -, heq⟩
  · exact hkeeps _ heq rfl rfl ⟨v, hv⟩
  · exact hkeeps _ heq rfl rfl ⟨v, hv⟩
  · exact hkeeps _ heq rfl rfl ⟨_, getADCValue_latestVoltage samples hv⟩

theorem Measures.levelDefined_iff
    {minV maxV : ExtRat} {fw : Firmware} (h : Measures minV maxV fw) :
    LevelDefined fw.control.device ↔
      (∃ lo, minV = .fin lo) ∧ maxV ≠ .nan ∧ maxV ≠ minV := by
  obtain ⟨hmin, hmax, v, hv⟩ := h
  rw [LevelDefined, getLevel, hmin, hmax, hv]
  exact levelOf_defined_iff minV maxV v

/-- For every configuration that the API saves and the device then boots with:
the level is defined in every state up to the next boot if and only if the
configuration is calibrated. -/
theorem levelDefined_throughout_iff
    (lib : ArduinoJson) (decimals : ExtRat → ℕ → String)
    (amb : Ambient) (json config : Json) (w : Server) (io : BootInputs)
    (hsave : IsSave json config) (hauth : Authorised amb w.files)
    (hboot : bootConfig lib (apiRoute lib amb json w).files.flash = config) :
    Acknowledged (apiRoute lib amb json w) ∧
      ((∀ es,
        Along lib decimals (fun fw e => ¬ RestartsDevice lib fw e)
          (Main.setup lib io (apiRoute lib amb json w).files.flash) es →
        LevelDefined (run lib decimals
          (Main.setup lib io (apiRoute lib amb json w).files.flash)
          es).control.device) ↔
        Calibrated lib config) := by
  have hmeasures := measures_boot lib io
    (apiRoute lib amb json w).files.flash
  rw [hboot] at hmeasures
  refine ⟨?_, ?_, ?_⟩
  · rw [apiRoute_save_of_authorised lib hsave hauth]
    exact ⟨_, _, List.mem_append_right _ (List.mem_singleton_self _)⟩
  · intro h
    exact hmeasures.levelDefined_iff.mp (h [] trivial)
  · intro hcalibrated es hes
    have hrun := Machine.run_invariant_along
      (fun _ _ hfw he => measures_step lib decimals hfw he) hmeasures hes
    exact hrun.levelDefined_iff.mpr hcalibrated

/-- The library on flashes that hold `tankConfig`. -/
def tankSaveLib : ArduinoJson :=
  { ArduinoJson.reading (tankText ++ "\r\n") tankConfig with
    serializeJson := (ArduinoJson.writing tankText).serializeJson }

/-- The calibration from 0 to 3 volts is saved and booted with. -/
theorem levelDefined_with_tankConfig :
    Calibrated tankSaveLib tankConfig ∧
      LevelDefined (Main.setup tankSaveLib (.plain false)
        (apiRoute tankSaveLib (.plain 1000) (savePayload tankConfig)
          { device := initialState, files := FileHandler.emptyState,
            responses := [], action := none }).files.flash).control.device := by
  have hcalibrated : Calibrated tankSaveLib tankConfig :=
    ⟨⟨0, by decide +kernel⟩, by decide +kernel, by decide +kernel⟩
  have h := levelDefined_throughout_iff tankSaveLib ExtRat.toFixed
    (.plain 1000) (savePayload tankConfig) tankConfig
    { device := initialState, files := FileHandler.emptyState,
      responses := [], action := none } (.plain false)
    (isSave_savePayload rfl) (by decide) rfl
  exact ⟨hcalibrated, h.2.mpr hcalibrated [] trivial⟩

/-- The empty object is accepted by the save.  The device boots with it, and
the level is not a number. -/
theorem not_levelDefined_with_empty_config :
    let w := apiRoute sampleLibrary (.plain 1000) (savePayload (.obj []))
      { device := initialState, files := FileHandler.emptyState,
        responses := [], action := none }
    Acknowledged w ∧ bootConfig sampleLibrary w.files.flash = .obj [] ∧
      ¬ LevelDefined (Main.setup sampleLibrary (.plain false)
        w.files.flash).control.device ∧
      getLevel (Main.setup sampleLibrary (.plain false)
        w.files.flash).control.device = .nan := by
  refine ⟨⟨_, _, List.mem_singleton_self _⟩, rfl, ?_, by decide +kernel⟩
  rintro ⟨hspan, -⟩
  exact hspan (by decide +kernel)

end Firmware
end ByteWaterlevel
