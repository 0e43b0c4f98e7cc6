import ByteWaterlevel.Lifecycle.Authentication
import ByteWaterlevel.Storage.Save

/-!
# The OTA password and the admin password

The web server compares credentials with the configuration in memory, at every
request.  The OTA server is given its password once, at boot.  The two agree
until a configuration is saved that asks for authentication with another
password than the one of the boot, or with one where the boot had set none.
-/

namespace ByteWaterlevel
namespace Lifecycle

open WebHandler FileHandler

/-- The configuration asks for authentication. -/
def AsksForAuth (config : Json) : Prop :=
  ((config.get "admin").get "state").asBool = true

instance (config : Json) : Decidable (AsksForAuth config) :=
  inferInstanceAs (Decidable (_ = _))

/-- The admin password of a configuration, as the OTA server would get it. -/
def adminPassword (lib : ArduinoJson) (config : Json) : String :=
  ((config.get "admin").get "password").asString lib

/-- If the OTA server runs and the configuration asks for authentication, the
OTA password is the admin password. -/
def OtaAgrees (lib : ArduinoJson) (fw : Firmware) : Prop :=
  fw.ota.otaEnabled = true → AsksForAuth (getConfig fw.files) →
    fw.ota.password = some (adminPassword lib (getConfig fw.files))

/-- The event does not save, while the OTA server runs, a configuration that
asks for authentication with another password than the OTA server has. -/
def SavesOnlyOtaPassword (lib : ArduinoJson) (fw : Firmware) (e : Event) : Prop :=
  ∀ config, saved lib fw e = some config → fw.ota.otaEnabled = true →
    AsksForAuth config → fw.ota.password = some (adminPassword lib config)

/-- At boot the two passwords agree. -/
theorem otaAgrees_setup
    (lib : ArduinoJson) (io : BootInputs) (flash : LittleFS) :
    OtaAgrees lib (Main.setup lib io flash) := by
  intro henabled hauth
  have hconfig : getConfig (Main.setup lib io flash).files =
      Firmware.bootConfig lib flash := Firmware.setup_config lib io flash
  rw [hconfig] at hauth ⊢
  rw [Firmware.setup_ota] at henabled ⊢
  unfold AsksForAuth at hauth
  unfold OTAHandler.setup at henabled ⊢
  split_ifs at henabled ⊢ with hota
  · simp only [hauth]
    rfl
  · exact absurd henabled (by simp [OTAHandler.initialState])

/-- A step from a state with agreeing passwords ends in one exactly if it saves
no configuration with another password. -/
theorem otaAgrees_step_iff
    (lib : ArduinoJson) (decimals : ExtRat → ℕ → String) (fw : Firmware)
    (e : Event) (h : OtaAgrees lib fw) :
    OtaAgrees lib (step lib decimals fw e) ↔ SavesOnlyOtaPassword lib fw e := by
  cases hboot : nextBoot lib fw e with
  | some boot =>
      obtain ⟨io, flash⟩ := boot
      rw [step_of_nextBoot lib decimals hboot]
      refine iff_of_true (otaAgrees_setup lib io flash) ?_
      intro config hsaved
      exact absurd (hboot.symm.trans (nextBoot_of_saved hsaved)) (by simp)
  | none =>
      obtain ⟨hota, hfiles⟩ := step_of_no_boot lib decimals hboot
      unfold OtaAgrees SavesOnlyOtaPassword
      rw [hota, hfiles]
      cases hsaved : saved lib fw e with
      | none => simpa [OtaAgrees] using h
      | some config =>
          simp only [Option.some.injEq, forall_eq']
          rfl

/-- In every life of a device, whatever is saved and however often it boots,
the OTA password is the admin password in every state exactly if every
configuration that is saved while the OTA server runs, and that asks for
authentication, has the password which the OTA server was given at boot. -/
theorem otaAgrees_throughout_iff
    (lib : ArduinoJson) (decimals : ExtRat → ℕ → String) (io : BootInputs)
    (flash : LittleFS) (es : List Event) :
    Machine.Always (step lib decimals) (OtaAgrees lib)
        (Main.setup lib io flash) es ↔
      Along lib decimals (SavesOnlyOtaPassword lib)
        (Main.setup lib io flash) es :=
  Machine.always_iff_along (otaAgrees_step_iff lib decimals)
    (otaAgrees_setup lib io flash) es

/-- The library on a flash that holds `sampleConfig`, and when it writes
`lockedConfig`. -/
def otaLibrary : ArduinoJson :=
  { ArduinoJson.reading sampleText sampleConfig with
    serializeJson := (ArduinoJson.writing lockedText).serializeJson }

/-- The device boots with the OTA server on and without authentication, and
then a configuration with authentication is saved.  The OTA server goes on
without a password. -/
theorem not_otaAgrees_after_save :
    ¬ Machine.Always (step otaLibrary fun _ _ => "") (OtaAgrees otaLibrary)
      (Main.setup otaLibrary (.plain true) (flashWith sampleText))
      [.api (.plain 1000) (savePayload lockedConfig) (.plain true)] := by
  intro h
  have hlast := h _ (List.prefix_refl _)
  have hpassword := hlast (by decide +kernel) (by decide +kernel)
  exact absurd hpassword (by decide +kernel)

end Lifecycle
end ByteWaterlevel
