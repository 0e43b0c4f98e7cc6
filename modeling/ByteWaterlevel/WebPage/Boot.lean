import ByteWaterlevel.Main
import ByteWaterlevel.WebPage.RoundTrip

/-!
# Booting with the configuration that was sent back

The setup functions read nothing out of the configuration but the settings of
`deviceSettings`, so two complete configurations that are read alike boot to
the same device, apart from the files.  What the page sends back is complete
again.  A save without an edit that keeps the mode is therefore one that the
next boot does not notice.
-/

namespace ByteWaterlevel
namespace WebPage

open Json

section

variable {lib : ArduinoJson} {config config' : Json}

/-! ## The settings one by one -/

theorem ReadsSame.asString
    (h : ReadsSame lib config config') (path : List String)
    (hmem : (path, Kind.string) ∈ deviceSettings) :
    (getPath path config').asString lib = (getPath path config).asString lib :=
  Reading.string.inj (h _ hmem)

theorem ReadsSame.asBool
    (h : ReadsSame lib config config') (path : List String)
    (hmem : (path, Kind.bool) ∈ deviceSettings) :
    (getPath path config').asBool = (getPath path config).asBool :=
  Reading.bool.inj (h _ hmem)

theorem ReadsSame.asInt
    (h : ReadsSame lib config config') (path : List String)
    (hmem : (path, Kind.int) ∈ deviceSettings) :
    (getPath path config').asInt lib = (getPath path config).asInt lib :=
  Reading.int.inj (h _ hmem)

theorem ReadsSame.asFloat
    (h : ReadsSame lib config config') (path : List String)
    (hmem : (path, Kind.float) ∈ deviceSettings) :
    (getPath path config').asFloat lib = (getPath path config).asFloat lib :=
  Reading.float.inj (h _ hmem)

/-- No setting of a complete configuration is null. -/
theorem Complete.isNull
    (h : Complete config) (path : List String) (kind : Kind)
    (hmem : (path, kind) ∈ deviceSettings) :
    (getPath path config).isNull = false := by
  have hholds : kind.holds (getPath path config) = true := h _ hmem
  cases hvalue : getPath path config with
  | null =>
      rw [hvalue, Kind.holds_null] at hholds
      exact absurd hholds Bool.false_ne_true
  | _ => rfl

/-! ## The setup functions -/

theorem ReadsSame.settings
    (h : ReadsSame lib config config') (displayBegins : Bool) :
    Firmware.settings lib config' displayBegins =
      Firmware.settings lib config displayBegins := by
  have hled := h.asBool ["hardware", "led"] (by decide +kernel)
  have holed := h.asBool ["hardware", "oled"] (by decide +kernel)
  have hmaxV := h.asFloat ["calibration", "max"] (by decide +kernel)
  have hminV := h.asFloat ["calibration", "min"] (by decide +kernel)
  have hvolume := h.asFloat ["calibration", "volume"] (by decide +kernel)
  have hmode := h.asInt ["auto", "mode"] (by decide +kernel)
  have hmaxL := h.asFloat ["auto", "max"] (by decide +kernel)
  have hminL := h.asFloat ["auto", "min"] (by decide +kernel)
  have hfillL := h.asFloat ["auto", "fill"] (by decide +kernel)
  simp only [getPath] at hled holed hmaxV hminV hvolume hmode hmaxL hminL hfillL
  simp only [Firmware.settings, hled, holed, hmaxV, hminV, hvolume, hmode,
    hmaxL, hminL, hfillL]

theorem ReadsSame.ota_setup
    (h : ReadsSame lib config config') (s : OTAHandler.State) :
    OTAHandler.setup lib config' s = OTAHandler.setup lib config s := by
  have hota := h.asBool ["ota"] (by decide +kernel)
  have hssid := h.asString ["wifi", "ap", "ssid"] (by decide +kernel)
  have hstate := h.asBool ["admin", "state"] (by decide +kernel)
  have hpassword := h.asString ["admin", "password"] (by decide +kernel)
  simp only [getPath] at hota hssid hstate hpassword
  simp only [OTAHandler.setup, hota, hssid, hstate, hpassword]

theorem ReadsSame.mqtt_setup
    (h : ReadsSame lib config config') (t : ℕ) (s : MQTTHandler.State) :
    MQTTHandler.setup lib config' t s = MQTTHandler.setup lib config t s := by
  have hstate := h.asBool ["mqtt", "state"] (by decide +kernel)
  have hhost := h.asString ["mqtt", "host"] (by decide +kernel)
  have huser := h.asString ["mqtt", "user"] (by decide +kernel)
  have hpassword := h.asString ["mqtt", "password"] (by decide +kernel)
  have hport := h.asInt ["mqtt", "port"] (by decide +kernel)
  simp only [getPath] at hstate hhost huser hpassword hport
  simp only [MQTTHandler.setup, hstate, hhost, huser, hpassword, hport]

/-- In a complete configuration the station can be used as soon as it has a
name. -/
theorem Complete.isWiFiClientUsable (lib : ArduinoJson) (h : Complete config) :
    WiFiHandler.isWiFiClientUsable lib config =
      !((getPath ["wifi", "client", "ssid"] config).asString lib).isEmpty := by
  have hssid := h.isNull ["wifi", "client", "ssid"] .string (by decide +kernel)
  have hpassword :=
    h.isNull ["wifi", "client", "password"] .string (by decide +kernel)
  have hwifi : (config.get "wifi").isNull = false := by
    cases hvalue : config.get "wifi" with
    | null =>
        simp only [getPath, hvalue] at hssid
        exact hssid
    | _ => rfl
  simp only [getPath] at hssid hpassword ⊢
  simp only [WiFiHandler.isWiFiClientUsable, hssid, hpassword, hwifi,
    Bool.not_false, Bool.true_and, Bool.and_true]

/-- The WiFi handler also tests whether its settings are there. -/
theorem ReadsSame.wifi_setup
    (h : ReadsSame lib config config') (hcomplete : Complete config)
    (hcomplete' : Complete config') (t : ℕ) (connected : Bool)
    (s : WiFiHandler.State) :
    WiFiHandler.setup lib config' t connected s =
      WiFiHandler.setup lib config t connected s := by
  have hclient := h.asString ["wifi", "client", "ssid"] (by decide +kernel)
  have husable : WiFiHandler.isWiFiClientUsable lib config' =
      WiFiHandler.isWiFiClientUsable lib config := by
    rw [hcomplete.isWiFiClientUsable, hcomplete'.isWiFiClientUsable, hclient]
  have hclientPassword :=
    h.asString ["wifi", "client", "password"] (by decide +kernel)
  have hap := h.asString ["wifi", "ap", "ssid"] (by decide +kernel)
  have hapPassword := h.asString ["wifi", "ap", "password"] (by decide +kernel)
  simp only [getPath] at hclient hclientPassword hap hapPassword
  simp only [WiFiHandler.setup, WiFiHandler.startAP, husable, hclient,
    hclientPassword, hap, hapPassword]

end

/-! ## The boot -/

/-- The firmware is in the same state, apart from its files. -/
def SameUpToFiles (fw fw' : Firmware) : Prop :=
  fw' = { fw with files := fw'.files }

/-- Two flashes with complete configurations that are read alike boot to the
same device. -/
theorem setup_of_readsSame
    (lib : ArduinoJson) (io : BootInputs) {flash flash' : LittleFS}
    (hcomplete : Complete (Firmware.bootConfig lib flash))
    (hcomplete' : Complete (Firmware.bootConfig lib flash'))
    (h : ReadsSame lib (Firmware.bootConfig lib flash)
      (Firmware.bootConfig lib flash')) :
    SameUpToFiles (Main.setup lib io flash) (Main.setup lib io flash') := by
  have hcontrol : (Main.setup lib io flash').control =
      (Main.setup lib io flash).control := by
    rw [Firmware.setup_control, Firmware.setup_control, h.settings]
  have hwifi : (Main.setup lib io flash').wifi =
      (Main.setup lib io flash).wifi := by
    rw [Firmware.setup_wifi, Firmware.setup_wifi,
      h.wifi_setup hcomplete hcomplete']
  have hmqtt : (Main.setup lib io flash').mqtt =
      (Main.setup lib io flash).mqtt := by
    rw [Firmware.setup_mqtt, Firmware.setup_mqtt, h.mqtt_setup]
  have hota : (Main.setup lib io flash').ota =
      (Main.setup lib io flash).ota := by
    rw [Firmware.setup_ota, Firmware.setup_ota, h.ota_setup]
  rw [SameUpToFiles, ← hcontrol, ← hwifi, ← hmqtt, ← hota]

/-- A save that was sent without an edit and is installed is not noticed by the
next boot, unless it is the first button's and the mode does not survive. -/
theorem setup_of_sentBack
    {lib : ArduinoJson} {browser : Browser} {flash flash' : LittleFS}
    (amb : Ambient) (io : BootInputs) {type : ℕ}
    (htype : type ∈ buttons)
    (hcomplete : Complete (Firmware.bootConfig lib flash))
    (hkept : ∀ setting ∈ deviceSettings, NumberKept lib browser
      (getPath setting.1 (Firmware.bootConfig lib flash)))
    (hzero : lib.parseNumber "0" = .fin 0)
    (hmode : type = 1 → ModeSurvives lib (Firmware.bootConfig lib flash))
    (hsaved : Firmware.bootConfig lib flash' =
      sentBack browser amb type (Firmware.bootConfig lib flash)) :
    SameUpToFiles (Main.setup lib io flash) (Main.setup lib io flash') := by
  have hcomplete' : Complete (Firmware.bootConfig lib flash') := by
    rw [hsaved]
    exact complete_sentBack browser amb htype hcomplete hkept
  have hsame : ReadsSame lib (Firmware.bootConfig lib flash)
      (Firmware.bootConfig lib flash') := by
    rw [hsaved]
    exact readsSame_of_modeSurvives browser amb htype hcomplete hkept hzero
      hmode
  exact setup_of_readsSame lib io hcomplete hcomplete' hsame

end WebPage
end ByteWaterlevel
