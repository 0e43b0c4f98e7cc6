import ByteWaterlevel.Lifecycle
import ByteWaterlevel.Storage.Save
import ByteWaterlevel.Support.TwoCopies

/-!
# Durability of the configuration

The configuration is kept in two copies: as a file and in memory.  A save
writes both, a reset by a request overwrites the file and restarts, and the
reset pin overwrites the file after the boot has loaded it.  On a flash whose
operations do not fail, these are the events of `TwoCopies`, and the closed
form of its runs says which configuration the device works with after an
arbitrary history of boots, saves, resets and restarts.
-/

namespace ByteWaterlevel
namespace Lifecycle

open WebHandler FileHandler

/-- Neither opening the two files nor writing the backup over the
configuration fails. -/
structure Reliable (backup : String) (fs : LittleFS) : Prop where
  configReadable : fs.readable configPath = true
  backupReadable : fs.readable backupPath = true
  configWritable : fs.writable configPath = true
  backupContent : fs.content backupPath = some backup
  backupFits : (backup ++ "\r\n").length ≤ fs.room configPath

/-- The document that the configuration file parses to. -/
def storedConfig (lib : ArduinoJson) (fs : LittleFS) : Json :=
  (lib.deserializeJson (readFile fs configPath)).doc

/-- The configuration that the first boot finds: that of the file, and that of
the backup if there is no file. -/
def initialConfig (lib : ArduinoJson) (backupConfig : Json) (fs : LittleFS) :
    Json :=
  match fs.content configPath with
  | some text => (lib.deserializeJson text).doc
  | none => backupConfig

/-! ## Writing to a reliable flash -/

theorem saveFile_content
    {backup : String} {fs : LittleFS} (h : Reliable backup fs)
    {text : String} (hfits : (text ++ "\r\n").length ≤ fs.room configPath) :
    (saveFile configPath text fs).content configPath =
      some (text ++ "\r\n") := by
  have htake : (text ++ "\r\n").toList.take (fs.room configPath) =
      (text ++ "\r\n").toList :=
    List.take_of_length_le (by rwa [String.length_toList])
  rw [saveFile, LittleFS.writeText_content_self, if_pos h.configWritable,
    htake, String.ofList_toList]

theorem reliable_saveFile
    {backup : String} {fs : LittleFS} (h : Reliable backup fs)
    (text : String) : Reliable backup (saveFile configPath text fs) where
  configReadable := by simpa [saveFile] using h.configReadable
  backupReadable := by simpa [saveFile] using h.backupReadable
  configWritable := by simpa [saveFile] using h.configWritable
  backupContent := by
    rw [saveFile, LittleFS.writeText_content_of_ne fs _ (by decide)]
    exact h.backupContent
  backupFits := by simpa [saveFile] using h.backupFits

theorem storedConfig_of_content
    {lib : ArduinoJson} {backup : String} {fs : LittleFS}
    (h : Reliable backup fs) {text : String}
    (hcontent : fs.content configPath = some text) :
    storedConfig lib fs = (lib.deserializeJson text).doc := by
  simp [storedConfig, readFile, LittleFS.openRead, h.configReadable, hcontent]

/-- A flash that is reliable and holds a configuration file. -/
def Installed (backup : String) (fs : LittleFS) : Prop :=
  Reliable backup fs ∧ fs.fileExists configPath = true

/-- Saving a text leaves a flash on which the text is the stored one. -/
theorem installed_saveFile
    (lib : ArduinoJson) {backup : String} {fs : LittleFS}
    (h : Reliable backup fs) {text : String}
    (hfits : (text ++ "\r\n").length ≤ fs.room configPath) :
    Installed backup (saveFile configPath text fs) ∧
      storedConfig lib (saveFile configPath text fs) =
        (lib.deserializeJson (text ++ "\r\n")).doc := by
  have hcontent := saveFile_content h hfits
  have hreliable := reliable_saveFile h text
  refine ⟨⟨hreliable, ?_⟩, storedConfig_of_content hreliable hcontent⟩
  simp [LittleFS.fileExists, hcontent]

/-- Copying the backup leaves a flash on which it is the stored one. -/
theorem installed_copyFile
    (lib : ArduinoJson) {backup : String} {fs : LittleFS}
    (h : Reliable backup fs) :
    Installed backup (copyFile backupPath configPath fs).2 ∧
      storedConfig lib (copyFile backupPath configPath fs).2 =
        (lib.deserializeJson (backup ++ "\r\n")).doc := by
  have hread : readFile fs backupPath = backup := by
    simp [readFile, LittleFS.openRead, h.backupReadable, h.backupContent]
  rw [copyFile, hread]
  exact installed_saveFile lib h h.backupFits

theorem initialConfig_of_installed
    {lib : ArduinoJson} {backup : String} {fs : LittleFS}
    (h : Installed backup fs) (backupConfig : Json) :
    initialConfig lib backupConfig fs = storedConfig lib fs := by
  obtain ⟨text, htext⟩ := Option.isSome_iff_exists.mp h.2
  rw [storedConfig_of_content h.1 htext, initialConfig, htext]

/-! ## Boots, saves and resets as events on the two copies -/

section

variable {lib : ArduinoJson} {decimals : ExtRat → ℕ → String}
  {backup : String} {backupConfig : Json}

/-- Loading installs a configuration file and takes its document. -/
theorem loadConfig_installed
    (hbackup : (lib.deserializeJson (backup ++ "\r\n")).doc = backupConfig)
    (files : FileHandler.State) (h : Reliable backup files.flash) :
    Installed backup (loadConfig lib files).flash ∧
      storedConfig lib (loadConfig lib files).flash =
        initialConfig lib backupConfig files.flash ∧
      (loadConfig lib files).config =
        initialConfig lib backupConfig files.flash := by
  by_cases hexists : files.flash.fileExists configPath = true
  · have hinstalled : Installed backup files.flash := ⟨h, hexists⟩
    have hload : loadConfig lib files =
        ⟨files.flash, storedConfig lib files.flash⟩ := by
      simp [loadConfig, hexists, storedConfig]
    rw [initialConfig_of_installed hinstalled, hload]
    exact ⟨hinstalled, rfl, rfl⟩
  · have hnone : files.flash.content configPath = none := by
      simpa [LittleFS.fileExists] using hexists
    obtain ⟨hinstalled, hstored⟩ := installed_copyFile lib h
    have hinitial : initialConfig lib backupConfig files.flash =
        backupConfig := by
      rw [initialConfig, hnone]
    have hload : loadConfig lib files =
        ⟨(copyFile backupPath configPath files.flash).2,
          storedConfig lib (copyFile backupPath configPath files.flash).2⟩ := by
      simp [loadConfig, hexists, storedConfig]
    rw [hinitial, hload]
    exact ⟨hinstalled, hstored.trans hbackup, hstored.trans hbackup⟩

/-- The two copies of the configuration. -/
def copies (lib : ArduinoJson) (files : FileHandler.State) :
    TwoCopies.Copies Json :=
  ⟨storedConfig lib files.flash, getConfig files⟩

/-- A boot loads the stored copy, and the reset pin then restores the file. -/
theorem copies_setup
    (hbackup : (lib.deserializeJson (backup ++ "\r\n")).doc = backupConfig)
    {flash : LittleFS} (h : Reliable backup flash) (io : BootInputs)
    (live : Json) :
    Installed backup (Main.setup lib io flash).files.flash ∧
      copies lib (Main.setup lib io flash).files =
        TwoCopies.step backupConfig
          ⟨initialConfig lib backupConfig flash, live⟩
          (.boot io.resetPin) := by
  obtain ⟨hinstalled, hstored, hconfig⟩ :=
    loadConfig_installed hbackup ⟨flash, .null⟩ h
  have hfiles : (Main.setup lib io flash).files =
      if io.resetPin then reset (loadConfig lib ⟨flash, .null⟩)
      else loadConfig lib ⟨flash, .null⟩ := rfl
  rw [hfiles]
  cases hpin : io.resetPin with
  | false =>
      simp only [Bool.false_eq_true, if_false, copies, TwoCopies.step,
        getConfig, hstored, hconfig]
      exact ⟨hinstalled, trivial⟩
  | true =>
      obtain ⟨hcopied, hrestored⟩ :=
        installed_copyFile lib hinstalled.1
      simp only [if_true, copies, TwoCopies.step, getConfig, reset,
        hrestored, hbackup, hconfig]
      exact ⟨hcopied, trivial⟩

/-- What an event means for the two copies. -/
def copyEvents (lib : ArduinoJson) (fw : Firmware) :
    Event → List (TwoCopies.Event Json)
  | .call (.api amb json reboot) =>
      match savedConfig lib amb fw.files json with
      | some config => [.save config]
      | none =>
          if Resets lib amb fw.files json then
            [.restore, .boot reboot.resetPin]
          else if Restarts lib amb fw.files json then
            [.boot reboot.resetPin]
          else []
  | .powerCycle io => [.boot io.resetPin]
  | _ => []

/-- If the event saves a configuration, its text fits on the flash and parses
to the configuration again. -/
def SaveSucceeds (lib : ArduinoJson) (fw : Firmware) (e : Event) : Prop :=
  ∀ config, saved lib fw e = some config →
    (lib.serializeJson config ++ "\r\n").length ≤
        fw.files.flash.room configPath ∧
      (lib.deserializeJson (lib.serializeJson config ++ "\r\n")).doc = config

theorem copies_storeConfig
    {files : FileHandler.State} (h : Installed backup files.flash)
    {config : Json}
    (hfits : (lib.serializeJson config ++ "\r\n").length ≤
      files.flash.room configPath)
    (hround : (lib.deserializeJson
      (lib.serializeJson config ++ "\r\n")).doc = config) :
    Installed backup (storeConfig lib config files).flash ∧
      copies lib (storeConfig lib config files) = ⟨config, config⟩ := by
  obtain ⟨hinstalled, hstored⟩ :=
    installed_saveFile lib h.1 hfits
  refine ⟨hinstalled, ?_⟩
  rw [hround] at hstored
  rw [copies]
  exact congrArg (fun stored => TwoCopies.Copies.mk stored config) hstored

/-- A boot on an installed flash. -/
theorem copies_reboot
    (hbackup : (lib.deserializeJson (backup ++ "\r\n")).doc = backupConfig)
    {files : FileHandler.State} (h : Installed backup files.flash)
    (io : BootInputs) :
    Installed backup (Main.setup lib io files.flash).files.flash ∧
      copies lib (Main.setup lib io files.flash).files =
        TwoCopies.step backupConfig (copies lib files)
          (.boot io.resetPin) := by
  have hsetup := copies_setup hbackup h.1 io (getConfig files)
  rwa [initialConfig_of_installed h] at hsetup

/-- A request that restarts the device restores the file first if it is a
reset. -/
theorem copies_restart
    (hbackup : (lib.deserializeJson (backup ++ "\r\n")).doc = backupConfig)
    {fw : Firmware} (h : Installed backup fw.files.flash) {amb : Ambient}
    {json : Json} (reboot : BootInputs)
    (hrestarts : Restarts lib amb fw.files json) :
    let flash := (apiRoute lib amb json fw.server).files.flash
    Installed backup (Main.setup lib reboot flash).files.flash ∧
      copies lib (Main.setup lib reboot flash).files =
        Machine.run (TwoCopies.step backupConfig) (copies lib fw.files)
          (copyEvents lib fw (.api amb json reboot)) := by
  have hnone : savedConfig lib amb fw.files json = none := by
    by_contra hsaved
    obtain ⟨config, hconfig⟩ := Option.ne_none_iff_exists'.mp hsaved
    exact not_restarts_of_savedConfig hconfig hrestarts
  have hfiles := apiRoute_files lib amb json fw.server
  simp only [Firmware.server_files, hnone] at hfiles
  dsimp only
  rw [hfiles]
  by_cases hresets : Resets lib amb fw.files json
  · obtain ⟨hinstalled, hstored⟩ := installed_copyFile lib h.1
    have hrestored : copies lib (reset fw.files) =
        TwoCopies.step backupConfig (copies lib fw.files) .restore := by
      rw [hbackup] at hstored
      exact congrArg
        (fun stored => TwoCopies.Copies.mk stored fw.files.config) hstored
    have hreset : Installed backup (reset fw.files).flash := hinstalled
    simp only [hresets, if_true, copyEvents, hnone, Machine.run_cons,
      Machine.run_nil, ← hrestored]
    exact copies_reboot hbackup hreset reboot
  · simp only [hresets, if_false, copyEvents, hnone, hrestarts, if_true,
      Machine.run_cons, Machine.run_nil]
    exact copies_reboot hbackup h reboot

/-- Every event acts on the two copies as what it means for them. -/
theorem step_copies
    (hbackup : (lib.deserializeJson (backup ++ "\r\n")).doc = backupConfig)
    {fw : Firmware} {e : Event} (h : Installed backup fw.files.flash)
    (hsave : SaveSucceeds lib fw e) :
    Installed backup (step lib decimals fw e).files.flash ∧
      copies lib (step lib decimals fw e).files =
        Machine.run (TwoCopies.step backupConfig) (copies lib fw.files)
          (copyEvents lib fw e) := by
  cases e with
  | page amb =>
      rw [step_page]
      exact ⟨h, rfl⟩
  | powerCycle io => exact copies_reboot hbackup h io
  | call e =>
      cases e with
      | api amb json reboot =>
          by_cases hrestarts : Restarts lib amb fw.files json
          · have hboot : nextBoot lib fw (.api amb json reboot) =
                some (reboot, (apiRoute lib amb json fw.server).files.flash) :=
              if_pos hrestarts
            rw [step_of_nextBoot lib decimals hboot]
            exact copies_restart hbackup h reboot hrestarts
          · have hresets : ¬ Resets lib amb fw.files json := fun hr =>
              hrestarts (restarts_of_resets hr)
            have hfiles :=
              (step_of_no_boot lib decimals (e := .api amb json reboot)
                (if_neg hrestarts)).2
            rw [hfiles, copyEvents]
            cases hsaved : savedConfig lib amb fw.files json with
            | none =>
                simp only [saved, hsaved, hresets, hrestarts, if_false]
                exact ⟨h, rfl⟩
            | some config =>
                obtain ⟨hfits, hround⟩ := hsave config hsaved
                simp only [saved, hsaved]
                exact copies_storeConfig h hfits hround
      | _ => exact ⟨h, rfl⟩

end

/-- The history of a device since its first boot, as events on the two
copies. -/
def history (lib : ArduinoJson) (decimals : ExtRat → ℕ → String)
    (io : BootInputs) (flash : LittleFS) (es : List Event) :
    List (TwoCopies.Event Json) :=
  .boot io.resetPin ::
    Machine.trace (step lib decimals) (copyEvents lib)
      (Main.setup lib io flash) es

/-- Take a device whose file system does not fail and whose backup holds
`backupConfig`.  After every history, the configuration it works with is the
one saved last since the last boot.  If there is none, it is the one that this
boot has loaded: that of the last save or reset before the boot, and without
one that of the file which the first boot found. -/
theorem config_of_last_writer
    (lib : ArduinoJson) (decimals : ExtRat → ℕ → String)
    (backup : String) (backupConfig : Json) (io : BootInputs)
    (flash : LittleFS) (es : List Event)
    (hflash : Reliable backup flash)
    (hbackup : lib.deserializeJson backup = ⟨backupConfig, false⟩)
    (hlineBreak : lib.deserializeJson (backup ++ "\r\n") =
      lib.deserializeJson backup)
    (hsaves : Along lib decimals (SaveSucceeds lib)
      (Main.setup lib io flash) es)
    (pre post : List (TwoCopies.Event Json)) (restoring : Bool)
    (hhistory : history lib decimals io flash es =
      pre ++ .boot restoring :: post)
    (hpost : ∀ e ∈ post, ¬ e.IsBoot) :
    getConfig (run lib decimals (Main.setup lib io flash) es).files =
      (TwoCopies.lastSaved post).getD
        ((TwoCopies.lastWritten backupConfig pre).getD
          (initialConfig lib backupConfig flash)) := by
  have hcopy : (lib.deserializeJson (backup ++ "\r\n")).doc =
      backupConfig := by
    rw [hlineBreak, hbackup]
  obtain ⟨hinstalled, hfirst⟩ := copies_setup hcopy hflash io .null
  have hsteps : Along lib decimals
      (fun fw e => Installed backup fw.files.flash ∧ SaveSucceeds lib fw e)
      (Main.setup lib io flash) es :=
    Machine.along_of_invariant
      (fun fw e h he => (step_copies hcopy h he).1) hinstalled hsaves
  have hrun : copies lib
      (run lib decimals (Main.setup lib io flash) es).files =
      Machine.run (TwoCopies.step backupConfig)
        ⟨initialConfig lib backupConfig flash, .null⟩
        (history lib decimals io flash es) := by
    rw [history, Machine.run_cons, ← hfirst]
    exact Machine.run_projection_along
      (π := fun fw : Firmware => copies lib fw.files)
      (fun fw e h => (step_copies hcopy h.1 h.2).2) hsteps
  have hlive := congrArg TwoCopies.Copies.live hrun
  rw [hhistory, TwoCopies.run_live backupConfig _ restoring hpost] at hlive
  exact hlive

/-- A flash without faults that holds only a backup, of the empty object. -/
def freshFlash : LittleFS :=
  { emptyState.flash with
    content := fun path =>
      if path = backupPath then some "\x7b\x7d" else none }

theorem reliable_freshFlash : Reliable "\x7b\x7d" freshFlash :=
  ⟨rfl, rfl, rfl, rfl, by decide +kernel⟩

/-- The request that saves `sampleConfig`. -/
def saveSample : Event :=
  .api (.plain 1000) (savePayload sampleConfig) (.plain true)

theorem saveSucceeds_saveSample :
    SaveSucceeds sampleLibrary
      (Main.setup sampleLibrary (.plain true) freshFlash) saveSample := by
  intro config hsaved
  obtain rfl : sampleConfig = config := Option.some.inj hsaved
  exact ⟨by decide +kernel, rfl⟩

/-- A fresh device, on which a configuration is saved and which then loses its
power, boots with the saved configuration. -/
theorem config_of_last_writer_power_cycle :
    getConfig (run sampleLibrary (fun _ _ => "")
      (Main.setup sampleLibrary (.plain true) freshFlash)
      [saveSample, .powerCycle (.plain true)]).files = sampleConfig := by
  refine config_of_last_writer sampleLibrary (fun _ _ => "") "\x7b\x7d"
    (.obj []) (.plain true) freshFlash
    [saveSample, .powerCycle (.plain true)] reliable_freshFlash rfl rfl
    ⟨saveSucceeds_saveSample, ?_, trivial⟩
    [.boot false, .save sampleConfig] [] false rfl (by simp)
  intro config hsaved
  exact absurd hsaved (by simp [saved])

end Lifecycle
end ByteWaterlevel
