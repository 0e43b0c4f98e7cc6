import ByteWaterlevel.Storage

/-!
# Recovery of the configuration at boot

`loadConfig` installs the backup if there is no configuration file, and then
takes whatever the parser leaves behind.  A file that exists but does not
parse is not replaced by the backup, and neither is one that does not open.
The boot recovers exactly if the file opens and parses to an object, or there
is none and the whole backup can be copied; apart from the accident that a
parse error leaves just the object of the backup behind.

The laws of the parser that are used: a line break after the backup makes no
difference, and an empty text leaves no object behind.
-/

namespace ByteWaterlevel
namespace FileHandler

/-- The text parses to an object. -/
def ParsesToObject (lib : ArduinoJson) (text : String) (config : Json) :
    Prop :=
  lib.deserializeJson text = ⟨config, false⟩ ∧ config.isObject = true

/-- The parser rejects the text and leaves `config` behind. -/
def LeavesBehind (lib : ArduinoJson) (text : String) (config : Json) : Prop :=
  (lib.deserializeJson text).error = true ∧
    (lib.deserializeJson text).doc = config

/-- The object that the configuration file parses to, and that of the backup
if the file does not parse to an object. -/
def IsBootConfig (lib : ArduinoJson) (backupConfig : Json) (fs : LittleFS)
    (config : Json) : Prop :=
  (∃ text, fs.content configPath = some text ∧
      ParsesToObject lib text config) ∨
    ((∀ text, fs.content configPath = some text →
        ∀ object, ¬ ParsesToObject lib text object) ∧
      config = backupConfig)

/-- After `loadConfig` the configuration in memory is the right object. -/
def Recovers (lib : ArduinoJson) (backupConfig : Json) (files : State) :
    Prop :=
  (loadConfig lib files).config.isObject = true ∧
    IsBootConfig lib backupConfig files.flash (loadConfig lib files).config

/-- The backup file holds a text that parses to the object `config`, also with
a line break or a part of it after the text. -/
def BackupHolds (lib : ArduinoJson) (fs : LittleFS) (backup : String)
    (config : Json) : Prop :=
  fs.content backupPath = some backup ∧ config.isObject = true ∧
    ∀ suffix ∈ ["", "\r", "\r\n"],
      lib.deserializeJson (backup ++ suffix) = ⟨config, false⟩

/-- An empty text, or one of a line break, leaves no object behind. -/
def BlankIsNoObject (lib : ArduinoJson) : Prop :=
  ∀ text ∈ ["", "\r", "\r\n"],
    (lib.deserializeJson text).doc.isObject = false

section

variable {lib : ArduinoJson} {backupConfig : Json} {files : State}

/-- A file that exists and opens is parsed as it is. -/
theorem loadConfig_of_present
    {text : String} (h : files.flash.content configPath = some text)
    (hopen : files.flash.readable configPath = true) :
    (loadConfig lib files).config = (lib.deserializeJson text).doc := by
  simp [loadConfig, LittleFS.fileExists, h, readFile, LittleFS.openRead,
    hopen]

/-- A file that does not open is read as an empty text. -/
theorem loadConfig_of_not_readable
    (h : files.flash.readable configPath = false) :
    (loadConfig lib files).config = (lib.deserializeJson "").doc := by
  have hread : ∀ fs : LittleFS, fs.readable configPath = false →
      readFile fs configPath = "" := by
    intro fs hfs
    simp [readFile, LittleFS.openRead, hfs]
  have hcopy : (copyFile backupPath configPath files.flash).2.readable
      configPath = false := by
    simpa [copyFile, saveFile] using h
  unfold loadConfig
  dsimp only
  split_ifs
  · rw [hread _ h]
  · rw [hread _ hcopy]

/-- Without a file, what is parsed is the copy of the backup. -/
theorem loadConfig_of_absent
    (h : files.flash.content configPath = none)
    (hopen : files.flash.readable configPath = true) :
    (loadConfig lib files).config =
      (lib.deserializeJson
        (if files.flash.writable configPath = true then
          String.ofList ((readFile files.flash backupPath ++
            "\r\n").toList.take (files.flash.room configPath))
        else "")).doc := by
  have hcontent := LittleFS.writeText_content_self files.flash configPath
    (readFile files.flash backupPath ++ "\r\n")
  have hread : readFile (copyFile backupPath configPath files.flash).2
      configPath =
      (if files.flash.writable configPath = true then
        String.ofList ((readFile files.flash backupPath ++
          "\r\n").toList.take (files.flash.room configPath))
      else "") := by
    simp only [readFile, LittleFS.openRead, copyFile, saveFile,
      LittleFS.writeText_readable, hopen, if_true] at hcontent ⊢
    rw [hcontent, h]
    split_ifs <;> rfl
  rw [← hread]
  simp [loadConfig, LittleFS.fileExists, h]

theorem not_recovers_of_not_isObject
    (h : (loadConfig lib files).config.isObject = false) :
    ¬ Recovers lib backupConfig files := by
  rintro ⟨hobject, -⟩
  rw [h] at hobject
  exact absurd hobject Bool.false_ne_true

/-- With a file that opens, the boot recovers if the file parses to an object,
or if the parser accidentally leaves the object of the backup behind. -/
theorem recovers_iff_of_present
    (hbackup : backupConfig.isObject = true) {text : String}
    (h : files.flash.content configPath = some text)
    (hopen : files.flash.readable configPath = true) :
    Recovers lib backupConfig files ↔
      (∃ object, ParsesToObject lib text object) ∨
        LeavesBehind lib text backupConfig := by
  rw [Recovers, loadConfig_of_present h hopen, IsBootConfig, h]
  simp only [Option.some.injEq, exists_eq_left', forall_eq']
  constructor
  · rintro ⟨-, hparses | ⟨hnot, hdoc⟩⟩
    · exact Or.inl ⟨_, hparses⟩
    · right
      refine ⟨?_, hdoc⟩
      by_contra herror
      apply hnot backupConfig
      refine ⟨?_, hbackup⟩
      rw [← hdoc, ← Bool.eq_false_of_not_eq_true herror]
  · rintro (⟨object, hparse, hobject⟩ | ⟨herror, hdoc⟩)
    · rw [hparse]
      exact ⟨hobject, Or.inl ⟨hparse, hobject⟩⟩
    · rw [hdoc]
      refine ⟨hbackup, Or.inr ⟨?_, rfl⟩⟩
      rintro object ⟨hparse, -⟩
      rw [hparse] at herror
      exact absurd herror Bool.false_ne_true

/-- Without a file, the boot recovers if the copy of the backup parses to the
object of the backup. -/
theorem recovers_iff_of_absent
    (hbackup : backupConfig.isObject = true)
    (h : files.flash.content configPath = none) :
    Recovers lib backupConfig files ↔
      (loadConfig lib files).config = backupConfig := by
  rw [Recovers, IsBootConfig, h]
  simp only [reduceCtorEq, false_and, exists_false, false_or,
    false_implies, implies_true, true_and]
  constructor
  · exact And.right
  · intro hconfig
    rw [hconfig]
    exact ⟨hbackup, rfl⟩

end

/-- No object equals what a blank text leaves behind. -/
theorem ne_of_blank
    {lib : ArduinoJson} (hblank : BlankIsNoObject lib) {config : Json}
    (hobject : config.isObject = true) {text : String}
    (htext : text ∈ ["", "\r", "\r\n"]) :
    (lib.deserializeJson text).doc ≠ config := by
  intro hdoc
  have hnot := hblank text htext
  rw [hdoc, hobject] at hnot
  exact absurd hnot.symm Bool.false_ne_true

/-- The copy of the backup on a flash with faults parses to the object of the
backup if it is complete. -/
theorem copied_backup_iff
    {lib : ArduinoJson} {fs : LittleFS} {backup : String} {config : Json}
    (hbackup : BackupHolds lib fs backup config)
    (hblank : BlankIsNoObject lib) :
    (lib.deserializeJson
        (if fs.writable configPath = true then
          String.ofList ((readFile fs backupPath ++ "\r\n").toList.take
            (fs.room configPath))
        else "")).doc = config ↔
      fs.writable configPath = true ∧ fs.readable backupPath = true ∧
        (backup.length ≤ fs.room configPath ∨
          (lib.deserializeJson (String.ofList (backup.toList.take
            (fs.room configPath)))).doc = config) := by
  obtain ⟨hcontent, hobject, hsuffix⟩ := hbackup
  by_cases hwritable : fs.writable configPath = true
  · rw [if_pos hwritable]
    by_cases hreadable : fs.readable backupPath = true
    · have hread : readFile fs backupPath = backup := by
        simp [readFile, LittleFS.openRead, hreadable, hcontent]
      rw [hread]
      by_cases hfits : backup.length ≤ fs.room configPath
      · obtain ⟨suffix, hmem, htake⟩ := take_line_of_le backup hfits
        rw [htake, hsuffix suffix hmem]
        exact iff_of_true rfl ⟨hwritable, hreadable, Or.inl hfits⟩
      · rw [take_line_of_lt (Nat.lt_of_not_le hfits)]
        simp [hwritable, hreadable, hfits]
    · have hread : readFile fs backupPath = "" := by
        simp [readFile, LittleFS.openRead, hreadable]
      obtain ⟨suffix, hmem, htake⟩ :=
        take_line_of_le "" (Nat.zero_le (fs.room configPath))
      rw [hread, htake, String.empty_append]
      exact iff_of_false (ne_of_blank hblank hobject hmem)
        fun h => hreadable h.2.1
  · rw [if_neg hwritable]
    exact iff_of_false (ne_of_blank hblank hobject (by simp))
      fun h => hwritable h.1

/-- The boot recovers exactly if the configuration file opens, and either
exists and parses to an object, or does not exist and the backup can be read
and copied completely; or if a parse error leaves the object of the backup
behind. -/
theorem recovers_iff
    (lib : ArduinoJson) (backup : String) (backupConfig : Json)
    (files : State)
    (hbackup : BackupHolds lib files.flash backup backupConfig)
    (hblank : BlankIsNoObject lib) :
    Recovers lib backupConfig files ↔
      files.flash.readable configPath = true ∧
        ((∃ text, files.flash.content configPath = some text ∧
            ((∃ object, ParsesToObject lib text object) ∨
              LeavesBehind lib text backupConfig)) ∨
          (files.flash.content configPath = none ∧
            files.flash.writable configPath = true ∧
            files.flash.readable backupPath = true ∧
            (backup.length ≤ files.flash.room configPath ∨
              (lib.deserializeJson (String.ofList (backup.toList.take
                (files.flash.room configPath)))).doc = backupConfig))) := by
  have hobject : backupConfig.isObject = true := hbackup.2.1
  by_cases hopen : files.flash.readable configPath = true
  · cases hcontent : files.flash.content configPath with
    | some text =>
        rw [recovers_iff_of_present hobject hcontent hopen]
        simp [hopen]
    | none =>
        rw [recovers_iff_of_absent hobject hcontent,
          loadConfig_of_absent hcontent hopen,
          copied_backup_iff hbackup hblank]
        simp [hopen]
  · refine iff_of_false (not_recovers_of_not_isObject ?_) fun h => hopen h.1
    rw [loadConfig_of_not_readable (Bool.eq_false_of_not_eq_true hopen)]
    exact hblank "" (by simp)

/-- A flash without faults that holds a backup and perhaps a configuration
file. -/
def flashWithBackup (content : Option String) : State where
  flash :=
    { emptyState.flash with
      content := fun path =>
        if path = backupPath then some sampleText
        else if path = configPath then content
        else none }
  config := .null

theorem backupHolds_flashWithBackup (content : Option String) :
    BackupHolds sampleLibrary (flashWithBackup content).flash sampleText
      sampleConfig := by
  refine ⟨rfl, rfl, ?_⟩
  intro suffix hsuffix
  exact if_pos (List.mem_map_of_mem hsuffix)

theorem blankIsNoObject_sampleLibrary : BlankIsNoObject sampleLibrary := by
  unfold BlankIsNoObject
  decide +kernel

/-- Without a configuration file the backup is installed and loaded. -/
theorem recovers_without_file :
    Recovers sampleLibrary sampleConfig (flashWithBackup none) := by
  refine (recovers_iff sampleLibrary sampleText sampleConfig
    (flashWithBackup none) (backupHolds_flashWithBackup none)
    blankIsNoObject_sampleLibrary).mpr ⟨rfl, Or.inr ⟨rfl, rfl, rfl, ?_⟩⟩
  exact Or.inl (by decide +kernel)

/-- An empty configuration file, as an interrupted save leaves it behind,
keeps the backup out. -/
theorem not_recovers_from_empty_file :
    ¬ Recovers sampleLibrary sampleConfig (flashWithBackup (some "")) := by
  apply not_recovers_of_not_isObject
  decide +kernel

end FileHandler
end ByteWaterlevel
