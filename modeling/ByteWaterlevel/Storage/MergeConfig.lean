import ByteWaterlevel.Storage.Recovery

/-!
# Merging the backup into the configuration file

`mergeConfigFromBackup` opens and parses the backup, reads the configuration
file if it can, and opens the file for writing last.  Each of the three ways to
fail is taken before anything is written, so a merge that returns false leaves
the flash as it was.  A configuration file that is missing or does not parse is
no failure: the merge then starts from the empty document.
-/

namespace ByteWaterlevel
namespace FileHandler

/-- The backup opens and parses to the document. -/
def BackupParses (lib : ArduinoJson) (path : String) (fs : LittleFS)
    (doc : Json) : Prop :=
  ∃ text, fs.openRead path = some text ∧
    lib.deserializeJson text = ⟨doc, false⟩

section

variable {lib : ArduinoJson} {serializeJsonPretty : Json → String}
variable {configPath backupPath : String} {fs : LittleFS}

/-- Without a backup that parses, nothing is done. -/
theorem mergeConfigFromBackup_of_no_backup
    (h : ¬ ∃ doc, BackupParses lib backupPath fs doc) :
    mergeConfigFromBackup lib serializeJsonPretty configPath backupPath fs =
      (false, fs) := by
  unfold mergeConfigFromBackup
  cases hopen : fs.openRead backupPath with
  | none => rfl
  | some text =>
      have herror : (lib.deserializeJson text).error = true := by
        by_contra hnot
        apply h
        refine ⟨(lib.deserializeJson text).doc, text, hopen, ?_⟩
        rw [← Bool.eq_false_of_not_eq_true hnot]
      dsimp only
      rw [if_pos herror]

/-- With a backup that parses and a file that opens, the merge is written. -/
theorem mergeConfigFromBackup_of_opens
    {doc : Json} (h : BackupParses lib backupPath fs doc)
    (hwritable : fs.writable configPath = true) :
    mergeConfigFromBackup lib serializeJsonPretty configPath backupPath fs =
      (true, fs.writeText configPath (serializeJsonPretty
        (mergeJsonObjects (readConfigDoc lib configPath fs) doc))) := by
  obtain ⟨text, hopen, hparse⟩ := h
  simp only [mergeConfigFromBackup, hopen, hparse, Bool.false_eq_true,
    if_false, hwritable, if_true]

/-- In every other case nothing is done. -/
theorem mergeConfigFromBackup_of_fault
    (h : ¬ ((∃ doc, BackupParses lib backupPath fs doc) ∧
      fs.writable configPath = true)) :
    mergeConfigFromBackup lib serializeJsonPretty configPath backupPath fs =
      (false, fs) := by
  by_cases hbackup : ∃ doc, BackupParses lib backupPath fs doc
  · have hwritable : ¬ fs.writable configPath = true := fun hopens =>
      h ⟨hbackup, hopens⟩
    obtain ⟨doc, text, hopen, hparse⟩ := hbackup
    simp only [mergeConfigFromBackup, hopen, hparse, Bool.false_eq_true,
      if_false, hwritable]
  · exact mergeConfigFromBackup_of_no_backup hbackup

/-- A text that fits is stored as it is. -/
theorem writeText_content_of_fits
    {path text : String} (hwritable : fs.writable path = true)
    (hfits : text.length ≤ fs.room path) :
    (fs.writeText path text).content path = some text := by
  have hlength : text.toList.length ≤ fs.room path := by
    rwa [String.length_toList]
  rw [LittleFS.writeText_content_self, if_pos hwritable,
    List.take_of_length_le hlength, String.ofList_toList]

end

/-- A merge that returns false changes nothing.  It returns true exactly if the
backup opens and parses and the configuration file opens for writing; then the
backup is as it was, and if the text is stored as a whole and the library reads
back what it has written, the file parses to the merge. -/
theorem mergeConfigFromBackup_atomic
    (lib : ArduinoJson) (serializeJsonPretty : Json → String)
    (configPath backupPath : String) (fs : LittleFS) :
    let result :=
      mergeConfigFromBackup lib serializeJsonPretty configPath backupPath fs
    (result.1 = false → result.2 = fs) ∧
      (result.1 = true ↔
        (∃ doc, BackupParses lib backupPath fs doc) ∧
          fs.writable configPath = true) ∧
      ∀ doc, BackupParses lib backupPath fs doc → result.1 = true →
        (backupPath ≠ configPath →
          result.2.content backupPath = fs.content backupPath) ∧
        ∀ merged,
          merged = mergeJsonObjects (readConfigDoc lib configPath fs) doc →
          (serializeJsonPretty merged).length ≤ fs.room configPath →
          lib.deserializeJson (serializeJsonPretty merged) =
            ⟨merged, false⟩ →
          ∃ text, result.2.content configPath = some text ∧
            lib.deserializeJson text = ⟨merged, false⟩ := by
  intro result
  by_cases hopens : (∃ doc, BackupParses lib backupPath fs doc) ∧
      fs.writable configPath = true
  · obtain ⟨⟨doc, hdoc⟩, hwritable⟩ := hopens
    have htrue : result.1 = true :=
      congrArg Prod.fst (mergeConfigFromBackup_of_opens hdoc hwritable)
    refine ⟨?_, iff_of_true htrue ⟨⟨doc, hdoc⟩, hwritable⟩, ?_⟩
    · intro hfalse
      exact absurd (hfalse.symm.trans htrue) Bool.false_ne_true
    · intro doc hdoc _
      have hresult : result = _ :=
        mergeConfigFromBackup_of_opens hdoc hwritable
      rw [hresult]
      refine ⟨LittleFS.writeText_content_of_ne fs _, ?_⟩
      rintro merged rfl hfits hround
      exact ⟨_, writeText_content_of_fits hwritable hfits, hround⟩
  · have hresult : result = (false, fs) :=
      mergeConfigFromBackup_of_fault hopens
    rw [hresult]
    refine ⟨fun _ => rfl, iff_of_false Bool.false_ne_true hopens, ?_⟩
    intro _ _ htrue
    exact absurd htrue Bool.false_ne_true

/-- `sampleConfig` as the library writes it in the pretty form. -/
def prettyText : String := "\x7b\r\n  \"ota\": true\r\n\x7d"

/-- The pretty form on the documents of `sampleLibrary`. -/
def samplePretty : Json → String
  | .null => "null"
  | .obj [] => "\x7b\x7d"
  | _ => prettyText

/-- `sampleLibrary`, which reads the pretty form too. -/
def prettyLibrary : ArduinoJson :=
  { sampleLibrary with
    deserializeJson := fun text =>
      if text = prettyText then ⟨sampleConfig, false⟩
      else sampleLibrary.deserializeJson text }

/-- Without a configuration file, the merge writes the backup, in the pretty
form. -/
theorem mergeConfigFromBackup_without_file :
    let result := mergeConfigFromBackup prettyLibrary samplePretty configPath
      backupPath (flashWithBackup none).flash
    result.1 = true ∧
      result.2.content configPath = some prettyText ∧
      ∃ text, result.2.content configPath = some text ∧
        prettyLibrary.deserializeJson text = ⟨sampleConfig, false⟩ := by
  have hbackup : BackupParses prettyLibrary backupPath
      (flashWithBackup none).flash sampleConfig := ⟨sampleText, rfl, rfl⟩
  obtain ⟨-, hanswer, hwritten⟩ := mergeConfigFromBackup_atomic prettyLibrary
    samplePretty configPath backupPath (flashWithBackup none).flash
  have htrue := hanswer.mpr ⟨⟨sampleConfig, hbackup⟩, rfl⟩
  refine ⟨htrue, by decide +kernel, ?_⟩
  exact (hwritten sampleConfig hbackup htrue).2 sampleConfig rfl
    (by decide +kernel) rfl

end FileHandler
end ByteWaterlevel
