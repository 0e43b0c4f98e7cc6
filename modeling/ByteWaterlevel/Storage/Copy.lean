import ByteWaterlevel.Storage.Recovery

/-!
# Copying the backup

`copyFile` reads the source through `readFile`, which returns an empty text for
a file that does not open, and writes through `saveFile`, which truncates first
and reports nothing.  It returns true in every case.  The answer is right
exactly if the source opens and its text has arrived; a source that does not
open leaves a line break in the place of the destination, and with it a reset
without a backup destroys the configuration file.
-/

namespace ByteWaterlevel
namespace FileHandler

/-- The file holds the text, perhaps with a line break or a part of it after
the text. -/
def HoldsText (fs : LittleFS) (path text : String) : Prop :=
  ∃ suffix ∈ ["", "\r", "\r\n"], fs.content path = some (text ++ suffix)

/-- If the copy returns true, the source was readable and the destination holds
its text; if the source does not open, the destination is as it was before. -/
def CopiesHonestly (source destination : String) (fs : LittleFS) : Prop :=
  ((copyFile source destination fs).1 = true →
      ∃ text, fs.openRead source = some text ∧
        HoldsText (copyFile source destination fs).2 destination text) ∧
    (fs.openRead source = none →
      (copyFile source destination fs).2.content destination =
        fs.content destination)

/-- A reset installs the backup or leaves the configuration file as it is. -/
def ResetsSafely (files : State) : Prop :=
  (∃ text, files.flash.openRead backupPath = some text ∧
      HoldsText (reset files).flash configPath text) ∨
    (reset files).flash.content configPath = files.flash.content configPath

/-- The text can be written to the path as a whole. -/
def Fits (fs : LittleFS) (path text : String) : Prop :=
  fs.writable path = true ∧ text.length ≤ fs.room path

/-- A text that is cut off is not stored. -/
theorem not_append_of_take
    {text suffix : String} {n : ℕ} (h : n < text.length) :
    String.ofList (text.toList.take n) ≠ text ++ suffix := by
  intro heq
  have hlength := congrArg String.length heq
  rw [String.length_append, String.length_ofList, List.length_take,
    String.length_toList] at hlength
  omega

/-- What a write leaves of the text. -/
theorem holdsText_saveFile_iff (fs : LittleFS) (path text : String) :
    HoldsText (saveFile path text fs) path text ↔
      Fits fs path text ∨
        (fs.writable path = false ∧ HoldsText fs path text) := by
  have hcontent := LittleFS.writeText_content_self fs path (text ++ "\r\n")
  rw [HoldsText, saveFile, hcontent, Fits]
  by_cases hwritable : fs.writable path = true
  · rw [if_pos hwritable]
    simp only [hwritable, true_and, Bool.true_eq_false, false_and, or_false,
      Option.some.injEq]
    by_cases hfits : text.length ≤ fs.room path
    · exact iff_of_true (take_line_of_le text hfits) hfits
    · have hlt := Nat.lt_of_not_le hfits
      refine iff_of_false ?_ hfits
      rintro ⟨suffix, -, heq⟩
      rw [take_line_of_lt hlt] at heq
      exact not_append_of_take hlt heq
  · rw [if_neg hwritable]
    simp [hwritable, HoldsText]

theorem readFile_of_openRead
    {fs : LittleFS} {path text : String} (h : fs.openRead path = some text) :
    readFile fs path = text := by
  rw [readFile, h]
  rfl

/-- What a copy leaves of the text of its source. -/
theorem holdsText_copyFile_iff
    {fs : LittleFS} {source text : String} (destination : String)
    (h : fs.openRead source = some text) :
    HoldsText (copyFile source destination fs).2 destination text ↔
      Fits fs destination text ∨
        (fs.writable destination = false ∧
          HoldsText fs destination text) := by
  rw [copyFile, readFile_of_openRead h, holdsText_saveFile_iff]

theorem copiesHonestly_iff_arrives
    (source destination : String) (fs : LittleFS) :
    CopiesHonestly source destination fs ↔
      ∃ text, fs.openRead source = some text ∧
        (Fits fs destination text ∨
          (fs.writable destination = false ∧
            HoldsText fs destination text)) := by
  constructor
  · rintro ⟨hanswer, -⟩
    obtain ⟨text, hopen, hholds⟩ := hanswer rfl
    exact ⟨text, hopen, (holdsText_copyFile_iff destination hopen).mp hholds⟩
  · rintro ⟨text, hopen, harrives⟩
    constructor
    · intro _
      exact ⟨text, hopen,
        (holdsText_copyFile_iff destination hopen).mpr harrives⟩
    · intro hnone
      rw [hopen] at hnone
      exact nomatch hnone

/-- The configuration file after a reset. -/
theorem reset_content (files : State) :
    (reset files).flash.content configPath =
      if files.flash.writable configPath = true then
        some (String.ofList ((readFile files.flash backupPath ++
          "\r\n").toList.take (files.flash.room configPath)))
      else files.flash.content configPath :=
  LittleFS.writeText_content_self files.flash configPath
    (readFile files.flash backupPath ++ "\r\n")

theorem resetsSafely_iff (files : State) :
    ResetsSafely files ↔
      files.flash.writable configPath = false ∨
        (∃ text, files.flash.openRead backupPath = some text ∧
          Fits files.flash configPath text) ∨
        files.flash.content configPath =
          some (String.ofList ((readFile files.flash backupPath ++
            "\r\n").toList.take (files.flash.room configPath))) := by
  have hreset := reset_content files
  by_cases hwritable : files.flash.writable configPath = true
  · have hinstalled : ∀ text,
        files.flash.openRead backupPath = some text →
        (HoldsText (reset files).flash configPath text ↔
          Fits files.flash configPath text) := by
      intro text hopen
      have hiff := holdsText_copyFile_iff configPath hopen
      simp only [hwritable, Bool.true_eq_false, false_and, or_false] at hiff
      exact hiff
    rw [if_pos hwritable] at hreset
    rw [ResetsSafely, hreset]
    simp only [hwritable, Bool.true_eq_false, false_or]
    refine or_congr ?_ eq_comm
    exact exists_congr fun text => and_congr_right (hinstalled text)
  · rw [if_neg hwritable] at hreset
    exact iff_of_true (Or.inr hreset)
      (Or.inl (Bool.eq_false_of_not_eq_true hwritable))

/-- The copy is honest exactly if the source opens and its text is written as a
whole, or was already in a destination that cannot be written.  A reset is safe
exactly if the configuration file cannot be written, or the backup opens and is
written as a whole, or what is written was there before. -/
theorem copiesHonestly_iff
    (source destination : String) (fs : LittleFS) (files : State) :
    (CopiesHonestly source destination fs ↔
      ∃ text, fs.openRead source = some text ∧
        (Fits fs destination text ∨
          (fs.writable destination = false ∧
            HoldsText fs destination text))) ∧
    (ResetsSafely files ↔
      files.flash.writable configPath = false ∨
        (∃ text, files.flash.openRead backupPath = some text ∧
          Fits files.flash configPath text) ∨
        files.flash.content configPath =
          some (String.ofList ((readFile files.flash backupPath ++
            "\r\n").toList.take (files.flash.room configPath)))) :=
  ⟨copiesHonestly_iff_arrives source destination fs, resetsSafely_iff files⟩

/-- Without a backup the copy still returns true, and the reset leaves a line
break in the place of the configuration. -/
theorem not_copiesHonestly_without_backup :
    ¬ CopiesHonestly backupPath configPath (flashWith sampleText) ∧
      (copyFile backupPath configPath (flashWith sampleText)).1 = true ∧
      ¬ ResetsSafely ⟨flashWith sampleText, sampleConfig⟩ ∧
      (reset ⟨flashWith sampleText, sampleConfig⟩).flash.content configPath =
        some "\r\n" := by
  have hnone : (flashWith sampleText).openRead backupPath = none := by
    decide +kernel
  refine ⟨?_, rfl, ?_, by decide +kernel⟩
  · rintro ⟨hanswer, -⟩
    obtain ⟨text, hopen, -⟩ := hanswer rfl
    rw [hnone] at hopen
    exact nomatch hopen
  · rintro (⟨text, hopen, -⟩ | hsame)
    · rw [hnone] at hopen
      exact nomatch hopen
    · exact absurd hsame (by decide +kernel)

end FileHandler
end ByteWaterlevel
