import ByteWaterlevel.Request

/-!
# What is written to the flash, and by whom

The two writers of the configuration file are `saveFile`, with the text of a
configuration, and `copyFile`, with the text of the backup.  The first part
states what they leave on a flash with faults.  The second part says which
requests reach them: `apiRoute_files` gives the whole effect of the API on the
files, as `apiRoute_device` does for the device.
-/

namespace ByteWaterlevel

namespace LittleFS

@[simp] theorem writeText_readable
    (fs : LittleFS) (path text : String) :
    (fs.writeText path text).readable = fs.readable := by
  unfold writeText
  split_ifs <;> rfl

@[simp] theorem writeText_writable
    (fs : LittleFS) (path text : String) :
    (fs.writeText path text).writable = fs.writable := by
  unfold writeText
  split_ifs <;> rfl

@[simp] theorem writeText_room
    (fs : LittleFS) (path text : String) :
    (fs.writeText path text).room = fs.room := by
  unfold writeText
  split_ifs <;> rfl

theorem writeText_content_of_ne
    (fs : LittleFS) {path path' : String} (text : String)
    (h : path' ≠ path) :
    (fs.writeText path text).content path' = fs.content path' := by
  unfold writeText
  split_ifs
  · exact Function.update_of_ne h _ _
  · rfl

theorem writeText_content_self
    (fs : LittleFS) (path text : String) :
    (fs.writeText path text).content path =
      if fs.writable path then
        some (String.ofList (text.toList.take (fs.room path)))
      else fs.content path := by
  unfold writeText
  split_ifs
  · exact Function.update_self _ _ _
  · rfl

end LittleFS

/-- A configuration that only switches the OTA server on. -/
def sampleConfig : Json := .obj [("ota", .bool true)]

/-- The text of `sampleConfig`. -/
def sampleText : String := "\x7b\"ota\":true\x7d"

/-- The library on flashes that hold the empty object, `sampleConfig` or
nothing that parses. -/
def sampleLibrary : ArduinoJson where
  serializeJson
    | .null => "null"
    | .obj [] => "\x7b\x7d"
    | _ => sampleText
  deserializeJson text :=
    if text ∈ ["", "\r", "\r\n"].map (sampleText ++ ·) then
      ⟨sampleConfig, false⟩
    else if text ∈ ["", "\r", "\r\n"].map ("\x7b\x7d" ++ ·) then
      ⟨.obj [], false⟩
    else ⟨.null, true⟩
  parseNumber := fun _ => .fin 0

namespace FileHandler

/-- The configuration file holds a text that parses to `config`. -/
def Holds (lib : ArduinoJson) (fs : LittleFS) (config : Json) : Prop :=
  ∃ text, fs.content configPath = some text ∧
    lib.deserializeJson text = ⟨config, false⟩

/-- A text that fits is stored as it is, with as much of its line break as
there is room for. -/
theorem take_line_of_le
    (text : String) {n : ℕ} (h : text.length ≤ n) :
    ∃ suffix ∈ ["", "\r", "\r\n"],
      String.ofList ((text ++ "\r\n").toList.take n) = text ++ suffix := by
  have hlength : text.toList.length ≤ n := by rwa [String.length_toList]
  have htake : (text ++ "\r\n").toList.take n =
      text.toList ++ ['\r', '\n'].take (n - text.length) := by
    rw [String.toList_append, List.take_append,
      List.take_of_length_le hlength, String.length_toList]
    rfl
  rcases hroom : n - text.length with _ | _ | k
  · refine ⟨"", by simp, ?_⟩
    rw [htake, hroom]
    simp
  · refine ⟨"\r", by simp, ?_⟩
    rw [htake, hroom]
    simp
  · refine ⟨"\r\n", by simp, ?_⟩
    rw [htake, hroom]
    simp

/-- A text that does not fit loses its end. -/
theorem take_line_of_lt
    {text : String} {n : ℕ} (h : n < text.length) :
    String.ofList ((text ++ "\r\n").toList.take n) =
      String.ofList (text.toList.take n) := by
  have hlength : n ≤ text.toList.length := by
    rw [String.length_toList]
    exact h.le
  rw [String.toList_append, List.take_append_of_le_length hlength]

end FileHandler

namespace WebHandler

/-- The configuration that the route saves, if it saves one. -/
def savedConfig (lib : ArduinoJson) (amb : Ambient)
    (files : FileHandler.State) (json : Json) : Option Json :=
  if Admitted amb files json ∧ (json.get "type").asString lib = "save" ∧
      (json.get "config").isObject then
    some (json.get "config")
  else none

/-- The route copies the backup over the configuration file. -/
def Resets (lib : ArduinoJson) (amb : Ambient) (files : FileHandler.State)
    (json : Json) : Prop :=
  Admitted amb files json ∧ (json.get "type").asString lib = "reset"

instance (lib : ArduinoJson) (amb : Ambient) (files : FileHandler.State)
    (json : Json) : Decidable (Resets lib amb files json) :=
  inferInstanceAs (Decidable (_ ∧ _))

theorem restarts_of_resets
    {lib : ArduinoJson} {amb : Ambient} {files : FileHandler.State}
    {json : Json} (h : Resets lib amb files json) :
    Restarts lib amb files json :=
  ⟨h.1, Or.inr h.2⟩

/-- The two places that a save writes to. -/
def storeConfig (lib : ArduinoJson) (config : Json)
    (files : FileHandler.State) : FileHandler.State :=
  FileHandler.saveConfig config
    { files with
      flash := FileHandler.saveFile FileHandler.configPath
        (lib.serializeJson config) files.flash }

theorem savedConfig_eq_some_iff
    {lib : ArduinoJson} {amb : Ambient} {files : FileHandler.State}
    {json config : Json} :
    savedConfig lib amb files json = some config ↔
      Admitted amb files json ∧ (json.get "type").asString lib = "save" ∧
        config.isObject = true ∧ json.get "config" = config := by
  unfold savedConfig
  split_ifs with h
  · simp only [Option.some.injEq]
    constructor
    · rintro rfl
      exact ⟨h.1, h.2.1, h.2.2, rfl⟩
    · rintro ⟨-, -, -, hconfig⟩
      exact hconfig
  · simp only [false_iff]
    rintro ⟨hadmitted, htype, hobject, rfl⟩
    exact h ⟨hadmitted, htype, hobject⟩

/-- A request that saves does not restart the device. -/
theorem not_restarts_of_savedConfig
    {lib : ArduinoJson} {amb : Ambient} {files : FileHandler.State}
    {json config : Json}
    (h : savedConfig lib amb files json = some config) :
    ¬ Restarts lib amb files json := by
  obtain ⟨-, hsave, -⟩ := savedConfig_eq_some_iff.mp h
  rintro ⟨-, htype | htype⟩
  · exact absurd (hsave.symm.trans htype) (by decide)
  · exact absurd (hsave.symm.trans htype) (by decide)

/-- The dispatch reaches the files in the branches `save` and `reset`
alone. -/
theorem handleAPICall_files
    (lib : ArduinoJson) (amb : Ambient) (json : Json) (w : Server) :
    (handleAPICall lib amb json w).files =
      if (json.get "type").asString lib = "save" ∧
          (json.get "config").isObject then
        storeConfig lib (json.get "config") w.files
      else if (json.get "type").asString lib = "reset" then
        FileHandler.reset w.files
      else w.files := by
  unfold handleAPICall
  generalize (json.get "type").asString lib = type
  by_cases hsave : type = "save"
  · subst type
    by_cases hobject : (json.get "config").isObject = true
    · simp [saveCall, hobject, sendOK, sendResponse, storeConfig]
    · simp [saveCall, hobject, sendInvalid, sendResponse]
  · by_cases hreset : type = "reset"
    · subst type
      simp [sendOK, sendResponse]
    · simp only [hsave, hreset, false_and, if_false, relaisCall]
      split_ifs <;> rfl

theorem apiRoute_files
    (lib : ArduinoJson) (amb : Ambient) (json : Json) (w : Server) :
    (apiRoute lib amb json w).files =
      match savedConfig lib amb w.files json with
      | some config => storeConfig lib config w.files
      | none =>
          if Resets lib amb w.files json then FileHandler.reset w.files
          else w.files := by
  by_cases hadmitted : Admitted amb w.files json
  · rw [apiRoute_of_admitted lib hadmitted, handleAPICall_files]
    by_cases hsave : (json.get "type").asString lib = "save" ∧
        (json.get "config").isObject = true
    · simp [savedConfig, hadmitted, hsave]
    · rw [if_neg hsave]
      simp [savedConfig, Resets, hadmitted, hsave]
  · obtain ⟨responses, heq⟩ := apiRoute_of_not_admitted lib hadmitted
    simp [heq, savedConfig, Resets, hadmitted]

end WebHandler
end ByteWaterlevel
