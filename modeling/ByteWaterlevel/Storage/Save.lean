import ByteWaterlevel.Storage

/-!
# What the answer to a save says

A save writes the file and then the configuration in memory, and neither write
reports a failure, so every authorised save is answered with 200.  The open for
writing may fail, in which case the file stays what it was, and a full flash
keeps only the first part of the text, which does not parse.  The answer is
true exactly if neither happens.

Two facts about the text of the saved object are used: it parses to the object,
with or without the line break or a part of it, and cutting it off before its
closing brace makes it unparsable.
-/

namespace ByteWaterlevel
namespace WebHandler

open FileHandler

/-- The request was answered with 200. -/
def Acknowledged (w : Server) : Prop :=
  ∃ contentType body, .send 200 contentType body ∈ w.responses

/-- The payload is a request to save the object `config`. -/
def IsSave (json config : Json) : Prop :=
  json.get "type" = .str "save" ∧ json.get "config" = config ∧
    config.isObject = true

/-- The payload of a request to save `config`. -/
def savePayload (config : Json) : Json :=
  .obj [("type", .str "save"), ("config", config)]

theorem isSave_savePayload {config : Json} (h : config.isObject = true) :
    IsSave (savePayload config) config :=
  ⟨rfl, rfl, h⟩

/-- If a request to save `config` is answered with 200, the configuration file
holds it, and otherwise memory and file are as they were before. -/
def SaveAnswerTrue (lib : ArduinoJson) (amb : Ambient) (json config : Json)
    (device : DeviceHandler.State) (files : FileHandler.State) : Prop :=
  let w := apiRoute lib amb json
    { device := device, files := files, responses := [], action := none }
  (Acknowledged w → Holds lib w.files.flash config) ∧
    (¬ Acknowledged w →
      w.files.config = files.config ∧
        w.files.flash.content configPath = files.flash.content configPath)

theorem saveCall_of_isObject
    (lib : ArduinoJson) {json config : Json} (w : Server)
    (h : IsSave json config) :
    saveCall lib json w =
      sendOK { w with files := storeConfig lib config w.files } := by
  obtain ⟨-, rfl, hobject⟩ := h
  simp [saveCall, storeConfig, hobject]

/-- An authorised save stores the object and is acknowledged. -/
theorem apiRoute_save_of_authorised
    (lib : ArduinoJson) {amb : Ambient} {json config : Json} {w : Server}
    (h : IsSave json config) (hauth : Authorised amb w.files) :
    apiRoute lib amb json w =
      sendOK { w with files := storeConfig lib config w.files } := by
  have hadmitted : Admitted amb w.files json := by
    refine ⟨hauth, ?_⟩
    rw [h.1]
    rfl
  have htype : (json.get "type").asString lib = "save" := by
    rw [h.1]
    rfl
  rw [apiRoute_of_admitted lib hadmitted, handleAPICall]
  simp [htype, saveCall_of_isObject lib w h]

/-- What a save leaves in the file, in terms of the faults of the flash. -/
theorem holds_storeConfig_iff
    {lib : ArduinoJson} {config : Json} (files : FileHandler.State)
    (hround : ∀ suffix ∈ ["", "\r", "\r\n"],
      lib.deserializeJson (lib.serializeJson config ++ suffix) =
        ⟨config, false⟩)
    (hcut : ∀ n < (lib.serializeJson config).length,
      (lib.deserializeJson (String.ofList
        ((lib.serializeJson config).toList.take n))).error = true) :
    Holds lib (storeConfig lib config files).flash config ↔
      (files.flash.writable configPath = true ∧
          (lib.serializeJson config).length ≤ files.flash.room configPath) ∨
        (files.flash.writable configPath = false ∧
          Holds lib files.flash config) := by
  have hcontent := LittleFS.writeText_content_self files.flash configPath
    (lib.serializeJson config ++ "\r\n")
  have hholds : Holds lib (storeConfig lib config files).flash config ↔
      ∃ text, (if files.flash.writable configPath = true then
          some (String.ofList ((lib.serializeJson config ++
            "\r\n").toList.take (files.flash.room configPath)))
        else files.flash.content configPath) = some text ∧
        lib.deserializeJson text = ⟨config, false⟩ := by
    rw [← hcontent]
    rfl
  rw [hholds]
  by_cases hwritable : files.flash.writable configPath = true
  · simp only [hwritable, if_true, Option.some.injEq, exists_eq_left',
      true_and, Bool.true_eq_false, false_and, or_false]
    by_cases hfits : (lib.serializeJson config).length ≤
        files.flash.room configPath
    · obtain ⟨suffix, hsuffix, htake⟩ := take_line_of_le _ hfits
      rw [htake]
      exact iff_of_true (hround suffix hsuffix) hfits
    · have hlt := Nat.lt_of_not_le hfits
      rw [take_line_of_lt hlt]
      refine iff_of_false ?_ hfits
      intro hparse
      have herror := hcut _ hlt
      rw [hparse] at herror
      exact absurd herror Bool.false_ne_true
  · simp [hwritable, Holds]

/-- The answer to a save is true exactly if the request is rejected, or the
file can be opened for writing and has room for the text of the object, or the
file cannot be opened and holds the object already. -/
theorem saveAnswerTrue_iff
    (lib : ArduinoJson) (amb : Ambient) (json config : Json)
    (device : DeviceHandler.State) (files : FileHandler.State)
    (hsave : IsSave json config)
    (hround : ∀ suffix ∈ ["", "\r", "\r\n"],
      lib.deserializeJson (lib.serializeJson config ++ suffix) =
        ⟨config, false⟩)
    (hcut : ∀ n < (lib.serializeJson config).length,
      (lib.deserializeJson (String.ofList
        ((lib.serializeJson config).toList.take n))).error = true) :
    SaveAnswerTrue lib amb json config device files ↔
      ¬ Authorised amb files ∨
        (files.flash.writable configPath = true ∧
          (lib.serializeJson config).length ≤
            files.flash.room configPath) ∨
        (files.flash.writable configPath = false ∧
          Holds lib files.flash config) := by
  by_cases hauth : Authorised amb files
  · have hroute := apiRoute_save_of_authorised lib (w :=
      { device := device, files := files, responses := [], action := none })
      hsave hauth
    have hack : Acknowledged (apiRoute lib amb json
        { device := device, files := files, responses := [],
          action := none }) := by
      rw [hroute]
      exact ⟨_, _, List.mem_singleton_self _⟩
    rw [← holds_storeConfig_iff files hround hcut]
    simp only [SaveAnswerTrue, hack, not_true_eq_false, false_implies,
      and_true, true_implies, hauth, false_or]
    rw [hroute]
    rfl
  · refine iff_of_true ?_ (Or.inl hauth)
    have hroute := apiRoute_of_not_authorised lib json (w :=
      { device := device, files := files, responses := [], action := none })
      hauth
    simp only [SaveAnswerTrue, hroute]
    constructor
    · rintro ⟨contentType, body, hmem⟩
      simp at hmem
    · intro _
      exact ⟨trivial, trivial⟩

theorem sample_round_trip :
    ∀ suffix ∈ ["", "\r", "\r\n"],
      sampleLibrary.deserializeJson
          (sampleLibrary.serializeJson sampleConfig ++ suffix) =
        ⟨sampleConfig, false⟩ := by
  intro suffix hsuffix
  exact if_pos (List.mem_map_of_mem hsuffix)

theorem sample_prefix_error :
    ∀ n < (sampleLibrary.serializeJson sampleConfig).length,
      (sampleLibrary.deserializeJson (String.ofList
        ((sampleLibrary.serializeJson sampleConfig).toList.take
          n))).error = true := by
  decide +kernel

/-- A flash without faults: the answer to the save is true. -/
theorem saveAnswerTrue_sample :
    SaveAnswerTrue sampleLibrary (.plain 1000) (savePayload sampleConfig)
      sampleConfig DeviceHandler.initialState FileHandler.emptyState :=
  (saveAnswerTrue_iff sampleLibrary (.plain 1000) (savePayload sampleConfig)
    sampleConfig DeviceHandler.initialState FileHandler.emptyState
    (isSave_savePayload rfl) sample_round_trip sample_prefix_error).mpr
    (Or.inr (Or.inl ⟨rfl, by decide +kernel⟩))

/-- A flash on which nothing can be opened for writing. -/
def readOnlyState : FileHandler.State where
  flash := { emptyState.flash with writable := fun _ => false }
  config := .null

/-- The save is answered with 200 although no file was written. -/
theorem not_saveAnswerTrue_readOnly :
    ¬ SaveAnswerTrue sampleLibrary (.plain 1000) (savePayload sampleConfig)
      sampleConfig DeviceHandler.initialState readOnlyState := by
  rintro ⟨hsaved, -⟩
  obtain ⟨text, htext, -⟩ := hsaved ⟨_, _, List.mem_singleton_self _⟩
  have hnone : (none : Option String) = some text := htext
  exact absurd hnone (by simp)

end WebHandler
end ByteWaterlevel
