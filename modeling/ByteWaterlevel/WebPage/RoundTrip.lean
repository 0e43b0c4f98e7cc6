import ByteWaterlevel.Request
import ByteWaterlevel.WebPage

/-!
# Loading and saving without a change

The page loads the configuration into its widgets and sends back what the
widgets hold.  Text fields, number fields and checkboxes give back a value that
the device reads as it read the original.  The select does not: it looks for an
option that is strictly equal to the mode, so a mode that is stored as a number
finds none, the select stays on its first option, and the save switches the
automation off.
-/

namespace ByteWaterlevel
namespace WebPage

open Json

/-! ## What the device reads -/

/-- The conversion that the device reads a setting with. -/
inductive Kind where
  | string
  | bool
  | int
  | byte
  | float
deriving DecidableEq

inductive Reading where
  | string (s : String)
  | bool (b : Bool)
  | int (n : CInt)
  | byte (n : BitVec 8)
  | float (x : ExtRat)

def Kind.read (lib : ArduinoJson) : Kind → Json → Reading
  | .string, j => .string (j.asString lib)
  | .bool, j => .bool j.asBool
  | .int, j => .int (j.asInt lib)
  | .byte, j => .byte (j.asUInt8 lib)
  | .float, j => .float (j.asFloat lib)

/-- The settings that the setup functions read. -/
def deviceSettings : List (List String × Kind) :=
  [(["wifi", "client", "ssid"], .string),
    (["wifi", "client", "password"], .string),
    (["wifi", "ap", "ssid"], .string),
    (["wifi", "ap", "password"], .string),
    (["mqtt", "state"], .bool),
    (["mqtt", "host"], .string),
    (["mqtt", "port"], .int),
    (["mqtt", "user"], .string),
    (["mqtt", "password"], .string),
    (["calibration", "min"], .float),
    (["calibration", "max"], .float),
    (["calibration", "volume"], .float),
    (["auto", "mode"], .int),
    (["auto", "max"], .float),
    (["auto", "fill"], .float),
    (["auto", "min"], .float),
    (["admin", "state"], .bool),
    (["admin", "user"], .string),
    (["admin", "password"], .string),
    (["hardware", "led"], .bool),
    (["hardware", "oled"], .bool),
    (["hardware", "level"], .byte),
    (["ota"], .bool)]

/-- The device reads the same values out of both configurations. -/
def ReadsSame (lib : ArduinoJson) (config config' : Json) : Prop :=
  ∀ setting ∈ deviceSettings,
    setting.2.read lib (getPath setting.1 config') =
      setting.2.read lib (getPath setting.1 config)

/-- A JSON number. -/
def isNumber : Json → Bool
  | .int _ => true
  | .real (.fin _) => true
  | _ => false

/-- The value is a scalar of the kind: a string without line breaks, a boolean,
or a number that is written as a number or as a string. -/
def Kind.holds : Kind → Json → Bool
  | .string, .str s => s.toList.all fun c => !isLineBreak c
  | .string, _ => false
  | .bool, .bool _ => true
  | .bool, _ => false
  | _, .str s => isValidNumber s
  | _, j => isNumber j

/-- Every setting is there and is a scalar of its kind. -/
def Complete (config : Json) : Prop :=
  ∀ setting ∈ deviceSettings, setting.2.holds (getPath setting.1 config) = true

instance (config : Json) : Decidable (Complete config) :=
  inferInstanceAs (Decidable (∀ _ ∈ _, _))

/-- The script writes the number so that a number field accepts it and the
device reads the number back. -/
def NumberKept (lib : ArduinoJson) (browser : Browser) (j : Json) : Prop :=
  isNumber j = true →
    isValidNumber (browser.stringOf j) = true ∧
      lib.parseNumber (browser.stringOf j) = j.asNumber lib

instance (lib : ArduinoJson) (browser : Browser) (j : Json) :
    Decidable (NumberKept lib browser j) :=
  inferInstanceAs (Decidable (_ → _))

/-- The page after it has loaded the configuration from the device. -/
def loaded (browser : Browser) (amb : Ambient) (config : Json) : Page :=
  getInfo browser (WebHandler.infoDoc amb config) initialPage

/-- The configuration that a save sends when nothing was edited since it was
loaded, and null if it sends nothing. -/
def sentBack (browser : Browser) (amb : Ambient) (type : ℕ) (config : Json) :
    Json :=
  ((save type (loaded browser amb config)).2.getD .null).get "config"

/-- The mode is one of the options of the select, or the device reads it as
zero. -/
def ModeSurvives (lib : ArduinoJson) (config : Json) : Prop :=
  let mode := getPath ["auto", "mode"] config
  (∃ option ∈ modeOptions, mode = .str option) ∨ mode.asInt lib = 0

/-! ## Widgets give back what they show -/

theorem Kind.holds_null (kind : Kind) : kind.holds .null = false := by
  cases kind <;> rfl

theorem Kind.holds_string
    {j : Json} (h : Kind.string.holds j = true) :
    ∃ s, j = .str s ∧ ∀ c ∈ s.toList, isLineBreak c = false := by
  cases j with
  | str s =>
      refine ⟨s, rfl, ?_⟩
      intro c hc
      simpa using List.all_eq_true.mp h c hc
  | _ => exact absurd h Bool.false_ne_true

theorem Kind.holds_bool
    {j : Json} (h : Kind.bool.holds j = true) : ∃ b, j = .bool b := by
  cases j with
  | bool b => exact ⟨b, rfl⟩
  | _ => exact absurd h Bool.false_ne_true

/-- A numeric setting holds a number or the text of one. -/
theorem Kind.holds_number
    {kind : Kind} (hstring : kind ≠ .string) (hbool : kind ≠ .bool)
    {j : Json} (h : kind.holds j = true) :
    isNumber j = true ∨ ∃ s, j = .str s ∧ isValidNumber s = true := by
  cases j with
  | str s =>
      right
      refine ⟨s, rfl, ?_⟩
      cases kind with
      | string => exact absurd rfl hstring
      | bool => exact absurd rfl hbool
      | _ => exact h
  | _ =>
      left
      cases kind with
      | string => exact absurd rfl hstring
      | bool => exact absurd rfl hbool
      | _ => exact h

theorem sanitize_text
    {type : InputType} (htype : type ≠ .number) {s : String}
    (h : ∀ c ∈ s.toList, isLineBreak c = false) : sanitize type s = s := by
  have hfilter : s.toList.filter (fun c => !isLineBreak c) = s.toList := by
    rw [List.filter_eq_self]
    intro c hc
    rw [h c hc]
    rfl
  cases type with
  | number => exact absurd rfl htype
  | text => simp only [sanitize, hfilter, String.ofList_toList]
  | password => simp only [sanitize, hfilter, String.ofList_toList]

/-- A number in the range of a machine integer is truncated to itself. -/
theorem truncateTo_intCast (lo hi n : ℤ) :
    (ExtRat.fin n).truncateTo lo hi = if lo ≤ n ∧ n ≤ hi then n else 0 := by
  simp only [ExtRat.truncateTo, Int.cast_le]
  split_ifs with hrange hsign
  · exact Int.floor_intCast n
  · rw [← Int.cast_neg, Int.floor_intCast, neg_neg]
  · rfl

/-- A number and a string that is parsed to it are read alike. -/
theorem read_of_parseNumber
    (lib : ArduinoJson) {kind : Kind} (hstring : kind ≠ .string)
    (hbool : kind ≠ .bool) {j : Json} (hnumber : isNumber j = true)
    {s : String}
    (h : lib.parseNumber s = j.asNumber lib) :
    kind.read lib (.str s) = kind.read lib j := by
  cases j with
  | int n =>
      cases kind with
      | string => exact absurd rfl hstring
      | bool => exact absurd rfl hbool
      | int =>
          simp only [Kind.read, asInt, h, asNumber, truncateTo_intCast]
          split_ifs <;> rfl
      | byte =>
          simp only [Kind.read, asUInt8, h, asNumber, truncateTo_intCast]
          split_ifs <;> rfl
      | float => simp only [Kind.read, asFloat, asNumber, h]
  | real x =>
      cases kind with
      | string => exact absurd rfl hstring
      | bool => exact absurd rfl hbool
      | int => simp only [Kind.read, asInt, h, asNumber]
      | byte => simp only [Kind.read, asUInt8, h, asNumber]
      | float => simp only [Kind.read, asFloat, asNumber, h]
  | _ => exact absurd hnumber Bool.false_ne_true

theorem textOf_of_isNumber
    (browser : Browser) {j : Json} (h : isNumber j = true) :
    textOf browser (some j) = browser.stringOf j := by
  cases j with
  | str s => exact absurd h Bool.false_ne_true
  | null => exact absurd h Bool.false_ne_true
  | _ => rfl

/-- The text of a numeric setting is one that a number field keeps. -/
theorem isValidNumber_textOf
    {lib : ArduinoJson} {browser : Browser} {kind : Kind} {j : Json}
    (hstring : kind ≠ .string) (hbool : kind ≠ .bool)
    (h : kind.holds j = true) (hkept : NumberKept lib browser j) :
    isValidNumber (textOf browser (some j)) = true := by
  rcases Kind.holds_number hstring hbool h with hnumber | ⟨s, rfl, hs⟩
  · rw [textOf_of_isNumber browser hnumber]
    exact (hkept hnumber).1
  · exact hs

/-- A field of the right type shows the text of its setting. -/
theorem sanitize_field
    {lib : ArduinoJson} {browser : Browser} {kind : Kind} {id : String}
    {j : Json} (hbool : kind ≠ .bool)
    (htype : inputType id = .number ↔ kind ≠ .string)
    (h : kind.holds j = true) (hkept : NumberKept lib browser j) :
    sanitize (inputType id) (textOf browser (some j)) =
      textOf browser (some j) := by
  by_cases hstring : kind = .string
  · subst hstring
    obtain ⟨s, rfl, hs⟩ := Kind.holds_string h
    exact sanitize_text (fun hnumber => htype.mp hnumber rfl) hs
  · rw [htype.mpr hstring, sanitize,
      if_pos (isValidNumber_textOf hstring hbool h hkept)]

/-- The text of a setting is read like the setting. -/
theorem read_textOf
    {lib : ArduinoJson} {browser : Browser} {kind : Kind} {j : Json}
    (hbool : kind ≠ .bool) (h : kind.holds j = true)
    (hkept : NumberKept lib browser j) :
    kind.read lib (.str (textOf browser (some j))) = kind.read lib j := by
  by_cases hstring : kind = .string
  · subst hstring
    obtain ⟨s, rfl, -⟩ := Kind.holds_string h
    rfl
  · rcases Kind.holds_number hstring hbool h with hnumber | ⟨s, rfl, -⟩
    · rw [textOf_of_isNumber browser hnumber]
      exact read_of_parseNumber lib hstring hbool hnumber (hkept hnumber).2
    · rfl

/-- The text of a setting is again a scalar of its kind. -/
theorem Kind.holds_textOf
    {lib : ArduinoJson} {browser : Browser} {kind : Kind} {j : Json}
    (hbool : kind ≠ .bool) (h : kind.holds j = true)
    (hkept : NumberKept lib browser j) :
    kind.holds (.str (textOf browser (some j))) = true := by
  by_cases hstring : kind = .string
  · subst hstring
    obtain ⟨s, rfl, -⟩ := Kind.holds_string h
    exact h
  · have hvalid := isValidNumber_textOf hstring hbool h hkept
    cases kind with
    | string => exact absurd rfl hstring
    | bool => exact absurd rfl hbool
    | _ => exact hvalid

/-! ## The loaded page -/

/-- All settings of the page are there. -/
def Reaches (config : Json) : Prop :=
  ∀ load ∈ loads, getPath load.2 config ≠ .null

instance (config : Json) : Decidable (Reaches config) :=
  decidable_of_iff
    (∀ load ∈ loads, (getPath load.2 config).isNull = false)
    (by
      have hnull : ∀ j : Json, j.isNull = false ↔ j ≠ .null := by
        intro j
        cases j <;> simp [isNull]
      simp only [Reaches, hnull])

/-- What the select shows: the mode if it is an option, and else the option
that it has shown before. -/
def shownMode (mode : Json) (before : Json) : Json :=
  if ∃ option ∈ modeOptions, mode.asCString = some option then mode else before

/-- What a widget holds when it is given a setting. -/
def Widget.shown (browser : Browser) (setting before : Json) : Widget → Json
  | .value id =>
      .str (sanitize (inputType id) (textOf browser (some setting)))
  | .checked _ => .bool (truthy setting)
  | .mode => shownMode setting before

theorem eq_str_of_asCString
    {j : Json} {s : String} (h : j.asCString = some s) : j = .str s := by
  cases j with
  | str t => rw [Option.some.inj h]
  | _ => exact absurd h (by simp [asCString])

theorem read_setValueSl (mode : Json) (page : Page) :
    Widget.mode.read (setValueSl mode page) =
      shownMode mode (Widget.mode.read page) := by
  unfold setValueSl shownMode
  split
  · next i hi =>
      obtain ⟨hlt, hoption, -⟩ := List.findIdx?_eq_some_iff_getElem.mp hi
      have hmode := eq_of_beq hoption
      rw [if_pos ⟨_, List.getElem_mem hlt, hmode⟩, eq_str_of_asCString hmode]
      simp [Widget.read, hlt]
  · next hi =>
      rw [if_neg]
      rintro ⟨option, hoption, hmode⟩
      have hnot := List.findIdx?_eq_none_iff.mp hi option hoption
      rw [hmode, beq_self_eq_true] at hnot
      exact absurd hnot (by decide)

theorem read_load_self
    (browser : Browser) (setting : Json) (page : Page) (widget : Widget) :
    widget.read (widget.load browser (some setting) page) =
      widget.shown browser setting (widget.read page) := by
  cases widget with
  | value id => simp [Widget.read, Widget.load, Widget.shown, setValue]
  | checked id => simp [Widget.read, Widget.load, Widget.shown, setChecked]
  | mode => exact read_setValueSl setting page

theorem setValueSl_eq (mode : Json) (page : Page) :
    setValueSl mode page =
      { page with selectedIndex := (setValueSl mode page).selectedIndex } := by
  unfold setValueSl
  split <;> rfl

/-- A widget is left alone when another one is given a value. -/
theorem read_load_of_ne
    (browser : Browser) (value : Option Json) (page : Page)
    {widget other : Widget} (h : widget ≠ other) :
    widget.read (other.load browser value page) = widget.read page := by
  cases other with
  | value id =>
      cases widget with
      | value id' =>
          have hid : id' ≠ id := fun heq => h (congrArg Widget.value heq)
          simp [Widget.read, Widget.load, setValue, hid]
      | checked id' => rfl
      | mode => rfl
  | checked id =>
      cases widget with
      | value id' => rfl
      | checked id' =>
          have hid : id' ≠ id := fun heq => h (congrArg Widget.checked heq)
          simp [Widget.read, Widget.load, setChecked, hid]
      | mode => rfl
  | mode =>
      rw [Widget.load, setValueSl_eq]
      cases widget with
      | value id' => rfl
      | checked id' => rfl
      | mode => exact absurd rfl h

/-- Filling other widgets leaves a widget alone. -/
theorem read_loadAll_of_not_mem
    (browser : Browser) (config : Json) {widget : Widget}
    {entries : List (Widget × List String)}
    (h : widget ∉ entries.map Prod.fst) (page : Page) :
    widget.read (loadAll browser config entries page) = widget.read page := by
  induction entries generalizing page with
  | nil => rfl
  | cons load rest ih =>
      rw [List.map_cons, List.mem_cons, not_or] at h
      rw [loadAll]
      split
      · rw [ih h.2, read_load_of_ne browser _ page h.1]
      · rfl

/-- If all settings are there, each widget shows its own. -/
theorem read_loadAll_of_mem
    (browser : Browser) {config : Json}
    {entries : List (Widget × List String)}
    (hwidgets : (entries.map Prod.fst).Nodup)
    (hreach : ∀ load ∈ entries, getPath load.2 config ≠ .null)
    {widget : Widget} {path : List String} (hmem : (widget, path) ∈ entries)
    (page : Page) :
    widget.read (loadAll browser config entries page) =
      widget.shown browser (getPath path config) (widget.read page) := by
  induction entries generalizing page with
  | nil => exact absurd hmem List.not_mem_nil
  | cons load rest ih =>
      obtain ⟨hfirst, hrest⟩ := List.nodup_cons.mp hwidgets
      rw [loadAll, readPath_of_ne_null (hreach load List.mem_cons_self)]
      dsimp only
      rcases List.mem_cons.mp hmem with heq | hmem
      · subst heq
        rw [read_loadAll_of_not_mem browser config hfirst]
        exact read_load_self browser _ page widget
      · have hne : widget ≠ load.1 := by
          rintro rfl
          exact hfirst (List.mem_map.mpr ⟨_, hmem, rfl⟩)
        rw [ih hrest
          (fun other hother => hreach other (List.mem_cons_of_mem _ hother))
          hmem, read_load_of_ne browser _ page hne]

theorem loadAll_configESP
    (browser : Browser) (config : Json) (entries : List (Widget × List String))
    (page : Page) :
    (loadAll browser config entries page).configESP = page.configESP := by
  induction entries generalizing page with
  | nil => rfl
  | cons load rest ih =>
      rw [loadAll]
      split
      · next value _ =>
          rw [ih]
          cases load.1 with
          | mode => rw [Widget.load, setValueSl_eq]
          | _ => rfl
      · rfl

/-- The page takes over the configuration that it is answered. -/
@[simp] theorem getInfo_configESP
    (browser : Browser) (amb : Ambient) (config : Json) (page : Page) :
    (getInfo browser (WebHandler.infoDoc amb config) page).configESP =
      config :=
  loadAll_configESP browser config loads { page with configESP := config }

theorem loads_nodup : (loads.map Prod.fst).Nodup := by decide +kernel

/-- A page that loads a configuration with all settings shows them. -/
theorem read_getInfo
    (browser : Browser) (amb : Ambient) {config : Json} (h : Reaches config)
    {widget : Widget} {path : List String} (hmem : (widget, path) ∈ loads)
    (page : Page) :
    widget.read (getInfo browser (WebHandler.infoDoc amb config) page) =
      widget.shown browser (getPath path config) (widget.read page) :=
  read_loadAll_of_mem browser loads_nodup h hmem
    { page with configESP := config }

/-! ## The tables of the page agree -/

/-- The widget is of the type that a setting of the kind needs. -/
def Widget.Fits (kind : Kind) : Widget → Prop
  | .value id => kind ≠ .bool ∧ (inputType id = .number ↔ kind ≠ .string)
  | .checked _ => kind = .bool
  | .mode => kind = .int

instance (kind : Kind) : (widget : Widget) → Decidable (widget.Fits kind)
  | .value _ => inferInstanceAs (Decidable (_ ∧ (_ ↔ _)))
  | .checked _ => inferInstanceAs (Decidable (_ = _))
  | .mode => inferInstanceAs (Decidable (_ = _))

/-- The widget is loaded with the setting and is of the right type for it. -/
def Bound (setting : List String × Kind) (widget : Widget) : Prop :=
  (widget, setting.1) ∈ loads ∧ widget.Fits setting.2

instance (setting : List String × Kind) (widget : Widget) :
    Decidable (Bound setting widget) :=
  inferInstanceAs (Decidable (_ ∧ _))

/-- The two buttons. -/
def buttons : List ℕ := [1, 2]

theorem saves_pairwise :
    ∀ type ∈ buttons,
      (saves type).Pairwise fun a b => Apart a.1 b.1 := by
  decide +kernel

theorem saves_loaded :
    ∀ type ∈ buttons, ∀ entry ∈ saves type, (entry.2, entry.1) ∈ loads := by
  decide +kernel

theorem saves_bound :
    ∀ type ∈ buttons, ∀ entry ∈ saves type, ∀ setting ∈ deviceSettings,
      (entry.1 = setting.1 ∧ Bound setting entry.2) ∨
        Apart entry.1 setting.1 := by
  decide +kernel

theorem mode_saved_iff :
    ∀ type ∈ buttons,
      ((["auto", "mode"], Widget.mode) ∈ saves type ↔ type = 1) := by
  decide +kernel

theorem mode_mem : (["auto", "mode"], Kind.int) ∈ deviceSettings := by
  decide +kernel

/-- All settings of the page are settings of the device. -/
theorem loads_settings :
    ∀ load ∈ loads, ∃ setting ∈ deviceSettings, setting.1 = load.2 := by
  decide +kernel

/-- The select is loaded with the mode, and nothing else is. -/
theorem loads_mode_iff :
    ∀ load ∈ loads, (load.1 = .mode ↔ load.2 = ["auto", "mode"]) := by
  decide +kernel

/-- The mode is saved from the select and from nothing else. -/
theorem Bound.eq_mode_iff
    {setting : List String × Kind} {widget : Widget}
    (h : Bound setting widget) :
    widget = .mode ↔ setting.1 = ["auto", "mode"] :=
  loads_mode_iff _ h.1

theorem holds_shownMode (mode : Json) :
    Kind.int.holds (shownMode mode (.str "0")) = true := by
  have hoptions : ∀ option ∈ modeOptions,
      Kind.int.holds (.str option) = true := by decide +kernel
  unfold shownMode
  split_ifs with h
  · obtain ⟨option, hoption, hmode⟩ := h
    rw [eq_str_of_asCString hmode]
    exact hoptions option hoption
  · decide +kernel

/-- What the device makes of the mode that is sent back. -/
theorem read_shownMode_iff
    {lib : ArduinoJson} (hzero : lib.parseNumber "0" = .fin 0) (mode : Json) :
    Kind.int.read lib (shownMode mode (.str "0")) = Kind.int.read lib mode ↔
      (∃ option ∈ modeOptions, mode = .str option) ∨ mode.asInt lib = 0 := by
  have hfirst : (Json.str "0").asInt lib = 0 := by
    rw [asInt, hzero]
    decide +kernel
  by_cases hoption : ∃ option ∈ modeOptions, mode = .str option
  · refine iff_of_true ?_ (Or.inl hoption)
    obtain ⟨option, hmem, rfl⟩ := hoption
    rw [shownMode, if_pos ⟨option, hmem, rfl⟩]
  · have hshown : shownMode mode (.str "0") = .str "0" := by
      refine if_neg ?_
      rintro ⟨option, hmem, hstring⟩
      exact hoption ⟨option, hmem, eq_str_of_asCString hstring⟩
    rw [hshown, Kind.read, hfirst, or_iff_right hoption]
    constructor
    · intro h
      exact (Reading.int.inj h).symm
    · intro h
      rw [Kind.read, h]

/-! ## The saved configuration -/

theorem assignments_pairwise {type : ℕ} (h : type ∈ buttons) (page : Page) :
    (assignments type page).Pairwise fun a b => Apart a.1 b.1 :=
  List.pairwise_map.mpr (saves_pairwise type h)

/-- On a page whose copy has all settings, a save posts the copy with the
settings of its group as the widgets hold them. -/
theorem save_of_reaches
    {type : ℕ} (htype : type ∈ buttons) {page : Page}
    (hpage : Reaches page.configESP) :
    (save type page).2 =
        some (.obj
          [("type", .str "save"),
            ("config", (save type page).1.configESP)]) ∧
      ∀ entry ∈ saves type,
        getPath entry.1 (save type page).1.configESP =
          entry.2.read page := by
  have hreach : ∀ entry ∈ assignments type page,
      getPath entry.1 page.configESP ≠ .null := by
    intro entry hentry
    obtain ⟨source, hsource, rfl⟩ := List.mem_map.mp hentry
    exact hpage _ (saves_loaded type htype source hsource)
  obtain ⟨hcompleted, hvalues⟩ :=
    assignAll_completes (assignments_pairwise htype page) hreach
  exact ⟨if_pos hcompleted, fun entry hentry =>
    hvalues _ (List.mem_map.mpr ⟨entry, hentry, rfl⟩)⟩

/-- A save leaves all other settings of the copy alone. -/
theorem getPath_save_of_apart
    {type : ℕ} {page : Page} {path : List String}
    (h : ∀ entry ∈ saves type, Apart entry.1 path) :
    getPath path (save type page).1.configESP =
      getPath path page.configESP := by
  apply getPath_assignAll_of_apart
  intro entry hentry
  obtain ⟨source, hsource, rfl⟩ := List.mem_map.mp hentry
  exact h source hsource

section

variable {lib : ArduinoJson} (browser : Browser) (amb : Ambient)
variable {config : Json} {type : ℕ}

theorem Complete.reaches (h : Complete config) : Reaches config := by
  intro load hload hnull
  obtain ⟨setting, hsetting, hpath⟩ := loads_settings load hload
  have hholds := h setting hsetting
  rw [hpath, hnull, Kind.holds_null] at hholds
  exact absurd hholds Bool.false_ne_true

theorem loaded_configESP :
    (loaded browser amb config).configESP = config :=
  getInfo_configESP browser amb config initialPage

theorem Complete.reaches_loaded (h : Complete config) :
    Reaches (loaded browser amb config).configESP := by
  rw [loaded_configESP]
  exact h.reaches

theorem sentBack_eq
    (htype : type ∈ buttons) (hcomplete : Complete config) :
    sentBack browser amb type config =
      (save type (loaded browser amb config)).1.configESP := by
  rw [sentBack,
    (save_of_reaches htype (hcomplete.reaches_loaded browser amb)).1]
  rfl

/-- The value of a setting that is sent back: that of its widget if it has one,
and the original otherwise. -/
theorem getPath_sentBack
    (htype : type ∈ buttons) (hcomplete : Complete config)
    {setting : List String × Kind} (hsetting : setting ∈ deviceSettings) :
    (∃ widget, (setting.1, widget) ∈ saves type ∧ Bound setting widget ∧
        getPath setting.1 (sentBack browser amb type config) =
          widget.read (loaded browser amb config)) ∨
      ((∀ widget, (setting.1, widget) ∉ saves type) ∧
        getPath setting.1 (sentBack browser amb type config) =
          getPath setting.1 config) := by
  have hreach := hcomplete.reaches_loaded browser amb
  rw [sentBack_eq browser amb htype hcomplete]
  by_cases hentry : ∃ widget, (setting.1, widget) ∈ saves type
  · left
    obtain ⟨widget, hmem⟩ := hentry
    refine ⟨widget, hmem, ?_, (save_of_reaches htype hreach).2 _ hmem⟩
    rcases saves_bound type htype _ hmem setting hsetting with
      ⟨-, hbound⟩ | hapart
    · exact hbound
    · exact absurd (List.prefix_refl _) hapart.1
  · right
    refine ⟨fun widget hmem => hentry ⟨widget, hmem⟩, ?_⟩
    rw [getPath_save_of_apart, loaded_configESP]
    intro source hsource
    rcases saves_bound type htype source hsource setting hsetting with
      ⟨hpath, -⟩ | hapart
    · refine absurd ⟨source.2, ?_⟩ hentry
      rw [← hpath]
      exact hsource
    · exact hapart

/-- A widget that is loaded with a setting shows it. -/
theorem read_loaded
    (hcomplete : Complete config) {widget : Widget} {path : List String}
    (h : (widget, path) ∈ loads) :
    widget.read (loaded browser amb config) =
      widget.shown browser (getPath path config)
        (widget.read initialPage) :=
  read_getInfo browser amb hcomplete.reaches h initialPage

/-- The text of a setting fits into its field. -/
theorem shown_value
    {setting : List String × Kind} {id : String} {j before : Json}
    (hfits : (Widget.value id).Fits setting.2)
    (hholds : setting.2.holds j = true) (hkept : NumberKept lib browser j) :
    (Widget.value id).shown browser j before =
      .str (textOf browser (some j)) := by
  rw [Widget.shown, sanitize_field hfits.1 hfits.2 hholds hkept]

/-- A field or a checkbox gives back a value that is read like the original. -/
theorem read_widget
    {setting : List String × Kind} {widget : Widget}
    (hbound : Bound setting widget) (hmode : widget ≠ .mode)
    (hcomplete : Complete config)
    (hholds : setting.2.holds (getPath setting.1 config) = true)
    (hkept : NumberKept lib browser (getPath setting.1 config)) :
    setting.2.read lib (widget.read (loaded browser amb config)) =
      setting.2.read lib (getPath setting.1 config) := by
  obtain ⟨hload, hfits⟩ := hbound
  rw [read_loaded browser amb hcomplete hload]
  cases widget with
  | mode => exact absurd rfl hmode
  | value id =>
      rw [shown_value browser hfits hholds hkept]
      exact read_textOf hfits.1 hholds hkept
  | checked id =>
      have hbool : setting.2 = .bool := hfits
      rw [hbool] at hholds
      obtain ⟨b, hb⟩ := Kind.holds_bool hholds
      rw [hb]
      rfl

/-- What is sent back is complete again. -/
theorem complete_sentBack
    (htype : type ∈ buttons) (hcomplete : Complete config)
    (hkept : ∀ setting ∈ deviceSettings,
      NumberKept lib browser (getPath setting.1 config)) :
    Complete (sentBack browser amb type config) := by
  intro setting hsetting
  have hholds := hcomplete setting hsetting
  rcases getPath_sentBack browser amb htype hcomplete hsetting with
    ⟨widget, -, ⟨hload, hfits⟩, hvalue⟩ | ⟨-, hvalue⟩
  · rw [hvalue, read_loaded browser amb hcomplete hload]
    cases widget with
    | mode =>
        have hint : setting.2 = .int := hfits
        rw [hint]
        exact holds_shownMode _
    | value id =>
        have hkept := hkept setting hsetting
        rw [shown_value browser hfits hholds hkept]
        exact Kind.holds_textOf hfits.1 hholds hkept
    | checked id =>
        have hbool : setting.2 = .bool := hfits
        rw [hbool]
        rfl
  · rw [hvalue]
    exact hholds

/-- The first button sends the mode that the select shows. -/
theorem getPath_mode_sentBack (hcomplete : Complete config) :
    getPath ["auto", "mode"] (sentBack browser amb 1 config) =
      shownMode (getPath ["auto", "mode"] config) (.str "0") := by
  have hbutton : 1 ∈ buttons := by decide
  rcases getPath_sentBack browser amb hbutton hcomplete mode_mem with
    ⟨widget, -, hbound, hvalue⟩ | ⟨hnot, -⟩
  · obtain rfl := hbound.eq_mode_iff.mpr rfl
    exact hvalue.trans (read_loaded browser amb hcomplete hbound.1)
  · exact absurd ((mode_saved_iff 1 hbutton).mpr rfl) (hnot .mode)

/-- A setting that is not saved from the select is read as before. -/
theorem read_sentBack_of_not_mode
    (htype : type ∈ buttons) (hcomplete : Complete config)
    (hkept : ∀ setting ∈ deviceSettings,
      NumberKept lib browser (getPath setting.1 config))
    {setting : List String × Kind} (hsetting : setting ∈ deviceSettings)
    (hmode : (setting.1, Widget.mode) ∉ saves type) :
    setting.2.read lib
        (getPath setting.1 (sentBack browser amb type config)) =
      setting.2.read lib (getPath setting.1 config) := by
  rcases getPath_sentBack browser amb htype hcomplete hsetting with
    ⟨widget, hmem, hbound, hvalue⟩ | ⟨-, hvalue⟩
  · have hwidget : widget ≠ .mode := by
      rintro rfl
      exact hmode hmem
    rw [hvalue]
    exact read_widget browser amb hbound hwidget hcomplete
      (hcomplete setting hsetting) (hkept setting hsetting)
  · rw [hvalue]

/-- If the mode survives the select, everything is read as before. -/
theorem readsSame_of_modeSurvives
    (htype : type ∈ buttons) (hcomplete : Complete config)
    (hkept : ∀ setting ∈ deviceSettings,
      NumberKept lib browser (getPath setting.1 config))
    (hzero : lib.parseNumber "0" = .fin 0)
    (hsurvives : type = 1 → ModeSurvives lib config) :
    ReadsSame lib config (sentBack browser amb type config) := by
  intro setting hsetting
  by_cases hsaved : (setting.1, Widget.mode) ∈ saves type
  · have hbound : Bound setting .mode := by
      rcases saves_bound type htype _ hsaved setting hsetting with
        ⟨-, hbound⟩ | hapart
      · exact hbound
      · exact absurd (List.prefix_refl _) hapart.1
    obtain rfl : setting = (["auto", "mode"], .int) :=
      Prod.ext (hbound.eq_mode_iff.mp rfl) hbound.2
    obtain rfl := (mode_saved_iff type htype).mp hsaved
    rw [getPath_mode_sentBack browser amb hcomplete]
    exact (read_shownMode_iff hzero _).mpr (hsurvives rfl)
  · exact read_sentBack_of_not_mode browser amb htype hcomplete hkept hsetting
      hsaved

end

/-- For every complete configuration and both buttons: the device reads the
same values out of what is sent back as out of the original, unless the button
is the one that saves the mode and the mode does not survive the select. -/
theorem readsSame_sentBack_iff
    (lib : ArduinoJson) (browser : Browser) (amb : Ambient) (config : Json)
    (type : ℕ) (htype : type = 1 ∨ type = 2) (hcomplete : Complete config)
    (hkept : ∀ setting ∈ deviceSettings,
      NumberKept lib browser (getPath setting.1 config))
    (hzero : lib.parseNumber "0" = .fin 0) :
    ReadsSame lib config (sentBack browser amb type config) ↔
      (type = 1 → ModeSurvives lib config) := by
  have hbutton : type ∈ buttons := by
    rcases htype with rfl | rfl
    · decide
    · decide
  constructor
  · rintro hsame rfl
    have hread := hsame _ mode_mem
    rw [getPath_mode_sentBack browser amb hcomplete] at hread
    exact (read_shownMode_iff hzero _).mp hread
  · exact readsSame_of_modeSurvives browser amb hbutton hcomplete hkept hzero

/-- The configuration as delivered, with the given mode. -/
def deliveredConfig (mode : Json) : Json :=
  .obj
    [("version", .str "1.5.0"),
      ("wifi",
        .obj
          [("client", .obj [("ssid", .str ""), ("password", .str "")]),
            ("ap",
              .obj
                [("ssid", .str "BYTELEVEL"),
                  ("password", .str "BYTESTORE2026")])]),
      ("mqtt",
        .obj
          [("state", .bool false), ("host", .str ""), ("port", .int 1883),
            ("user", .str ""), ("password", .str "")]),
      ("calibration",
        .obj
          [("min", .str "0.00"), ("max", .str "2.40"),
            ("volume", .int 1000)]),
      ("auto",
        .obj
          [("mode", mode), ("max", .str "80.00"), ("fill", .str "20.00"),
            ("min", .str "10.00")]),
      ("admin",
        .obj
          [("state", .bool false), ("user", .str ""),
            ("password", .str "")]),
      ("hardware",
        .obj
          [("led", .bool true), ("oled", .bool true), ("level", .int 128)]),
      ("ota", .bool true)]

/-- The script's way to write an integer. -/
def sampleBrowser : Browser where
  stringOf
    | .int n => toString n
    | _ => ""

/-- The library on the numbers of `deliveredConfig`. -/
def numberLibrary : ArduinoJson :=
  { ArduinoJson.textless with
    parseNumber := fun s =>
      (([("1", 1), ("2", 2), ("128", 128), ("1000", 1000), ("1883", 1883),
        ("2.40", 12 / 5), ("80.00", 80), ("20.00", 20),
        ("10.00", 10)] : List (String × ℚ)).lookup s).elim (.fin 0) .fin }

/-- The delivered configuration with the mode as a string comes back as it
was. -/
theorem readsSame_sentBack_delivered :
    ReadsSame numberLibrary (deliveredConfig (.str "1"))
      (sentBack sampleBrowser (.plain 1000) 1
        (deliveredConfig (.str "1"))) := by
  refine (readsSame_sentBack_iff numberLibrary sampleBrowser (.plain 1000)
    (deliveredConfig (.str "1")) 1 (Or.inl rfl) (by decide +kernel)
    (by decide +kernel) (by decide +kernel)).mpr ?_
  intro _
  exact Or.inl ⟨"1", by decide, rfl⟩

/-- With the mode as a number, the page shows and saves the mode 0. -/
theorem not_readsSame_sentBack_number :
    Complete (deliveredConfig (.int 1)) ∧
      ¬ ReadsSame numberLibrary (deliveredConfig (.int 1))
        (sentBack sampleBrowser (.plain 1000) 1
          (deliveredConfig (.int 1))) := by
  refine ⟨by decide +kernel, ?_⟩
  intro hsame
  have hmode := hsame (["auto", "mode"], .int) (by decide +kernel)
  exact absurd (Reading.int.inj hmode) (by decide +kernel)

end WebPage
end ByteWaterlevel
