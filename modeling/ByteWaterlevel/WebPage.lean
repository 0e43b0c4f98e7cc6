import ByteWaterlevel.Support.JsonPath
import Mathlib.Logic.Function.Basic

/-!
# The web page

The part of the script of `index.html` that shows the configuration in the
widgets of the page (`getInfo`) and sends it back (`save`).  The documents that
go over the wire are taken as they are.

Both functions take members of members, and the script throws where a section
of the configuration is missing.  `getInfo` then leaves the rest of the widgets
alone, and `save` leaves the rest of the assignments out and posts nothing.

A widget keeps what it is given as far as its type allows: a text or password
field drops line breaks, a number field keeps a valid floating-point number and
is empty otherwise, and the select has one of its options chosen at all times.
`Browser` is the conversion of a value to a string by the script's language.
-/

namespace ByteWaterlevel
namespace WebPage

open Json

structure Browser where
  /-- `String(x)` for a value that is neither a string nor null. -/
  stringOf : Json → String

inductive InputType where
  | text
  | password
  | number
deriving DecidableEq

/-- The input fields of the page. -/
def inputs : List (String × InputType) :=
  [("cssid", .text), ("cpw", .password), ("assid", .text),
    ("apw", .password), ("minv", .number), ("maxv", .number),
    ("tv", .number), ("maxl", .number), ("minfl", .number),
    ("minl", .number), ("mhost", .text), ("mport", .number),
    ("muser", .text), ("mpw", .password), ("user", .text),
    ("pw", .password)]

def inputType (id : String) : InputType := (inputs.lookup id).getD .text

/-- The options of the select `mode`. -/
def modeOptions : List String := ["0", "1", "2"]

/-- One or more digits. -/
def isDigits (cs : List Char) : Bool := !cs.isEmpty && cs.all Char.isDigit

/-- The exponent of a number, if there is one. -/
def isExponent : List Char → Bool
  | [] => true
  | c :: rest =>
      (c == 'e' || c == 'E') &&
        match rest with
        | '+' :: digits => isDigits digits
        | '-' :: digits => isDigits digits
        | digits => isDigits digits

/-- A valid floating-point number in the sense of a number field. -/
def isValidNumber (s : String) : Bool :=
  let cs :=
    match s.toList with
    | '-' :: rest => rest
    | cs => cs
  let whole := cs.takeWhile Char.isDigit
  match cs.dropWhile Char.isDigit with
  | '.' :: rest =>
      !(rest.takeWhile Char.isDigit).isEmpty &&
        isExponent (rest.dropWhile Char.isDigit)
  | rest => !whole.isEmpty && isExponent rest

def isLineBreak (c : Char) : Bool := c == '\n' || c == '\r'

/-- What a field keeps of a value that is assigned to it. -/
def sanitize : InputType → String → String
  | .number, s => if isValidNumber s then s else ""
  | _, s => String.ofList (s.toList.filter fun c => !isLineBreak c)

/-- The conversion of a value that is assigned to a field; `none` is
undefined. -/
def textOf (browser : Browser) : Option Json → String
  | none => "undefined"
  | some (.str s) => s
  | some .null => ""
  | some j => browser.stringOf j

/-- `Boolean(x)`. -/
def truthy : Json → Bool
  | .null => false
  | .bool b => b
  | .int n => decide (n ≠ 0)
  | .real x => decide (x ≠ .fin 0 ∧ x ≠ .nan)
  | .str s => decide (s ≠ "")
  | _ => true

structure Page where
  /-- The page's copy of the configuration.  `null` stands for undefined as
  well: a member of neither can be taken. -/
  configESP : Json
  value : String → String
  checked : String → Bool
  /-- The option of the select that is chosen. -/
  selectedIndex : ℕ

def initialPage : Page where
  configESP := .null
  value := fun id => if id = "mport" then "1883" else ""
  checked := fun _ => false
  selectedIndex := 0

def setValue (browser : Browser) (id : String) (text : Option Json)
    (page : Page) : Page :=
  { page with
    value := Function.update page.value id
      (sanitize (inputType id) (textOf browser text)) }

def setChecked (id : String) (isOn : Json) (page : Page) : Page :=
  { page with checked := Function.update page.checked id (truthy isOn) }

/-- Chooses the first option that is strictly equal to the value, and none if
there is no such option.  A number is not strictly equal to any option. -/
def setValueSl (val : Json) (page : Page) : Page :=
  match modeOptions.findIdx? fun option => val.asCString == some option with
  | some i => { page with selectedIndex := i }
  | none => page

/-- A widget that shows a setting. -/
inductive Widget where
  | value (id : String)
  | checked (id : String)
  | mode
deriving DecidableEq

/-! ## Loading -/

/-- Shows a value in a widget.  An undefined value is not true and is equal to
no option, like null. -/
def Widget.load (browser : Browser) (value : Option Json) (page : Page) :
    Widget → Page
  | .value id => setValue browser id value page
  | .checked id => setChecked id (value.getD .null) page
  | .mode => setValueSl (value.getD .null) page

/-- The widgets that `getInfo` fills, in its order, with the settings they
show.  The field `mpair`, which is never read, is left out. -/
def loads : List (Widget × List String) :=
  [(.value "user", ["admin", "user"]),
    (.value "pw", ["admin", "password"]),
    (.checked "auth", ["admin", "state"]),
    (.checked "led", ["hardware", "led"]),
    (.checked "ota", ["ota"]),
    (.value "assid", ["wifi", "ap", "ssid"]),
    (.value "apw", ["wifi", "ap", "password"]),
    (.value "cssid", ["wifi", "client", "ssid"]),
    (.value "cpw", ["wifi", "client", "password"]),
    (.value "maxv", ["calibration", "max"]),
    (.value "minv", ["calibration", "min"]),
    (.value "tv", ["calibration", "volume"]),
    (.value "mhost", ["mqtt", "host"]),
    (.value "muser", ["mqtt", "user"]),
    (.value "mport", ["mqtt", "port"]),
    (.value "mpw", ["mqtt", "password"]),
    (.checked "men", ["mqtt", "state"]),
    (.mode, ["auto", "mode"]),
    (.value "maxl", ["auto", "max"]),
    (.value "minl", ["auto", "min"]),
    (.value "minfl", ["auto", "fill"])]

/-- Fills the widgets one after another, up to the first setting that cannot be
read. -/
def loadAll (browser : Browser) (response : Json) :
    List (Widget × List String) → Page → Page
  | [], page => page
  | (widget, path) :: rest, page =>
      match readPath path response with
      | some value =>
          loadAll browser response rest (widget.load browser value page)
      | none => page

/-- What the page does with the answer to an `info` request. -/
def getInfo (browser : Browser) (data : Json) (page : Page) : Page :=
  if (data.get "type").asCString = some "success" then
    let response := data.get "config"
    loadAll browser response loads { page with configESP := response }
  else page

/-! ## Saving -/

/-- What `save` takes from a widget. -/
def Widget.read (page : Page) : Widget → Json
  | .value id => .str (page.value id)
  | .checked id => .bool (page.checked id)
  | .mode => .str (modeOptions.getD page.selectedIndex "")

/-- The assignments of `save` in their order. -/
def saves : ℕ → List (List String × Widget)
  | 1 =>
      [(["wifi", "ap", "ssid"], .value "assid"),
        (["wifi", "ap", "password"], .value "apw"),
        (["wifi", "client", "ssid"], .value "cssid"),
        (["wifi", "client", "password"], .value "cpw"),
        (["calibration", "max"], .value "maxv"),
        (["calibration", "min"], .value "minv"),
        (["calibration", "volume"], .value "tv"),
        (["mqtt", "host"], .value "mhost"),
        (["mqtt", "port"], .value "mport"),
        (["mqtt", "user"], .value "muser"),
        (["mqtt", "password"], .value "mpw"),
        (["mqtt", "state"], .checked "men"),
        (["auto", "mode"], .mode),
        (["auto", "max"], .value "maxl"),
        (["auto", "min"], .value "minl"),
        (["auto", "fill"], .value "minfl")]
  | 2 =>
      [(["admin", "user"], .value "user"),
        (["admin", "password"], .value "pw"),
        (["admin", "state"], .checked "auth"),
        (["hardware", "led"], .checked "led"),
        (["ota"], .checked "ota")]
  | _ => []

/-- The same with what the widgets hold. -/
def assignments (type : ℕ) (page : Page) : List (List String × Json) :=
  (saves type).map fun entry => (entry.1, entry.2.read page)

/-- The page after `save`, and the payload that it posts, unless one of the
assignments throws. -/
def save (type : ℕ) (page : Page) : Page × Option Json :=
  let (configESP, completed) :=
    assignAll (assignments type page) page.configESP
  let payload : Json := .obj [("type", .str "save"), ("config", configESP)]
  ({ page with configESP := configESP },
    if completed then some payload else none)

end WebPage
end ByteWaterlevel
