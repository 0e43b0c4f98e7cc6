import ByteWaterlevel.Support.ExtRat

/-!
# JSON variants and their conversions

The value type of a JSON document together with the type tests and the loose
conversions of the ArduinoJson library, version 7.  Numbers written without
fraction and exponent are kept as integers and all others as reals, as the
library stores them.  Object members are kept in document order.

The text side of the library (writing a document, parsing a text, reading a
number out of a string) is a parameter: `ArduinoJson` collects the three
operations, and the results that need laws of them state these laws.
-/

inductive Json where
  | null
  | bool (b : Bool)
  | int (n : ℤ)
  | real (x : ExtRat)
  | str (s : String)
  | arr (elements : List Json)
  | obj (members : List (String × Json))

/-- The document that parsing leaves behind, and whether parsing reported an
error. -/
structure Parsed where
  doc : Json
  error : Bool

/-- The text operations of the library. -/
structure ArduinoJson where
  serializeJson : Json → String
  deserializeJson : String → Parsed
  parseNumber : String → ExtRat

/-- The library where only documents with the one given text are written, and
none is parsed.  A missing member is written as the null variant. -/
def ArduinoJson.writing (text : String) : ArduinoJson where
  serializeJson
    | .null => "null"
    | _ => text
  deserializeJson := fun _ => ⟨.null, true⟩
  parseNumber := fun _ => .fin 0

/-- The library without its text operations.  It computes as the library does
where no document is parsed, and none but a missing member is written. -/
def ArduinoJson.textless : ArduinoJson := .writing ""

/-- The library on flashes that hold the one given text, which parses to
`doc`. -/
def ArduinoJson.reading (text : String) (doc : Json) : ArduinoJson :=
  { textless with
    deserializeJson := fun input =>
      if input = text then ⟨doc, false⟩ else ⟨.null, true⟩ }

namespace Json

instance : Inhabited Json := ⟨null⟩

/-- Member access: the null variant for an absent key and for every variant
that is not an object. -/
def get (j : Json) (key : String) : Json :=
  match j with
  | obj members => (members.lookup key).getD null
  | _ => null

def containsKey (j : Json) (key : String) : Bool :=
  match j with
  | obj members => members.any fun m => m.1 == key
  | _ => false

/-! ## Type tests -/

def isNull : Json → Bool
  | null => true
  | _ => false

def isBool : Json → Bool
  | bool _ => true
  | _ => false

def isString : Json → Bool
  | str _ => true
  | _ => false

def isObject : Json → Bool
  | obj _ => true
  | _ => false

def intMin : ℤ := -2 ^ 31

def intMax : ℤ := 2 ^ 31 - 1

/-- An integer that a 32-bit `int` can represent. -/
def isInt : Json → Bool
  | int n => decide (intMin ≤ n ∧ n ≤ intMax)
  | _ => false

/-! ## Conversions -/

def asBool : Json → Bool
  | null => false
  | bool b => b
  | int n => decide (n ≠ 0)
  | real x => decide (x ≠ .fin 0)
  | _ => true

/-- The number that a variant stands for, before it is cut to a machine
type. -/
def asNumber (lib : ArduinoJson) : Json → ExtRat
  | bool b => if b then .fin 1 else .fin 0
  | int n => .fin n
  | real x => x
  | str s => lib.parseNumber s
  | _ => .fin 0

/-- `as<float>()`: the number of the variant, in single precision. -/
def asFloat (lib : ArduinoJson) (j : Json) : ExtRat :=
  (j.asNumber lib).toBinary32

def asInt (lib : ArduinoJson) : Json → BitVec 32
  | bool b => if b then 1 else 0
  | int n => if intMin ≤ n ∧ n ≤ intMax then BitVec.ofInt 32 n else 0
  | real x => BitVec.ofInt 32 (x.truncateTo intMin intMax)
  | str s => BitVec.ofInt 32 ((lib.parseNumber s).truncateTo intMin intMax)
  | _ => 0

/-- `as<uint8_t>()`. -/
def asUInt8 (lib : ArduinoJson) : Json → BitVec 8
  | bool b => if b then 1 else 0
  | int n => if 0 ≤ n ∧ n ≤ 255 then BitVec.ofInt 8 n else 0
  | real x => BitVec.ofInt 8 (x.truncateTo 0 255)
  | str s => BitVec.ofInt 8 ((lib.parseNumber s).truncateTo 0 255)
  | _ => 0

/-- A string is itself; every other variant is written out as JSON. -/
def asString (lib : ArduinoJson) : Json → String
  | str s => s
  | j => lib.serializeJson j

/-- The conversion to a C string, which only strings have. -/
def asCString : Json → Option String
  | str s => some s
  | _ => none

/-! ## Members -/

/-- The member with the given key, if the variant is an object that has it. -/
def find (j : Json) (key : String) : Option Json :=
  match j with
  | obj members => members.lookup key
  | _ => none

/-- The members after an assignment: the value of the key is replaced, or the
key is added at the end. -/
def setMember (key : String) (value : Json) :
    List (String × Json) → List (String × Json)
  | [] => [(key, value)]
  | (k, v) :: rest =>
      if k = key then (k, value) :: rest else (k, v) :: setMember key value rest

/-- Assignment to a member.  The null variant becomes an object, and any other
variant that is not an object stays as it is. -/
def set (j : Json) (key : String) (value : Json) : Json :=
  match j with
  | null => obj [(key, value)]
  | obj members => obj (setMember key value members)
  | j => j

/-- `to<JsonObject>()`: the variant is replaced by an empty object. -/
def toJsonObject (_ : Json) : Json := obj []

/-- Adds an empty object at the key. -/
def createNestedObject (j : Json) (key : String) : Json := j.set key (obj [])

theorem isInt_iff {j : Json} :
    j.isInt = true ↔ ∃ n, j = int n ∧ intMin ≤ n ∧ n ≤ intMax := by
  cases j <;> simp [isInt]

/-- A variant that passes the type test converts to the integer it holds. -/
theorem toInt_asInt_of_isInt
    (lib : ArduinoJson) {n : ℤ} (hlo : intMin ≤ n) (hhi : n ≤ intMax) :
    ((int n).asInt lib).toInt = n := by
  rw [asInt, if_pos ⟨hlo, hhi⟩, BitVec.toInt_ofInt]
  simp only [intMin, intMax] at hlo hhi
  exact Int.bmod_eq_of_le (by norm_num; omega) (by norm_num; omega)

end Json
