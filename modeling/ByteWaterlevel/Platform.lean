import ByteWaterlevel.Support.ExtRat

/-!
# Machine types and build constants

The firmware is built for the ESP32-C3, where `int`, `long` and
`unsigned long` are 32 bits wide and convert into each other without changing
the bits.  All three are therefore `BitVec 32`; signed readings use
`BitVec.toInt` and signed comparisons `BitVec.slt`.

The constants are those of `InternalConfig.h`.
-/

namespace ByteWaterlevel

/-- `unsigned long`, `unsigned int` and `uint32_t`. -/
abbrev ULong := BitVec 32

/-- `int` and `long`, in two's complement. -/
abbrev CInt := BitVec 32

/-- `int8_t`. -/
abbrev CInt8 := BitVec 8

/-- `uint8_t`, the type of a pin number in the functions of the GPIO. -/
abbrev CUInt8 := BitVec 8

/-- The value of `millis()` at the true uptime `t`, in milliseconds. -/
def millis (t : ℕ) : ULong := BitVec.ofNat 32 t

theorem toNat_millis (t : ℕ) : (millis t).toNat = t % 2 ^ 32 := by
  simp [millis]

namespace InternalConfig

def version : String := "1.5.0"

def blinkInterval : ULong := 250

def scanInterval : ULong := 1000

def displayInterval : ULong := 1000

def mqttInterval : ULong := 1000

def autoInterval : ULong := 1000

/-- The weight of a new value in the voltage filter. -/
def emaAlpha : ExtRat := .fin (3 / 10)

def ledPin : CUInt8 := 2

def relaisCh1 : ULong := 0

def relaisCh2 : ULong := 1

def pumpFill : CInt8 := 1

def pumpEmpty : CInt8 := 2

end InternalConfig
end ByteWaterlevel
