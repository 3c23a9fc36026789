import Calculator.Decimal.Nearest
import Calculator.Decimal.Positional

/-!
# Doubles as text

`Double.text` writes a double with the fewest digits that read back, always in positional form; `Double.read?` reads a
numeral as the nearest double. The sign, infinity and NaN are written too, and `readSigned?` reads them.
-/

namespace Calculator.Double

/-- The weight of the sign in a bit pattern: 2^63. -/
def signBit : Nat :=
  0x8000000000000000

/-- The bit pattern of a double without its sign. -/
def magnitudePattern (x : Float) : Nat :=
  x.toBits.toNat % signBit

/-- Whether the sign of a double is set; that of zero counts. -/
def isNegative (x : Float) : Bool :=
  signBit ≤ x.toBits.toNat

/-- The double with a given bit pattern. -/
def ofPattern (pattern : Nat) : Float :=
  Float.ofBits pattern.toUInt64

/-- Whether a double is no number: its pattern lies behind that of infinity. -/
def isNaN (x : Float) : Bool :=
  Magnitude.infinity < magnitudePattern x

/-- The text of a magnitude with a given pattern, which may be that of infinity. -/
def magnitudeText (pattern : Nat) : List Char :=
  if pattern = Magnitude.infinity then "inf".toList
  else if pattern = 0 then ['0']
  else (Magnitude.ofPattern pattern).shortest.text

/-- The shortest text that reads back as a double. -/
def text (x : Float) : List Char :=
  if isNaN x then "NaN".toList
  else if isNegative x then '-' :: magnitudeText (magnitudePattern x)
  else magnitudeText (magnitudePattern x)

/-- The text of a double as messages show it. -/
def display (x : Float) : String :=
  String.ofList (text x)

/-- The double nearest to a numeral. -/
def read? (numeral : List Char) : Option Float :=
  (Decimal.fraction? numeral).map fun (n, d) => ofPattern (Magnitude.nearest n d)

/-- A numeral, infinity or NaN, which a sign may precede. -/
def readSigned? (text : List Char) : Option Float :=
  match text with
  | '-' :: unsigned => (readUnsigned? unsigned).map (- ·)
  | unsigned => readUnsigned? unsigned
where
  /-- A numeral, infinity or NaN. -/
  readUnsigned? (unsigned : List Char) : Option Float :=
    if unsigned = "inf".toList then some (ofPattern Magnitude.infinity)
    else if unsigned = "NaN".toList then some (0 / 0)
    else read? unsigned

/-- Every numeral can be read. -/
theorem isSome_read?_iff {numeral : List Char} : (read? numeral).isSome ↔ Numeral numeral := by
  rw [read?, Option.isSome_map, Decimal.isSome_fraction?_iff]

end Calculator.Double
