/-!
# Binary floating-point formats

A binary interchange format packs a sign, an exponent field and a fraction field into one word. This
file says what a word stands for and which word stands for a value, in exact integers: a finite value is
a natural significand times a power of two.
-/

namespace HeaderForge.Binary

/-- A binary format, given by the widths of its two variable fields. -/
structure Format where
  /-- Bits of the fraction field. -/
  fractionBits : Nat
  /-- Bits of the exponent field. -/
  exponentBits : Nat
deriving DecidableEq, Repr

/-- The 32-bit format. -/
def singleFormat : Format := ⟨23, 8⟩

/-- The 64-bit format. -/
def doubleFormat : Format := ⟨52, 11⟩

/-- What a word stands for. -/
inductive Datum where
  /-- Not a number. -/
  | nan
  /-- An infinity. -/
  | infinite (negative : Bool)
  /-- The value `significand * 2 ^ exponent`, or its negation. -/
  | finite (negative : Bool) (significand : Nat) (exponent : Int)
deriving DecidableEq, Repr

namespace Format

/-- The number of fraction patterns, which is also the least significand of a normal value. -/
def fractionCount (format : Format) : Nat := Nat.pow 2 format.fractionBits

/-- The number of exponent patterns. -/
def exponentCount (format : Format) : Nat := Nat.pow 2 format.exponentBits

/-- The exponent of the least values. -/
def leastExponent (format : Format) : Int :=
  2 - (Nat.pow 2 (format.exponentBits - 1) : Nat) - format.fractionBits

/-- The exponent of the greatest finite values. -/
def greatestExponent (format : Format) : Int :=
  format.leastExponent + (format.exponentCount - 3 : Nat)

/-- The word with everything but the sign bit clear. -/
def signPlace (format : Format) : Nat := format.exponentCount * format.fractionCount

/-- What the low bits of a word stand for; higher bits are ignored. -/
def decode (format : Format) (word : Nat) : Datum :=
  let negative := word / format.signPlace % 2 == 1
  let field := word / format.fractionCount % format.exponentCount
  let fraction := word % format.fractionCount
  if field = format.exponentCount - 1 then
    if fraction = 0 then .infinite negative else .nan
  else if field = 0 then
    .finite negative fraction format.leastExponent
  else
    .finite negative (format.fractionCount + fraction) (format.leastExponent + (field - 1 : Nat))

/-- The word of a datum. A finite value is given with its canonical exponent: the significand has
`fractionBits + 1` bits, or fewer if the exponent is the least. -/
def encode (format : Format) : Datum → Nat
  | .nan => (format.exponentCount - 1) * format.fractionCount + format.fractionCount / 2
  | .infinite negative =>
    (if negative then format.signPlace else 0) + (format.exponentCount - 1) * format.fractionCount
  | .finite negative significand exponent =>
    (if negative then format.signPlace else 0)
      + (exponent - format.leastExponent).toNat * format.fractionCount + significand

end Format

/-- A 32-bit floating-point number, by its word. -/
structure Single where
  /-- The word. -/
  word : UInt32
deriving DecidableEq, Repr

/-- A 64-bit floating-point number, by its word. -/
structure Double where
  /-- The word. -/
  word : UInt64
deriving DecidableEq, Repr

/-- What a 32-bit number stands for. -/
def Single.datum (value : Single) : Datum := singleFormat.decode value.word.toNat

/-- What a 64-bit number stands for. -/
def Double.datum (value : Double) : Datum := doubleFormat.decode value.word.toNat

/-- The 32-bit number of a datum. -/
def Single.ofDatum (datum : Datum) : Single := ⟨UInt32.ofNat (singleFormat.encode datum)⟩

/-- The 64-bit number of a datum. -/
def Double.ofDatum (datum : Datum) : Double := ⟨UInt64.ofNat (doubleFormat.encode datum)⟩

end HeaderForge.Binary
