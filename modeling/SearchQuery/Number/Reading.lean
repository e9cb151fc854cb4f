import SearchQuery.Number.Single

/-!
Reading a single-precision number from text: an optional sign, then a decimal numeral with an
optional exponent, or one of the words for the special values in either case.
-/

namespace SearchQuery.Number

attribute [local instance (high)] instPowNat

namespace Single

/-- Splits off a sign. -/
def splitSign : List Char → Bool × List Char
  | '-' :: cs => (true, cs)
  | '+' :: cs => (false, cs)
  | cs => (false, cs)

/-- A whole number with an optional sign. -/
def readExponent? (cs : List Char) : Option Int :=
  let (negative, digits) := splitSign cs
  if digits.isEmpty || !digits.all Char.isDigit then none
  else
    let n := Nat.ofDigitChars 10 digits 0
    some (if negative then -n else n)

/-- The number nearest to `d * 10 ^ e`. Exponents that put every nonzero numeral of its length
beyond the format are not expanded. -/
def scaled (negative : Bool) (d : Decimal) (e : Int) : Single :=
  let width : Int := (Nat.toDigits 10 d.digits).length
  let shift := e - d.places
  if d.digits = 0 ∨ width + shift < -60 then ofRatio negative 0 1
  else if width + shift > 60 then .infinite negative
  else ofRatio negative (d.digits * 10 ^ shift.toNat * unitsPerOne) (10 ^ (-shift).toNat)

/-- Reads a number. -/
def read? (cs : List Char) : Option Single :=
  let (negative, body) := splitSign cs
  let word := body.map Char.toLower
  if word = "inf".toList ∨ word = "infinity".toList then some (.infinite negative)
  else if word = "nan".toList then some .nan
  else
    let mantissa := body.takeWhile fun c => c != 'e' && c != 'E'
    match Decimal.read? mantissa, body.drop mantissa.length with
    | some d, [] => some (scaled negative d 0)
    | some d, _ :: exponent => (readExponent? exponent).map (scaled negative d)
    | none, _ => none

end Single

end SearchQuery.Number
