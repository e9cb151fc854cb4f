import SearchQuery.Json
import SearchQuery.Number.Spelling

/-!
Numbers in JSON. A whole number without point and exponent that fits 64 bits is exact. Any other
number is taken as a double: its leading digits, as many as fit 64 bits, are rounded, then scaled by
a rounded power of ten, and rounded again. A single is the rounding of either. Singles are written
with the fewest digits that read back.
-/

namespace SearchQuery.Json

attribute [local instance (high)] instPowNat

open Number (Single Format)

namespace Numeral

/-- The largest number of 64 bits. -/
def maxWord : Nat := 18446744073709551615

/-- Appends digits to a number as long as the result fits 64 bits, and returns the digits left. -/
def leading (n : Nat) : List Char → Nat × List Char
  | [] => (n, [])
  | c :: rest =>
    let m := 10 * n + (c.toNat - '0'.toNat)
    if m ≤ maxWord then leading m rest else (n, c :: rest)

/-- The magnitude of a number that is written as an integer and fits 64 bits. -/
def natural? (n : Numeral) : Option Nat :=
  let value := Nat.ofDigitChars 10 n.whole 0
  if n.fraction.isEmpty ∧ n.exponent.isNone ∧ value ≤ maxWord then some value else none

/-- A power of ten as a double, in units of the format. -/
def powerOfTen (k : Nat) : Nat := Format.double.round (10 ^ k * 2 ^ Format.double.scale) 1

/-- The quotient of two doubles. -/
def divide (a b : Nat) : Nat := Format.double.round (a * 2 ^ Format.double.scale) b

/-- The largest exponent of a power of ten that is a double. -/
def maxPower : Nat := 308

/-- Divides a double by a power of ten, in steps if the power is not a double itself. -/
def scaleDown (value exponent : Nat) : Nat :=
  if exponent ≤ maxPower then divide value (powerOfTen exponent)
  else if value = 0 then 0
  else scaleDown (divide value (powerOfTen maxPower)) (exponent - maxPower)
termination_by exponent
decreasing_by simp_all [maxPower]; omega

/-- Multiplies a double by a power of ten, unless the result is too large. -/
def scaleUp? (value exponent : Nat) : Option Nat :=
  if exponent ≤ maxPower then
    let product := Format.double.round (value * powerOfTen exponent) (2 ^ Format.double.scale)
    if product < 2 ^ Format.double.ceiling then some product else none
  else if value = 0 then some 0
  else none

/-- The largest exponent that is taken at its value. -/
def maxExponent : Nat := 2147483647

/-- The magnitude as a double in units of the format, unless it is too large. -/
def double? (n : Numeral) : Option Nat :=
  let (whole, dropped) := leading 0 n.whole
  let (digits, left) := leading whole n.fraction
  let shift : Int := dropped.length - (n.fraction.length - left.length : Nat)
  let start := Format.double.round (digits * 2 ^ Format.double.scale) 1
  match n.exponent with
  | none => scale start shift
  | some (sign, exponent) =>
    let e := Nat.ofDigitChars 10 exponent 0
    if e ≤ maxExponent then scale start (if sign = .minus then shift - e else shift + e)
    else if digits = 0 ∨ sign = .minus then some 0
    else none
where
  /-- Scales by a power of ten. -/
  scale (value : Nat) (exponent : Int) : Option Nat :=
    if exponent < 0 then some (scaleDown value (-exponent).toNat)
    else scaleUp? value exponent.toNat

/-- The number as a single, unless it is too large for a double. -/
def single? (n : Numeral) : Option Single :=
  match n.natural? with
  | some value =>
    if n.negative ∧ (value = 0 ∨ 9223372036854775808 < value) then
      some (narrow n.negative (Format.double.round (value * 2 ^ Format.double.scale) 1))
    else some (Single.ofRatio n.negative (value * Single.unitsPerOne) 1)
  | none => n.double?.map (narrow n.negative)
where
  /-- The single nearest to a double. -/
  narrow (negative : Bool) (value : Nat) : Single :=
    Single.ofRatio negative (value * Single.unitsPerOne) (2 ^ Format.double.scale)

/-- A finite single. Between the exponents -6 and 12 it is written in positional notation with at
least one decimal. Of two shortest decimals at the same distance the even one is written. -/
def ofUnits (negative : Bool) (units : Nat) : Numeral :=
  let places := Format.single.scale
  let decimal := Format.single.shortest .even units
  let digits := Nat.toDigits 10 decimal
  let fraction :=
    Number.dropTrailingZeros ((Nat.toDigits 10 (decimal % 10 ^ places)).leftpad places '0')
  if units = 0 ∨ (places ≤ digits.length + 5 ∧ digits.length ≤ places + 13) then
    { negative
      whole := Nat.toDigits 10 (decimal / 10 ^ places)
      fraction := if fraction.isEmpty then ['0'] else fraction }
  else
    { negative
      whole := digits.take 1
      fraction := Number.dropTrailingZeros (digits.drop 1)
      exponent :=
        some <|
          if places < digits.length then (.plus, Nat.toDigits 10 (digits.length - 1 - places))
          else (.minus, Nat.toDigits 10 (places + 1 - digits.length)) }

end Numeral

/-- The number of a single, or null if it is not finite. -/
def ofSingle : Single → Json
  | .finite negative m => number (.ofUnits negative m.units)
  | _ => null

end SearchQuery.Json
