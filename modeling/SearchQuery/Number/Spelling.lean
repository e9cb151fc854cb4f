import SearchQuery.Number.Single
import SearchQuery.Number.Shortest

/-!
How single-precision numbers are written. The plain form has the fewest digits that read back and
never an exponent. The canonical form, used in rendered queries and traces, writes a whole number
with all its digits and one decimal.
-/

namespace SearchQuery.Number

attribute [local instance (high)] instPowNat

/-- Drops the zeros at the end of a list of digits. -/
def dropTrailingZeros (cs : List Char) : List Char :=
  (cs.reverse.dropWhile (· == '0')).reverse

/-- The number `w / 10 ^ places` in positional notation, without zeros at the end of the fraction,
and without a point where no fraction is left. -/
def positional (places w : Nat) : List Char :=
  let whole := Nat.toDigits 10 (w / 10 ^ places)
  let fraction := dropTrailingZeros ((Nat.toDigits 10 (w % 10 ^ places)).leftpad places '0')
  if fraction.isEmpty then whole else whole ++ '.' :: fraction

namespace Single

/-- Writes a minus sign before the text of a negative number. -/
def signed (negative : Bool) (cs : List Char) : List Char :=
  if negative then '-' :: cs else cs

/-- The plain form. Of two shortest decimals at the same distance the upper one is written. -/
def plain : Single → List Char
  | .nan => "NaN".toList
  | .infinite s => signed s "inf".toList
  | .finite s m => signed s (positional Format.single.scale (Format.single.shortest .up m.units))

/-- The canonical form. -/
def canonical (x : Single) : List Char :=
  match x with
  | .finite s m =>
    if x.isWhole then signed s (Nat.toDigits 10 (m.units / unitsPerOne) ++ ".0".toList)
    else x.plain
  | _ => x.plain

instance : ToString Single := ⟨fun x => String.ofList x.plain⟩

end Single

end SearchQuery.Number
