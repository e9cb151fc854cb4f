import SearchQuery.Number.Rounding
import SearchQuery.Number.Decimal

/-!
Single-precision numbers: signed magnitudes of the single format, the two infinities and one value
that is not a number. Zero has a sign. Every operation rounds its exact result once.
-/

namespace SearchQuery.Number

attribute [local instance (high)] instPowNat

/-- A finite magnitude in units of `2 ^ -149`. -/
structure Magnitude where
  units : Nat
  fits : Format.single.Fits units
deriving DecidableEq

/-- A single-precision number. -/
inductive Single
  | nan
  | infinite (negative : Bool)
  | finite (negative : Bool) (magnitude : Magnitude)
deriving DecidableEq

namespace Single

/-- The units in the number one. -/
def unitsPerOne : Nat := 2 ^ Format.single.scale

/-- The number nearest to `num / den` units, infinite from the ceiling of the format on. -/
def ofRatio (negative : Bool) (num den : Nat) : Single :=
  if h : Format.single.round num den < 2 ^ Format.single.ceiling then
    .finite negative ⟨Format.single.round num den, h, Format.single.significant_round num den⟩
  else .infinite negative

/-- The number nearest to a decimal numeral. -/
def ofDecimal (d : Decimal) : Single := ofRatio false (d.digits * unitsPerOne) (10 ^ d.places)

def zero : Single := .finite false ⟨0, Format.single.fits_zero⟩

def one : Single := .finite false ⟨unitsPerOne, Format.single.fits_two_pow (by decide)⟩

def half : Single := .finite false ⟨2 ^ 148, Format.single.fits_two_pow (by decide)⟩

instance : Inhabited Single := ⟨zero⟩

/-- The rounded product. An infinity times zero is not a number. -/
def mul : Single → Single → Single
  | .nan, _ => .nan
  | _, .nan => .nan
  | .infinite s, .infinite t => .infinite (s != t)
  | .infinite s, .finite t m => if m.units = 0 then .nan else .infinite (s != t)
  | .finite s m, .infinite t => if m.units = 0 then .nan else .infinite (s != t)
  | .finite s m, .finite t n => ofRatio (s != t) (m.units * n.units) unitsPerOne

/-- The product of a list, taken from the left and rounded at each step. -/
def product (xs : List Single) : Single := xs.foldl mul one

def isFinite : Single → Bool
  | .finite .. => true
  | _ => false

/-- Numeric equality: the two zeros are equal, and what is not a number equals nothing. -/
def numEq : Single → Single → Bool
  | .infinite s, .infinite t => s == t
  | .finite s m, .finite t n => m.units == n.units && (s == t || m.units == 0)
  | _, _ => false

/-- Below zero, the negative zero not counted. -/
def belowZero : Single → Bool
  | .nan => false
  | .infinite s => s
  | .finite s m => s && m.units != 0

/-- At least zero and below one. -/
def inUnitInterval : Single → Bool
  | .finite s m => m.units == 0 || (!s && m.units < unitsPerOne)
  | _ => false

/-- Whether the number is finite and whole. -/
def isWhole : Single → Bool
  | .finite _ m => m.units % unitsPerOne == 0
  | _ => false

/-- The whole part as a 32-bit word, clamped at both ends. What is not a number gives zero. -/
def toWord : Single → UInt32
  | .nan => 0
  | .infinite s => if s then 0 else 4294967295
  | .finite s m => if s then 0 else UInt32.ofNat (min (m.units / unitsPerOne) 4294967295)

theorem ofRatio_units {n : Nat} (negative : Bool) (h : Format.single.Fits n) {den : Nat}
    (hd : 0 < den) : ofRatio negative (n * den) den = .finite negative ⟨n, h⟩ := by
  have hr := Format.single.round_of_significant h.2 hd
  unfold ofRatio
  rw [dif_pos (by rw [hr]; exact h.1)]
  simp [hr]

end Single

end SearchQuery.Number
