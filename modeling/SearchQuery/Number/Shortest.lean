import SearchQuery.Number.Rounding

/-!
The shortest decimal that reads back as a given binary magnitude. With units of `2 ^ -scale` every
magnitude is also a whole number of decimal units of `10 ^ -scale`, so that a decimal is a natural
number here and its digits are those of that number. Main statement: what is chosen reads back.
-/

namespace SearchQuery.Number

attribute [local instance (high)] instPowNat

/-- The neighbour taken by a magnitude halfway between two decimals of the same length. -/
inductive Tie
  | up
  | even
deriving DecidableEq

namespace Format

/-- A magnitude in decimal units. -/
def exact (f : Format) (n : Nat) : Nat := n * 5 ^ f.scale

/-- Whether `w` decimal units round to the magnitude `n`. -/
def readsBack (f : Format) (n w : Nat) : Bool :=
  f.round (w * 2 ^ f.scale) (10 ^ f.scale) == n

/-- The better of the decimals `lower` and `lower + step` around `exact`. -/
def nearer (tie : Tie) (step lower exact : Nat) : Nat :=
  let below := exact - lower
  let above := lower + step - exact
  if below < above then lower
  else if above < below then lower + step
  else match tie with
    | .up => lower + step
    | .even => if lower / step % 2 = 0 then lower else lower + step

/-- The decimal chosen among the two multiples of `step` next to the magnitude, if either of them
reads back. -/
def onGrid? (f : Format) (tie : Tie) (n step : Nat) : Option Nat :=
  let lower := f.exact n / step * step
  match f.readsBack n lower, f.readsBack n (lower + step) with
  | true, true => some (nearer tie step lower (f.exact n))
  | true, false => some lower
  | false, true => some (lower + step)
  | false, false => none

/-- The first choice on the grids `10 ^ (k - 1)`, …, `10`, `1`. -/
def coarsest (f : Format) (tie : Tie) (n : Nat) : Nat → Nat
  | 0 => f.exact n
  | k + 1 => (f.onGrid? tie n (10 ^ k)).getD (f.coarsest tie n k)

/-- The decimal with the fewest digits that reads back as `n`, in decimal units. -/
def shortest (f : Format) (tie : Tie) (n : Nat) : Nat :=
  f.coarsest tie n (Nat.toDigits 10 (f.exact n)).length

theorem readsBack_exact (f : Format) {n : Nat} (h : f.Significant n) :
    f.readsBack n (f.exact n) = true := by
  have hpow : f.exact n * 2 ^ f.scale = n * 10 ^ f.scale := by
    rw [exact, Nat.mul_assoc, ← Nat.mul_pow]
  rw [readsBack, hpow, f.round_of_significant h (Nat.pow_pos (by decide)), beq_self_eq_true]

theorem nearer_eq (tie : Tie) (step lower exact : Nat) :
    nearer tie step lower exact = lower ∨ nearer tie step lower exact = lower + step := by
  unfold nearer
  dsimp only
  repeat' split
  all_goals simp

theorem readsBack_of_onGrid? (f : Format) {tie : Tie} {n step w : Nat}
    (h : f.onGrid? tie n step = some w) : f.readsBack n w = true := by
  unfold onGrid? at h
  dsimp only at h
  split at h
  · rcases nearer_eq tie step (f.exact n / step * step) (f.exact n) with hn | hn <;> simp_all
  all_goals simp_all

/-- The shortest decimal rounds to the magnitude it stands for. -/
theorem readsBack_shortest (f : Format) (tie : Tie) {n : Nat} (h : f.Significant n) :
    f.readsBack n (f.shortest tie n) = true := by
  unfold shortest
  induction (Nat.toDigits 10 (f.exact n)).length with
  | zero => exact f.readsBack_exact h
  | succ k ih =>
    unfold coarsest
    cases hg : f.onGrid? tie n (10 ^ k) with
    | none => exact ih
    | some w => exact f.readsBack_of_onGrid? hg

end Format

end SearchQuery.Number
