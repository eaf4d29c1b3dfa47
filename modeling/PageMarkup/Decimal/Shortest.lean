import PageMarkup.Decimal.Binary

/-!
# Shortest decimal digits

The fewest decimal digits that read back as a given positive double, and of the candidates with so
few digits the one nearest to the number. A decimal reads back as the double when it lies in the
interval of reals that round to it; the ends belong to the interval when the significand is even.

## Main definitions

* `RoundingInterval` : the interval of a double, over one denominator.
* `shortest` : the digits and the power of ten of the shortest decimal.
-/

namespace PageMarkup.Decimal

/-- The reals that round to the double `value / scale`: those from `low / scale` to
`high / scale`, the ends included if `closed`. -/
structure RoundingInterval where
  low : Nat
  value : Nat
  high : Nat
  scale : Nat
  closed : Bool

/-- The interval of `m · 2 ^ q`. Below a power of two the neighbouring doubles lie half as far
apart, except at the least exponent. -/
def roundingInterval (m : Nat) (q : Int) : RoundingInterval :=
  let unit := Nat.pow 2 q.toNat
  let below := if m = Nat.pow 2 52 ∧ q ≠ -1074 then unit else 2 * unit
  { low := 4 * m * unit - below
    value := 4 * m * unit
    high := 4 * m * unit + 2 * unit
    scale := 4 * Nat.pow 2 (-q).toNat
    closed := m % 2 == 0 }

/-- Whether `c · 10 ^ k` lies in the interval. -/
def RoundingInterval.contains (i : RoundingInterval) (c : Nat) (k : Int) : Bool :=
  let point := c * Nat.pow 10 k.toNat * i.scale
  let low := i.low * Nat.pow 10 (-k).toNat
  let high := i.high * Nat.pow 10 (-k).toNat
  if i.closed then low ≤ point && point ≤ high else low < point && point < high

/-- The least `j` from `start` on with `den ≤ num · 10 ^ j`, looked for in `steps` steps. -/
def leadingZeros (num den : Nat) : (steps : Nat) → (start : Nat) → Nat
  | 0, start => start
  | n + 1, start =>
    if den ≤ num * Nat.pow 10 start then start else leadingZeros num den n (start + 1)

/-- The power of ten `e` with `10 ^ (e - 1) ≤ num / den < 10 ^ e`. -/
def decimalMagnitude (num den : Nat) : Int :=
  if den ≤ num then (Nat.toDigits 10 (num / den)).length
  else 1 - (leadingZeros num den 400 1 : Nat)

/-- The multiple of `10 ^ k` nearest to the number, by its factor. -/
def RoundingInterval.nearestOn (i : RoundingInterval) (k : Int) : Nat :=
  divRoundEven (i.value * Nat.pow 10 (-k).toNat) (i.scale * Nat.pow 10 k.toNat)

/-- Of the two neighbours of the number on the grid of multiples of `10 ^ k`, the one inside the
interval; of two the nearer, and at an exact tie the even one. -/
def RoundingInterval.neighbour? (i : RoundingInterval) (k : Int) : Option Nat :=
  let below := i.value * Nat.pow 10 (-k).toNat / (i.scale * Nat.pow 10 k.toNat)
  let near := i.nearestOn k
  let far := if near = below then below + 1 else below
  if i.contains near k then some near
  else if i.contains far k then some far
  else none

/-- The hit on the first of the grids of `digits`, `digits + 1`, … digits that has one. `grids` of
them are tried; the grid after these is taken to have a hit. -/
def firstHit (i : RoundingInterval) (magnitude : Int) : (grids digits : Nat) → Nat × Int
  | 0, digits => (i.nearestOn (magnitude - digits), magnitude - digits)
  | n + 1, digits =>
    match i.neighbour? (magnitude - digits) with
    | some c => (c, magnitude - digits)
    | none => firstHit i magnitude n (digits + 1)

/-- A decimal without the zeros at its end, of which at most `steps` are dropped. -/
def dropZeros : (steps : Nat) → Nat × Int → Nat × Int
  | 0, d => d
  | n + 1, (c, k) => if c % 10 = 0 ∧ c ≠ 0 then dropZeros n (c / 10, k + 1) else (c, k)

/-- The shortest decimal `c · 10 ^ k` that reads back as `m · 2 ^ q`, for a positive `m`. -/
def shortest (m : Nat) (q : Int) : Nat × Int :=
  let i := roundingInterval m q
  dropZeros 20 (firstHit i (decimalMagnitude i.value i.scale) 16 1)

end PageMarkup.Decimal
