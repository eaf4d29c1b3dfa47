/-!
# Binary floating-point numbers

A double-precision number is not a number, infinite, or `± m · 2 ^ q` for a significand `m` below
`2 ^ 53` and an exponent `q` of at least `-1074`. This module takes a number apart and finds the
double nearest to a quotient of natural numbers, a tie going to the even significand.

## Main definitions

* `Binary`, `Binary.ofFloat` : the parts of a double.
* `nearest` : the double nearest to a positive quotient.
* `floor?` : the greatest integer that is not above a finite double.
-/

namespace PageMarkup.Decimal

/-- The parts of a double-precision number. -/
inductive Binary where
  | nan
  | infinite (negative : Bool)
  | finite (negative : Bool) (significand : Nat) (exponent : Int)
  deriving DecidableEq

namespace Binary

/-- The parts of a double, read from its bits. -/
def ofBits (bits : Nat) : Binary :=
  let negative := bits / Nat.pow 2 63 % 2 == 1
  let field : Nat := bits / Nat.pow 2 52 % Nat.pow 2 11
  let fraction : Nat := bits % Nat.pow 2 52
  if field = 2047 then if fraction = 0 then .infinite negative else .nan
  else if field = 0 then .finite negative fraction (-1074)
  else .finite negative (Nat.pow 2 52 + fraction) ((field : Int) - 1075)

/-- The parts of a double. -/
def ofFloat (x : Float) : Binary :=
  ofBits x.toBits.toNat

/-- The significand with its sign. -/
def signed (negative : Bool) (m : Nat) : Int :=
  if negative then -(m : Int) else m

/-- The greatest integer that is not above a finite number. -/
def floor? : Binary → Option Int
  | .finite negative m q =>
    if 0 ≤ q then some (signed negative m * Nat.pow 2 q.toNat)
    else some (Int.fdiv (signed negative m) (Nat.pow 2 (-q).toNat))
  | _ => none

/-- Whether a number is the given integer. -/
def isInt (b : Binary) (n : Int) : Bool :=
  match b with
  | .finite negative m q =>
    if 0 ≤ q then signed negative m * Nat.pow 2 q.toNat == n
    else signed negative m == n * Nat.pow 2 (-q).toNat
  | _ => false

end Binary

/-- The quotient of two numbers rounded to the nearest integer, a tie to the even one. -/
def divRoundEven (a b : Nat) : Nat :=
  let q := a / b
  let r := a % b
  if 2 * r < b then q else if b < 2 * r then q + 1 else q + q % 2

/-- The exponent at which the quotient `a / b`, read as a significand, has 53 binary digits, or
the least exponent of a double where that is smaller. -/
def binaryExponent (a b : Nat) : Int :=
  let guess : Int := (a.log2 : Int) - b.log2 - 53
  let full : Bool := if 0 ≤ guess + 53 then decide (b * Nat.pow 2 (guess + 53).toNat ≤ a)
    else decide (b ≤ a * Nat.pow 2 (-(guess + 53)).toNat)
  max (if full then guess + 1 else guess) (-1074)

/-- The double nearest to `± a / b`; what lies beyond the largest double becomes infinite. -/
def nearest (negative : Bool) (a b : Nat) : Float :=
  let sign : Nat := if negative then Nat.pow 2 63 else 0
  if a = 0 then Float.ofBits (UInt64.ofNat sign)
  else
    let q := binaryExponent a b
    let m := if 0 ≤ q then divRoundEven a (b * Nat.pow 2 q.toNat)
      else divRoundEven (a * Nat.pow 2 (-q).toNat) b
    let bits := (q + 1074).toNat * Nat.pow 2 52 + m
    Float.ofBits (UInt64.ofNat (sign + min bits (2047 * Nat.pow 2 52)))

/-- The double nearest to `± digits · 10 ^ exponent`. Exponents that put the number far above or
far below every double are not multiplied out. -/
def ofDecimal (negative : Bool) (digits : Nat) (exponent : Int) : Float :=
  let magnitude := (Nat.toDigits 10 digits).length + exponent
  if digits = 0 ∨ magnitude < -400 then nearest negative 0 1
  else if 400 < magnitude then nearest negative (Nat.pow 10 400) 1
  else if 0 ≤ exponent then nearest negative (digits * Nat.pow 10 exponent.toNat) 1
  else nearest negative digits (Nat.pow 10 (-exponent).toNat)

end PageMarkup.Decimal
