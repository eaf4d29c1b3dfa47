import PageMarkup.Decimal.Binary
import PageMarkup.Decimal.Style
import PageMarkup.Text.Quoted

/-!
# Exact forms of a double

Two ways to give a double without rounding: as a quotient in lowest terms, and as a text with a
hexadecimal significand and a power of two.

## Main definitions

* `Binary.quotient?` : the quotient.
* `hexText` : the hexadecimal text.
-/

namespace PageMarkup.Decimal

/-- A finite number as a quotient in lowest terms. -/
def Binary.quotient? : Binary → Option (Int × Nat)
  | .finite negative m q =>
    if 0 ≤ q then some (signed negative m * Nat.pow 2 q.toNat, 1)
    else
      let d := Nat.pow 2 (-q).toNat
      let g := m.gcd d
      some (signed negative (m / g), d / g)
  | _ => none

/-- The exponent of a power of two with its sign. -/
def signedExponent (e : Int) : String :=
  (if e < 0 then "-" else "+") ++ Nat.repr e.natAbs

/-- The hexadecimal text of a double: its significand as one digit before the point and thirteen
behind it, times a power of two. Numbers too small for a leading one have a leading zero. -/
def hexText (b : Binary) : String :=
  let sign (negative : Bool) : String := if negative then "-" else ""
  match b with
  | .nan => "nan"
  | .infinite negative => sign negative ++ "inf"
  | .finite negative m q =>
    if m = 0 then sign negative ++ "0x0.0p+0"
    else sign negative ++ "0x" ++ Nat.repr (m / Nat.pow 2 52) ++ "." ++
      String.ofList (Text.hexDigits 13 (m % Nat.pow 2 52)) ++ "p" ++ signedExponent (q + 52)

end PageMarkup.Decimal
