import Mathlib.Algebra.Group.Int.Defs
import Mathlib.Algebra.Group.Nat.Defs
import PageMarkup.Decimal.Style

/-!
# The digits of a number

The decimal digits of a natural number are digits, at least one, and their value is the number. They
start with a zero only if the number is zero. An integer has so few digits that they can be read if
it lies below a power of ten.

## Main definitions

* `Decimal.IsReadable` : integers with no more digits than are read.

## Main results

* `Decimal.digitsValue_natDigits` : the value of the digits of a number.
* `Decimal.exists_natDigits_eq_cons` : the first digit of a positive number.
* `Decimal.isReadable_iff` : readable integers by their size.
-/

namespace PageMarkup.Decimal

theorem natDigits_ne_nil (n : Nat) : natDigits n ≠ [] :=
  Nat.toDigits_ne_nil

theorem isDigit_of_mem_natDigits {n : Nat} {c : Char} (hc : c ∈ natDigits n) :
    c.isDigit = true :=
  Nat.isDigit_of_mem_toDigits (by decide) (by decide) hc

theorem digitsValue_natDigits (n : Nat) : digitsValue (natDigits n) = n := by
  have hchars : ∀ ds : List Char, digitsValue ds = Nat.ofDigitChars 10 ds 0 := by
    intro ds
    simp [digitsValue, Nat.ofDigitChars_eq_foldl, Nat.mul_comm]
  rw [hchars, natDigits, Nat.ofDigitChars_ten_toDigits]

/-- The digits of a positive number start with one that is not zero. -/
theorem exists_natDigits_eq_cons {n : Nat} (hn : 0 < n) :
    ∃ c ds, natDigits n = c :: ds ∧ c ≠ '0' := by
  induction n using Nat.strongRecOn with
  | ind n ih =>
    by_cases hsmall : n < 10
    · refine ⟨n.digitChar, [], Nat.toDigits_of_lt_base hsmall, ?_⟩
      have hdigit : ∀ m < 10, 0 < m → m.digitChar ≠ '0' := by decide
      exact hdigit n hsmall hn
    · obtain ⟨c, ds, hds, hc⟩ := ih (n / 10) (by omega) (by omega)
      refine ⟨c, ds ++ [(n % 10).digitChar], ?_, hc⟩
      rw [natDigits, Nat.toDigits_of_base_le (by decide) (by omega), ← natDigits, hds]
      rfl

/-- An integer with no more digits than are read. -/
def IsReadable (n : Int) : Prop :=
  (natDigits n.natAbs).length ≤ maxDigits

theorem isReadable_iff {n : Int} : IsReadable n ↔ n.natAbs < 10 ^ maxDigits :=
  Nat.length_toDigits_le_iff (by decide) (by decide)

theorem isReadable_of_lt {n : Int} {k : Nat} (hpos : 0 < k) (hk : k ≤ maxDigits)
    (h : n.natAbs < 10 ^ k) : IsReadable n :=
  Nat.le_trans ((Nat.length_toDigits_le_iff (by decide) hpos).mpr h) hk

theorem not_isReadable_pow : ¬ IsReadable (10 ^ maxDigits) := by
  have hpow : ∀ m : Nat, ¬ ((10 : Int) ^ m).natAbs < 10 ^ m := fun m => by
    rw [Int.natAbs_pow]
    exact Nat.lt_irrefl _
  exact fun h => hpow maxDigits (isReadable_iff.mp h)

end PageMarkup.Decimal
