import Mathlib.Tactic.SplitIfs
import PageMarkup.Text.Quoted

/-!
# Quoted texts read back

A quoted text is read back as the text, whatever follows the closing quote. Every character is
written either as itself, behind a backslash, or by its number in four digits; the first two digits
are zero, since only control characters are written so.

## Main results

* `readUnits_quoteChar` : one written character is read as its number.
* `readQuoted_quote` : a quoted text is read as the text.
-/

namespace PageMarkup.Text

/-- A control character has two digits that matter, and their value is its number. -/
private theorem hexNumber?_hexDigits : ∀ n < 0x20,
    hexDigits 4 n = ['0', '0', hexDigit (n / 16), hexDigit (n % 16)] ∧
      hexNumber? '0' '0' (hexDigit (n / 16)) (hexDigit (n % 16)) = some n := by
  decide

private theorem readUnits_cons {c : Char} (hq : c ≠ quoteMark) (he : c ≠ escapeMark)
    (hc : ¬ c.toNat < 0x20) (rest : List Char) :
    readUnits (c :: rest) = (readUnits rest).map (consUnit c.toNat) := by
  rw [readUnits.eq_def]
  split
  · contradiction
  · rename_i heq
    exact absurd (List.cons.inj heq).1 he
  · rename_i heq
    exact absurd (List.cons.inj heq).1 he
  · rename_i heq
    obtain ⟨rfl, rfl⟩ := List.cons.inj heq
    simp [hq, he, hc]

private theorem readUnits_escape {c d : Char} (hu : c ≠ 'u') (h : shortEscape? c = some d)
    (rest : List Char) :
    readUnits (escapeMark :: c :: rest) = (readUnits rest).map (consUnit d.toNat) := by
  rw [readUnits.eq_def]
  split
  · contradiction
  · rename_i heq
    exact absurd (List.cons.inj (List.cons.inj heq).2).1 hu
  · rename_i heq
    obtain ⟨-, heq⟩ := List.cons.inj heq
    obtain ⟨rfl, rfl⟩ := List.cons.inj heq
    rw [h]
  · rename_i hne heq
    obtain ⟨rfl, rfl⟩ := List.cons.inj heq
    exact absurd rfl (hne c rest rfl)

/-- One written character is read as its number. -/
theorem readUnits_quoteChar (c : Char) (rest : List Char) :
    readUnits (quoteChar c ++ rest) = (readUnits rest).map (consUnit c.toNat) := by
  have htoNat : ∀ n : Nat, c.toNat = n → c = Char.ofNat n := by
    rintro n rfl
    exact (Char.ofNat_toNat c).symm
  unfold quoteChar
  split_ifs with hmark hn hr ht hb hf hctl
  · have hu : c ≠ 'u' := by rintro rfl; revert hmark; decide
    exact readUnits_escape hu (by simp [shortEscape?, or_assoc.symm, hmark]) rest
  · subst hn
    exact readUnits_escape (by decide) rfl rest
  · subst hr
    exact readUnits_escape (by decide) rfl rest
  · subst ht
    exact readUnits_escape (by decide) rfl rest
  · rw [htoNat _ hb]
    exact readUnits_escape (by decide) rfl rest
  · rw [htoNat _ hf]
    exact readUnits_escape (by decide) rfl rest
  · obtain ⟨hdigits, hnumber⟩ := hexNumber?_hexDigits c.toNat hctl
    simp only [hdigits, List.cons_append, List.nil_append]
    change readUnits ('\x5C' :: 'u' :: _) = _
    rw [readUnits, hnumber]
  · rw [not_or] at hmark
    exact readUnits_cons hmark.1 hmark.2 hctl rest

private theorem readUnits_flatMap (s rest : List Char) :
    readUnits (s.flatMap quoteChar ++ quoteMark :: rest) = some (s.map Char.toNat, rest) := by
  induction s with
  | nil =>
    rw [List.flatMap_nil, List.nil_append, readUnits.eq_def]
    rfl
  | cons c s ih =>
    rw [List.flatMap_cons, List.append_assoc, readUnits_quoteChar, ih]
    rfl

private theorem not_surrogate (c : Char) :
    isHighSurrogate c.toNat = false ∧ isLowSurrogate c.toNat = false := by
  have hvalid : c.toNat < 0xD800 ∨ 0xDFFF < c.toNat ∧ c.toNat < 0x110000 := c.valid
  simp only [isHighSurrogate, isLowSurrogate, Bool.and_eq_false_iff, decide_eq_false_iff_not]
  omega

private theorem charOfUnit_toNat (c : Char) : charOfUnit c.toNat = c := by
  obtain ⟨hhigh, hlow⟩ := not_surrogate c
  simp [charOfUnit, hhigh, hlow]

private theorem charsOfUnits_map_toNat (s : List Char) : charsOfUnits (s.map Char.toNat) = s := by
  induction s with
  | nil => rfl
  | cons c s ih =>
    cases s with
    | nil => simp [charsOfUnits, charOfUnit_toNat]
    | cons d s =>
      simp only [List.map_cons] at ih ⊢
      rw [charsOfUnits, (not_surrogate c).1, charOfUnit_toNat]
      simpa using ih

/-- A quoted text is read as the text, and what follows it is left. -/
theorem readQuoted_quote (s rest : List Char) : readQuoted (quote s ++ rest) = some (s, rest) := by
  have hunits := readUnits_flatMap s rest
  simp only [quote, List.cons_append, List.append_assoc, List.nil_append, readQuoted, hunits]
  simp [charsOfUnits_map_toNat]

end PageMarkup.Text
