import Mathlib.Tactic.SplitIfs
import PageMarkup.Markup.Layout
import PageMarkup.Proofs.Text.Tidy

/-!
# Literals and contents are neat lines

The literal of a value and the content of an element stand in one line each, and this line does not
end in a blank. A text with blank ends, or with newlines in it, is written between quotes, where a
newline is an escape; a number is solid.

## Main results

* `neat_quote`, `neat_literalText` : quoted texts and literals.
* `neat_contentLine` : contents of elements.
* `newline_not_mem_objectKey` : keys of objects.
-/

namespace PageMarkup

open Text (Line Neat IsSolid isPadding isSolid_append isSolid_cons isSolid_of_lt)

/-! ### Quoted texts -/

private theorem newline_not_mem_hexDigits : ∀ n < 0x20, '\n' ∉ Text.hexDigits 4 n := by
  decide

private theorem newline_not_mem_quoteChar (c : Char) : '\n' ∉ Text.quoteChar c := by
  unfold Text.quoteChar
  split_ifs with hmark hn hr ht hb hf hcontrol
  · have hne : c ≠ '\n' := by
      rintro rfl
      revert hmark
      decide
    simp [Text.escapeMark, Ne.symm hne]
  · decide
  · decide
  · decide
  · decide
  · decide
  · simpa [Text.escapeMark] using newline_not_mem_hexDigits c.toNat hcontrol
  · simpa using Ne.symm hn

/-- A quoted text stands in one line and ends in a quote. -/
theorem neat_quote (s : List Char) : Neat (Text.quote s) := by
  have hmark : Neat [Text.quoteMark] := by decide
  refine hmark.append fun hmem => ?_
  rcases List.mem_cons.mp hmem with heq | hmem
  · revert heq
    decide
  · obtain ⟨c, -, hc⟩ := List.mem_flatMap.mp hmem
    exact newline_not_mem_quoteChar c hc

/-! ### Numbers -/

theorem isSolid_natDigits (n : Nat) : IsSolid (Decimal.natDigits n) := by
  refine isSolid_of_lt fun c hc => ?_
  have hdigit := Nat.isDigit_of_mem_toDigits (by decide) (by decide) hc
  simp only [Char.isDigit, Bool.and_eq_true, decide_eq_true_eq, ge_iff_le,
    UInt32.le_iff_toNat_le] at hdigit
  exact Nat.lt_of_lt_of_le (by decide) hdigit.1

private theorem isSolid_replicate_zero (n : Nat) : IsSolid (List.replicate n '0') := by
  intro c hc
  rw [List.eq_of_mem_replicate hc]
  decide

private theorem neat_positional {digits : List Char} (h : IsSolid digits) (point : Int) :
    Neat (Decimal.positional digits point) := by
  have htake : IsSolid (digits.take point.toNat) := fun c hc => h c (List.mem_of_mem_take hc)
  have hdrop : IsSolid (digits.drop point.toNat) := fun c hc => h c (List.mem_of_mem_drop hc)
  have hpoint : isPadding '.' = false ∧ '.' ≠ '\n' := by decide
  have hzero : isPadding '0' = false ∧ '0' ≠ '\n' := by decide
  unfold Decimal.positional
  split
  · refine IsSolid.neat ?_ (by simp)
    simp only [List.cons_append, isSolid_cons, isSolid_append]
    exact ⟨hzero, hpoint, isSolid_replicate_zero _, h⟩
  · refine IsSolid.neat ?_ (by simp)
    simp only [isSolid_cons, isSolid_append]
    refine ⟨⟨htake, isSolid_replicate_zero _⟩, hpoint, ?_⟩
    split
    · decide
    · exact hdrop

private theorem neat_scientific (style : Decimal.DecimalStyle) {digits : List Char}
    (h : IsSolid digits) (exponent : Int) : Neat (Decimal.scientific style digits exponent) := by
  have htake : IsSolid (digits.take 1) := fun c hc => h c (List.mem_of_mem_take hc)
  have hdrop : IsSolid (digits.drop 1) := fun c hc => h c (List.mem_of_mem_drop hc)
  have hpoint : isPadding '.' = false ∧ '.' ≠ '\n' := by decide
  unfold Decimal.scientific
  refine IsSolid.neat ?_ (by simp)
  simp only [isSolid_append]
  refine ⟨⟨⟨⟨htake, ?_⟩, ?_⟩, isSolid_replicate_zero _⟩, isSolid_natDigits _⟩
  · split
    · decide
    · exact isSolid_cons.mpr ⟨hpoint, hdrop⟩
  · split <;> decide

private theorem neat_signed (negative : Bool) {l : Line} (h : Neat l) :
    Neat ((if negative then ['-'] else []) ++ l) := by
  cases negative with
  | false => exact h
  | true => exact h.append (by decide)

private theorem neat_writeBinary (b : Decimal.Binary) : Neat (codeDecimal.writeBinary b) := by
  cases b with
  | nan => decide
  | infinite negative => exact neat_signed negative (by decide)
  | finite negative m q =>
    refine neat_signed negative ?_
    split
    · exact neat_positional (by decide) 1
    · unfold Decimal.DecimalStyle.writePositive
      dsimp only
      split
      · exact neat_positional (isSolid_natDigits _) _
      · exact neat_scientific _ (isSolid_natDigits _) _

private theorem neat_intText (n : Int) : Neat (Decimal.intText n).toList := by
  have hdigits : Neat (Decimal.natDigits n.natAbs) :=
    (isSolid_natDigits _).neat Nat.toDigits_ne_nil
  unfold Decimal.intText
  rw [String.toList_ofList]
  split
  · exact hdigits.append (s := ['-']) (by decide)
  · exact hdigits

/-- The literal of a value stands in one line and does not end in a blank. -/
theorem neat_literalText (v : Value) : Neat v.literalText := by
  cases v with
  | null => decide
  | bool b => cases b <;> decide
  | int n => exact neat_intText n
  | float x => exact neat_writeBinary _
  | str | list | tuple | map | foreign | markup => exact neat_quote _

/-! ### Contents -/

private theorem isPadding_of_not_isBlank {c : Char} (h : Text.isBlank c = false) :
    isPadding c = false := by
  have hne : ∀ d, Text.isBlank d = true → c ≠ d := by
    rintro d hd rfl
    rw [h] at hd
    cases hd
  simp [isPadding, hne ' ' (by decide), hne '\t' (by decide)]

/-- A text that stands as it is between tags has no newline, and its last character is no blank. -/
private theorem neat_of_isPlainContent {s : List Char} (h : isPlainContent s = true) : Neat s := by
  simp only [isPlainContent, Bool.and_eq_true, Bool.not_eq_true', List.isEmpty_eq_false_iff,
    beq_iff_eq] at h
  obtain ⟨⟨hne, hstrip⟩, hsafe⟩ := h
  refine ⟨fun hmem => ?_, s.getLast hne, List.getLast?_eq_getLast_of_ne_nil hne, ?_⟩
  · rw [List.any_eq_false] at hsafe
    exact hsafe _ hmem (by decide)
  · refine isPadding_of_not_isBlank (Text.getLast?_dropEndWhile _ (s.dropWhile Text.isBlank) _ ?_)
    rw [← Text.stripEnd, ← Text.strip, ← hstrip]
    exact List.getLast?_eq_getLast_of_ne_nil hne

/-- The content of an element stands in one line and does not end in a blank. -/
theorem neat_contentLine (content : String) : Neat (contentLine content) := by
  have hbrace : Neat ['\x7d'] := by decide
  unfold contentLine
  split
  · rename_i hplain
    exact neat_of_isPlainContent hplain
  · refine hbrace.append fun hmem => ?_
    rcases List.mem_cons.mp hmem with heq | hmem
    · revert heq
      decide
    · exact (neat_quote _).1 hmem

/-- The key of an object entry is a single line if its name is one. -/
theorem newline_not_mem_objectKey {key : String} (h : '\n' ∉ key.toList) :
    '\n' ∉ objectKey key := by
  unfold objectKey
  split
  · exact h
  · exact (neat_quote _).1

end PageMarkup
