import PageMarkup.Proofs.Markup.Reader
import PageMarkup.Proofs.Markup.Spacing

/-!
# Scanning spaced out pieces

What the reader finds at the start of a text that spaces out some pieces. It skips the spacing
before a solid piece and finds the piece as it is; a run of characters of one kind ends where the
next piece is of another kind, since spacing is of no kind.

## Main definitions

* `Delimited` : texts that do not go on with a character of a word.

## Main results

* `takeWhile_append_of_head`, `readRun_append` : the run of characters at the start of a text.
* `Spaced.split`, `Spaced.skip_solid`, `Spaced.skip_gap` : what stands before the first piece.
* `Spaced.delimited_of_solid`, `Spaced.delimited_of_gap` : the end of a word before the first piece.
-/

namespace PageMarkup

/-! ### Runs of characters and what follows them -/

/-- A text that does not go on with a character of a word. -/
def Delimited (s : List Char) : Prop :=
  ∀ c ∈ s.head?, isWordChar c = false

theorem isBlank_of_isSpacing {c : Char} (h : isSpacing c = true) : Text.isBlank c = true := by
  simp only [isSpacing, Bool.or_eq_true, beq_iff_eq] at h
  rcases h with rfl | rfl <;> decide

theorem isWordChar_of_isSpacing {c : Char} (h : isSpacing c = true) : isWordChar c = false := by
  simp only [isSpacing, Bool.or_eq_true, beq_iff_eq] at h
  rcases h with rfl | rfl <;> decide

theorem isNameChar_of_isSpacing {c : Char} (h : isSpacing c = true) :
    Identifier.isNameChar c = false := by
  simp only [isSpacing, Bool.or_eq_true, beq_iff_eq] at h
  rcases h with rfl | rfl <;> decide

theorem isWordChar_of_isNameChar {c : Char} (h : Identifier.isNameChar c = true) :
    isWordChar c = true := by
  simp [isWordChar, h]

private theorem toNat_of_isNameChar {c : Char} (h : Identifier.isNameChar c = true) :
    0x24 ≤ c.toNat ∧ c.toNat < 0x7B := by
  simp only [Identifier.isNameChar, Identifier.isNameStart, Identifier.isCapital,
    Identifier.isSmall, Identifier.isDecimal, Bool.or_eq_true, Bool.and_eq_true, decide_eq_true_eq,
    beq_iff_eq, Char.le_def, UInt32.le_iff_toNat_le] at h
  have hval : c.val.toNat = c.toNat := rfl
  rcases h with (((⟨h, h'⟩ | ⟨h, h'⟩) | rfl) | rfl) | ⟨h, h'⟩
  · exact ⟨Nat.le_trans (by decide) h, Nat.lt_of_le_of_lt h' (by decide)⟩
  · exact ⟨Nat.le_trans (by decide) h, Nat.lt_of_le_of_lt h' (by decide)⟩
  · decide
  · decide
  · exact ⟨Nat.le_trans (by decide) h, Nat.lt_of_le_of_lt h' (by decide)⟩

theorem isBlank_of_isWordChar {c : Char} (h : isWordChar c = true) : Text.isBlank c = false := by
  simp only [isWordChar, Bool.or_eq_true, beq_iff_eq, Bool.and_eq_true, Bool.not_eq_true'] at h
  rcases h with (((h | rfl) | rfl) | rfl) | h
  · have := toNat_of_isNameChar h
    simp only [Text.isBlank, Bool.or_eq_false_iff, Bool.and_eq_false_iff, decide_eq_false_iff_not,
      List.contains_eq_mem, List.mem_cons, List.not_mem_nil, or_false]
    omega
  · decide
  · decide
  · decide
  · exact h.2

theorem ne_of_kind {p : Char → Bool} {c d : Char} (hc : p c = true) (hd : p d = false) : c ≠ d := by
  rintro rfl
  rw [hc] at hd
  cases hd

/-- A run of characters ends where the next character is of another kind. -/
theorem takeWhile_append_of_head {p : Char → Bool} {w : List Char} (hw : ∀ c ∈ w, p c = true)
    (rest : List Char) (hrest : ∀ c ∈ rest.head?, p c = false) :
    (w ++ rest).takeWhile p = w ∧ (w ++ rest).dropWhile p = rest := by
  rw [List.takeWhile_append_of_pos hw, List.dropWhile_append_of_pos hw]
  cases rest with
  | nil => simp
  | cons c rest =>
    have hc : p c = false := hrest c rfl
    simp [hc]

theorem readRun_append {p : Char → Bool} {w rest : List Char} (hne : w ≠ [])
    (hw : ∀ c ∈ w, p c = true) (hrest : ∀ c ∈ rest.head?, p c = false) :
    readRun p (w ++ rest) = some (w, skipBlank rest) := by
  obtain ⟨htake, hdrop⟩ := takeWhile_append_of_head hw rest hrest
  obtain ⟨c, w, rfl⟩ := List.exists_cons_of_ne_nil hne
  simp only [readRun, htake, hdrop]

/-! ### Spaced out pieces at the start of a text -/

namespace Spaced

variable {ps qs : List Piece} {t : List Char}

/-- A text of two sequences of pieces is one of the first before one of the second. -/
theorem split (h : Spaced (ps ++ qs) t) : ∃ u v, t = u ++ v ∧ Spaced ps u ∧ Spaced qs v := by
  generalize hr : ps ++ qs = r at h
  induction h generalizing ps with
  | nil =>
    obtain ⟨rfl, rfl⟩ := List.append_eq_nil_iff.mp hr
    exact ⟨[], [], rfl, .nil, .nil⟩
  | @solid rs t w h ih =>
    cases ps with
    | nil =>
      obtain rfl : qs = _ := hr
      exact ⟨[], w ++ t, rfl, .nil, h.solid w⟩
    | cons p ps =>
      obtain ⟨rfl, htail⟩ := List.cons.inj hr
      obtain ⟨u, v, rfl, hu, hv⟩ := ih htail
      exact ⟨w ++ u, v, (List.append_assoc ..).symm, hu.solid w, hv⟩
  | @gap rs t c hc h ih =>
    cases ps with
    | nil =>
      obtain rfl : qs = _ := hr
      exact ⟨[], c :: t, rfl, .nil, h.gap hc⟩
    | cons p ps =>
      obtain ⟨rfl, htail⟩ := List.cons.inj hr
      obtain ⟨u, v, rfl, hu, hv⟩ := ih htail
      exact ⟨c :: u, v, rfl, hu.gap hc, hv⟩
  | @blank rs t c hc _ ih =>
    obtain ⟨u, v, rfl, hu, hv⟩ := ih hr
    exact ⟨c :: u, v, rfl, hu.blank hc, hv⟩

theorem skipBlank_append (h : Spaced [] t) (rest : List Char) :
    skipBlank (t ++ rest) = skipBlank rest := by
  generalize hr : ([] : List Piece) = r at h
  induction h with
  | nil => rfl
  | solid => cases hr
  | gap => cases hr
  | blank hc _ ih =>
    rw [← ih hr]
    exact List.dropWhile_cons_of_pos (isBlank_of_isSpacing hc)

/-- Behind the spacing before it a solid piece is found as it is. -/
theorem skip_solid {c : Char} {w : List Char} (h : Spaced (.solid (c :: w) :: ps) t)
    (hc : Text.isBlank c = false) :
    ∃ u, Spaced ps u ∧ u.length + w.length < t.length ∧
      ∀ rest, skipBlank (t ++ rest) = c :: (w ++ (u ++ rest)) := by
  generalize hr : Piece.solid (c :: w) :: ps = r at h
  induction h with
  | nil => cases hr
  | @solid rs t w' h _ =>
    cases hr
    refine ⟨t, h, by simp [Nat.add_comm], fun rest => ?_⟩
    rw [List.append_assoc]
    exact List.dropWhile_cons_of_neg (by simp [hc])
  | gap => cases hr
  | blank hb _ ih =>
    obtain ⟨u, hu, hlen, hskip⟩ := ih hr
    refine ⟨u, hu, Nat.lt_succ_of_lt hlen, fun rest => ?_⟩
    rw [← hskip rest]
    exact List.dropWhile_cons_of_pos (isBlank_of_isSpacing hb)

/-- A gap is at least one blank. -/
theorem skip_gap (h : Spaced (.gap :: ps) t) :
    ∃ u, Spaced ps u ∧ u.length < t.length ∧
      ∀ rest, skipBlank (t ++ rest) = skipBlank (u ++ rest) := by
  generalize hr : Piece.gap :: ps = r at h
  induction h with
  | nil => cases hr
  | solid => cases hr
  | @gap rs t c hc h _ =>
    cases hr
    exact ⟨t, h, Nat.lt_succ_self _,
      fun rest => List.dropWhile_cons_of_pos (isBlank_of_isSpacing hc)⟩
  | blank hb _ ih =>
    obtain ⟨u, hu, hlen, hskip⟩ := ih hr
    refine ⟨u, hu, Nat.lt_succ_of_lt hlen, fun rest => ?_⟩
    rw [← hskip rest]
    exact List.dropWhile_cons_of_pos (isBlank_of_isSpacing hb)

theorem head_of_solid {c : Char} {w : List Char} (h : Spaced (.solid (c :: w) :: ps) t)
    (rest : List Char) : ∃ d u, t ++ rest = d :: u ∧ (isSpacing d = true ∨ d = c) := by
  generalize hr : Piece.solid (c :: w) :: ps = r at h
  cases h with
  | nil => cases hr
  | solid w' h =>
    cases hr
    exact ⟨c, _, rfl, .inr rfl⟩
  | gap => cases hr
  | blank hb _ => exact ⟨_, _, rfl, .inl hb⟩

theorem delimited_of_solid {c : Char} {w : List Char} (h : Spaced (.solid (c :: w) :: ps) t)
    (hc : isWordChar c = false) (rest : List Char) : Delimited (t ++ rest) := by
  obtain ⟨d, u, heq, hd⟩ := h.head_of_solid rest
  rw [heq]
  rintro _ ⟨⟩
  exact hd.elim isWordChar_of_isSpacing (· ▸ hc)

/-- A gap starts with spacing. -/
theorem delimited_of_gap (h : Spaced (.gap :: ps) t) (rest : List Char) :
    Delimited (t ++ rest) := by
  generalize hr : Piece.gap :: ps = r at h
  cases h with
  | nil => cases hr
  | solid => cases hr
  | gap hc _ =>
    rintro _ ⟨⟩
    exact isWordChar_of_isSpacing hc
  | blank hc _ =>
    rintro _ ⟨⟩
    exact isWordChar_of_isSpacing hc

theorem delimited_append (h : Spaced [] t) {rest : List Char} (hrest : Delimited rest) :
    Delimited (t ++ rest) := by
  generalize hr : ([] : List Piece) = r at h
  cases h with
  | nil => exact hrest
  | solid => cases hr
  | gap => cases hr
  | blank hc _ =>
    rintro _ ⟨⟩
    exact isWordChar_of_isSpacing hc

end Spaced

end PageMarkup
