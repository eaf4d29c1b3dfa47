import PageMarkup.Text.LetterCase

/-!
# Lower case of lower case

A text that has been put into lower case stays as it is when it is put into lower case again. This
is a fact about the table of strides: no stride leads to a code point that one of them holds. Two
strides are kept apart by their bounds, or else by their parity where small and capital letters take
turns, and this is looked at for every pair of strides and not for every letter.

## Main definitions

* `isLowered` : a character that lower case leaves alone.

## Main results

* `lower_lower` : lower case of lower case.
-/

namespace PageMarkup.Text

/-! ### Strides that are kept apart -/

namespace CaseStride

/-- The code point that the first one of a stride is mapped to. -/
def imageFirst (s : CaseStride) : Nat := (s.first + s.shift).toNat

/-- The code point that the last one of a stride is mapped to. -/
def imageLast (s : CaseStride) : Nat := (s.last + s.shift).toNat

/-- No code point that the first stride leads to is held by the second one. -/
def avoids (s t : CaseStride) : Bool :=
  s.imageLast.blt t.first || t.last.blt s.imageFirst ||
    ((s.step.beq 2 || s.first.beq s.last) && t.step.beq 2 &&
      ((s.imageFirst + t.first) % 2).beq 1)

/-- All that a stride leads to are characters, and none of them is the dotted capital I. -/
def landsOnCharacters (s : CaseStride) : Bool :=
  0 ≤ s.first + s.shift && (s.imageLast < 0x130 || 0x130 < s.imageFirst) &&
    (s.imageLast < 0xD800 || (0xDFFF < s.imageFirst && s.imageLast < 0x110000))

variable {s t : CaseStride} {n : Nat}

private theorem holds_iff :
    s.holds n = true ↔ s.first ≤ n ∧ n ≤ s.last ∧ (n - s.first) % s.step = 0 := by
  simp only [holds, Bool.and_eq_true, decide_eq_true_eq, beq_iff_eq, and_assoc]

private theorem holds_image_of_avoids (h : s.avoids t = true) (hn : s.holds n = true)
    (hpos : 0 ≤ s.first + s.shift) : t.holds (n + s.shift).toNat = false := by
  obtain ⟨hfirst, hlast, hstep⟩ := holds_iff.mp hn
  simp only [avoids, imageFirst, imageLast, Bool.or_eq_true, Bool.and_eq_true, Nat.blt_eq,
    Nat.beq_eq] at h
  refine Bool.eq_false_iff.mpr fun ht => ?_
  obtain ⟨tfirst, tlast, tstep⟩ := holds_iff.mp ht
  rcases h with (h | h) | ⟨⟨hs2, ht2⟩, hodd⟩
  · omega
  · omega
  · -- The distance from the first code point is even on both sides.
    have hn2 : (n - s.first) % 2 = 0 := by
      rcases hs2 with hs2 | hs2
      · rwa [hs2] at hstep
      · omega
    rw [ht2] at tstep
    omega

private theorem isValidChar_image (h : s.landsOnCharacters = true) (hn : s.holds n = true) :
    (n + s.shift).toNat.isValidChar ∧ (n + s.shift).toNat ≠ 0x130 := by
  obtain ⟨hfirst, hlast, -⟩ := holds_iff.mp hn
  simp only [landsOnCharacters, Bool.or_eq_true, Bool.and_eq_true, decide_eq_true_eq] at h
  unfold imageFirst imageLast at h
  exact ⟨by unfold Nat.isValidChar; omega, by omega⟩

end CaseStride

private theorem lowerStrides_avoid :
    (lowerStrides.all fun s => s.landsOnCharacters && lowerStrides.all s.avoids) = true := by
  decide +kernel

private theorem lowerStrides_tail_first :
    (lowerStrides.tail.all fun s => (0x80 : Nat).ble s.first) = true := by
  decide

/-! ### Characters that lower case leaves alone -/

/-- A character that lower case leaves alone: not the dotted capital I, and held by no stride. -/
def isLowered (c : Char) : Bool :=
  c.toNat != 0x130 && !lowerStrides.any (·.holds c.toNat)

private theorem isLowered_iff {c : Char} :
    isLowered c = true ↔ c.toNat ≠ 0x130 ∧ ∀ s ∈ lowerStrides, s.holds c.toNat = false := by
  simp only [isLowered, Bool.and_eq_true, bne_iff_ne, Bool.not_eq_true', List.any_eq_false,
    Bool.not_eq_true]

private theorem toNat_ofNat_of_isValidChar {n : Nat} (h : n.isValidChar) :
    (Char.ofNat n).toNat = n := by
  rw [Char.ofNat, dif_pos h]
  rfl

private theorem isLowered_shiftCase {n : Nat} (hn : n.isValidChar) (hdotted : n ≠ 0x130) :
    isLowered (Char.ofNat (shiftCase lowerStrides n)) = true := by
  rw [isLowered_iff, shiftCase]
  cases hfind : lowerStrides.find? (·.holds n) with
  | none =>
    dsimp only
    rw [toNat_ofNat_of_isValidChar hn]
    exact ⟨hdotted, fun s hs => Bool.eq_false_iff.mpr (List.find?_eq_none.mp hfind s hs)⟩
  | some s =>
    have hholds : s.holds n = true := by
      simpa only using List.find?_some hfind
    have hs := List.all_eq_true.mp lowerStrides_avoid s (List.mem_of_find?_eq_some hfind)
    obtain ⟨hlands, havoid⟩ := Bool.and_eq_true_iff.mp hs
    obtain ⟨hvalid, hne⟩ := CaseStride.isValidChar_image hlands hholds
    have hpos : 0 ≤ s.first + s.shift := by
      simp only [CaseStride.landsOnCharacters, Bool.and_eq_true, decide_eq_true_eq] at hlands
      exact hlands.1.1
    dsimp only
    rw [toNat_ofNat_of_isValidChar hvalid]
    exact ⟨hne, fun t ht => CaseStride.holds_image_of_avoids (List.all_eq_true.mp havoid t ht)
      hholds hpos⟩

private theorem isLowered_of_toNat_lt {c : Char} (h : c.toNat < 0x80)
    (hcapital : ¬ (0x41 ≤ c.toNat ∧ c.toNat ≤ 0x5A)) : isLowered c = true := by
  refine isLowered_iff.mpr ⟨by omega, fun s hs => Bool.eq_false_iff.mpr fun hholds => ?_⟩
  obtain ⟨hfirst, hlast, -⟩ := CaseStride.holds_iff.mp hholds
  rcases List.mem_cons.mp hs with rfl | hs
  · exact hcapital ⟨hfirst, hlast⟩
  · have := Nat.le_of_ble_eq_true (List.all_eq_true.mp lowerStrides_tail_first s hs)
    omega

private theorem toNat_toLower_lt {c : Char} (h : c.toNat < 0x80) :
    c.toLower.toNat < 0x80 ∧ ¬ (0x41 ≤ c.toLower.toNat ∧ c.toLower.toNat ≤ 0x5A) := by
  by_cases hcapital : c.val ≥ 'A'.val ∧ c.val ≤ 'Z'.val
  · have hlow : 0x41 ≤ c.toNat := hcapital.1
    have hhigh : c.toNat ≤ 0x5A := hcapital.2
    have hshifted : c.toLower.toNat = c.toNat + 32 := by
      rw [show c.toLower = _ from dif_pos hcapital]
      change (c.toNat + 32) % _ = _
      omega
    omega
  · have hsame : c.toLower = c := dif_neg hcapital
    rw [hsame]
    exact ⟨h, hcapital⟩

private theorem isLowered_of_mem {c : Char} (h : c ∈ ['i', Char.ofNat 0x307, 'σ', 'ς']) :
    isLowered c = true := by
  have hall : (['i', Char.ofNat 0x307, 'σ', 'ς'].all isLowered) = true := by
    decide
  exact List.all_eq_true.mp hall c h

private theorem isLowered_of_mem_lowerChar {c d : Char} (h : d ∈ lowerChar c) :
    isLowered d = true := by
  unfold lowerChar at h
  split at h
  next hsmall =>
    rw [List.mem_singleton.mp h]
    obtain ⟨hlt, hcapital⟩ := toNat_toLower_lt hsmall
    exact isLowered_of_toNat_lt hlt hcapital
  next =>
    split at h
    · exact isLowered_of_mem (List.mem_append_left ['σ', 'ς'] h)
    next hdotted =>
      rw [List.mem_singleton.mp h]
      exact isLowered_shiftCase c.valid hdotted

theorem isLowered_of_mem_lowerBetween {before behind : List Char} {c d : Char}
    (h : d ∈ lowerBetween before c behind) : isLowered d = true := by
  unfold lowerBetween at h
  split at h
  · rw [List.mem_singleton.mp h]
    split <;> exact isLowered_of_mem (by decide)
  · exact isLowered_of_mem_lowerChar h

private theorem lowerBetween_of_isLowered {c : Char} (h : isLowered c = true)
    (before behind : List Char) : lowerBetween before c behind = [c] := by
  obtain ⟨hdotted, hnone⟩ := isLowered_iff.mp h
  have hsigma : c.toNat ≠ 0x3A3 := by
    intro hc
    have hheld : lowerStrides.any (·.holds 0x3A3) = true := rfl
    obtain ⟨s, hs, hholds⟩ := List.any_eq_true.mp hheld
    exact Bool.false_ne_true ((hnone s hs).symm.trans (hc ▸ hholds))
  rw [lowerBetween, if_neg hsigma, lowerChar]
  by_cases hsmall : c.toNat < 0x80
  · have hcapital : ¬ (c.val ≥ 'A'.val ∧ c.val ≤ 'Z'.val) := by
      rintro ⟨hlow, hhigh⟩
      have hlatin : CaseStride.holds ⟨0x41, 0x5A, 1, 32⟩ c.toNat = true :=
        CaseStride.holds_iff.mpr ⟨hlow, hhigh, Nat.mod_one _⟩
      exact Bool.false_ne_true ((hnone _ List.mem_cons_self).symm.trans hlatin)
    have hsame : c.toLower = c := dif_neg hcapital
    rw [if_pos hsmall, hsame]
  · have hfind : lowerStrides.find? (·.holds c.toNat) = none :=
      List.find?_eq_none.mpr fun s hs => Bool.eq_false_iff.mp (hnone s hs)
    rw [if_neg hsmall, if_neg hdotted, shiftCase, hfind]
    exact congrArg (fun d => [d]) (Char.ofNat_toNat c)

/-! ### Texts -/

theorem isLowered_of_mem_lowerAfter {before cs : List Char} {d : Char}
    (h : d ∈ lowerAfter before cs) : isLowered d = true := by
  induction cs generalizing before with
  | nil => exact absurd h List.not_mem_nil
  | cons c cs ih =>
    rcases List.mem_append.mp h with h | h
    · exact isLowered_of_mem_lowerBetween h
    · exact ih h

theorem lowerAfter_of_isLowered {cs : List Char} (h : ∀ c ∈ cs, isLowered c = true)
    (before : List Char) : lowerAfter before cs = cs := by
  induction cs generalizing before with
  | nil => rfl
  | cons c cs ih =>
    rw [lowerAfter, lowerBetween_of_isLowered (h c List.mem_cons_self),
      ih fun d hd => h d (List.mem_cons_of_mem c hd)]
    rfl

/-- Lower case of a text in lower case is this text. -/
theorem lower_lower (cs : List Char) : lower (lower cs) = lower cs :=
  lowerAfter_of_isLowered (fun _ => isLowered_of_mem_lowerAfter) []

/-! ### ASCII -/

theorem lowerAfter_of_ascii {cs : List Char} (h : ∀ c ∈ cs, c.toNat < 0x80)
    (before : List Char) : lowerAfter before cs = cs.map Char.toLower := by
  induction cs generalizing before with
  | nil => rfl
  | cons c cs ih =>
    obtain ⟨hc, hcs⟩ := List.forall_mem_cons.mp h
    have hsigma : c.toNat ≠ 0x3A3 := fun heq => absurd hc (by rw [heq]; decide)
    rw [lowerAfter, lowerBetween, if_neg hsigma, lowerChar, if_pos hc, ih hcs]
    rfl

theorem capitalize_cons_of_ascii {c : Char} {cs : List Char} (hc : c.toNat < 0x80)
    (hcs : ∀ d ∈ cs, d.toNat < 0x80) :
    capitalize (c :: cs) = c.toUpper :: cs.map Char.toLower := by
  rw [capitalize, titleChar, if_pos hc, lowerAfter_of_ascii hcs]
  rfl

end PageMarkup.Text
