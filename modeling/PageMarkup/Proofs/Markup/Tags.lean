import PageMarkup.Markup.Layout
import PageMarkup.Proofs.Content.Outcomes
import PageMarkup.Proofs.Decimal.Digits

/-!
# Trees with texts as tags

A tree can be printed if its tags are texts and its integers have texts. Both are asked of each part
of the tree.

## Main definitions

* `Markup.oversized` : an integer without a text.

## Main results

* `Markup.allTextTags_iff`, `Markup.entriesTextTags_iff`, `Markup.attributesTextTags_iff` : the
  tags in the parts of a tree.
* `Markup.allShowable_iff`, `Markup.entriesShowable_iff`, `Markup.attributesShowable_iff` : the
  integers in them.
* `Markup.layout_eq`, `Markup.printWith_eq` : the layout and the text of such a tree.
* `Markup.layout_eq_notText`, `Markup.layout_eq_tooManyDigits` : how any other tree is refused.
* `Markup.exists_print` : the text of a tree is a layout of it, if there is any.
-/

namespace PageMarkup.Markup

theorem allTextTags_iff {ms : List Markup} :
    allTextTags ms = true ↔ ∀ m ∈ ms, m.hasTextTags = true := by
  induction ms with
  | nil => simp [allTextTags]
  | cons m ms ih => simp [allTextTags, ih]

theorem entriesTextTags_iff {es : List (String × Markup)} :
    entriesTextTags es = true ↔ ∀ m ∈ es.map Prod.snd, m.hasTextTags = true := by
  induction es with
  | nil => simp [entriesTextTags]
  | cons e es ih => simp [entriesTextTags, ih]

theorem attributesTextTags_iff {es : List (Value × Markup)} :
    attributesTextTags es = true ↔ ∀ m ∈ es.map Prod.snd, m.hasTextTags = true := by
  induction es with
  | nil => simp [attributesTextTags]
  | cons e es ih => simp [attributesTextTags, ih]

theorem allShowable_iff {ms : List Markup} :
    allShowable ms = true ↔ ∀ m ∈ ms, m.isShowable = true := by
  induction ms with
  | nil => simp [allShowable]
  | cons m ms ih => simp [allShowable, ih]

theorem entriesShowable_iff {es : List (String × Markup)} :
    entriesShowable es = true ↔ ∀ m ∈ es.map Prod.snd, m.isShowable = true := by
  induction es with
  | nil => simp [entriesShowable]
  | cons e es ih => simp [entriesShowable, ih]

theorem attributesShowable_iff {es : List (Value × Markup)} :
    attributesShowable es = true ↔ ∀ e ∈ es, e.1.isShowable = true ∧ e.2.isShowable = true := by
  induction es with
  | nil => simp [attributesShowable]
  | cons e es ih => simp [attributesShowable, ih]

/-- The layout of a tree whose tags and integers have texts, under settings that are integers. -/
theorem layout_eq {α : Type} [DecidableEq α] (run : LayoutStyle → α) {m : Markup}
    (htags : m.hasTextTags = true) (hshow : m.isShowable = true) (indent width : Int) :
    m.layout run (.int indent) (.int width) = .ok (run ⟨indent.toNat, .columns width⟩) := by
  rw [layout, htags, hshow]
  rfl

/-- The text of such a tree. -/
theorem printWith_eq {m : Markup} (htags : m.hasTextTags = true) (hshow : m.isShowable = true)
    (indent width depth : Int) : m.printWith (.int indent) (.int width) depth =
      .ok (m.print ⟨indent.toNat, .columns width⟩ depth) :=
  layout_eq _ htags hshow indent width

/-- A tree in which some tag is no text is not laid out. -/
theorem layout_eq_notText {α : Type} [DecidableEq α] (run : LayoutStyle → α) {m : Markup}
    (htags : m.hasTextTags = false) (indent width : Int) :
    m.layout run (.int indent) (.int width) = .error .notText := by
  rw [layout, htags]
  rfl

/-- Nor is one with an integer that has no text. -/
theorem layout_eq_tooManyDigits {α : Type} [DecidableEq α] (run : LayoutStyle → α) {m : Markup}
    (htags : m.hasTextTags = true) (hshow : m.isShowable = false) (indent width : Int) :
    m.layout run (.int indent) (.int width) = .error .tooManyDigits := by
  rw [layout, htags, hshow]
  rfl

/-- The smallest positive integer with more digits than can be written. -/
def oversized : Markup := .literal (.int (10 ^ Decimal.maxDigits))

theorem isShowable_oversized : oversized.isShowable = false := by
  rw [oversized, isShowable, Value.isShowable, Decimal.isShowable, decide_eq_false_iff_not]
  exact Decimal.not_isReadable_pow

theorem layout_eq_ok {α : Type} [DecidableEq α] {run : LayoutStyle → α} {m : Markup}
    {indentSize printWidth : Value} {a : α} (h : m.layout run indentSize printWidth = .ok a) :
    m.hasTextTags = true ∧ m.isShowable = true ∧
      ∃ s : LayoutStyle, indentSize.spaces = .ok s.indent ∧ run s = a := by
  obtain ⟨indent, hindent, h⟩ := bind_eq_ok_iff.mp h
  cases htags : m.hasTextTags with
  | false =>
    rw [htags] at h
    cases h
  | true =>
    cases hshow : m.isShowable with
    | false =>
      rw [htags, hshow] at h
      cases h
    | true =>
      rw [htags, hshow] at h
      refine ⟨rfl, rfl, ?_⟩
      cases hwidth : PrintWidth.ofValue? printWidth with
      | some width =>
        rw [hwidth] at h
        exact ⟨⟨indent, width⟩, hindent, Except.ok.inj h⟩
      | none =>
        rw [hwidth] at h
        by_cases hsame : run ⟨indent, .unlimited⟩ = run ⟨indent, .nothing⟩
        · replace h := (if_pos hsame).symm.trans h
          exact ⟨⟨indent, .unlimited⟩, hindent, Except.ok.inj h⟩
        · replace h := (if_neg hsame).symm.trans h
          cases h

/-- The text of a tree is a layout of it, if there is any. -/
theorem exists_print {m : Markup} {indentSize printWidth : Value} {depth : Int}
    {text : List Char} (h : m.printWith indentSize printWidth depth = .ok text) :
    ∃ s : LayoutStyle, indentSize.spaces = .ok s.indent ∧ m.print s depth = text :=
  (layout_eq_ok h).2.2

end PageMarkup.Markup
