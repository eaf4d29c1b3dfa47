import PageMarkup.Proofs.Markup.Pieces
import PageMarkup.Proofs.Markup.Tags

/-!
# Layout leaves the ink alone

Whether attributes are stacked, a bracketed list is broken, a text stands in the line of its tags or
a container hugs its brackets, a layout only ever adds spaces and newlines. What is left of a text
without these is its ink. Every layout of a tree spaces out the same pieces, so the ink is that of
the pieces, and no setting and no depth has a part in it.

## Main definitions

* `ink` : the characters of a text but for spaces and newlines.

## Main results

* `Spaced.ink_eq` : the ink of a text that spaces out pieces.
* `Markup.ink_print` : the ink of a tree in any layout.
* `Markup.printWith_ink_eq` : two layouts of a tree have the same ink.
-/

namespace PageMarkup

/-- The characters of a text without its spaces and newlines. -/
def ink (t : List Char) : List Char :=
  t.filter fun c => !isSpacing c

/-- The ink of a piece; a gap has none. -/
def Piece.ink : Piece → List Char
  | .solid w => PageMarkup.ink w
  | .gap => []

theorem ink_append (t u : List Char) : ink (t ++ u) = ink t ++ ink u :=
  List.filter_append ..

theorem ink_cons_of_isSpacing {c : Char} (hc : isSpacing c = true) (t : List Char) :
    ink (c :: t) = ink t :=
  List.filter_cons_of_neg (by simp [hc])

/-- A text that spaces out pieces has their ink: what stands between them has none. -/
theorem Spaced.ink_eq {ps : List Piece} {t : List Char} (h : Spaced ps t) :
    ink t = ps.flatMap Piece.ink := by
  induction h with
  | nil => rfl
  | solid w _ ih => rw [ink_append, ih, List.flatMap_cons, Piece.ink]
  | gap hc _ ih => rw [ink_cons_of_isSpacing hc, ih, List.flatMap_cons, Piece.ink, List.nil_append]
  | blank hc _ ih => rw [ink_cons_of_isSpacing hc, ih]

namespace Markup

/-- The ink of a tree in any style and at any depth is that of its pieces. -/
theorem ink_print (m : Markup) (s : LayoutStyle) (depth : Int) :
    ink (m.print s depth) = m.pieces.flatMap Piece.ink :=
  (spaced_print s m depth).ink_eq

/-- **Layout never changes the ink.** Take any tree and any two choices of the width of an
indentation level, the print width and the depth. The tree has a text under either of them if its
tags are texts and its integers can be written, and under neither otherwise, and the two texts
differ in spaces and newlines alone. -/
theorem printWith_ink_eq (m : Markup) (indent width depth indent' width' depth' : Int) :
    ((∃ text, m.printWith (.int indent) (.int width) depth = .ok text) ↔
        m.hasTextTags = true ∧ m.isShowable = true) ∧
      ink <$> m.printWith (.int indent) (.int width) depth =
        ink <$> m.printWith (.int indent') (.int width') depth' := by
  have hrefused : ∀ how : Misuse, ¬ ∃ text : List Char, Except.error how = .ok text := by
    rintro how ⟨text, htext⟩
    cases htext
  cases htags : m.hasTextTags with
  | false =>
    rw [printWith, printWith, layout_eq_notText _ htags, layout_eq_notText _ htags]
    exact ⟨iff_of_false (hrefused _) fun h => Bool.false_ne_true h.1, rfl⟩
  | true =>
    cases hshow : m.isShowable with
    | false =>
      rw [printWith, printWith, layout_eq_tooManyDigits _ htags hshow,
        layout_eq_tooManyDigits _ htags hshow]
      exact ⟨iff_of_false (hrefused _) fun h => Bool.false_ne_true h.2, rfl⟩
    | true =>
      rw [printWith_eq htags hshow, printWith_eq htags hshow]
      have hink : ink (m.print ⟨indent.toNat, .columns width⟩ depth) =
          ink (m.print ⟨indent'.toNat, .columns width'⟩ depth') := by
        rw [ink_print, ink_print]
      exact ⟨iff_of_true ⟨_, rfl⟩ ⟨rfl, rfl⟩, congrArg Except.ok hink⟩

/-- An array on one line, and on four. -/
example : ∀ width ∈ [80, 0], ink <$>
    (Markup.array [.raw "a b", .literal .null]).printWith (.int 2) (.int width) 1 =
      .ok "[ab,null]".toList := by
  decide

end Markup

end PageMarkup
