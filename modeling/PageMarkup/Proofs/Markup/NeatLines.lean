import PageMarkup.Proofs.Markup.LineClasses
import PageMarkup.Proofs.Markup.Pieces

/-!
# Markup is laid out in neat lines

However a tree is laid out, each of its lines ends in a character of the tree: a quote, a bracket, a
comma, the end of a tag, or the last character of a name, a number or a text that is not blank
there. Texts whose ends are blank, and texts with newlines, stand between quotes, where a newline is
written by an escape. So no line ends in a blank, if only the names in the tree let it.

## Main definitions

* `NeatBlock` : blocks of neat lines.
* `Markup.WellNamed` : trees without raw code whose tags are solid and whose names are single lines.

## Main results

* `Markup.WellNamed.neatBlock_lines`, `Markup.WellNamed.neatText_print` : the lines of a tree are
  neat in any layout, and so is its text.
-/

namespace PageMarkup

open Text (Line Neat NeatText IsSolid isSolid_cons)

/-- A block of neat lines. -/
def NeatBlock (block : List Line) : Prop :=
  ∀ l ∈ block, Neat l

/-- Neat lines are the smallest class of lines that layout stays in. -/
def LineClass.ofNeat : LineClass where
  holds := Neat
  newline := Neat.newline
  of_neat h := h
  behind h := h.append

/-- The start of an opening tag is neat, since its last character is the last one of the tag. -/
private theorem neat_tagStart {tag : Line} (htag : IsSolid tag) : Neat ('<' :: tag) :=
  IsSolid.neat (isSolid_cons.mpr ⟨by decide, htag⟩) (List.cons_ne_nil _ _)

namespace Markup

variable (s : LayoutStyle) (depth : Int)

/-- Trees without raw code whose tags are solid and whose names of attributes and keys of objects
are single lines. -/
inductive WellNamed : Markup → Prop
  | literal (v : Value) : WellNamed (.literal v)
  | text (t : String) : WellNamed (.text t)
  | array {items : List Markup} (h : ∀ m ∈ items, WellNamed m) : WellNamed (.array items)
  | object {entries : List (String × Markup)} (hkeys : ∀ e ∈ entries, '\n' ∉ e.1.toList)
      (h : ∀ e ∈ entries, WellNamed e.2) : WellNamed (.object entries)
  | element {tag : Value} {attributes : List (Value × Markup)} {children : List Markup}
      (htag : IsSolid tag.text.toList) (hnames : ∀ a ∈ attributes, '\n' ∉ a.1.text.toList)
      (hvalues : ∀ a ∈ attributes, WellNamed a.2) (h : ∀ m ∈ children, WellNamed m) :
      WellNamed (.element tag attributes children)
  | fragment {children : List Markup} (h : ∀ m ∈ children, WellNamed m) :
      WellNamed (.fragment children)

/-- **Trees are laid out in neat lines.** In any style and at any depth no line of a tree without
raw code ends in a space or a tab, and none is empty, as long as its names are solid or single
lines; the texts in it may be any. -/
theorem WellNamed.neatBlock_lines {m : Markup} (h : m.WellNamed) :
    NeatBlock (m.lines s depth) := by
  have hclass : LineClass.ofNeat.Block (m.lines s depth) := by
    induction h generalizing depth with
    | literal v => exact LineClass.lines_literal s depth v
    | text t => exact LineClass.lines_text s depth t
    | array _ ih => exact LineClass.lines_array s depth ih
    | object hkeys _ ih => exact LineClass.lines_object s depth hkeys ih
    | element htag hnames _ _ ihValues ihChildren =>
      exact LineClass.lines_element s depth (neat_tagStart htag) hnames ihValues ihChildren
    | fragment _ ih => exact LineClass.lines_fragment s depth ih
  exact hclass

/-- The text of a tree consists of neat lines, at any depth. -/
theorem WellNamed.neatText_print {m : Markup} (h : m.WellNamed) : NeatText (m.print s depth) := by
  refine ⟨_, ?_, List.forall_mem_map.mpr fun l hl => ?_, rfl⟩
  · exact mt List.map_eq_nil_iff.mp (spacedBlock_lines s m depth).ne_nil
  · exact (h.neatBlock_lines s depth l hl).padLine _

end Markup

end PageMarkup
