import PageMarkup.Proofs.Markup.LineClasses
import PageMarkup.Proofs.Markup.Pieces

/-!
# The lines of markup are lines

The block of a tree is joined by newlines when it is printed. If no name in the tree has a newline
then no line of the block has one, whatever the texts and the raw code in the tree are: texts are
escaped, and code comes in as the lines it is cut into. So the printed text has the lines of the
block and no others.

## Main definitions

* `Markup.LineNamed` : trees whose tags, names of attributes and keys are single lines.

## Main results

* `Markup.LineNamed.newline_not_mem_lines` : no line of such a tree has a newline.
* `Markup.LineNamed.splitLines_print` : the lines of its text.
-/

namespace PageMarkup

open Text (Line Neat)

/-- Lines without newlines are the largest class of lines that layout stays in. -/
def LineClass.ofSingle : LineClass where
  holds l := '\n' ∉ l
  newline h := h
  of_neat := Neat.newline
  behind h hfront hmem := (List.mem_append.mp hmem).elim hfront h

namespace Markup

/-- Trees whose tags, names of attributes and keys of objects are single lines. Raw code and texts
may be any. -/
inductive LineNamed : Markup → Prop
  | literal (v : Value) : LineNamed (.literal v)
  | raw (code : String) : LineNamed (.raw code)
  | text (t : String) : LineNamed (.text t)
  | array {items : List Markup} (h : ∀ m ∈ items, LineNamed m) : LineNamed (.array items)
  | object {entries : List (String × Markup)} (hkeys : ∀ e ∈ entries, '\n' ∉ e.1.toList)
      (h : ∀ e ∈ entries, LineNamed e.2) : LineNamed (.object entries)
  | element {tag : Value} {attributes : List (Value × Markup)} {children : List Markup}
      (htag : '\n' ∉ tag.text.toList) (hnames : ∀ a ∈ attributes, '\n' ∉ a.1.text.toList)
      (hvalues : ∀ a ∈ attributes, LineNamed a.2) (h : ∀ m ∈ children, LineNamed m) :
      LineNamed (.element tag attributes children)
  | fragment {children : List Markup} (h : ∀ m ∈ children, LineNamed m) :
      LineNamed (.fragment children)

variable (s : LayoutStyle) (depth : Int) {m : Markup}

/-- No line of a tree has a newline, in any style and at any depth. -/
theorem LineNamed.newline_not_mem_lines (h : m.LineNamed) : ∀ l ∈ m.lines s depth, '\n' ∉ l := by
  have hclass : LineClass.ofSingle.Block (m.lines s depth) := by
    induction h generalizing depth with
    | literal v => exact LineClass.lines_literal s depth v
    | raw code => exact fun l hl => Text.newline_not_mem_of_mem_splitLines hl
    | text t => exact LineClass.lines_text s depth t
    | array _ ih => exact LineClass.lines_array s depth ih
    | object hkeys _ ih => exact LineClass.lines_object s depth hkeys ih
    | element htag hnames _ _ ihValues ihChildren =>
      have hstart : '\n' ∉ '<' :: _ := fun hmem =>
        htag ((List.mem_cons.mp hmem).resolve_left (by decide))
      exact LineClass.lines_element s depth hstart hnames ihValues ihChildren
    | fragment _ ih => exact LineClass.lines_fragment s depth ih
  exact hclass

/-- The text of a tree has the lines of its block, each behind the indentation of the depth. -/
theorem LineNamed.splitLines_print (h : m.LineNamed) :
    Text.splitLines (m.print s depth) =
      (m.lines s depth).map (Text.padLine (s.indent * depth.toNat)) := by
  refine Text.splitLines_joinLines
    (mt List.map_eq_nil_iff.mp (spacedBlock_lines s m depth).ne_nil) ?_
  rw [List.forall_mem_map]
  intro l hl
  have hline : LineClass.ofSingle.holds l := h.newline_not_mem_lines s depth l hl
  exact LineClass.padLine hline _

end Markup

end PageMarkup
