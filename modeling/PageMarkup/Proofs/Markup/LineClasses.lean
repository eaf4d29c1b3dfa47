import PageMarkup.Proofs.Markup.Inside
import PageMarkup.Proofs.Markup.NeatLeaves

/-!
# Classes of lines that layout stays in

A layout makes its lines in two ways: it puts something before a line it has, such as indentation, a
key or the name of an attribute, and it ends a line in a mark of its own, such as a bracket or the
end of a tag. So a class of lines that has every neat line, and that a line does not leave when
something is put before it, has all lines of a tree as soon as it has those of its leaves.

## Main definitions

* `LineClass` : classes of lines without newlines that allow for this.
* `LineClass.Block` : blocks of lines of a class.

## Main results

* `LineClass.lines_array`, `LineClass.lines_object`, `LineClass.lines_element`,
  `LineClass.lines_fragment` : the lines of a tree from those of its parts.
-/

namespace PageMarkup

open Text (Line Neat)

/-- A class of lines without newlines. It has every neat line, and a line of it stays in it when
something is put before it. -/
structure LineClass where
  holds : Line → Prop
  newline : ∀ {l}, holds l → '\n' ∉ l
  of_neat : ∀ {l}, Neat l → holds l
  behind : ∀ {l} {front : Line}, holds l → '\n' ∉ front → holds (front ++ l)

namespace LineClass

/-- A block of lines of a class. -/
def Block (C : LineClass) (block : List Line) : Prop :=
  ∀ l ∈ block, C.holds l

variable {C : LineClass} {block : List Line} {blocks : List (List Line)}

theorem padLine {l : Line} (h : C.holds l) (width : Nat) : C.holds (Text.padLine width l) := by
  unfold Text.padLine
  split
  · exact h
  · exact C.behind h fun hmem => absurd (List.eq_of_mem_replicate hmem) (by decide)

namespace Block

theorem single {l : Line} (h : C.holds l) : C.Block [l] :=
  List.forall_mem_singleton.mpr h

theorem neat {l : Line} (h : Neat l) : C.Block [l] :=
  single (C.of_neat h)

theorem append {block' : List Line} (h : C.Block block) (h' : C.Block block') :
    C.Block (block ++ block') :=
  List.forall_mem_append.mpr ⟨h, h'⟩

theorem inset (h : C.Block block) (s : LayoutStyle) : C.Block (s.inset block) :=
  List.forall_mem_map.mpr fun l hl => padLine (h l hl) s.indent

theorem flatMap_inset (h : ∀ b ∈ blocks, C.Block b) (s : LayoutStyle) :
    C.Block (blocks.flatMap s.inset) := by
  intro l hl
  obtain ⟨b, hb, hl⟩ := List.mem_flatMap.mp hl
  exact (h b hb).inset s l hl

theorem prependToFirst (h : C.Block block) {front : Line} (hfront : '\n' ∉ front) :
    C.Block (PageMarkup.prependToFirst front block) := by
  cases block with
  | nil => exact h
  | cons l ls =>
    rw [Block, List.forall_mem_cons] at h
    exact List.forall_mem_cons.mpr ⟨C.behind h.1 hfront, h.2⟩

theorem appendToLast (h : C.Block block) {back : Line} (hback : Neat back) :
    C.Block (PageMarkup.appendToLast back block) := by
  induction block with
  | nil => exact h
  | cons l ls ih =>
    rw [Block, List.forall_mem_cons] at h
    cases ls with
    | nil => exact neat (hback.append (C.newline h.1))
    | cons m ms => exact List.forall_mem_cons.mpr ⟨h.1, ih h.2⟩

/-- The first line of a block has no newline, nor has the line that stands for an empty block. -/
theorem newline_not_mem_headD (h : C.Block block) : '\n' ∉ block.headD [] := by
  cases block with
  | nil => exact List.not_mem_nil
  | cons l ls => exact C.newline (h l List.mem_cons_self)

end Block

/-! ### Brackets -/

variable (s : LayoutStyle) (depth : Int)

private theorem block_commaBlocks (h : ∀ b ∈ blocks, C.Block b) :
    C.Block (commaBlocks s blocks) := by
  have hcomma : Neat [','] := by decide
  induction blocks with
  | nil => exact List.forall_mem_nil _
  | cons b bs ih =>
    rw [List.forall_mem_cons] at h
    cases bs with
    | nil => exact h.1.inset s
    | cons c cs => exact ((h.1.appendToLast hcomma).inset s).append (ih h.2)

private theorem newline_not_mem_commaLine (h : ∀ b ∈ blocks, C.Block b) :
    '\n' ∉ commaLine blocks := by
  induction blocks with
  | nil => exact List.not_mem_nil
  | cons b bs ih =>
    rw [List.forall_mem_cons] at h
    cases bs with
    | nil => exact h.1.newline_not_mem_headD
    | cons c cs =>
      rw [commaLine]
      simp only [List.mem_append, List.mem_cons, Char.reduceEq, false_or, not_or]
      exact ⟨h.1.newline_not_mem_headD, ih h.2⟩

private theorem block_bracketBlocks {openInline closeInline opening closing : Line}
    (hopenInline : '\n' ∉ openInline) (hcloseInline : Neat closeInline) (hopening : Neat opening)
    (hclosing : Neat closing) (h : ∀ b ∈ blocks, C.Block b) :
    C.Block (bracketBlocks s depth openInline closeInline opening closing blocks) := by
  unfold bracketBlocks
  dsimp only
  split
  · refine .neat (hcloseInline.append fun hmem => ?_)
    exact (List.mem_append.mp hmem).elim hopenInline (newline_not_mem_commaLine h)
  · exact ((Block.neat hopening).append (block_commaBlocks s h)).append (.neat hclosing)

private theorem block_containerBlock (hugs : Bool) (h : C.Block block) :
    C.Block (containerBlock s hugs block) := by
  have hopen : Neat ['\x7b'] := by decide
  have hclose : Neat ['\x7d'] := by decide
  unfold containerBlock
  split
  · rename_i l
    exact .neat ((hclose.append (C.newline (h l List.mem_cons_self))).append hopen.1)
  · split
    · exact (h.appendToLast hclose).prependToFirst hopen.1
    · exact ((Block.neat hopen).append (h.inset s)).append (.neat hclose)

/-! ### Tags -/

variable {tag : Line} {attributes children : List (List Line)}

private theorem neat_closingLine (htag : C.holds ('<' :: tag)) : Neat (closingLine tag) := by
  have hmark : Neat ['>'] := by decide
  refine hmark.append fun hmem => C.newline htag ?_
  simpa only [List.mem_cons, Char.reduceEq, false_or] using hmem

private theorem newline_not_mem_openingLine (htag : C.holds ('<' :: tag))
    (ha : ∀ b ∈ attributes, C.Block b) : '\n' ∉ openingLine tag attributes := by
  intro hmem
  rcases List.mem_append.mp hmem with hmem | hmem
  · exact C.newline htag hmem
  · obtain ⟨a, hamem, hmem⟩ := List.mem_flatMap.mp hmem
    rcases List.mem_cons.mp hmem with heq | hmem
    · revert heq
      decide
    · exact (ha a hamem).newline_not_mem_headD hmem

private theorem block_openingBlock (htag : C.holds ('<' :: tag)) {ending lastLine : Line}
    (hending : Neat ending) (hlast : Neat lastLine) (ha : ∀ b ∈ attributes, C.Block b) :
    C.Block (openingBlock s depth tag ending lastLine attributes) := by
  unfold openingBlock
  dsimp only
  split
  · exact .neat (hending.append (newline_not_mem_openingLine htag ha))
  · exact ((Block.single htag).append (.flatMap_inset ha s)).append (.neat hlast)

private theorem block_elementBlock (htag : C.holds ('<' :: tag))
    (ha : ∀ b ∈ attributes, C.Block b) (hc : ∀ b ∈ children, C.Block b) (inlineChild : Bool) :
    C.Block (elementBlock s depth tag attributes children inlineChild) := by
  have hmark : Neat ['>'] := by decide
  have hclosing := neat_closingLine htag
  have hhead := block_openingBlock s depth htag hmark hmark ha
  unfold elementBlock
  split
  · exact block_openingBlock s depth htag (by decide) (by decide) ha
  · have hblock := (hhead.append (.flatMap_inset hc s)).append (.neat hclosing)
    dsimp only
    split
    · rename_i opening content hopening _
      split
      · rw [hopening] at hhead
        have hcontent := hc _ List.mem_cons_self content List.mem_cons_self
        refine .neat (hclosing.append fun hmem => ?_)
        exact (List.mem_append.mp hmem).elim (C.newline (hhead opening List.mem_cons_self))
          (C.newline hcontent)
      · exact hblock
    · exact hblock

private theorem block_fragmentBlock (hc : ∀ b ∈ children, C.Block b) :
    C.Block (fragmentBlock s children) := by
  unfold fragmentBlock
  split
  · exact .neat (by decide)
  · exact ((Block.neat (by decide)).append (.flatMap_inset hc s)).append (.neat (by decide))

private theorem block_attributeBlock {name : Line} (hname : '\n' ∉ name) (value : Markup)
    (h : C.Block block) : C.Block (attributeBlock s name value block) := by
  have hmark : Neat [Text.quoteMark] := by decide
  unfold attributeBlock
  split
  · rename_i t hplain
    have ht : '\n' ∉ t := by
      unfold Markup.plainAttribute? at hplain
      split at hplain
      · split at hplain
        · rename_i hsafe
          obtain rfl := Option.some.inj hplain
          simp only [isPlainAttribute, Bool.not_eq_true', List.any_eq_false] at hsafe
          exact fun hmem => hsafe _ hmem (by decide)
        · cases hplain
      · cases hplain
    refine .neat (hmark.append fun hmem => ?_)
    simp only [List.mem_append, List.mem_cons, Text.quoteMark, Char.reduceEq, false_or] at hmem
    exact hmem.elim hname ht
  · refine (block_containerBlock s _ h).prependToFirst fun hmem => ?_
    simp only [List.mem_append, List.mem_singleton, Char.reduceEq, or_false] at hmem
    exact hname hmem

private theorem block_childBlock (child : Markup) (h : C.Block block) :
    C.Block (childBlock s child block) := by
  cases child with
  | text t => exact .neat (neat_contentLine t)
  | element | fragment => exact h
  | literal | raw | array | object => exact block_containerBlock s _ h

/-! ### Parts of a tree -/

private theorem block_itemBlocks {items : List Markup}
    (h : ∀ m ∈ items, ∀ depth, C.Block (m.lines s depth)) :
    ∀ b ∈ Markup.itemBlocks s depth items, C.Block b := by
  rw [Markup.itemBlocks_eq_map, List.forall_mem_map]
  exact fun m hm => h m hm depth

private theorem block_entryBlocks {entries : List (String × Markup)}
    (hkeys : ∀ e ∈ entries, '\n' ∉ e.1.toList)
    (h : ∀ e ∈ entries, ∀ depth, C.Block (e.2.lines s depth)) :
    ∀ b ∈ Markup.entryBlocks s depth entries, C.Block b := by
  rw [Markup.entryBlocks_eq_map, List.forall_mem_map]
  intro e he
  have hfront : '\n' ∉ objectKey e.1 ++ [':', ' '] := fun hmem =>
    (List.mem_append.mp hmem).elim (newline_not_mem_objectKey (hkeys e he)) (by decide)
  exact (h e he depth).prependToFirst hfront

private theorem block_attributeBlocks {entries : List (Value × Markup)}
    (hnames : ∀ a ∈ entries, '\n' ∉ a.1.text.toList)
    (h : ∀ a ∈ entries, ∀ depth, C.Block (a.2.lines s depth)) :
    ∀ b ∈ Markup.attributeBlocks s depth entries, C.Block b := by
  rw [Markup.attributeBlocks_eq_map, List.forall_mem_map]
  exact fun a ha => block_attributeBlock s (hnames a ha) a.2 (h a ha depth)

private theorem block_childBlocks {items : List Markup}
    (h : ∀ m ∈ items, ∀ depth, C.Block (m.lines s depth)) :
    ∀ b ∈ Markup.childBlocks s depth items, C.Block b := by
  rw [Markup.childBlocks_eq_map, List.forall_mem_map]
  exact fun m hm => block_childBlock s m (h m hm _)

theorem lines_literal (v : Value) : C.Block (Markup.lines s depth (.literal v)) :=
  .neat (neat_literalText v)

theorem lines_text (t : String) : C.Block (Markup.lines s depth (.text t)) :=
  .neat (neat_quote _)

/-- The lines of an array are in a class if those of its items are. -/
theorem lines_array {items : List Markup}
    (h : ∀ m ∈ items, ∀ depth, C.Block (m.lines s depth)) :
    C.Block (Markup.lines s depth (.array items)) := by
  rw [Markup.lines]
  split
  · exact .neat (by decide)
  · exact block_bracketBlocks s depth (by decide) (by decide) (by decide) (by decide)
      (block_itemBlocks s _ h)

/-- The lines of an object are in a class if those of its values are and its keys are single
lines. -/
theorem lines_object {entries : List (String × Markup)}
    (hkeys : ∀ e ∈ entries, '\n' ∉ e.1.toList)
    (h : ∀ e ∈ entries, ∀ depth, C.Block (e.2.lines s depth)) :
    C.Block (Markup.lines s depth (.object entries)) := by
  rw [Markup.lines]
  split
  · exact .neat (by decide)
  · exact block_bracketBlocks s depth (by decide) (by decide) (by decide) (by decide)
      (block_entryBlocks s _ hkeys h)

/-- The lines of an element are in a class if those of its values and children are, the start of its
opening tag is and the names of its attributes are single lines. -/
theorem lines_element {tag : Value} {attributes : List (Value × Markup)} {children : List Markup}
    (htag : C.holds ('<' :: tag.text.toList)) (hnames : ∀ a ∈ attributes, '\n' ∉ a.1.text.toList)
    (hvalues : ∀ a ∈ attributes, ∀ depth, C.Block (a.2.lines s depth))
    (h : ∀ m ∈ children, ∀ depth, C.Block (m.lines s depth)) :
    C.Block (Markup.lines s depth (.element tag attributes children)) :=
  block_elementBlock s depth htag (block_attributeBlocks s _ hnames hvalues)
    (block_childBlocks s _ h) _

/-- The lines of a fragment are in a class if those of its children are. -/
theorem lines_fragment {children : List Markup}
    (h : ∀ m ∈ children, ∀ depth, C.Block (m.lines s depth)) :
    C.Block (Markup.lines s depth (.fragment children)) :=
  block_fragmentBlock s (block_childBlocks s _ h)

end LineClass

end PageMarkup
