import PageMarkup.Proofs.Markup.SingleLines
import PageMarkup.Proofs.Markup.Tags

/-!
# Where elements and fragments open

A layout asks at a depth whether a line fits, and indents from the inside outwards: the lines of a
child are put one level deeper by its parent, whose lines are put one level deeper by the next. The
two agree. In the text of a tree every element and fragment that is reached through children opens
on a line of its own, behind as many levels of indentation as the depth at which it was laid out, so
that a tag which stands on one line has been measured where it ends up.

## Main definitions

* `Markup.taggedFrom` : the elements and fragments of a tree, in order, with their levels.
* `OpensAs` : the lines with which an element or fragment opens at a level.
* `OpenInOrder` : lines in which elements and fragments open one after the other.

## Main results

* `openingBlock_opensAs` : opening tags are measured at their level.
* `Markup.openInOrder_lines` : the elements and fragments of a tree open in its lines.
* `Markup.openInOrder_printWith` : they open in its text.
-/

namespace PageMarkup

open Text (Line padLine)

/-! ### Levels -/

namespace Markup

mutual

/-- The elements and fragments of a tree that are reached from it through children alone, in the
order in which they open, each with its level. -/
def taggedFrom (level : Nat) : Markup → List (Nat × Markup)
  | .element tag attributes children =>
    (level, .element tag attributes children) :: taggedAllFrom (level + 1) children
  | .fragment children => (level, .fragment children) :: taggedAllFrom (level + 1) children
  | _ => []
termination_by structural m => m

/-- The elements and fragments of sibling trees. -/
def taggedAllFrom (level : Nat) : List Markup → List (Nat × Markup)
  | [] => []
  | m :: ms => m.taggedFrom level ++ taggedAllFrom level ms
termination_by structural ms => ms

end

theorem taggedFrom_of_not_isTagged {m : Markup} (h : m.isTagged = false) (level : Nat) :
    m.taggedFrom level = [] := by
  cases m with
  | element | fragment => cases h
  | literal | raw | text | array | object => rfl

end Markup

/-- The spaces before a line at a level. -/
def LayoutStyle.indentation (s : LayoutStyle) (level : Nat) : Line :=
  List.replicate (s.indent * level) ' '

/-- A line that starts with an attribute, by its name. -/
def StartsWith (a : Value × Markup) (l : Line) : Prop :=
  a.1.text.toList ++ ['='] <+: l

/-- The end of the opening tag of an element with the given children, on a line of its own. -/
def tagEnd (children : List Markup) : Line :=
  if children.isEmpty then ['/', '>'] else ['>']

/-- The end of the opening tag of an element behind its name and attributes. -/
def inlineTagEnd (children : List Markup) : Line :=
  if children.isEmpty then [' ', '/', '>'] else ['>']

/-- The lines with which an element or fragment opens at a level. The opening tag of an element is
either complete on one line, which then is within the print width, or it is stacked: the name of the
tag, then the attributes, each from a new line one level deeper, and the end of the tag. -/
inductive OpensAs (s : LayoutStyle) (level : Nat) : Markup → List Line → Prop
  | fragment (children : List Markup) :
      OpensAs s level (.fragment children)
        [s.indentation level ++ if children.isEmpty then "<></>".toList else "<>".toList]
  | oneLine {tag : Value} {attributes : List (Value × Markup)} {children : List Markup}
      {texts : List Line} {line : Line} (rest : Line)
      (htexts : List.Forall₂ StartsWith attributes texts)
      (hline : line = s.indentation level ++
        ('<' :: tag.text.toList ++ texts.flatMap (' ' :: ·) ++ inlineTagEnd children ++ rest))
      (hwidth : s.width.admits line.length) :
      OpensAs s level (.element tag attributes children) [line]
  | stacked {tag : Value} {attributes : List (Value × Markup)} {children : List Markup}
      {parts : List (List Line)}
      (hparts : List.Forall₂ (fun a part => ∃ l ls,
        part = (s.indentation (level + 1) ++ l) :: ls ∧ StartsWith a l) attributes parts) :
      OpensAs s level (.element tag attributes children)
        ((s.indentation level ++ '<' :: tag.text.toList) :: parts.flatten ++
          [s.indentation level ++ tagEnd children])

/-- Lines in which elements and fragments open at their levels, one after the other. -/
inductive OpenInOrder (s : LayoutStyle) : List (Nat × Markup) → List Line → Prop
  | nil (ls : List Line) : OpenInOrder s [] ls
  | cons {level : Nat} {m : Markup} {nodes : List (Nat × Markup)} {skipped opening rest : List Line}
      (hopening : OpensAs s level m opening) (hrest : OpenInOrder s nodes rest) :
      OpenInOrder s ((level, m) :: nodes) (skipped ++ opening ++ rest)

namespace OpenInOrder

variable {s : LayoutStyle} {nodes nodes' : List (Nat × Markup)} {ls ls' : List Line}

theorem cons_first {level : Nat} {m : Markup} (h : OpensAs s level m ls)
    (hrest : OpenInOrder s nodes ls') : OpenInOrder s ((level, m) :: nodes) (ls ++ ls') :=
  @cons s level m nodes [] ls ls' h hrest

theorem append_left (h : OpenInOrder s nodes ls) (skipped : List Line) :
    OpenInOrder s nodes (skipped ++ ls) := by
  cases h with
  | nil => exact nil _
  | cons hopening hrest =>
    rw [List.append_assoc, ← List.append_assoc skipped, ← List.append_assoc]
    exact cons hopening hrest

theorem append (h : OpenInOrder s nodes ls) (h' : OpenInOrder s nodes' ls') :
    OpenInOrder s (nodes ++ nodes') (ls ++ ls') := by
  induction h with
  | nil ls => exact h'.append_left ls
  | cons hopening _ ih =>
    rw [List.append_assoc]
    exact cons hopening ih

theorem append_right (h : OpenInOrder s nodes ls) (rest : List Line) :
    OpenInOrder s nodes (ls ++ rest) := by
  simpa using h.append (nil rest)

end OpenInOrder

/-! ### Blocks at a level -/

section

variable (s : LayoutStyle) (level : Nat)

/-- A block behind the indentation of a level. -/
def LayoutStyle.atLevel (block : List Line) : List Line :=
  block.map (padLine (s.indent * level))

theorem padLine_of_ne_nil {l : Line} (h : l ≠ []) (width : Nat) :
    padLine width l = List.replicate width ' ' ++ l :=
  if_neg (mt List.isEmpty_iff.mp h)

theorem padLine_padLine (width width' : Nat) (l : Line) :
    padLine width (padLine width' l) = padLine (width + width') l := by
  cases l with
  | nil => rfl
  | cons c cs =>
    have hcs : c :: cs ≠ [] := List.cons_ne_nil c cs
    rw [padLine_of_ne_nil hcs, padLine_of_ne_nil hcs,
      padLine_of_ne_nil (List.append_ne_nil_of_right_ne_nil _ hcs), ← List.append_assoc,
      List.replicate_append_replicate]

theorem LayoutStyle.atLevel_flatMap_inset (blocks : List (List Line)) :
    s.atLevel level (blocks.flatMap s.inset) = blocks.flatMap (s.atLevel (level + 1)) := by
  rw [atLevel, List.map_flatMap]
  refine List.flatMap_congr fun b _ => ?_
  simp only [inset, atLevel, List.map_map, Function.comp_def, padLine_padLine, Nat.mul_add_one]

theorem LayoutStyle.atLevel_cons {l : Line} (h : l ≠ []) (ls : List Line) :
    s.atLevel level (l :: ls) = (s.indentation level ++ l) :: s.atLevel level ls := by
  rw [atLevel, List.map_cons, padLine_of_ne_nil h]
  rfl

end

/-! ### Opening tags -/

section

variable (s : LayoutStyle) (level : Nat)

private theorem attributeBlock_starts (a : Value × Markup) {block : List Line} {ps : List Piece}
    (h : SpacedBlock ps block) :
    ∃ l ls, attributeBlock s a.1.text.toList a.2 block = l :: ls ∧ StartsWith a l := by
  unfold attributeBlock
  split
  · exact ⟨_, _, rfl, by simp [StartsWith]⟩
  · obtain ⟨l, ls, hcontainer⟩ := List.exists_cons_of_ne_nil
      (spacedBlock_containerBlock s a.2.hugsContainer h).ne_nil
    rw [hcontainer]
    exact ⟨_, ls, rfl, List.prefix_append _ l⟩

private theorem attributeBlocks_start (depth : Int) (attributes : List (Value × Markup)) :
    List.Forall₂ (fun a b => ∃ l ls, b = l :: ls ∧ StartsWith a l) attributes
      (Markup.attributeBlocks s depth attributes) := by
  rw [Markup.attributeBlocks_eq_map, List.forall₂_map_right_iff, List.forall₂_same]
  exact fun a _ => attributeBlock_starts s a (Markup.spacedBlock_lines s a.2 depth)

variable (tag : Value) (attributes : List (Value × Markup)) (children : List Markup)

/-- A line that fits at the depth of an element has been measured with its indentation. -/
private theorem oneLine_opensAs (rest : Line)
    (hfits : s.fits level (openingLine tag.text.toList
      (Markup.attributeBlocks s (level + 2) attributes) ++ inlineTagEnd children ++ rest)) :
    OpensAs s level (.element tag attributes children) <| s.atLevel level
      [openingLine tag.text.toList (Markup.attributeBlocks s (level + 2) attributes) ++
        inlineTagEnd children ++ rest] := by
  set blocks := Markup.attributeBlocks s (level + 2) attributes with hblocks
  have htexts : List.Forall₂ StartsWith attributes (blocks.map (·.headD [])) := by
    refine List.forall₂_map_right_iff.mpr ((attributeBlocks_start s _ attributes).imp ?_)
    rintro a b ⟨l, ls, rfl, hl⟩
    exact hl
  rw [LayoutStyle.atLevel_cons s level (by simp [openingLine])]
  refine .oneLine rest htexts ?_ ?_
  · rw [List.flatMap_map, openingLine]
  · rw [LayoutStyle.fits] at hfits
    simpa [LayoutStyle.indentation, Int.mul_comm] using hfits

/-- An opening tag is laid out at the level at which its element opens. -/
theorem openingBlock_opensAs :
    OpensAs s level (.element tag attributes children) <| s.atLevel level <|
      openingBlock s level tag.text.toList (inlineTagEnd children) (tagEnd children)
        (Markup.attributeBlocks s (level + 2) attributes) := by
  unfold openingBlock
  dsimp only
  split
  · rename_i hinline
    have hfits := (Bool.and_eq_true_iff.mp hinline).2
    have hopens := oneLine_opensAs s level tag attributes children []
    rw [List.append_nil] at hopens
    exact hopens hfits
  · have hend : tagEnd children ≠ [] := by
      unfold tagEnd
      split <;> exact List.cons_ne_nil _ _
    rw [stackedOpening, List.cons_append, LayoutStyle.atLevel_cons s level (List.cons_ne_nil _ _),
      LayoutStyle.atLevel, List.map_append, ← LayoutStyle.atLevel, ← LayoutStyle.atLevel,
      LayoutStyle.atLevel_flatMap_inset, LayoutStyle.atLevel_cons s level hend, List.flatMap_def]
    refine .stacked (List.forall₂_map_right_iff.mpr ((attributeBlocks_start s _ attributes).imp ?_))
    rintro a b ⟨l, ls, rfl, hl⟩
    have hne : l ≠ [] := by
      rintro rfl
      simpa using List.prefix_nil.mp hl
    exact ⟨l, _, LayoutStyle.atLevel_cons s (level + 1) hne ls, hl⟩

/-! ### Trees -/

theorem LayoutStyle.atLevel_append (s : LayoutStyle) (level : Nat) (block block' : List Line) :
    s.atLevel level (block ++ block') = s.atLevel level block ++ s.atLevel level block' :=
  List.map_append

namespace Markup

variable {s : LayoutStyle} {level : Nat} {children : List Markup}

/-- Siblings open one after the other. A child that stands in a container of braces is not among
them, nor is anything in it. -/
private theorem openInOrder_childBlocks
    (h : ∀ m ∈ children, OpenInOrder s (m.taggedFrom level) (s.atLevel level (m.lines s level))) :
    OpenInOrder s (taggedAllFrom level children)
      ((childBlocks s level children).flatMap (s.atLevel level)) := by
  induction children with
  | nil => exact .nil _
  | cons m ms ih =>
    rw [List.forall_mem_cons] at h
    refine OpenInOrder.append ?_ (ih h.2)
    cases htagged : m.isTagged with
    | true =>
      rw [childDepth, if_pos htagged]
      cases m with
      | element | fragment => exact h.1
      | literal | raw | text | array | object => cases htagged
    | false =>
      rw [taggedFrom_of_not_isTagged htagged]
      exact .nil _

/-- A first child that may join the line of its tags is neither an element nor a fragment. -/
private theorem not_isTagged_of_isInlineChild {m : Markup} (h : m.isInlineChild = true) :
    m.isTagged = false := by
  cases m with
  | text | literal => rfl
  | element | fragment | raw | array | object => cases h

private theorem childBlocks_eq_single {depth : Int} {block : List Line}
    (h : childBlocks s depth children = [block]) : ∃ m, children = [m] := by
  rcases children with _ | ⟨m, _ | ⟨m', ms⟩⟩
  · cases h
  · exact ⟨m, rfl⟩
  · cases h

private theorem openingBlock_eq_single {depth : Int} {tag ending lastLine opening : Line}
    {attributes : List (List Line)}
    (h : openingBlock s depth tag ending lastLine attributes = [opening]) :
    opening = openingLine tag attributes ++ ending := by
  unfold openingBlock at h
  dsimp only at h
  split at h
  · exact (List.singleton_inj.mp h).symm
  · simp [stackedOpening] at h

private theorem openInOrder_element (tag : Value) (attributes : List (Value × Markup))
    (h : OpenInOrder s (taggedAllFrom (level + 1) children)
      ((childBlocks s (level + 1 : Nat) children).flatMap (s.atLevel (level + 1)))) :
    OpenInOrder s ((level, .element tag attributes children) :: taggedAllFrom (level + 1) children)
      (s.atLevel level (lines s level (.element tag attributes children))) := by
  have hopening := openingBlock_opensAs s level tag attributes children
  rw [lines]
  cases children with
  | nil =>
    have hblock := OpenInOrder.cons_first hopening (.nil [])
    rw [List.append_nil] at hblock
    exact hblock
  | cons m ms =>
    -- The children follow their parent unless the only one joins its line.
    have hblock := OpenInOrder.cons_first hopening
      (h.append_right (s.atLevel level [closingLine tag.text.toList]))
    rw [← LayoutStyle.atLevel_flatMap_inset, ← LayoutStyle.atLevel_append,
      ← LayoutStyle.atLevel_append, ← List.append_assoc] at hblock
    unfold elementBlock
    rw [if_neg (by simp [childBlocks])]
    dsimp only
    split
    · rename_i opening content hhead hchildren
      split
      · rename_i hinline
        obtain ⟨hchild, hfits⟩ := Bool.and_eq_true_iff.mp hinline
        obtain ⟨m', hm⟩ := childBlocks_eq_single hchildren
        obtain ⟨rfl, rfl⟩ := List.cons_eq_cons.mp hm
        rw [openingBlock_eq_single hhead, List.append_assoc] at hfits ⊢
        have honeLine := OpenInOrder.cons_first
          (oneLine_opensAs s level tag attributes [m] _ hfits) (.nil [])
        rw [taggedAllFrom, taggedAllFrom, List.append_nil,
          taggedFrom_of_not_isTagged (not_isTagged_of_isInlineChild hchild)]
        rw [List.append_nil] at honeLine
        exact honeLine
      · exact hblock
    · exact hblock

private theorem openInOrder_fragment
    (h : OpenInOrder s (taggedAllFrom (level + 1) children)
      ((childBlocks s (level + 1 : Nat) children).flatMap (s.atLevel (level + 1)))) :
    OpenInOrder s ((level, .fragment children) :: taggedAllFrom (level + 1) children)
      (s.atLevel level (lines s level (.fragment children))) := by
  have hopening : OpensAs s level (.fragment children) _ := .fragment children
  rw [lines]
  cases children with
  | nil =>
    exact OpenInOrder.cons_first hopening (.nil [])
  | cons m ms =>
    have hblock := OpenInOrder.cons_first hopening
      (h.append_right (s.atLevel level ["</>".toList]))
    rw [← LayoutStyle.atLevel_flatMap_inset, ← LayoutStyle.atLevel_append] at hblock
    unfold fragmentBlock
    rw [if_neg (by simp [childBlocks]), List.cons_append,
      LayoutStyle.atLevel_cons s level (by decide)]
    exact hblock

end Markup

end

namespace Markup

/-- **Depth and indentation agree.** Whatever stands in the attributes and containers of a tree, its
elements and fragments open in its lines at their levels. -/
theorem openInOrder_lines (s : LayoutStyle) (m : Markup) (level : Nat) :
    OpenInOrder s (m.taggedFrom level) (s.atLevel level (m.lines s level)) := by
  induction m using Markup.induct generalizing level with
  | literal | raw | text | array | object => exact .nil _
  | element tag attributes children _ ih =>
    exact openInOrder_element tag attributes
      (openInOrder_childBlocks fun m hm => ih m hm (level + 1))
  | fragment children ih =>
    exact openInOrder_fragment
      (openInOrder_childBlocks fun m hm => ih m hm (level + 1))

/-- **Indentation follows nesting.** Take a tree whose tags are texts, whose integers can be written
and whose names are single lines, and print it at any depth with levels of any width and any print
width. In its text the elements and fragments that are reached through children open in their order,
each on a line of its own behind one level of indentation for the depth and one for each step to it.
A line with a complete opening tag is within the print width; any other opening tag is stacked. -/
theorem openInOrder_printWith {root : Markup} (htags : root.hasTextTags = true)
    (hshow : root.isShowable = true) (hnames : root.LineNamed) (indent depth : Nat) (width : Int) :
    ∃ text, root.printWith (.int indent) (.int width) depth = .ok text ∧
      OpenInOrder ⟨indent, .columns width⟩ (root.taggedFrom depth) (Text.splitLines text) := by
  refine ⟨_, printWith_eq htags hshow indent width depth, ?_⟩
  rw [Int.toNat_natCast, hnames.splitLines_print, Int.toNat_natCast]
  exact openInOrder_lines _ root depth

/-- A box with an integer that cannot be written has no text in which it could open. -/
theorem not_openInOrder_printWith_oversized :
    let box := element (.str "Box") [(.str "n", oversized)] []
    box.hasTextTags = true ∧ box.LineNamed ∧
      ¬ ∃ text, box.printWith (.int 2) (.int 80) 0 = .ok text ∧
        OpenInOrder ⟨2, .columns 80⟩ (box.taggedFrom 0) (Text.splitLines text) := by
  have hnames : (element (.str "Box") [(.str "n", oversized)] []).LineNamed :=
    .element (by decide) (List.forall_mem_singleton.mpr (by decide))
      (List.forall_mem_singleton.mpr (.literal _)) (List.forall_mem_nil _)
  have hshow : (element (.str "Box") [(.str "n", oversized)] []).isShowable = false := by
    simp [isShowable, attributesShowable, isShowable_oversized]
  refine ⟨rfl, hnames, ?_⟩
  rintro ⟨text, htext, -⟩
  rw [printWith, layout_eq_tooManyDigits _ rfl hshow] at htext
  cases htext

/-- A box with a handler of two lines around a fragment, with a text and a picture in it. -/
def boxAroundFragment : Markup :=
  .element (.str "Box") [(.str "onPress", .raw "() => \x7b\n\x7d")]
    [.fragment [.element (.str "Text") [] [.text "Hi"],
      .element (.str "Image") [(.str "source", .literal (.str "a.png"))] []]]

private theorem lineNamed_boxAroundFragment : boxAroundFragment.LineNamed := by
  have htext : LineNamed (.element (.str "Text") [] [.text "Hi"]) :=
    .element (by decide) (List.forall_mem_nil _) (List.forall_mem_nil _)
      (List.forall_mem_singleton.mpr (.text _))
  have himage : LineNamed (.element (.str "Image")
      [(.str "source", .literal (.str "a.png"))] []) :=
    .element (by decide) (by decide) (List.forall_mem_singleton.mpr (.literal _))
      (List.forall_mem_nil _)
  exact .element (by decide) (by decide) (List.forall_mem_singleton.mpr (.raw _))
    (List.forall_mem_singleton.mpr
      (.fragment (List.forall_mem_cons.mpr ⟨htext, List.forall_mem_singleton.mpr himage⟩)))

theorem openInOrder_printWith_boxAroundFragment :
    boxAroundFragment.hasTextTags = true ∧ boxAroundFragment.isShowable = true ∧
      boxAroundFragment.LineNamed ∧
      ∃ text, boxAroundFragment.printWith (.int (2 : Nat)) (.int 24) (1 : Nat) = .ok text ∧
        OpenInOrder ⟨2, .columns 24⟩ (boxAroundFragment.taggedFrom 1) (Text.splitLines text) := by
  have htags : boxAroundFragment.hasTextTags = true := by decide
  have hshow : boxAroundFragment.isShowable = true := by decide
  exact ⟨htags, hshow, lineNamed_boxAroundFragment,
    openInOrder_printWith htags hshow lineNamed_boxAroundFragment 2 1 24⟩

/-- Its picture does not fit where it stands, and is stacked. -/
example : (element (.str "Image") [(.str "source", .literal (.str "a.png"))] []).printWith (.int 2)
    (.int 24) 3 = .ok "      <Image\n        source=\"a.png\"\n      />".toList := by
  decide +kernel

end Markup

end PageMarkup
