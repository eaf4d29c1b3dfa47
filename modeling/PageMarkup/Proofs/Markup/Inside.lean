import PageMarkup.Markup.Layout
import Mathlib.Data.List.Infix

/-!
# Blocks inside of blocks

Whichever layout is chosen for an array, an object or a tag, no line of a part is taken apart: it is
indented, it gets something put before or behind it, or it is joined with other lines into one. So
each line of the block of a part stands, as it is, in a line of the whole block.

## Main definitions

* `Inside` : blocks whose lines stand in lines of another block.
* `Markup.directParts` : the trees that a tree is made of.

## Main results

* `Markup.itemBlocks_eq_map`, `Markup.entryBlocks_eq_map`, `Markup.attributeBlocks_eq_map`,
  `Markup.childBlocks_eq_map` : each part of a tree has a block.

* `inside_bracketBlocks`, `inside_containerBlock`, `inside_openingBlock`, `inside_elementBlock`,
  `inside_fragmentBlock` : the blocks of parts in each layout.
* `Markup.inside_array`, `Markup.inside_object`, `Markup.inside_attribute`, `Markup.inside_child`,
  `Markup.inside_fragment` : the blocks of the parts of a tree.
* `Markup.inside_part` : the lines of a part of a tree.
* `Markup.infix_print` : the lines of a tree stand in its text.
-/

namespace PageMarkup

open Text (Line padLine)

/-- Each line of a block stands in a line of another block. -/
def Inside (block whole : List Line) : Prop :=
  ∀ l ∈ block, ∃ m ∈ whole, l <:+: m

namespace Inside

variable {block block' whole : List Line}

theorem of_subset (h : block ⊆ whole) : Inside block whole :=
  fun l hl => ⟨l, h hl, List.infix_rfl⟩

theorem trans (h : Inside block block') (h' : Inside block' whole) : Inside block whole := by
  intro l hl
  obtain ⟨m, hm, hlm⟩ := h l hl
  obtain ⟨n, hn, hmn⟩ := h' m hm
  exact ⟨n, hn, hlm.trans hmn⟩

theorem single {l m : Line} (h : l <:+: m) : Inside [l] [m] :=
  List.forall_mem_singleton.mpr ⟨m, List.mem_singleton_self m, h⟩

theorem append_left (h : Inside block whole) (front : List Line) : Inside block (front ++ whole) :=
  h.trans (of_subset (List.subset_append_right front whole))

theorem append_right (h : Inside block whole) (back : List Line) : Inside block (whole ++ back) :=
  h.trans (of_subset (List.subset_append_left whole back))

end Inside

theorem infix_padLine (width : Nat) (l : Line) : l <:+: padLine width l := by
  unfold padLine
  split
  · exact List.infix_rfl
  · exact (List.suffix_append _ l).isInfix

variable (s : LayoutStyle)

theorem inside_inset (block : List Line) : Inside block (s.inset block) :=
  fun l hl => ⟨_, List.mem_map_of_mem hl, infix_padLine s.indent l⟩

theorem inside_prependToFirst (front : Line) (block : List Line) :
    Inside block (prependToFirst front block) := by
  cases block with
  | nil => exact List.forall_mem_nil _
  | cons l ls =>
    intro m hm
    rcases List.mem_cons.mp hm with rfl | hm
    · exact ⟨_, List.mem_cons_self, (List.suffix_append front m).isInfix⟩
    · exact ⟨m, List.mem_cons_of_mem _ hm, List.infix_rfl⟩

theorem inside_appendToLast (back : Line) (block : List Line) :
    Inside block (appendToLast back block) := by
  induction block with
  | nil => exact List.forall_mem_nil _
  | cons l ls ih =>
    cases ls with
    | nil => exact .single (List.prefix_append l back).isInfix
    | cons m ms =>
      intro k hk
      rcases List.mem_cons.mp hk with rfl | hk
      · exact ⟨k, List.mem_cons_self, List.infix_rfl⟩
      · obtain ⟨n, hn, hkn⟩ := ih k hk
        exact ⟨n, List.mem_cons_of_mem _ hn, hkn⟩

/-! ### Lists of parts -/

section

variable {b : List Line} {blocks : List (List Line)}

theorem inside_flatMap_inset (hb : b ∈ blocks) : Inside b (blocks.flatMap s.inset) := by
  refine (inside_inset s b).trans (.of_subset fun l hl => ?_)
  exact List.mem_flatMap.mpr ⟨b, hb, hl⟩

private theorem inside_commaBlocks (hb : b ∈ blocks) : Inside b (commaBlocks s blocks) := by
  induction blocks with
  | nil => cases hb
  | cons c cs ih =>
    cases cs with
    | nil =>
      obtain rfl := List.mem_singleton.mp hb
      exact inside_inset s b
    | cons d ds =>
      rcases List.mem_cons.mp hb with rfl | hb
      · exact ((inside_appendToLast [','] b).trans (inside_inset s _)).append_right _
      · exact (ih hb).append_left _

private theorem infix_commaLine {l : Line} (hl : [l] ∈ blocks) : l <:+: commaLine blocks := by
  induction blocks with
  | nil => cases hl
  | cons c cs ih =>
    cases cs with
    | nil =>
      obtain rfl := List.mem_singleton.mp hl
      exact List.infix_rfl
    | cons d ds =>
      rw [commaLine]
      rcases List.mem_cons.mp hl with rfl | hl
      · exact (List.prefix_append l _).isInfix
      · exact (ih hl).trans (List.suffix_append_of_suffix
          (((List.suffix_cons ' ' _).trans (List.suffix_cons ',' _)))).isInfix

private theorem exists_eq_singleton {block : List Line} (h : isSingle block = true) :
    ∃ l, block = [l] :=
  List.length_eq_one_iff.mp (beq_iff_eq.mp h)

theorem inside_bracketBlocks (depth : Int) (openInline closeInline opening closing : Line)
    (hb : b ∈ blocks) :
    Inside b (bracketBlocks s depth openInline closeInline opening closing blocks) := by
  unfold bracketBlocks
  dsimp only
  split
  · rename_i hinline
    have hsingle := List.all_eq_true.mp (Bool.and_eq_true_iff.mp hinline).1 b hb
    obtain ⟨l, rfl⟩ := exists_eq_singleton hsingle
    exact .single ((infix_commaLine hb).trans (List.infix_append openInline _ closeInline))
  · exact ((inside_commaBlocks s hb).append_left [opening]).append_right [closing]

theorem inside_containerBlock (hugs : Bool) (block : List Line) :
    Inside block (containerBlock s hugs block) := by
  unfold containerBlock
  split
  · rename_i l
    exact .single (List.infix_append ['\x7b'] l ['\x7d'])
  · split
    · exact (inside_appendToLast _ _).trans (inside_prependToFirst _ _)
    · exact ((inside_inset s _).append_left [['\x7b']]).append_right [['\x7d']]

/-! ### Tags -/

theorem inside_openingBlock (depth : Int) (tag ending lastLine : Line) (hb : b ∈ blocks) :
    Inside b (openingBlock s depth tag ending lastLine blocks) := by
  unfold openingBlock
  dsimp only
  split
  · rename_i hinline
    have hsingle := List.all_eq_true.mp (Bool.and_eq_true_iff.mp hinline).1 b hb
    obtain ⟨l, rfl⟩ := exists_eq_singleton hsingle
    have hjoined : ' ' :: l <:+: blocks.flatMap fun a => ' ' :: a.headD [] :=
      List.infix_of_mem_flatten (List.mem_map.mpr ⟨[l], hb, rfl⟩)
    have hattribute := (List.suffix_cons ' ' l).isInfix.trans hjoined
    exact .single (hattribute.trans (List.infix_append ('<' :: tag) _ ending))
  · exact ((inside_flatMap_inset s hb).append_left ['<' :: tag]).append_right [lastLine]

theorem inside_elementBlock (depth : Int) (tag : Line) {attributes children : List (List Line)}
    (inlineChild : Bool) (hb : b ∈ attributes ∨ b ∈ children) :
    Inside b (elementBlock s depth tag attributes children inlineChild) := by
  unfold elementBlock
  split
  · rename_i hempty
    rw [List.isEmpty_iff.mp hempty] at hb
    exact inside_openingBlock s depth tag _ _ (hb.resolve_right List.not_mem_nil)
  · have hparts := hb.imp_left (inside_openingBlock s depth tag ['>'] ['>'])
    dsimp only
    generalize openingBlock s depth tag ['>'] ['>'] attributes = head at hparts ⊢
    have hblock : Inside b (head ++ children.flatMap s.inset ++ [closingLine tag]) := by
      refine Inside.append_right ?_ _
      rcases hparts with hb | hb
      · exact hb.append_right _
      · exact (inside_flatMap_inset s hb).append_left _
    split
    · rename_i opening content _
      split
      · rcases hparts with hb | hb
        · refine hb.trans (.single ?_)
          rw [List.append_assoc]
          exact (List.prefix_append opening _).isInfix
        · obtain rfl := List.mem_singleton.mp hb
          exact .single (List.infix_append opening content _)
      · exact hblock
    · exact hblock

theorem inside_fragmentBlock (hb : b ∈ blocks) : Inside b (fragmentBlock s blocks) := by
  unfold fragmentBlock
  rw [if_neg fun hempty => List.ne_nil_of_mem hb (List.isEmpty_iff.mp hempty)]
  exact ((inside_flatMap_inset s hb).append_left ["<>".toList]).append_right _

end

theorem inside_attributeBlock (name : Line) {value : Markup} (hvalue : value.plainAttribute? = none)
    (block : List Line) : Inside block (attributeBlock s name value block) := by
  unfold attributeBlock
  rw [hvalue]
  exact (inside_containerBlock s _ block).trans (inside_prependToFirst _ _)

theorem inside_childBlock {child : Markup} (hchild : child.isInlineChild = false)
    (block : List Line) : Inside block (childBlock s child block) := by
  cases child with
  | text | literal => cases hchild
  | element | fragment => exact .of_subset fun _ hl => hl
  | raw | array | object => exact inside_containerBlock s _ block

/-! ### Trees -/

namespace Markup

/-- The trees that a tree is made of, themselves whole trees. -/
def directParts : Markup → List Markup
  | .array items => items
  | .object entries => entries.map Prod.snd
  | .element _ attributes children => attributes.map Prod.snd ++ children
  | .fragment children => children
  | _ => []

variable (depth : Int)

theorem itemBlocks_eq_map (items : List Markup) :
    itemBlocks s depth items = items.map (·.lines s depth) := by
  induction items with
  | nil => rfl
  | cons m ms ih => exact congrArg (m.lines s depth :: ·) ih

theorem entryBlocks_eq_map (entries : List (String × Markup)) :
    entryBlocks s depth entries =
      entries.map fun e => prependToFirst (objectKey e.1 ++ [':', ' ']) (e.2.lines s depth) := by
  induction entries with
  | nil => rfl
  | cons e es ih =>
    exact congrArg (prependToFirst (objectKey e.1 ++ [':', ' ']) (e.2.lines s depth) :: ·) ih

theorem attributeBlocks_eq_map (attributes : List (Value × Markup)) :
    attributeBlocks s depth attributes =
      attributes.map fun a => attributeBlock s a.1.text.toList a.2 (a.2.lines s depth) := by
  induction attributes with
  | nil => rfl
  | cons a as ih =>
    exact congrArg (attributeBlock s a.1.text.toList a.2 (a.2.lines s depth) :: ·) ih

theorem childBlocks_eq_map (children : List Markup) :
    childBlocks s depth children =
      children.map fun m => childBlock s m (m.lines s (m.childDepth depth)) := by
  induction children with
  | nil => rfl
  | cons m ms ih => exact congrArg (childBlock s m (m.lines s (m.childDepth depth)) :: ·) ih

theorem lines_array (items : List Markup) :
    lines s depth (.array items) =
      if items.isEmpty then [['[', ']']]
      else bracketBlocks s depth ['['] [']'] ['['] [']'] (items.map (·.lines s (depth + 1))) := by
  rw [← itemBlocks_eq_map]
  rfl

theorem lines_object (entries : List (String × Markup)) :
    lines s depth (.object entries) =
      if entries.isEmpty then [['\x7b', '\x7d']]
      else bracketBlocks s depth ['\x7b', ' '] [' ', '\x7d'] ['\x7b'] ['\x7d']
        (entries.map fun e =>
          prependToFirst (objectKey e.1 ++ [':', ' ']) (e.2.lines s (depth + 1))) := by
  rw [← entryBlocks_eq_map]
  rfl

theorem lines_element (tag : Value) (attributes : List (Value × Markup))
    (children : List Markup) :
    lines s depth (.element tag attributes children) =
      elementBlock s depth tag.text.toList
        (attributes.map fun a =>
          attributeBlock s a.1.text.toList a.2 (a.2.lines s (depth + 2)))
        (children.map fun m => childBlock s m (m.lines s (m.childDepth (depth + 1))))
        (children.head?.any isInlineChild) := by
  rw [← attributeBlocks_eq_map, ← childBlocks_eq_map]
  rfl

theorem lines_fragment (children : List Markup) :
    lines s depth (.fragment children) =
      fragmentBlock s
        (children.map fun m => childBlock s m (m.lines s (m.childDepth (depth + 1)))) := by
  rw [← childBlocks_eq_map]
  rfl

variable {m part : Markup}

/-- The block of an item stands in the block of its array. -/
theorem inside_array {items : List Markup} (h : m ∈ items) :
    Inside (m.lines s (depth + 1)) (lines s depth (.array items)) := by
  rw [lines_array, if_neg fun hempty => List.ne_nil_of_mem h (List.isEmpty_iff.mp hempty)]
  exact inside_bracketBlocks s depth _ _ _ _ (List.mem_map.mpr ⟨m, h, rfl⟩)

/-- The block of an entry stands in the block of its object. -/
theorem inside_object {entries : List (String × Markup)} {e : String × Markup} (h : e ∈ entries) :
    Inside (prependToFirst (objectKey e.1 ++ [':', ' ']) (e.2.lines s (depth + 1)))
      (lines s depth (.object entries)) := by
  rw [lines_object, if_neg fun hempty => List.ne_nil_of_mem h (List.isEmpty_iff.mp hempty)]
  exact inside_bracketBlocks s depth _ _ _ _ (List.mem_map.mpr ⟨e, h, rfl⟩)

/-- The block of an attribute stands in the block of its element. -/
theorem inside_attribute (tag : Value) {attributes : List (Value × Markup)}
    (children : List Markup) {a : Value × Markup} (h : a ∈ attributes) :
    Inside (attributeBlock s a.1.text.toList a.2 (a.2.lines s (depth + 2)))
      (lines s depth (.element tag attributes children)) := by
  rw [lines_element]
  exact inside_elementBlock s depth _ _ (.inl (List.mem_map.mpr ⟨a, h, rfl⟩))

/-- The block of a child stands in the block of its element. -/
theorem inside_child (tag : Value) (attributes : List (Value × Markup)) {children : List Markup}
    (h : m ∈ children) :
    Inside (childBlock s m (m.lines s (m.childDepth (depth + 1))))
      (lines s depth (.element tag attributes children)) := by
  rw [lines_element]
  exact inside_elementBlock s depth _ _ (.inr (List.mem_map.mpr ⟨m, h, rfl⟩))

/-- The block of a child stands in the block of its fragment. -/
theorem inside_fragment {children : List Markup} (h : m ∈ children) :
    Inside (childBlock s m (m.lines s (m.childDepth (depth + 1))))
      (lines s depth (.fragment children)) := by
  rw [lines_fragment]
  exact inside_fragmentBlock s (List.mem_map.mpr ⟨m, h, rfl⟩)

private theorem plainAttribute?_of_not_isInlineChild (h : m.isInlineChild = false) :
    m.plainAttribute? = none := by
  cases m with
  | text | literal => cases h
  | raw | array | object | element | fragment => rfl

/-- **No line of a part is taken apart.** The lines of a part of a tree, laid out at some depth,
stand in lines of the tree. Texts and literals are left out, since as attributes and children they
may be written in another way. -/
theorem inside_part (hpart : part ∈ m.directParts) (hleaf : part.isInlineChild = false) :
    ∃ depth', Inside (part.lines s depth') (m.lines s depth) := by
  cases m with
  | literal | raw | text => cases hpart
  | array items => exact ⟨_, inside_array s depth hpart⟩
  | object entries =>
    obtain ⟨e, he, rfl⟩ := List.mem_map.mp hpart
    exact ⟨_, (inside_prependToFirst _ _).trans (inside_object s depth he)⟩
  | element tag attributes children =>
    rcases List.mem_append.mp hpart with hpart | hpart
    · obtain ⟨a, ha, rfl⟩ := List.mem_map.mp hpart
      have hvalue := plainAttribute?_of_not_isInlineChild hleaf
      exact ⟨_, (inside_attributeBlock s _ hvalue _).trans (inside_attribute s depth tag _ ha)⟩
    · exact ⟨_, (inside_childBlock s hleaf _).trans (inside_child s depth tag _ hpart)⟩
  | fragment children =>
    exact ⟨_, (inside_childBlock s hleaf _).trans (inside_fragment s depth hpart)⟩

private theorem infix_joinLines {l : Line} {ls : List Line} (h : l ∈ ls) :
    l <:+: Text.joinLines ls := by
  induction ls with
  | nil => cases h
  | cons m ms ih =>
    cases ms with
    | nil =>
      obtain rfl := List.mem_singleton.mp h
      exact List.infix_rfl
    | cons n ns =>
      rw [Text.joinLines]
      rcases List.mem_cons.mp h with rfl | h
      · exact (List.prefix_append l _).isInfix
      · exact (ih h).trans (List.suffix_append_of_suffix (List.suffix_cons '\n' _)).isInfix

/-- The lines of a tree stand in its text. -/
theorem infix_print {l : Line} (h : l ∈ m.lines s depth) : l <:+: m.print s depth :=
  (infix_padLine _ l).trans (infix_joinLines (List.mem_map_of_mem h))

end Markup

end PageMarkup
