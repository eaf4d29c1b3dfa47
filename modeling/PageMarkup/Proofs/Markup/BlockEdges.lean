import PageMarkup.Proofs.Markup.SingleLines
import PageMarkup.Proofs.Markup.Tags

/-!
# First and last lines of blocks

A layout puts keys, names of attributes and braces before the first line of a block, and commas and
braces behind its last line. A block without lines has neither, and what is put there would be lost.
So the layout is written down once more as a partial one, which takes the first and the last line of
a block only if there is one. It is defined for every tree and gives the lines of the tree. The
first and the last line of an array or object of several lines are its brackets alone, and this is
why they may share their lines with the braces of a container.

## Main definitions

* `prependToFirst?`, `appendToLast?`, `containerBlock?`, `commaBlocks?` : partial layouts of blocks.
* `Markup.lines?` : the partial layout of a tree.
* `Markup.brackets?` : the brackets of an array or object.

## Main results

* `Markup.lines?_eq` : the partial layout is the layout.
* `Markup.lines_eq_single_or_between` : an array or object on several lines.
* `Markup.linesWith_edges` : the lines of a tree, the first and the last one.
-/

namespace PageMarkup

open Text (Line)

/-! ### Partial layouts of blocks -/

/-- A text put before the first line of a block, if there is one. -/
def prependToFirst? (front : Line) (block : List Line) : Option (List Line) := do
  let first ← block.head?
  return (front ++ first) :: block.tail

/-- A text put behind the last line of a block, if there is one. -/
def appendToLast? (back : Line) (block : List Line) : Option (List Line) := do
  let last ← block.getLast?
  return block.dropLast ++ [last ++ back]

/-- The block of an expression in a container. The braces are put before the first and behind the
last line of a literal, if there are such lines. -/
def containerBlock? (s : LayoutStyle) (hugs : Bool) (block : List Line) : Option (List Line) :=
  match block with
  | [l] => some ['\x7b' :: l ++ ['\x7d']]
  | ls =>
    if hugs then do
      let closed ← appendToLast? ['\x7d'] ls
      prependToFirst? ['\x7b'] closed
    else some (['\x7b'] :: s.inset ls ++ [['\x7d']])

/-- Blocks one level deeper, all but the last with a comma behind their last line, if there is
one. -/
def commaBlocks? (s : LayoutStyle) : List (List Line) → Option (List Line)
  | [] => some []
  | [b] => some (s.inset b)
  | b :: c :: bs => do
    let first ← appendToLast? [','] b
    let rest ← commaBlocks? s (c :: bs)
    return s.inset first ++ rest

/-- Blocks between brackets, with commas behind last lines unless all of it is one line. -/
def bracketBlocks? (s : LayoutStyle) (depth : Int)
    (openInline closeInline opening closing : Line) (blocks : List (List Line)) :
    Option (List Line) :=
  let inline := openInline ++ commaLine blocks ++ closeInline
  if blocks.all isSingle && s.fits depth inline then some [inline]
  else do
    let inner ← commaBlocks? s blocks
    return opening :: inner ++ [closing]

/-- The block of an element. The line of its opening tag takes the first line of each attribute,
also where the tag is stacked in the end. -/
def elementBlock? (s : LayoutStyle) (depth : Int) (tag : Line)
    (attributes children : List (List Line)) (inlineChild : Bool) : Option (List Line) :=
  if attributes.any List.isEmpty then none
  else some (elementBlock s depth tag attributes children inlineChild)

/-- The block of an attribute from the block of its value, with the name before its first line. -/
def attributeBlock? (s : LayoutStyle) (name : Line) (value : Markup) (block : List Line) :
    Option (List Line) :=
  match value.plainAttribute? with
  | some t => some [name ++ '=' :: Text.quoteMark :: t ++ [Text.quoteMark]]
  | none => do
    let container ← containerBlock? s value.hugsContainer block
    prependToFirst? (name ++ ['=']) container

/-- The block of a child from its own block. -/
def childBlock? (s : LayoutStyle) (child : Markup) (block : List Line) : Option (List Line) :=
  match child with
  | .text t => some [contentLine t]
  | .element _ _ _ => some block
  | .fragment _ => some block
  | child => containerBlock? s child.hugsContainer block

mutual

/-- The lines of a tree at a depth, if every first and last line that the layout takes is there. -/
def Markup.lines? (s : LayoutStyle) (depth : Int) : Markup → Option (List Line)
  | .literal v => some [v.literalText]
  | .raw code => some (Text.splitLines code.toList)
  | .text t => some [Text.quote t.toList]
  | .array items =>
    if items.isEmpty then some [['[', ']']]
    else do
      let blocks ← Markup.itemBlocks? s (depth + 1) items
      bracketBlocks? s depth ['['] [']'] ['['] [']'] blocks
  | .object entries =>
    if entries.isEmpty then some [['\x7b', '\x7d']]
    else do
      let blocks ← Markup.entryBlocks? s (depth + 1) entries
      bracketBlocks? s depth ['\x7b', ' '] [' ', '\x7d'] ['\x7b'] ['\x7d'] blocks
  | .element tag attributes children => do
    let attributeBlocks ← Markup.attributeBlocks? s (depth + 2) attributes
    let childBlocks ← Markup.childBlocks? s (depth + 1) children
    elementBlock? s depth tag.text.toList attributeBlocks childBlocks
      (children.head?.any Markup.isInlineChild)
  | .fragment children => do
    let childBlocks ← Markup.childBlocks? s (depth + 1) children
    return fragmentBlock s childBlocks
termination_by structural m => m

/-- The blocks of the items of an array. -/
def Markup.itemBlocks? (s : LayoutStyle) (depth : Int) : List Markup → Option (List (List Line))
  | [] => some []
  | m :: ms => do
    let block ← m.lines? s depth
    let blocks ← Markup.itemBlocks? s depth ms
    return block :: blocks
termination_by structural ms => ms

/-- The blocks of the entries of an object, each with its key before its first line. -/
def Markup.entryBlocks? (s : LayoutStyle) (depth : Int) :
    List (String × Markup) → Option (List (List Line))
  | [] => some []
  | (key, m) :: es => do
    let block ← m.lines? s depth
    let entry ← prependToFirst? (objectKey key ++ [':', ' ']) block
    let blocks ← Markup.entryBlocks? s depth es
    return entry :: blocks
termination_by structural es => es

/-- The blocks of the attributes of an element. -/
def Markup.attributeBlocks? (s : LayoutStyle) (depth : Int) :
    List (Value × Markup) → Option (List (List Line))
  | [] => some []
  | (name, m) :: es => do
    let block ← m.lines? s depth
    let named ← attributeBlock? s name.text.toList m block
    let blocks ← Markup.attributeBlocks? s depth es
    return named :: blocks
termination_by structural es => es

/-- The blocks of the children of an element or fragment. -/
def Markup.childBlocks? (s : LayoutStyle) (depth : Int) : List Markup → Option (List (List Line))
  | [] => some []
  | m :: ms => do
    let block ← m.lines? s (m.childDepth depth)
    let child ← childBlock? s m block
    let blocks ← Markup.childBlocks? s depth ms
    return child :: blocks
termination_by structural ms => ms

end

/-! ### Blocks that have lines

On a block that has a line each partial operation is the total one, and its result has a line. -/

variable (s : LayoutStyle) (depth : Int) {block : List Line} {blocks : List (List Line)}

private theorem prependToFirst?_eq (h : block ≠ []) (front : Line) :
    prependToFirst? front block = some (prependToFirst front block) := by
  obtain ⟨l, ls, rfl⟩ := List.exists_cons_of_ne_nil h
  rfl

private theorem prependToFirst_ne_nil (h : block ≠ []) (front : Line) :
    prependToFirst front block ≠ [] := by
  obtain ⟨l, ls, rfl⟩ := List.exists_cons_of_ne_nil h
  exact List.cons_ne_nil _ ls

private theorem appendToLast_concat (back last : Line) (block : List Line) :
    appendToLast back (block ++ [last]) = block ++ [last ++ back] := by
  induction block with
  | nil => rfl
  | cons l ls ih =>
    obtain ⟨m, ms, hls⟩ := List.exists_cons_of_ne_nil (List.append_ne_nil_of_right_ne_nil ls
      (List.cons_ne_nil last []))
    rw [List.cons_append, hls, appendToLast, ← hls, ih, List.cons_append]

private theorem appendToLast?_eq (h : block ≠ []) (back : Line) :
    appendToLast? back block = some (appendToLast back block) := by
  rw [← List.dropLast_append_getLast h, appendToLast_concat, appendToLast?,
    List.getLast?_concat, List.dropLast_concat]
  rfl

private theorem appendToLast_ne_nil (h : block ≠ []) (back : Line) :
    appendToLast back block ≠ [] := by
  rw [← List.dropLast_append_getLast h, appendToLast_concat]
  exact List.append_ne_nil_of_right_ne_nil _ (List.cons_ne_nil _ [])

private theorem containerBlock?_eq (h : block ≠ []) (hugs : Bool) :
    containerBlock? s hugs block = some (containerBlock s hugs block) := by
  -- Only of two lines and more the first and the last one are taken, and only for a literal.
  rcases block with _ | ⟨l, _ | ⟨m, ls⟩⟩
  · exact absurd rfl h
  · rfl
  · cases hugs with
    | false => rfl
    | true =>
      change (appendToLast? ['\x7d'] (l :: m :: ls) >>= prependToFirst? ['\x7b']) = _
      rw [appendToLast?_eq h, Option.bind_eq_bind, Option.bind_some,
        prependToFirst?_eq (appendToLast_ne_nil h _)]
      rfl

private theorem containerBlock_ne_nil (h : block ≠ []) (hugs : Bool) :
    containerBlock s hugs block ≠ [] := by
  unfold containerBlock
  split
  · exact List.cons_ne_nil _ []
  · split
    · exact prependToFirst_ne_nil (appendToLast_ne_nil h _) _
    · exact List.cons_ne_nil _ _

private theorem commaBlocks?_eq (h : ∀ b ∈ blocks, b ≠ []) :
    commaBlocks? s blocks = some (commaBlocks s blocks) := by
  induction blocks with
  | nil => rfl
  | cons b bs ih =>
    rw [List.forall_mem_cons] at h
    cases bs with
    | nil => rfl
    | cons c cs =>
      rw [commaBlocks?, appendToLast?_eq h.1, ih h.2]
      rfl

private theorem bracketBlocks?_eq (h : ∀ b ∈ blocks, b ≠ [])
    (openInline closeInline opening closing : Line) :
    bracketBlocks? s depth openInline closeInline opening closing blocks =
      some (bracketBlocks s depth openInline closeInline opening closing blocks) := by
  unfold bracketBlocks? bracketBlocks
  dsimp only
  split
  · rfl
  · rw [commaBlocks?_eq s h]
    rfl

private theorem elementBlock?_eq {attributes : List (List Line)} (h : ∀ b ∈ attributes, b ≠ [])
    (tag : Line) (children : List (List Line)) (inlineChild : Bool) :
    elementBlock? s depth tag attributes children inlineChild =
      some (elementBlock s depth tag attributes children inlineChild) := by
  refine if_neg fun hempty => ?_
  obtain ⟨b, hb, hnil⟩ := List.any_eq_true.mp hempty
  exact h b hb (List.isEmpty_iff.mp hnil)

private theorem attributeBlock?_eq (h : block ≠ []) (name : Line) (value : Markup) :
    attributeBlock? s name value block = some (attributeBlock s name value block) := by
  unfold attributeBlock? attributeBlock
  cases value.plainAttribute? with
  | some t => rfl
  | none =>
    dsimp only
    rw [containerBlock?_eq s h, Option.bind_eq_bind, Option.bind_some,
      prependToFirst?_eq (containerBlock_ne_nil s h _)]

private theorem attributeBlock_ne_nil (h : block ≠ []) (name : Line) (value : Markup) :
    attributeBlock s name value block ≠ [] := by
  unfold attributeBlock
  split
  · exact List.cons_ne_nil _ []
  · exact prependToFirst_ne_nil (containerBlock_ne_nil s h _) _

private theorem childBlock?_eq (h : block ≠ []) (child : Markup) :
    childBlock? s child block = some (childBlock s child block) := by
  cases child with
  | text | element | fragment => rfl
  | literal | raw | array | object => exact containerBlock?_eq s h _

/-! ### Trees -/

namespace Markup

theorem lines_ne_nil (m : Markup) : m.lines s depth ≠ [] :=
  (spacedBlock_lines s m depth).ne_nil

section

variable {s : LayoutStyle}

private theorem itemBlocks?_eq {items : List Markup}
    (h : ∀ m ∈ items, ∀ depth, m.lines? s depth = some (m.lines s depth)) :
    itemBlocks? s depth items = some (itemBlocks s depth items) := by
  induction items with
  | nil => rfl
  | cons m ms ih =>
    rw [List.forall_mem_cons] at h
    rw [itemBlocks?, h.1 depth, ih h.2]
    rfl

private theorem entryBlocks?_eq {entries : List (String × Markup)}
    (h : ∀ e ∈ entries, ∀ depth, e.2.lines? s depth = some (e.2.lines s depth)) :
    entryBlocks? s depth entries = some (entryBlocks s depth entries) := by
  induction entries with
  | nil => rfl
  | cons e es ih =>
    rw [List.forall_mem_cons] at h
    rw [entryBlocks?, h.1 depth, Option.bind_eq_bind, Option.bind_some,
      prependToFirst?_eq (lines_ne_nil s depth e.2), ih h.2]
    rfl

private theorem attributeBlocks?_eq {attributes : List (Value × Markup)}
    (h : ∀ a ∈ attributes, ∀ depth, a.2.lines? s depth = some (a.2.lines s depth)) :
    attributeBlocks? s depth attributes = some (attributeBlocks s depth attributes) := by
  induction attributes with
  | nil => rfl
  | cons a as ih =>
    rw [List.forall_mem_cons] at h
    rw [attributeBlocks?, h.1 depth, Option.bind_eq_bind, Option.bind_some,
      attributeBlock?_eq s (lines_ne_nil s depth a.2), ih h.2]
    rfl

private theorem childBlocks?_eq {children : List Markup}
    (h : ∀ m ∈ children, ∀ depth, m.lines? s depth = some (m.lines s depth)) :
    childBlocks? s depth children = some (childBlocks s depth children) := by
  induction children with
  | nil => rfl
  | cons m ms ih =>
    rw [List.forall_mem_cons] at h
    rw [childBlocks?, h.1 (m.childDepth depth), Option.bind_eq_bind, Option.bind_some,
      childBlock?_eq s (lines_ne_nil s _ m), ih h.2]
    rfl

end

/-- **First and last lines are there.** Wherever the layout of a tree takes the first or the last
line of a block, the block has one: the partial layout is defined, and gives the lines of the
tree. -/
theorem lines?_eq (m : Markup) (depth : Int) : m.lines? s depth = some (m.lines s depth) := by
  -- The blocks of the parts are there at every depth, and `lines_ne_nil` gives each of them a line.
  induction m using Markup.induct generalizing depth with
  | literal | raw | text => rfl
  | array items ih =>
    rw [lines?, lines]
    split
    · rfl
    · rw [itemBlocks?_eq (depth + 1) ih, Option.bind_eq_bind, Option.bind_some]
      refine bracketBlocks?_eq s depth ?_ _ _ _ _
      rw [itemBlocks_eq_map, List.forall_mem_map]
      exact fun m _ => lines_ne_nil s _ m
  | object entries ih =>
    rw [lines?, lines]
    split
    · rfl
    · rw [entryBlocks?_eq (depth + 1) ih, Option.bind_eq_bind, Option.bind_some]
      refine bracketBlocks?_eq s depth ?_ _ _ _ _
      rw [entryBlocks_eq_map, List.forall_mem_map]
      exact fun e _ => prependToFirst_ne_nil (lines_ne_nil s _ e.2) _
  | element tag attributes children ihAttributes ihChildren =>
    rw [lines?, lines, attributeBlocks?_eq (depth + 2) ihAttributes, Option.bind_eq_bind,
      Option.bind_some, childBlocks?_eq (depth + 1) ihChildren, Option.bind_some]
    refine elementBlock?_eq s depth ?_ _ _ _
    rw [attributeBlocks_eq_map, List.forall_mem_map]
    exact fun a _ => attributeBlock_ne_nil s (lines_ne_nil s _ a.2) _ _
  | fragment children ih =>
    rw [lines?, lines, childBlocks?_eq (depth + 1) ih]
    rfl

/-! ### Brackets -/

/-- The brackets of an array or object. -/
def brackets? : Markup → Option (Char × Char)
  | .array _ => some ('[', ']')
  | .object _ => some ('\x7b', '\x7d')
  | _ => none

end Markup

private theorem bracketBlocks_eq_single_or (openInline closeInline opening closing : Line)
    (blocks : List (List Line)) :
    (∃ l, bracketBlocks s depth openInline closeInline opening closing blocks = [l]) ∨
      ∃ middle, bracketBlocks s depth openInline closeInline opening closing blocks =
        opening :: middle ++ [closing] := by
  unfold bracketBlocks
  dsimp only
  split
  · exact .inl ⟨_, rfl⟩
  · exact .inr ⟨_, rfl⟩

theorem containerBlock_hugging (first last : Line) (middle : List Line) :
    containerBlock s true (first :: middle ++ [last]) =
      ('\x7b' :: first) :: middle ++ [last ++ ['\x7d']] := by
  have hseveral : containerBlock s true (first :: middle ++ [last]) =
      prependToFirst ['\x7b'] (appendToLast ['\x7d'] (first :: middle ++ [last])) := by
    cases middle <;> rfl
  rw [hseveral, appendToLast_concat]
  rfl

namespace Markup

variable {m : Markup} {opening closing : Char}

/-- An array or object stands on one line, or between lines that its brackets have for
themselves. -/
theorem lines_eq_single_or_between (h : m.brackets? = some (opening, closing)) :
    (∃ l, m.lines s depth = [l]) ∨
      ∃ middle, m.lines s depth = [opening] :: middle ++ [[closing]] := by
  cases m with
  | literal | raw | text | element | fragment => cases h
  | array items =>
    cases h
    rw [lines]
    split
    · exact .inl ⟨_, rfl⟩
    · exact bracketBlocks_eq_single_or s depth _ _ _ _ _
  | object entries =>
    cases h
    rw [lines]
    split
    · exact .inl ⟨_, rfl⟩
    · exact bracketBlocks_eq_single_or s depth _ _ _ _ _

theorem hugsContainer_of_brackets? (h : m.brackets? = some (opening, closing)) :
    m.hugsContainer = true := by
  cases m with
  | array | object => rfl
  | literal | raw | text | element | fragment => cases h

theorem plainAttribute?_of_brackets? (h : m.brackets? = some (opening, closing)) :
    m.plainAttribute? = none := by
  cases m with
  | array | object => rfl
  | literal | raw | text | element | fragment => cases h

/-- The lines of a tree whose tags and integers have texts, under settings that are integers. -/
theorem linesWith_eq (htags : m.hasTextTags = true) (hshow : m.isShowable = true)
    (indent width depth : Int) : m.linesWith (.int indent) (.int width) depth =
      .ok (m.lines ⟨indent.toNat, .columns width⟩ depth) :=
  layout_eq _ htags hshow indent width

/-- **No block is empty or ragged.** Take a tree whose tags are texts, whose integers can be written
and whose names are single lines, and lay it out under any width of an indentation level, any print
width and at any depth. Its block has a line, none of its lines has a newline, and every first and
last line that the layout takes is there. If the tree is an array or object on several lines, its
brackets have the first and the last of them for themselves; in a container they share these lines
with the braces alone, and as an attribute also with the name and the equals sign before them. -/
theorem linesWith_edges (htags : m.hasTextTags = true) (hshow : m.isShowable = true)
    (hnames : m.LineNamed) (indent width depth : Int) :
    ∃ block, m.linesWith (.int indent) (.int width) depth = .ok block ∧
      m.lines? ⟨indent.toNat, .columns width⟩ depth = some block ∧
      block ≠ [] ∧ (∀ l ∈ block, '\n' ∉ l) ∧
      ∀ opening closing, m.brackets? = some (opening, closing) → 1 < block.length →
        ∃ middle, block = [opening] :: middle ++ [[closing]] ∧
          containerBlock ⟨indent.toNat, .columns width⟩ m.hugsContainer block =
            ['\x7b', opening] :: middle ++ [[closing, '\x7d']] ∧
          ∀ name, attributeBlock ⟨indent.toNat, .columns width⟩ name m block =
            (name ++ ['=', '\x7b', opening]) :: middle ++ [[closing, '\x7d']] := by
  refine ⟨_, linesWith_eq htags hshow indent width depth, lines?_eq _ m depth, lines_ne_nil _ _ m,
    hnames.newline_not_mem_lines _ _, ?_⟩
  intro opening closing hbrackets hseveral
  rcases lines_eq_single_or_between ⟨indent.toNat, .columns width⟩ depth hbrackets with
    ⟨l, hline⟩ | ⟨middle, hlines⟩
  · rw [hline] at hseveral
    exact absurd hseveral (Nat.lt_irrefl 1)
  · have hcontainer : containerBlock ⟨indent.toNat, .columns width⟩ m.hugsContainer
        ([opening] :: middle ++ [[closing]]) =
          ['\x7b', opening] :: middle ++ [[closing, '\x7d']] := by
      rw [hugsContainer_of_brackets? hbrackets]
      exact containerBlock_hugging _ [opening] [closing] middle
    rw [hlines]
    refine ⟨middle, rfl, hcontainer, fun name => ?_⟩
    rw [attributeBlock, plainAttribute?_of_brackets? hbrackets]
    dsimp only
    rw [hcontainer, List.cons_append, prependToFirst, List.append_assoc]
    rfl

/-- An integer that cannot be written has no lines at all. -/
theorem not_linesWith_edges_oversized : oversized.hasTextTags = true ∧ oversized.LineNamed ∧
    ¬ ∃ block, oversized.linesWith (.int 2) (.int 80) 0 = .ok block ∧ block ≠ [] := by
  refine ⟨rfl, .literal _, ?_⟩
  rintro ⟨block, hblock, -⟩
  rw [linesWith, layout_eq_tooManyDigits _ rfl isShowable_oversized] at hblock
  cases hblock

/-- A list of a handler on two lines and an object. -/
def handlerList : Markup :=
  .array [.raw "() => \x7b\n\x7d", .object [("a-b", .literal (.int 1))]]

private theorem lineNamed_handlerList : handlerList.LineNamed := by
  have hobject : LineNamed (.object [("a-b", .literal (.int 1))]) :=
    .object (by decide) (List.forall_mem_singleton.mpr (.literal _))
  exact .array (List.forall_mem_cons.mpr ⟨.raw _, List.forall_mem_singleton.mpr hobject⟩)

theorem linesWith_edges_handlerList :
    handlerList.hasTextTags = true ∧ handlerList.isShowable = true ∧ handlerList.LineNamed ∧
      ∃ middle, handlerList.linesWith (.int 2) (.int 40) 1 = .ok (['['] :: middle ++ [[']']]) ∧
        containerBlock ⟨2, .columns 40⟩ true (['['] :: middle ++ [[']']]) =
          "\x7b[".toList :: middle ++ ["]\x7d".toList] ∧
        attributeBlock ⟨2, .columns 40⟩ "on".toList handlerList (['['] :: middle ++ [[']']]) =
          "on=\x7b[".toList :: middle ++ ["]\x7d".toList] := by
  have htags : handlerList.hasTextTags = true := by decide
  have hshow : handlerList.isShowable = true := by decide +kernel
  refine ⟨htags, hshow, lineNamed_handlerList, ?_⟩
  obtain ⟨block, hblock, -, -, -, hedges⟩ :=
    linesWith_edges htags hshow lineNamed_handlerList 2 40 1
  have hlines : handlerList.linesWith (.int 2) (.int 40) 1 =
      .ok (["[", "  () => \x7b", "  \x7d,", "  \x7b \"a-b\": 1 \x7d", "]"].map String.toList) := by
    decide +kernel
  have hseveral : 1 < block.length := by
    rw [← Except.ok.inj (hlines.symm.trans hblock)]
    decide
  obtain ⟨middle, rfl, hcontainer, hattribute⟩ := hedges '[' ']' rfl hseveral
  exact ⟨middle, hblock, hcontainer, hattribute "on".toList⟩

end Markup

end PageMarkup
