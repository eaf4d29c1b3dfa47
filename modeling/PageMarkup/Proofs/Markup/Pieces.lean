import PageMarkup.Proofs.Markup.Spacing

/-!
# The pieces of markup

What a tree is written with, apart from all layout: its brackets, commas, names and literals in
order. Every layout of a tree, at any depth, indentation and print width, spaces out these pieces
and nothing else.

## Main definitions

* `Markup.pieces` : the pieces of a tree.

## Main results

* `Markup.induct` : induction over trees, with one hypothesis for all parts of a tree.
* `Markup.spacedBlock_lines` : the lines of a tree space out its pieces.
* `Markup.spaced_print` : so does its text.
-/

namespace PageMarkup

open Text (Line)

/-! ### Induction over trees -/

section Induct

variable {P : Markup → Prop} (literal : ∀ v, P (.literal v)) (raw : ∀ code, P (.raw code))
  (text : ∀ t, P (.text t)) (array : ∀ items, (∀ m ∈ items, P m) → P (.array items))
  (object : ∀ entries, (∀ e ∈ entries, P e.2) → P (.object entries))
  (element : ∀ tag attributes children, (∀ a ∈ attributes, P a.2) → (∀ m ∈ children, P m) →
    P (.element tag attributes children))
  (fragment : ∀ children, (∀ m ∈ children, P m) → P (.fragment children))

include literal raw text array object element fragment

set_option linter.unusedSectionVars false

mutual

/-- Induction over trees: what holds of a tree whenever it holds of its items, entries, attribute
values and children holds of all trees. -/
theorem Markup.induct : ∀ m : Markup, P m
  | .literal v => literal v
  | .raw code => raw code
  | .text t => text t
  | .array items => array items (Markup.induct_items items)
  | .object entries => object entries (Markup.induct_entries entries)
  | .element tag attributes children =>
    element tag attributes children (Markup.induct_attributes attributes)
      (Markup.induct_items children)
  | .fragment children => fragment children (Markup.induct_items children)
termination_by structural m => m

private theorem Markup.induct_items : ∀ items : List Markup, ∀ m ∈ items, P m
  | [] => fun _ hm => nomatch hm
  | x :: xs => List.forall_mem_cons.mpr ⟨Markup.induct x, Markup.induct_items xs⟩
termination_by structural items => items

private theorem Markup.induct_entries : ∀ entries : List (String × Markup), ∀ e ∈ entries, P e.2
  | [] => fun _ he => nomatch he
  | (_, x) :: xs => List.forall_mem_cons.mpr ⟨Markup.induct x, Markup.induct_entries xs⟩
termination_by structural entries => entries

private theorem Markup.induct_attributes :
    ∀ attributes : List (Value × Markup), ∀ a ∈ attributes, P a.2
  | [] => fun _ ha => nomatch ha
  | (_, x) :: xs => List.forall_mem_cons.mpr ⟨Markup.induct x, Markup.induct_attributes xs⟩
termination_by structural attributes => attributes

end

end Induct

/-! ### Pieces -/

/-- The pieces of the value of an attribute from its own. A plain text stands between quotes as it
is, and every other value between braces. -/
def attributeValuePieces (value : Markup) (ps : List Piece) : List Piece :=
  match value.plainAttribute? with
  | some t => [.solid (Text.quoteMark :: t ++ [Text.quoteMark])]
  | none => bracePieces ps

/-- The pieces of an attribute from those of its value. -/
def attributePiece (name : Line) (value : Markup) (ps : List Piece) : List Piece :=
  .solid name :: .solid ['='] :: attributeValuePieces value ps

/-- The pieces of a child from its own. A plain text stands for itself, and every other child that
is no markup stands between braces. -/
def childPiece (child : Markup) (ps : List Piece) : List Piece :=
  match child with
  | .text t =>
    if isPlainContent t.toList then [.solid t.toList]
    else bracePieces [.solid (Text.quote t.toList)]
  | .element _ _ _ => ps
  | .fragment _ => ps
  | _ => bracePieces ps

/-- The pieces of an element from those of its attributes and children. -/
def elementPieces (tag : Line) (attributes children : List (List Piece)) : List Piece :=
  if children.isEmpty then .solid ('<' :: tag) :: gapPieces attributes ++ [.solid ['/', '>']]
  else .solid ('<' :: tag) :: gapPieces attributes ++ [.solid ['>']] ++ children.flatten ++
    [.solid (closingLine tag)]

mutual

/-- The pieces of a tree. -/
def Markup.pieces : Markup → List Piece
  | .literal v => [.solid v.literalText]
  | .raw code => (Text.splitLines code.toList).map .solid
  | .text t => [.solid (Text.quote t.toList)]
  | .array items => .solid ['['] :: commaPieces (Markup.itemPieces items) ++ [.solid [']']]
  | .object entries =>
    .solid ['\x7b'] :: commaPieces (Markup.entryPieces entries) ++ [.solid ['\x7d']]
  | .element tag attributes children =>
    elementPieces tag.text.toList (Markup.attributePieces attributes) (Markup.childPieces children)
  | .fragment children =>
    .solid ['<', '>'] :: (Markup.childPieces children).flatten ++ [.solid ['<', '/', '>']]
termination_by structural m => m

/-- The pieces of the items of an array. -/
def Markup.itemPieces : List Markup → List (List Piece)
  | [] => []
  | m :: ms => m.pieces :: Markup.itemPieces ms
termination_by structural ms => ms

/-- The pieces of the entries of an object. -/
def Markup.entryPieces : List (String × Markup) → List (List Piece)
  | [] => []
  | (key, m) :: es =>
    (.solid (objectKey key) :: .solid [':'] :: m.pieces) :: Markup.entryPieces es
termination_by structural es => es

/-- The pieces of the attributes of an element. -/
def Markup.attributePieces : List (Value × Markup) → List (List Piece)
  | [] => []
  | (name, m) :: es => attributePiece name.text.toList m m.pieces :: Markup.attributePieces es
termination_by structural es => es

/-- The pieces of the children of an element or fragment. -/
def Markup.childPieces : List Markup → List (List Piece)
  | [] => []
  | m :: ms => childPiece m m.pieces :: Markup.childPieces ms
termination_by structural ms => ms

end

/-! ### Every layout spaces out the pieces -/

variable (s : LayoutStyle)

private theorem spacedBlock_splitLines (ls : List Line) (hne : ls ≠ []) :
    SpacedBlock (ls.map .solid) ls := by
  induction ls with
  | nil => exact absurd rfl hne
  | cons l ls ih =>
    cases ls with
    | nil => exact .line (.single l)
    | cons m ms => exact .cons (.single l) (ih (by simp))

private theorem spacedBlock_attributeBlock (name : Line) (value : Markup) {ps : List Piece}
    {block : List Line} (h : SpacedBlock ps block) :
    SpacedBlock (attributePiece name value ps) (attributeBlock s name value block) := by
  unfold attributePiece attributeValuePieces attributeBlock
  cases value.plainAttribute? with
  | some t =>
    have hquoted : Spaced [.solid (Text.quoteMark :: t ++ [Text.quoteMark])] _ := .single _
    have heq : name ++ '=' :: Text.quoteMark :: t ++ [Text.quoteMark] =
        name ++ (['='] ++ (Text.quoteMark :: t ++ [Text.quoteMark])) := by simp
    simp only
    rw [heq]
    exact .line ((hquoted.solid ['=']).solid name)
  | none =>
    have hfront : Spaced [.solid name, .solid ['=']] (name ++ ['=']) :=
      (Spaced.single ['=']).solid name
    exact (spacedBlock_containerBlock s _ h).prependToFirst hfront

private theorem spacedBlock_childBlock (child : Markup) {ps : List Piece} {block : List Line}
    (h : SpacedBlock ps block) : SpacedBlock (childPiece child ps) (childBlock s child block) := by
  cases child with
  | text t =>
    simp only [childPiece, childBlock, contentLine]
    split
    · exact .line (.single _)
    · exact .line (((Spaced.single _).append (.single ['\x7d'])).solid ['\x7b'])
  | element _ _ _ => exact h
  | fragment _ => exact h
  | literal _ => exact spacedBlock_containerBlock s _ h
  | raw _ => exact spacedBlock_containerBlock s _ h
  | array _ => exact spacedBlock_containerBlock s _ h
  | object _ => exact spacedBlock_containerBlock s _ h

private theorem spacedBlock_elementBlock (depth : Int) (tag : Line)
    {attributeParts childParts : List (List Piece)} {attributes children : List (List Line)}
    (ha : List.Forall₂ SpacedBlock attributeParts attributes)
    (hc : List.Forall₂ SpacedBlock childParts children) (inlineChild : Bool) :
    SpacedBlock (elementPieces tag attributeParts childParts)
      (elementBlock s depth tag attributes children inlineChild) := by
  have hclosing : Spaced [.solid (closingLine tag)] (closingLine tag) := .single _
  unfold elementPieces elementBlock
  cases hc with
  | nil => exact spacedBlock_openingBlock s depth tag (Spaced.blank rfl (.single ['/', '>'])) ha
  | @cons ps b childParts children hb hrest =>
    have hhead := spacedBlock_openingBlock s depth tag (.single ['>']) ha
    have hblock := ((hhead.append_flatten s (.cons hb hrest)).append (.line hclosing))
    simp only [List.isEmpty_cons, Bool.false_eq_true, if_false]
    split
    · rename_i opening content hopening hchildren
      split
      · obtain ⟨rfl, rfl⟩ := List.cons.inj hchildren
        cases hrest
        obtain ⟨_, heq, hone⟩ := hhead.eq_single (by rw [hopening]; rfl)
        rw [hopening] at heq
        obtain ⟨_, heq', hcontent⟩ := hb.eq_single rfl
        cases heq
        cases heq'
        rw [List.flatten_cons, List.flatten_nil, List.append_nil]
        exact .line ((hone.append hcontent).append hclosing)
      · exact hblock
    · exact hblock

namespace Markup

private theorem forall₂_itemBlocks {items : List Markup} (depth : Int)
    (h : ∀ m ∈ items, ∀ depth, SpacedBlock m.pieces (m.lines s depth)) :
    List.Forall₂ SpacedBlock (itemPieces items) (itemBlocks s depth items) := by
  induction items with
  | nil => exact .nil
  | cons m ms ih =>
    rw [List.forall_mem_cons] at h
    exact .cons (h.1 depth) (ih h.2)

private theorem forall₂_entryBlocks {entries : List (String × Markup)} (depth : Int)
    (h : ∀ e ∈ entries, ∀ depth, SpacedBlock e.2.pieces (e.2.lines s depth)) :
    List.Forall₂ SpacedBlock (entryPieces entries) (entryBlocks s depth entries) := by
  induction entries with
  | nil => exact .nil
  | cons e es ih =>
    rw [List.forall_mem_cons] at h
    have hkey : Spaced [.solid (objectKey e.1), .solid [':']] (objectKey e.1 ++ [':', ' ']) :=
      ((Spaced.nil.blank (c := ' ') rfl).solid [':']).solid (objectKey e.1)
    exact .cons ((h.1 depth).prependToFirst hkey) (ih h.2)

private theorem forall₂_attributeBlocks {attributes : List (Value × Markup)} (depth : Int)
    (h : ∀ a ∈ attributes, ∀ depth, SpacedBlock a.2.pieces (a.2.lines s depth)) :
    List.Forall₂ SpacedBlock (attributePieces attributes) (attributeBlocks s depth attributes) := by
  induction attributes with
  | nil => exact .nil
  | cons a as ih =>
    rw [List.forall_mem_cons] at h
    exact .cons (spacedBlock_attributeBlock s _ _ (h.1 depth)) (ih h.2)

private theorem forall₂_childBlocks {children : List Markup} (depth : Int)
    (h : ∀ m ∈ children, ∀ depth, SpacedBlock m.pieces (m.lines s depth)) :
    List.Forall₂ SpacedBlock (childPieces children) (childBlocks s depth children) := by
  induction children with
  | nil => exact .nil
  | cons m ms ih =>
    rw [List.forall_mem_cons] at h
    exact .cons (spacedBlock_childBlock s m (h.1 _)) (ih h.2)

/-- **Layout spaces out pieces.** The lines of a tree at any depth and in any style hold its pieces
in order, with nothing but spacing between them. -/
theorem spacedBlock_lines (m : Markup) (depth : Int) : SpacedBlock m.pieces (m.lines s depth) := by
  induction m using Markup.induct generalizing depth with
  | literal v => exact .line (.single _)
  | raw code => exact spacedBlock_splitLines _ (Text.splitLines_ne_nil _)
  | text t => exact .line (.single _)
  | array items ih =>
    cases items with
    | nil => exact .line ((Spaced.single [']']).solid ['['])
    | cons m ms =>
      exact spacedBlock_bracketBlocks s depth (.single ['[']) (.single [']'])
        (forall₂_itemBlocks s _ ih) (by simp [itemPieces])
  | object entries ih =>
    cases entries with
    | nil => exact .line ((Spaced.single ['\x7d']).solid ['\x7b'])
    | cons e es =>
      exact spacedBlock_bracketBlocks s depth ((Spaced.nil.blank (c := ' ') rfl).solid ['\x7b'])
        ((Spaced.single ['\x7d']).blank rfl) (forall₂_entryBlocks s _ ih) (by simp [entryPieces])
  | element tag attributes children ihAttributes ihChildren =>
    exact spacedBlock_elementBlock s depth _ (forall₂_attributeBlocks s _ ihAttributes)
      (forall₂_childBlocks s _ ihChildren) _
  | fragment children ih =>
    cases children with
    | nil => exact .line ((Spaced.single ['<', '/', '>']).solid ['<', '>'])
    | cons m ms =>
      have hblocks := forall₂_childBlocks s (depth + 1) ih
      exact ((SpacedBlock.line (.single ['<', '>'])).append_flatten s hblocks).append
        (.line (.single ['<', '/', '>']))

/-- The text of a tree in any style holds its pieces in order, with nothing but spacing between
them. -/
theorem spaced_print (m : Markup) (depth : Int) : Spaced m.pieces (m.print s depth) :=
  ((spacedBlock_lines s m depth).map_padLine _).joinLines

end Markup

end PageMarkup
