import PageMarkup.Content.Misuse
import PageMarkup.Identifier.Script
import PageMarkup.Markup.Literal
import PageMarkup.Text.Lines

/-!
# Layout of markup

Markup is laid out as a block of lines. An element, array or object stands on one line if all of its
parts do and the line fits into the print width; otherwise every part starts on a line of its own,
one level deeper. The lines of a block are relative to its own first column: the depth is only asked
whether a line fits, and indentation is added from the inside outwards.

## Main definitions

* `LayoutStyle` : the width of one level of indentation and the print width.
* `Markup.lines` : the lines of a tree at a depth.
* `Markup.layout` : the lines under settings that may be misused.
-/

namespace PageMarkup

open Text (Line)

/-- The greatest number of columns of a line: a number, or one of the two extremes. -/
inductive PrintWidth where
  | unlimited
  | columns (n : Int)
  | nothing
  deriving DecidableEq

/-- Whether a line that ends after so many columns fits. -/
def PrintWidth.admits (w : PrintWidth) (n : Int) : Bool :=
  match w with
  | .unlimited => true
  | .columns m => n ≤ m
  | .nothing => false

/-- The width of one level of indentation and the print width. -/
structure LayoutStyle where
  indent : Nat
  width : PrintWidth

namespace LayoutStyle

/-- Whether a line behind the indentation of a depth fits. -/
def fits (s : LayoutStyle) (depth : Int) (l : Line) : Bool :=
  s.width.admits (depth * s.indent + l.length)

def inset (s : LayoutStyle) (block : List Line) : List Line :=
  block.map (Text.padLine s.indent)

end LayoutStyle

/-- A text put before the first line of a block. -/
def prependToFirst (front : Line) : List Line → List Line
  | [] => []
  | l :: ls => (front ++ l) :: ls

/-- A text put behind the last line of a block. -/
def appendToLast (back : Line) : List Line → List Line
  | [] => []
  | [l] => [l ++ back]
  | l :: m :: ls => l :: appendToLast back (m :: ls)

/-- Whether a block is a single line. -/
def isSingle (block : List Line) : Bool :=
  block.length == 1

/-- Blocks one level deeper, all but the last with a comma behind their last line. -/
def commaBlocks (s : LayoutStyle) : List (List Line) → List Line
  | [] => []
  | [b] => s.inset b
  | b :: c :: bs => s.inset (appendToLast [','] b) ++ commaBlocks s (c :: bs)

/-- The first lines of blocks, separated by commas. -/
def commaLine : List (List Line) → Line
  | [] => []
  | [b] => b.headD []
  | b :: c :: bs => b.headD [] ++ ',' :: ' ' :: commaLine (c :: bs)

/-- Blocks between brackets: on one line between `openInline` and `closeInline` if they are single
lines and it fits, and otherwise between lines of their own for the brackets. -/
def bracketBlocks (s : LayoutStyle) (depth : Int) (openInline closeInline opening closing : Line)
    (blocks : List (List Line)) : List Line :=
  let inline := openInline ++ commaLine blocks ++ closeInline
  if blocks.all isSingle && s.fits depth inline then [inline]
  else opening :: commaBlocks s blocks ++ [closing]

/-- The block of an expression in a container of braces. Of a block of several lines the brackets of
a literal stay next to the braces; any other block stands between them, one level deeper. -/
def containerBlock (s : LayoutStyle) (hugs : Bool) (block : List Line) : List Line :=
  match block with
  | [l] => ['\x7b' :: l ++ ['\x7d']]
  | ls =>
    if hugs then prependToFirst ['\x7b'] (appendToLast ['\x7d'] ls)
    else ['\x7b'] :: s.inset ls ++ [['\x7d']]

/-- Whether the brackets of an expression stay next to the braces of its container. -/
def Markup.hugsContainer : Markup → Bool
  | .array _ => true
  | .object _ => true
  | _ => false

/-- Whether an element may keep this only child on its own line. -/
def Markup.isInlineChild : Markup → Bool
  | .text _ => true
  | .literal _ => true
  | _ => false

/-- The opening tag of an element on one line, without its end. -/
def openingLine (tag : Line) (attributes : List (List Line)) : Line :=
  '<' :: tag ++ attributes.flatMap fun a => ' ' :: a.headD []

/-- The opening tag of an element with its attributes on lines of their own, without its end. -/
def stackedOpening (s : LayoutStyle) (tag : Line) (attributes : List (List Line)) : List Line :=
  ('<' :: tag) :: attributes.flatMap s.inset

/-- The opening tag with the given end: on one line if its attributes are and it fits, and stacked
otherwise. -/
def openingBlock (s : LayoutStyle) (depth : Int) (tag ending lastLine : Line)
    (attributes : List (List Line)) : List Line :=
  let opening := openingLine tag attributes ++ ending
  if attributes.all isSingle && s.fits depth opening then [opening]
  else stackedOpening s tag attributes ++ [lastLine]

/-- The closing tag of an element. -/
def closingLine (tag : Line) : Line :=
  '<' :: '/' :: tag ++ ['>']

/-- The block of an element from those of its attributes and children. Without children the tag
closes itself; a single child of one line that `inlineChild` allows joins a one-line opening tag if
all of it fits. -/
def elementBlock (s : LayoutStyle) (depth : Int) (tag : Line)
    (attributes children : List (List Line))
    (inlineChild : Bool) : List Line :=
  if children.isEmpty then openingBlock s depth tag [' ', '/', '>'] ['/', '>'] attributes
  else
    let head := openingBlock s depth tag ['>'] ['>'] attributes
    let block := head ++ children.flatMap s.inset ++ [closingLine tag]
    match head, children with
    | [opening], [[content]] =>
      let inline := opening ++ content ++ closingLine tag
      if inlineChild && s.fits depth inline then [inline] else block
    | _, _ => block

/-- The block of a fragment from those of its children. -/
def fragmentBlock (s : LayoutStyle) (children : List (List Line)) : List Line :=
  if children.isEmpty then ["<></>".toList]
  else "<>".toList :: children.flatMap s.inset ++ ["</>".toList]

/-- The key of an object entry: bare if it may be, and quoted otherwise. -/
def objectKey (key : String) : Line :=
  if Identifier.isBareName key then key.toList else Text.quote key.toList

/-- A text as the content of an element: as it is, or as a quoted text in a container. -/
def contentLine (content : String) : Line :=
  if isPlainContent content.toList then content.toList
  else '\x7b' :: Text.quote content.toList ++ ['\x7d']

/-- The text that may stand between the quotes of an attribute as it is. -/
def Markup.plainAttribute? : Markup → Option Line
  | .literal (.str t) => if isPlainAttribute t.toList then some t.toList else none
  | _ => none

/-- The block of an attribute from the block of its value. -/
def attributeBlock (s : LayoutStyle) (name : Line) (value : Markup) (block : List Line) :
    List Line :=
  match value.plainAttribute? with
  | some t => [name ++ '=' :: Text.quoteMark :: t ++ [Text.quoteMark]]
  | none => prependToFirst (name ++ ['=']) (containerBlock s value.hugsContainer block)

/-- The block of a child from its own block. -/
def childBlock (s : LayoutStyle) (child : Markup) (block : List Line) : List Line :=
  match child with
  | .text t => [contentLine t]
  | .element _ _ _ => block
  | .fragment _ => block
  | child => containerBlock s child.hugsContainer block

/-- The depth at which a child is laid out below the depth of the children: an expression in a
container stands one level deeper than markup. -/
def Markup.childDepth (child : Markup) (depth : Int) : Int :=
  if child.isTagged then depth else depth + 1

mutual

/-- The lines of a tree at a depth. -/
def Markup.lines (s : LayoutStyle) (depth : Int) : Markup → List Line
  | .literal v => [v.literalText]
  | .raw code => Text.splitLines code.toList
  | .text t => [Text.quote t.toList]
  | .array items =>
    if items.isEmpty then [['[', ']']]
    else bracketBlocks s depth ['['] [']'] ['['] [']'] (Markup.itemBlocks s (depth + 1) items)
  | .object entries =>
    if entries.isEmpty then [['\x7b', '\x7d']]
    else bracketBlocks s depth ['\x7b', ' '] [' ', '\x7d'] ['\x7b'] ['\x7d']
      (Markup.entryBlocks s (depth + 1) entries)
  | .element tag attributes children =>
    elementBlock s depth tag.text.toList (Markup.attributeBlocks s (depth + 2) attributes)
      (Markup.childBlocks s (depth + 1) children)
      (children.head?.any Markup.isInlineChild)
  | .fragment children => fragmentBlock s (Markup.childBlocks s (depth + 1) children)
termination_by structural m => m

/-- The blocks of the items of an array. -/
def Markup.itemBlocks (s : LayoutStyle) (depth : Int) : List Markup → List (List Line)
  | [] => []
  | m :: ms => m.lines s depth :: Markup.itemBlocks s depth ms
termination_by structural ms => ms

/-- The blocks of the entries of an object, each with its key before its first line. -/
def Markup.entryBlocks (s : LayoutStyle) (depth : Int) :
    List (String × Markup) → List (List Line)
  | [] => []
  | (key, m) :: es =>
    prependToFirst (objectKey key ++ [':', ' ']) (m.lines s depth) :: Markup.entryBlocks s depth es
termination_by structural es => es

/-- The blocks of the attributes of an element. -/
def Markup.attributeBlocks (s : LayoutStyle) (depth : Int) :
    List (Value × Markup) → List (List Line)
  | [] => []
  | (name, m) :: es =>
    attributeBlock s name.text.toList m (m.lines s depth) :: Markup.attributeBlocks s depth es
termination_by structural es => es

/-- The blocks of the children of an element or fragment. -/
def Markup.childBlocks (s : LayoutStyle) (depth : Int) : List Markup → List (List Line)
  | [] => []
  | m :: ms => childBlock s m (m.lines s (m.childDepth depth)) :: Markup.childBlocks s depth ms
termination_by structural ms => ms

end

/-- The text of a tree indented to a depth. -/
def Markup.print (s : LayoutStyle) (depth : Int) (m : Markup) : List Char :=
  Text.joinLines ((m.lines s depth).map (Text.padLine (s.indent * depth.toNat)))

mutual

/-- Whether every tag in a tree is a text. -/
def Markup.hasTextTags : Markup → Bool
  | .array items => Markup.allTextTags items
  | .object entries => Markup.entriesTextTags entries
  | .element tag attributes children =>
    tag.isStr && Markup.attributesTextTags attributes && Markup.allTextTags children
  | .fragment children => Markup.allTextTags children
  | _ => true
termination_by structural m => m

/-- Whether every tag in sibling trees is a text. -/
def Markup.allTextTags : List Markup → Bool
  | [] => true
  | m :: ms => m.hasTextTags && Markup.allTextTags ms
termination_by structural ms => ms

/-- Whether every tag in the values of an object is a text. -/
def Markup.entriesTextTags : List (String × Markup) → Bool
  | [] => true
  | (_, m) :: es => m.hasTextTags && Markup.entriesTextTags es
termination_by structural es => es

/-- Whether every tag in the values of attributes is a text. -/
def Markup.attributesTextTags : List (Value × Markup) → Bool
  | [] => true
  | (_, m) :: es => m.hasTextTags && Markup.attributesTextTags es
termination_by structural es => es

end

/-- The number of spaces that a setting asks for; a negative number asks for none. -/
def Value.spaces : Value → Except Misuse Nat
  | .bool b => .ok b.toNat
  | .int n => .ok n.toNat
  | _ => .error .notNumber

/-- The print width of a setting; only a number is one. -/
def PrintWidth.ofValue? : Value → Option PrintWidth
  | .bool b => some (.columns b.toNat)
  | .int n => some (.columns n)
  | .float x =>
    match Decimal.Binary.ofFloat x with
    | .nan => some .nothing
    | .infinite negative => some (if negative then .nothing else .unlimited)
    | b => (b.floor?).map .columns
  | _ => none

/-- The result of a layout under settings that may be misused. Tags that are no texts are refused,
and integers with too many digits. A print width that is no number is refused exactly where the
layout depends on the width. -/
def Markup.layout {α : Type} [DecidableEq α] (run : LayoutStyle → α) (m : Markup)
    (indentSize printWidth : Value) : Except Misuse α := do
  let indent ← indentSize.spaces
  if !m.hasTextTags then .error .notText
  else if !m.isShowable then .error .tooManyDigits
  else
    match PrintWidth.ofValue? printWidth with
    | some width => return run ⟨indent, width⟩
    | none =>
      let wide := run ⟨indent, .unlimited⟩
      if wide = run ⟨indent, .nothing⟩ then return wide else .error .notNumber

/-- The lines of a tree under the given settings. -/
def Markup.linesWith (m : Markup) (indentSize printWidth : Value) (depth : Int) :
    Except Misuse (List Line) :=
  m.layout (fun s => m.lines s depth) indentSize printWidth

/-- The text of a tree under the given settings, indented to a depth. -/
def Markup.printWith (m : Markup) (indentSize printWidth : Value) (depth : Int) :
    Except Misuse (List Char) :=
  m.layout (fun s => m.print s depth) indentSize printWidth

end PageMarkup
