import PageMarkup.Proofs.Markup.Inside
import PageMarkup.Proofs.Markup.NeatLeaves
import PageMarkup.Proofs.Markup.Pieces
import PageMarkup.Proofs.Markup.Tags
import PageMarkup.Proofs.Text.Quoted

/-!
# Texts in every place

A text comes to stand in one of a few places of a tree: as the value of an attribute, between tags,
as an item of an array, as a value in an object, or as a key. Each place has its own rule for what
may stand as it is and what has to be quoted, and each has its own way to be read. Whatever the text
is, what is written for it stands in one line and is read as the text.

## Main definitions

* `readAttributeText`, `readContentText`, `readLiteral` : what is written in the places, read.
* `TextPlace`, `TextPlace.written`, `TextPlace.read?` : the places.
* `Markup.HasText` : trees with a text in a place.

## Main results

* `TextPlace.read?_written` : what is written is read as the text.
* `TextPlace.isLaidOutAs_written` : the layout writes this and nothing else.
* `Markup.HasText.read_from_print` : texts in the text of a tree.
-/

namespace PageMarkup

open Text (Line)

/-! ### Readers -/

/-- None of some characters occurs. -/
def LacksAll (marks w : Line) : Prop :=
  ∀ c ∈ marks, c ∉ w

instance (marks w : Line) : Decidable (LacksAll marks w) :=
  List.decidableBAll (· ∉ w) marks

/-- The text of a quoted literal with nothing behind it. -/
def readLiteral (w : Line) : Option Line :=
  match Text.readQuoted w with
  | some (t, []) => some t
  | _ => none

/-- The text of a quoted literal between braces. -/
def readBraced : Line → Option Line
  | '\x7b' :: rest => if rest.getLast? = some '\x7d' then readLiteral rest.dropLast else none
  | _ => none

/-- The text of an attribute value: what stands between double quotes, as it is, if it has no double
quote, ampersand or line end, or a literal between braces. -/
def readAttributeText : Line → Option Line
  | '\x22' :: rest =>
    if rest.getLast? = some '\x22' ∧ LacksAll ['\x22', '&', '\r', '\n'] rest.dropLast then
      some rest.dropLast
    else none
  | w => readBraced w

/-- The text between two tags: what stands there, as it is, if it is not empty, has no blanks around
it and no brace, angle bracket, ampersand or line end, or a literal between braces. -/
def readContentText (w : Line) : Option Line :=
  if w.head? = some '\x7b' then readBraced w
  else if w ≠ [] ∧ Text.strip w = w ∧
      LacksAll ['\x7b', '\x7d', '<', '>', '&', '\n', '\r'] w then
    some w
  else none

theorem readLiteral_quote (t : Line) : readLiteral (Text.quote t) = some t := by
  have hquoted := Text.readQuoted_quote t []
  rw [List.append_nil] at hquoted
  rw [readLiteral, hquoted]

theorem readBraced_quote (t : Line) :
    readBraced ('\x7b' :: Text.quote t ++ ['\x7d']) = some t := by
  rw [List.cons_append, readBraced, List.getLast?_concat, if_pos rfl, List.dropLast_concat,
    readLiteral_quote]

/-! ### Places -/

/-- The places for a text: the value of an attribute with some name, a child of an element or
fragment, an item of an array, the value of an entry with some key, and the key of an entry. -/
inductive TextPlace where
  | attributeValue (name : Line)
  | child
  | arrayItem
  | entryValue (key : String)
  | entryKey

namespace TextPlace

/-- What stands before a text in its place. -/
def front : TextPlace → Line
  | attributeValue name => name ++ ['=']
  | entryValue key => objectKey key ++ [':', ' ']
  | child | arrayItem | entryKey => []

/-- What is written for a text in a place; for a key, where it is quoted. -/
def written (t : String) : TextPlace → Line
  | attributeValue _ =>
    if isPlainAttribute t.toList then Text.quoteMark :: t.toList ++ [Text.quoteMark]
    else '\x7b' :: Text.quote t.toList ++ ['\x7d']
  | child => contentLine t
  | arrayItem | entryValue _ | entryKey => Text.quote t.toList

/-- The text that something written in a place stands for. -/
def read? (w : Line) : TextPlace → Option Line
  | attributeValue _ => readAttributeText w
  | child => readContentText w
  | arrayItem | entryValue _ | entryKey => readLiteral w

/-- The block of a text in a place is a single line in every layout: what stands before the text and
the given form of it. A key is no block of its own. -/
def IsLaidOutAs (t : String) (w : Line) : TextPlace → Prop
  | attributeValue name => ∀ s depth,
    attributeBlock s name (.literal (.str t)) (Markup.lines s depth (.literal (.str t))) =
      [name ++ '=' :: w]
  | child => ∀ s depth, childBlock s (.text t) (Markup.lines s depth (.text t)) = [w]
  | arrayItem => ∀ s depth, Markup.lines s depth (.literal (.str t)) = [w]
  | entryValue key => ∀ s depth,
    prependToFirst (objectKey key ++ [':', ' ']) (Markup.lines s depth (.literal (.str t))) =
      [objectKey key ++ [':', ' '] ++ w]
  | entryKey => Identifier.isBareName t = false → objectKey t = w

/-- The layout writes this for a text. -/
theorem isLaidOutAs_written (t : String) (p : TextPlace) : p.IsLaidOutAs t (p.written t) := by
  cases p with
  | attributeValue name =>
    intro s depth
    cases hplain : isPlainAttribute t.toList with
    | true =>
      have hvalue : (Markup.literal (.str t)).plainAttribute? = some t.toList := if_pos hplain
      rw [attributeBlock, hvalue, written, if_pos hplain]
      exact congrArg (fun l => [l]) (List.append_assoc name _ _)
    | false =>
      have hvalue : (Markup.literal (.str t)).plainAttribute? = none :=
        if_neg (Bool.not_eq_true _ ▸ hplain)
      rw [attributeBlock, hvalue, written, if_neg (Bool.not_eq_true _ ▸ hplain)]
      exact congrArg (fun l => [l]) (List.append_assoc name _ _)
  | child | arrayItem | entryValue => exact fun s depth => rfl
  | entryKey =>
    intro hbare
    rw [objectKey, hbare]
    rfl

private theorem lacksAll_of_isPlainAttribute {t : Line} (h : isPlainAttribute t = true) :
    LacksAll ['\x22', '&', '\r', '\n'] t := by
  have hmarks : ['\x22', '&', '\r', '\n'].all isAttributeUnsafe = true := rfl
  simp only [isPlainAttribute, Bool.not_eq_true', List.any_eq_false] at h
  exact fun c hc hmem => h c hmem (List.all_eq_true.mp hmarks c hc)

private theorem lacksAll_of_isPlainContent {t : Line} (h : isPlainContent t = true) :
    LacksAll ['\x7b', '\x7d', '<', '>', '&', '\n', '\r'] t := by
  have hmarks : ['\x7b', '\x7d', '<', '>', '&', '\n', '\r'].all isContentUnsafe = true := rfl
  simp only [isPlainContent, Bool.and_eq_true, Bool.not_eq_true', List.any_eq_false] at h
  exact fun c hc hmem => h.2 c hmem (List.all_eq_true.mp hmarks c hc)

theorem newline_not_mem_written (t : String) (p : TextPlace) : '\n' ∉ p.written t := by
  cases p with
  | attributeValue name =>
    rw [written]
    split
    · rename_i hplain
      have ht := lacksAll_of_isPlainAttribute hplain '\n' (by decide)
      simpa [Text.quoteMark] using ht
    · simpa using (neat_quote t.toList).1
  | child => exact (neat_contentLine t).1
  | arrayItem | entryValue | entryKey => exact (neat_quote t.toList).1

private theorem readContentText_eq {t : Line} (h : isPlainContent t = true) :
    readContentText t = some t := by
  have hsafe := lacksAll_of_isPlainContent h
  simp only [isPlainContent, Bool.and_eq_true, Bool.not_eq_true', List.isEmpty_eq_false_iff,
    beq_iff_eq] at h
  have hbrace : t.head? ≠ some '\x7b' := fun hhead =>
    hsafe '\x7b' (by decide) (List.mem_of_mem_head? hhead)
  rw [readContentText, if_neg hbrace, if_pos ⟨h.1.1, h.1.2.symm, hsafe⟩]

/-- **No text is corrupted in any place.** What is written for a text is read as the text. -/
theorem read?_written (t : String) (p : TextPlace) : p.read? (p.written t) = some t.toList := by
  cases p with
  | attributeValue name =>
    rw [read?, written]
    split
    · rename_i hplain
      have hquoted : (t.toList ++ ['\x22']).getLast? = some '\x22' := List.getLast?_concat
      have hsafe := lacksAll_of_isPlainAttribute hplain
      rw [Text.quoteMark, List.cons_append, readAttributeText, List.dropLast_concat,
        if_pos ⟨hquoted, hsafe⟩]
    · exact readBraced_quote t.toList
  | child =>
    rw [read?, written, contentLine]
    split
    · exact readContentText_eq ‹_›
    · exact readBraced_quote t.toList
  | arrayItem | entryValue | entryKey => exact readLiteral_quote t.toList

end TextPlace

/-! ### Trees -/

namespace Markup

/-- A text stands in a place of a tree or of a part of it. Of the keys of an object only those count
that are quoted. -/
inductive HasText : TextPlace → String → Markup → Prop
  | attributeValue {tag name : Value} {attributes : List (Value × Markup)} {children : List Markup}
      {t : String} (h : (name, .literal (.str t)) ∈ attributes) :
      HasText (.attributeValue name.text.toList) t (.element tag attributes children)
  | child {tag : Value} {attributes : List (Value × Markup)} {children : List Markup} {t : String}
      (h : .text t ∈ children) : HasText .child t (.element tag attributes children)
  | fragmentChild {children : List Markup} {t : String} (h : .text t ∈ children) :
      HasText .child t (.fragment children)
  | arrayItem {items : List Markup} {t : String} (h : .literal (.str t) ∈ items) :
      HasText .arrayItem t (.array items)
  | entryValue {entries : List (String × Markup)} {key t : String}
      (h : (key, .literal (.str t)) ∈ entries) : HasText (.entryValue key) t (.object entries)
  | entryKey {entries : List (String × Markup)} {key : String} {m : Markup}
      (h : (key, m) ∈ entries) (hbare : Identifier.isBareName key = false) :
      HasText .entryKey key (.object entries)
  | inside {p : TextPlace} {t : String} {m part : Markup} (hpart : part ∈ m.directParts)
      (h : HasText p t part) : HasText p t m

variable {p : TextPlace} {t : String} {m root : Markup}

private theorem HasText.isInlineChild_eq_false (h : m.HasText p t) : m.isInlineChild = false := by
  cases m with
  | literal | text =>
    cases h with
    | inside hpart => cases hpart
  | raw | array | object | element | fragment => rfl

private theorem exists_infix_of_inside {block whole : List Line} {l : Line}
    (h : Inside block whole) (hblock : block = [l]) : ∃ k ∈ whole, l <:+: k :=
  h l (hblock ▸ List.mem_singleton_self l)

theorem HasText.exists_infix (h : m.HasText p t) (s : LayoutStyle) (depth : Int) :
    ∃ l ∈ m.lines s depth, p.front ++ p.written t <:+: l := by
  have hlaid := p.isLaidOutAs_written t
  induction h generalizing depth with
  | attributeValue h =>
    rw [TextPlace.front, List.append_assoc]
    exact exists_infix_of_inside (inside_attribute s depth _ _ h) (hlaid s _)
  | child h => exact exists_infix_of_inside (inside_child s depth _ _ h) (hlaid s _)
  | fragmentChild h => exact exists_infix_of_inside (inside_fragment s depth h) (hlaid s _)
  | arrayItem h => exact exists_infix_of_inside (inside_array s depth h) (hlaid s _)
  | entryValue h => exact exists_infix_of_inside (inside_object s depth h) (hlaid s _)
  | @entryKey entries key m h hbare =>
    obtain ⟨l, ls, hlines⟩ := List.exists_cons_of_ne_nil
      (spacedBlock_lines s m (depth + 1)).ne_nil
    have hinside := inside_object s depth h
    rw [hlines, hlaid hbare] at hinside
    obtain ⟨k, hk, hinfix⟩ := hinside _ List.mem_cons_self
    rw [List.append_assoc] at hinfix
    exact ⟨k, hk, (List.prefix_append _ _).isInfix.trans hinfix⟩
  | inside hpart h ih =>
    obtain ⟨depth', hinside⟩ := inside_part s depth hpart h.isInlineChild_eq_false
    obtain ⟨l, hl, hinfix⟩ := ih depth' hlaid
    obtain ⟨k, hk, hlk⟩ := hinside l hl
    exact ⟨k, hk, hinfix.trans hlk⟩

/-- **No text is lost in print.** A text in a place of a tree is laid out on one line in every style
and at every depth, without a newline, and is read from there by the rules of its place. If the tree
has a text, which it has unless an integer beside the text cannot be written, then the text of the
place stands in it as it is laid out. -/
theorem HasText.read_from_print (h : root.HasText p t) (htags : root.hasTextTags = true)
    (indent width depth : Int) :
    ∃ w, p.IsLaidOutAs t w ∧ p.read? w = some t.toList ∧ '\n' ∉ w ∧
      (root.isShowable = true → ∃ text,
        root.printWith (.int indent) (.int width) depth = .ok text ∧ p.front ++ w <:+: text) := by
  obtain ⟨l, hl, hinfix⟩ := h.exists_infix ⟨indent.toNat, .columns width⟩ depth
  refine ⟨p.written t, p.isLaidOutAs_written t, p.read?_written t, p.newline_not_mem_written t,
    fun hshow => ?_⟩
  exact ⟨_, printWith_eq htags hshow indent width depth, hinfix.trans (infix_print _ depth hl)⟩

/-- A note whose title has quotes and a newline, and whose text has a brace. -/
def quotedNote : Markup :=
  .element (.str "Note") [(.str "title", .literal (.str "\x22a\x22\nb"))] [.text "\x7bc"]

theorem read_from_print_quotedNote :
    quotedNote.HasText .child "\x7bc" ∧ quotedNote.hasTextTags = true ∧
      quotedNote.isShowable = true ∧ ∃ w text, TextPlace.child.IsLaidOutAs "\x7bc" w ∧
        TextPlace.child.read? w = some "\x7bc".toList ∧ '\n' ∉ w ∧
        quotedNote.printWith (.int 2) (.int 80) 0 = .ok text ∧
        TextPlace.child.front ++ w <:+: text := by
  have hchild : quotedNote.HasText .child "\x7bc" := .child (List.mem_singleton_self _)
  have hshow : quotedNote.isShowable = true := by decide
  obtain ⟨w, hlaid, hread, hnewline, hprinted⟩ := hchild.read_from_print (by decide) 2 80 0
  obtain ⟨text, htext, hinfix⟩ := hprinted hshow
  exact ⟨hchild, by decide, hshow, w, text, hlaid, hread, hnewline, htext, hinfix⟩

/-- The title stands in braces with its quotes and newline escaped, the text in quotes. -/
example : quotedNote.printWith (.int 2) (.int 80) 0 = .ok
    "<Note title=\x7b\x22\\\x22a\\\x22\\nb\x22\x7d>\x7b\x22\x7bc\x22\x7d</Note>".toList := by
  decide +kernel

end Markup

end PageMarkup
