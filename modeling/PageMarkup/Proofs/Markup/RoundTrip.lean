import PageMarkup.Proofs.Markup.ReadBackTags
import PageMarkup.Proofs.Markup.Tags

/-!
# Written markup reads back

Whatever layout a tree is written in, one and the same reader finds the tree again, with its texts
as literals. Every layout spaces out the same pieces, and the reader skips all spacing between them,
so that no choice of the layout matters.

## Main definitions

* `Markup.Readable` : the trees that are read back.

## Main results

* `Markup.Readable.readsBack` : a spaced out tree at the start of a text is read back.
* `readMarkup_printWith` : the text of a tree is read back, whatever the settings and the depth.
-/

namespace PageMarkup

/-- The trees that are read back: literals without a fraction, texts, arrays, objects whose keys are
lines, elements with words for names and at most one child, and fragments of tagged trees. -/
inductive Markup.Readable : Markup → Prop
  | null : Readable (.literal .null)
  | bool (b : Bool) : Readable (.literal (.bool b))
  | int (n : Int) : Readable (.literal (.int n))
  | str (s : String) : Readable (.literal (.str s))
  | text (t : String) : Readable (.text t)
  | array {items : List Markup} (h : ∀ m ∈ items, Readable m) : Readable (.array items)
  | object {entries : List (String × Markup)} (hkeys : ∀ e ∈ entries, '\n' ∉ e.1.toList)
      (h : ∀ e ∈ entries, Readable e.2) : Readable (.object entries)
  | element {tag : String} {attributes : List (Value × Markup)} {children : List Markup}
      (htag : IsWord tag) (hnames : ∀ a ∈ attributes, ∃ name, a.1 = .str name ∧ IsWord name)
      (hvalues : ∀ a ∈ attributes, Readable a.2) (hone : children.length ≤ 1)
      (h : ∀ m ∈ children, Readable m) : Readable (.element (.str tag) attributes children)
  | fragment {children : List Markup} (htagged : ∀ m ∈ children, m.isTagged = true)
      (h : ∀ m ∈ children, Readable m) : Readable (.fragment children)

/-- **Trees read back.** A spaced out tree at the start of a text is read as the tree with its texts
as literals, however it is spaced out. -/
theorem Markup.Readable.readsBack {m : Markup} (h : m.Readable) : m.ReadsBack := by
  induction h with
  | null => exact readsBack_word ⟨by decide, List.all_eq_true.mp rfl, rfl⟩
  | bool b =>
    cases b with
    | false => exact readsBack_word ⟨by decide, List.all_eq_true.mp rfl, rfl⟩
    | true => exact readsBack_word ⟨by decide, List.all_eq_true.mp rfl, rfl⟩
  | int n => exact readsBack_word (isWordFor_int n)
  | str s => exact readsBack_quote rfl rfl
  | text t => exact readsBack_quote rfl rfl
  | array _ ih => exact readsBack_array ih
  | object hkeys _ ih => exact readsBack_object hkeys ih
  | element htag hnames _ hone _ ihValues ihChildren =>
    exact readsBack_element htag hnames ihValues hone ihChildren
  | fragment htagged _ ih => exact readsBack_fragment ih htagged

theorem Markup.Readable.hasTextTags {m : Markup} (h : m.Readable) : m.hasTextTags = true := by
  induction h with
  | null => rfl
  | bool _ => rfl
  | int _ => rfl
  | str _ => rfl
  | text _ => rfl
  | array _ ih => exact Markup.allTextTags_iff.mpr ih
  | object _ _ ih => exact Markup.entriesTextTags_iff.mpr (List.forall_mem_map.mpr ih)
  | element _ _ _ _ _ ihValues ihChildren =>
    have hattributes := Markup.attributesTextTags_iff.mpr (List.forall_mem_map.mpr ihValues)
    simp [Markup.hasTextTags, Value.isStr, hattributes, Markup.allTextTags_iff.mpr ihChildren]
  | fragment _ _ ih => exact Markup.allTextTags_iff.mpr ih

theorem readMarkup_print {m : Markup} (h : m.Readable) (s : LayoutStyle) (depth : Int) :
    readMarkup (m.print s depth) = some m.textsAsLiterals := by
  have hdelimited : Delimited [] := fun _ hc => nomatch hc
  have hread := h.readsBack.reads (Markup.spaced_print s m depth) (Nat.le_succ _) hdelimited
  rw [List.append_nil] at hread
  rw [readMarkup, hread]
  rfl

/-- **The printer round trip.** Under every width of an indentation level, every print width and at
every depth a tree whose integers can be written has a text, and one and the same reader finds the
tree in that text, with its texts as literals. -/
theorem readMarkup_printWith {m : Markup} (h : m.Readable) (hshow : m.isShowable = true)
    (indent depth : Nat) (width : Int) :
    ∃ text, m.printWith (.int indent) (.int width) depth = .ok text ∧
      readMarkup text = some m.textsAsLiterals := by
  exact ⟨_, Markup.printWith_eq h.hasTextTags hshow indent width depth, readMarkup_print h _ _⟩

/-- An integer that cannot be written has no text to read it from. -/
theorem not_readMarkup_printWith_oversized : Markup.oversized.Readable ∧
    ¬ ∃ text, Markup.oversized.printWith (.int 2) (.int 80) 0 = .ok text ∧
      readMarkup text = some Markup.oversized.textsAsLiterals := by
  refine ⟨.int _, ?_⟩
  rintro ⟨text, htext, -⟩
  rw [Markup.printWith, Markup.layout_eq_tooManyDigits _ rfl Markup.isShowable_oversized] at htext
  cases htext

/-- An element whose attributes hold a plain text, a text that seems to close the element, and an
array, and whose content cannot stand between tags as it is. -/
def cardMarkup : Markup :=
  .element (.str "Ui.Card") [
    (.str "title", .literal (.str "a = 1")),
    (.str "data-note", .literal (.str "\x22</Ui.Card>\x22")),
    (.str "items", .array [.literal (.int (-12)), .literal .null])] [.text " {x} "]

theorem readMarkup_printWith_cardMarkup : cardMarkup.Readable ∧ cardMarkup.isShowable = true ∧
    ∃ text, cardMarkup.printWith (.int 2) (.int 30) 1 = .ok text ∧
      readMarkup text = some cardMarkup.textsAsLiterals := by
  have hitems : ∀ m ∈ [Markup.literal (.int (-12)), .literal .null], m.Readable := by
    simp only [List.forall_mem_cons]
    exact ⟨.int _, .null, by simp⟩
  have hcard : cardMarkup.Readable := by
    refine .element (by decide) ?_ ?_ (by decide) ?_
    · simp only [List.forall_mem_cons]
      exact ⟨⟨_, rfl, by decide⟩, ⟨_, rfl, by decide⟩, ⟨_, rfl, by decide⟩, by simp⟩
    · simp only [List.forall_mem_cons]
      exact ⟨.str _, .str _, .array hitems, by simp⟩
    · simp only [List.forall_mem_cons]
      exact ⟨.text _, by simp⟩
  have hshow : cardMarkup.isShowable = true := by decide +kernel
  exact ⟨hcard, hshow, readMarkup_printWith hcard hshow 2 1 30⟩

end PageMarkup
