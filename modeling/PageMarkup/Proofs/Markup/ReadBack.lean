import PageMarkup.Proofs.Decimal.Digits
import PageMarkup.Proofs.Identifier.BareNames
import PageMarkup.Proofs.Markup.Pieces
import PageMarkup.Proofs.Markup.Scanning
import PageMarkup.Proofs.Text.Quoted

/-!
# Expressions read back

A tree reads back if the reader finds it wherever its pieces are spaced out at the start of a text,
with its texts as literals. Literals do, and arrays and objects do whose parts do: what an item or a
value is followed by ends every word in it.

## Main definitions

* `Markup.textsAsLiterals` : a tree with its texts as literals.
* `Markup.ReadsBack` : the trees that the reader finds.

## Main results

* `readsBack_word`, `isWordFor_int`, `readsBack_quote` : literals.
* `Markup.ReadsBack.before_mark` : a tree before a bracket, brace, comma or colon.
* `readsBack_array`, `readsBack_object` : arrays and objects.
-/

namespace PageMarkup

/-! ### Trees that read back -/

mutual

/-- A tree with its texts as literals. -/
def Markup.textsAsLiterals : Markup → Markup
  | .text t => .literal (.str t)
  | .array items => .array (Markup.itemsAsLiterals items)
  | .object entries => .object (Markup.entriesAsLiterals entries)
  | .element tag attributes children =>
    .element tag (Markup.attributesAsLiterals attributes) (Markup.itemsAsLiterals children)
  | .fragment children => .fragment (Markup.itemsAsLiterals children)
  | m => m
termination_by structural m => m

/-- Sibling trees with their texts as literals. -/
def Markup.itemsAsLiterals : List Markup → List Markup
  | [] => []
  | m :: ms => m.textsAsLiterals :: Markup.itemsAsLiterals ms
termination_by structural ms => ms

/-- The entries of an object with their texts as literals. -/
def Markup.entriesAsLiterals : List (String × Markup) → List (String × Markup)
  | [] => []
  | (key, m) :: es => (key, m.textsAsLiterals) :: Markup.entriesAsLiterals es
termination_by structural es => es

/-- The attributes of an element with their texts as literals. -/
def Markup.attributesAsLiterals : List (Value × Markup) → List (Value × Markup)
  | [] => []
  | (name, m) :: es => (name, m.textsAsLiterals) :: Markup.attributesAsLiterals es
termination_by structural es => es

end

/-- The characters that expressions start with. -/
def opensExpression (c : Char) : Bool :=
  c == Text.quoteMark || c == '[' || c == '\x7b' || c == '<' || isWordChar c

/-- A tree starts as expressions do, and wherever it is spaced out at the start of a text it is read
back. The reading leaves off behind the blanks that follow. -/
structure Markup.ReadsBack (m : Markup) : Prop where
  opens : ∃ c w ps, m.pieces = .solid (c :: w) :: ps ∧ opensExpression c = true
  reads : ∀ {n : Nat} {t rest : List Char}, Spaced m.pieces t → t.length ≤ n → Delimited rest →
    readExpression n (skipBlank (t ++ rest)) = some (m.textsAsLiterals, skipBlank rest)

theorem isBlank_of_opensExpression {c : Char} (h : opensExpression c = true) :
    Text.isBlank c = false := by
  simp only [opensExpression, Bool.or_eq_true, beq_iff_eq] at h
  rcases h with (((rfl | rfl) | rfl) | rfl) | h
  · decide
  · decide
  · decide
  · decide
  · exact isBlank_of_isWordChar h

namespace Markup.ReadsBack

variable {m : Markup} {qs : List Piece} {t : List Char}

theorem skipBlank_eq (h : m.ReadsBack) (ht : Spaced (m.pieces ++ qs) t) (rest : List Char) :
    ∃ c u, skipBlank (t ++ rest) = c :: u ∧ opensExpression c = true := by
  obtain ⟨c, w, ps, hm, hc⟩ := h.opens
  rw [hm, List.cons_append] at ht
  obtain ⟨u, -, -, hskip⟩ := ht.skip_solid (isBlank_of_opensExpression hc)
  exact ⟨c, _, hskip rest, hc⟩

/-- A tree before a mark is read, and the reading leaves off at the mark. -/
theorem before_mark (h : m.ReadsBack) {d : Char} (ht : Spaced (m.pieces ++ .solid [d] :: qs) t)
    (hword : isWordChar d = false) (hblank : Text.isBlank d = false) :
    ∃ v, Spaced qs v ∧ v.length < t.length ∧ ∀ {n : Nat}, t.length ≤ n + v.length + 1 → ∀ rest,
      readExpression n (skipBlank (t ++ rest)) = some (m.textsAsLiterals, d :: (v ++ rest)) := by
  obtain ⟨u, v, rfl, hu, hv⟩ := ht.split
  obtain ⟨w, hw, hlen, hskip⟩ := hv.skip_solid hblank
  simp only [List.length_append]
  refine ⟨w, hw, by omega, fun {n} hn rest => ?_⟩
  rw [List.append_assoc, h.reads hu (by omega) (hv.delimited_of_solid hword rest), hskip,
    List.nil_append]

end Markup.ReadsBack

/-! ### Literals -/

/-- A text is a word for a value. -/
def IsWordFor (v : Value) (w : List Char) : Prop :=
  w ≠ [] ∧ (∀ c ∈ w, isWordChar c = true) ∧ wordValue? w = some v

private theorem readExpression_word {w rest : List Char} {v : Value} (n : Nat) (hne : w ≠ [])
    (hw : ∀ c ∈ w, isWordChar c = true) (hv : wordValue? w = some v) (hrest : Delimited rest) :
    readExpression (n + 1) (w ++ rest) = some (.literal v, skipBlank rest) := by
  have hword : readWord (w ++ rest) = some (.literal v, skipBlank rest) := by
    simp [readWord, readRun_append hne hw hrest, hv]
  obtain ⟨c, w, rfl⟩ := List.exists_cons_of_ne_nil hne
  have hc : isWordChar c = true := hw c List.mem_cons_self
  rw [readExpression.eq_def]
  simp only [List.cons_append]
  split
  · rename_i heq
    exact absurd (List.cons.inj heq).1 (ne_of_kind hc (by decide))
  · rename_i heq
    exact absurd (List.cons.inj heq).1 (ne_of_kind hc (by decide))
  · rename_i heq
    exact absurd (List.cons.inj heq).1 (ne_of_kind hc (by decide))
  · rename_i heq
    exact absurd (List.cons.inj heq).1 (ne_of_kind hc (by decide))
  · exact hword

theorem readsBack_word {v : Value} (h : IsWordFor v v.literalText) :
    (Markup.literal v).ReadsBack := by
  obtain ⟨hne, hw, hv⟩ := h
  generalize hl : v.literalText = l at hne hw hv
  obtain ⟨c, w, rfl⟩ := List.exists_cons_of_ne_nil hne
  have hc : isWordChar c = true := hw c List.mem_cons_self
  have hpieces : (Markup.literal v).pieces = [.solid (c :: w)] := by rw [Markup.pieces, hl]
  refine ⟨⟨c, w, [], hpieces, by simp [opensExpression, hc]⟩, fun {n t rest} ht hn hrest => ?_⟩
  rw [hpieces] at ht
  obtain ⟨u, hu, hlen, hskip⟩ := ht.skip_solid (isBlank_of_isWordChar hc)
  obtain ⟨n, rfl⟩ : ∃ k, n = k + 1 := ⟨n - 1, by omega⟩
  rw [hskip, ← List.cons_append,
    readExpression_word n hne hw hv (hu.delimited_append hrest), hu.skipBlank_append]
  rfl

private theorem readText_quote (s : String) (rest : List Char) :
    readText (Text.quote s.toList ++ rest) = some (s, skipBlank rest) := by
  simp [readText, Text.readQuoted_quote]

private theorem readExpression_quote (s : String) (n : Nat) (rest : List Char) :
    readExpression (n + 1) (Text.quote s.toList ++ rest) =
      some (.literal (.str s), skipBlank rest) := by
  have htext := readText_quote s rest
  rw [Text.quote, List.cons_append, List.cons_append] at htext ⊢
  change readText ('\x22' :: _) = _ at htext
  change readExpression (n + 1) ('\x22' :: _) = _
  rw [readExpression, htext]
  rfl

theorem readsBack_quote {m : Markup} {s : String}
    (hpieces : m.pieces = [.solid (Text.quote s.toList)])
    (hm : m.textsAsLiterals = .literal (.str s)) : m.ReadsBack := by
  rw [Text.quote, List.cons_append] at hpieces
  refine ⟨⟨_, _, _, hpieces, rfl⟩, fun {n t rest} ht hn _ => ?_⟩
  rw [hpieces] at ht
  obtain ⟨u, hu, hlen, hskip⟩ := ht.skip_solid (by decide)
  obtain ⟨n, rfl⟩ : ∃ k, n = k + 1 := ⟨n - 1, by omega⟩
  have hquote := readExpression_quote s n (u ++ rest)
  rw [Text.quote, List.cons_append, List.cons_append] at hquote
  rw [hskip, hquote, hu.skipBlank_append, hm]

private theorem isDecimal_of_mem_natDigits {n : Nat} {c : Char} (hc : c ∈ Decimal.natDigits n) :
    Identifier.isDecimal c = true :=
  Decimal.isDigit_of_mem_natDigits hc

private theorem digitsNumber?_natDigits (n : Nat) :
    digitsNumber? (Decimal.natDigits n) = some n := by
  unfold digitsNumber?
  rw [if_pos, Decimal.digitsValue_natDigits]
  simp only [Bool.and_eq_true, List.all_eq_true, Bool.not_eq_true', List.isEmpty_eq_false_iff]
  exact ⟨fun c => isDecimal_of_mem_natDigits, Decimal.natDigits_ne_nil n⟩

/-- A word that starts as none of the three named values is a number, with a sign or without. -/
private theorem wordValue?_digits {w : List Char} {n : Nat} (h : digitsNumber? w = some n) :
    wordValue? w = some (.int n) ∧ wordValue? ('-' :: w) = some (.int (-n)) := by
  have hhead : ∃ c u, w = c :: u ∧ Identifier.isDecimal c = true := by
    unfold digitsNumber? at h
    cases w with
    | nil => cases h
    | cons c u =>
      refine ⟨c, u, rfl, ?_⟩
      cases hc : Identifier.isDecimal c with
      | true => rfl
      | false => simp [hc] at h
  obtain ⟨c, u, rfl, hc⟩ := hhead
  have hn : c ≠ 'n' := ne_of_kind hc (by decide)
  have ht : c ≠ 't' := ne_of_kind hc (by decide)
  have hf : c ≠ 'f' := ne_of_kind hc (by decide)
  constructor
  · rw [wordValue?, if_neg (by simp [hn]), if_neg (by simp [ht]), if_neg (by simp [hf])]
    · rw [h]
      rfl
    · exact fun _ heq => ne_of_kind hc (by decide) (List.cons.inj heq).1
  · simp [wordValue?, h]

/-- The text of an integer is a word for it. -/
theorem isWordFor_int (n : Int) : IsWordFor (.int n) (Value.int n).literalText := by
  have hword : ∀ c ∈ Decimal.natDigits n.natAbs, isWordChar c = true := fun c hc =>
    isWordChar_of_isNameChar (by simp [Identifier.isNameChar, isDecimal_of_mem_natDigits hc])
  obtain ⟨hplain, hminus⟩ := wordValue?_digits (digitsNumber?_natDigits n.natAbs)
  by_cases hn : n < 0
  · have htext : (Value.int n).literalText = '-' :: Decimal.natDigits n.natAbs := by
      simp [Value.literalText, Decimal.intText, hn]
    rw [htext]
    refine ⟨by simp, List.forall_mem_cons.mpr ⟨by decide, hword⟩, ?_⟩
    rw [hminus, show (-(n.natAbs : Int)) = n by omega]
  · have htext : (Value.int n).literalText = Decimal.natDigits n.natAbs := by
      simp [Value.literalText, Decimal.intText, hn]
    rw [htext]
    refine ⟨Nat.toDigits_ne_nil, hword, ?_⟩
    rw [hplain, show (n.natAbs : Int) = n by omega]

/-! ### Parts in order -/

theorem afterMark?_cons (c : Char) (rest : List Char) :
    afterMark? c (c :: rest) = some (skipBlank rest) := by
  simp [afterMark?]

section Steps

variable {n : Nat} {c : Char} {s r : List Char} {m : Markup}

private theorem readItems_comma (hc : c ≠ ']')
    (h : readExpression n (c :: s) = some (m, ',' :: r)) :
    readItems (n + 1) (c :: s) =
      (readItems n (skipBlank r)).map fun q => (m :: q.1, q.2) := by
  rw [readItems]
  · rw [h]
    simp only [Option.bind_eq_bind, Option.bind_some]
    cases readItems n (skipBlank r) <;> rfl
  · exact fun _ heq => hc (List.cons.inj heq).1

private theorem readItems_close (hc : c ≠ ']')
    (h : readExpression n (c :: s) = some (m, ']' :: r)) :
    readItems (n + 1) (c :: s) = some ([m], skipBlank r) := by
  rw [readItems]
  · rw [h]
    rfl
  · exact fun _ heq => hc (List.cons.inj heq).1

variable {key : String} {k : List Char}

private theorem readEntries_comma (hc : c ≠ '\x7d') (hkey : readKey (c :: s) = some (key, ':' :: k))
    (h : readExpression n (skipBlank k) = some (m, ',' :: r)) :
    readEntries (n + 1) (c :: s) =
      (readEntries n (skipBlank r)).map fun q => ((key, m) :: q.1, q.2) := by
  rw [readEntries]
  · rw [hkey]
    simp only [Option.bind_eq_bind, Option.bind_some, afterMark?_cons, h]
    cases readEntries n (skipBlank r) <;> rfl
  · exact fun _ heq => hc (List.cons.inj heq).1

private theorem readEntries_close (hc : c ≠ '\x7d') (hkey : readKey (c :: s) = some (key, ':' :: k))
    (h : readExpression n (skipBlank k) = some (m, '\x7d' :: r)) :
    readEntries (n + 1) (c :: s) = some ([(key, m)], skipBlank r) := by
  rw [readEntries]
  · rw [hkey]
    simp only [Option.bind_eq_bind, Option.bind_some, afterMark?_cons, h]
    rfl
  · exact fun _ heq => hc (List.cons.inj heq).1

end Steps

private theorem readItems_spaced {items : List Markup} (h : ∀ m ∈ items, m.ReadsBack) {n : Nat}
    {t rest : List Char} (ht : Spaced (commaPieces (Markup.itemPieces items) ++ [.solid [']']]) t)
    (hn : t.length ≤ n) :
    readItems n (skipBlank (t ++ rest)) = some (Markup.itemsAsLiterals items, skipBlank rest) := by
  induction items generalizing n t with
  | nil =>
    obtain ⟨u, hu, hlen, hskip⟩ := Spaced.skip_solid ht (by decide)
    obtain ⟨n, rfl⟩ : ∃ k, n = k + 1 := ⟨n - 1, by omega⟩
    rw [hskip, readItems, List.nil_append, hu.skipBlank_append]
    rfl
  | cons m ms ih =>
    rw [List.forall_mem_cons] at h
    cases ms with
    | nil =>
      obtain ⟨v, hv, hlen, hread⟩ := h.1.before_mark ht (by decide) (by decide)
      obtain ⟨c, r, heq, hc⟩ := h.1.skipBlank_eq ht rest
      obtain ⟨n, rfl⟩ : ∃ k, n = k + 1 := ⟨n - 1, by omega⟩
      have hitem := hread (n := n) (by omega) rest
      rw [heq] at hitem ⊢
      rw [readItems_close (ne_of_kind hc (by decide)) hitem, hv.skipBlank_append]
      rfl
    | cons m' ms =>
      rw [Markup.itemPieces, Markup.itemPieces, commaPieces, List.append_assoc] at ht
      obtain ⟨v, hv, hlen, hread⟩ := h.1.before_mark ht (by decide) (by decide)
      obtain ⟨c, r, heq, hc⟩ := h.1.skipBlank_eq ht rest
      obtain ⟨n, rfl⟩ : ∃ k, n = k + 1 := ⟨n - 1, by omega⟩
      have hitem := hread (n := n) (by omega) rest
      rw [heq] at hitem ⊢
      rw [readItems_comma (ne_of_kind hc (by decide)) hitem, ih h.2 hv (by omega)]
      rfl

private theorem isNameChar_of_isBareName {key : String} (h : Identifier.isBareName key = true)
    (hkey : '\n' ∉ key.toList) :
    key.toList ≠ [] ∧ ∀ c ∈ key.toList, Identifier.isNameChar c = true := by
  obtain ⟨⟨body, hbody, hbare | hbare⟩, -⟩ := Identifier.isBareName_iff.mp h
  · rw [hbare]
    exact ⟨hbody.ne_nil, hbody.isNameChar⟩
  · rw [hbare] at hkey
    exact absurd (List.mem_append_right body List.mem_cons_self) hkey

/-- The key of an entry before its colon is read, and the reading leaves off at the colon. -/
private theorem readKey_before_colon {key : String} (hkey : '\n' ∉ key.toList) {qs : List Piece}
    {t : List Char} (ht : Spaced (.solid (objectKey key) :: .solid [':'] :: qs) t) :
    ∃ v, Spaced qs v ∧ v.length + 1 < t.length ∧ ∀ rest, ∃ c s, skipBlank (t ++ rest) = c :: s ∧
      c ≠ '\x7d' ∧ readKey (c :: s) = some (key, ':' :: (v ++ rest)) := by
  unfold objectKey at ht
  split at ht
  · rename_i hbare
    obtain ⟨hne, hname⟩ := isNameChar_of_isBareName hbare hkey
    obtain ⟨c, w, hl⟩ := List.exists_cons_of_ne_nil hne
    rw [hl] at ht hname
    have hc := hname c List.mem_cons_self
    obtain ⟨u, hu, hlen, hskip⟩ :=
      ht.skip_solid (isBlank_of_isWordChar (isWordChar_of_isNameChar hc))
    obtain ⟨v, hv, hlen', hskip'⟩ := hu.skip_solid (by decide)
    refine ⟨v, hv, by omega, fun rest => ⟨c, _, hskip rest, ?_, ?_⟩⟩
    · exact ne_of_kind hc (by decide)
    · have hend : ∀ d ∈ (u ++ rest).head?, Identifier.isNameChar d = false := by
        obtain ⟨d, r, heq, hd⟩ := hu.head_of_solid rest
        rw [heq]
        rintro _ ⟨⟩
        exact hd.elim isNameChar_of_isSpacing (· ▸ by decide)
      rw [readKey]
      · rw [← List.cons_append, readRun_append (by simp) hname hend, hskip', List.nil_append,
          ← String.ofList_toList (s := key), hl]
        rfl
      · exact fun _ heq => ne_of_kind hc (by decide) (List.cons.inj heq).1
  · obtain ⟨u, hu, hlen, hskip⟩ := ht.skip_solid (by decide)
    obtain ⟨v, hv, hlen', hskip'⟩ := hu.skip_solid (by decide)
    refine ⟨v, hv, by omega, fun rest => ⟨_, _, hskip rest, by decide, ?_⟩⟩
    have htext := readText_quote key (u ++ rest)
    rw [Text.quote, List.cons_append, List.cons_append] at htext
    refine Eq.trans htext ?_
    rw [hskip', List.nil_append]

private theorem readEntries_spaced {entries : List (String × Markup)}
    (hkeys : ∀ e ∈ entries, '\n' ∉ e.1.toList) (h : ∀ e ∈ entries, e.2.ReadsBack) {n : Nat}
    {t rest : List Char}
    (ht : Spaced (commaPieces (Markup.entryPieces entries) ++ [.solid ['\x7d']]) t)
    (hn : t.length ≤ n) :
    readEntries n (skipBlank (t ++ rest)) =
      some (Markup.entriesAsLiterals entries, skipBlank rest) := by
  induction entries generalizing n t with
  | nil =>
    obtain ⟨u, hu, hlen, hskip⟩ := Spaced.skip_solid ht (by decide)
    obtain ⟨n, rfl⟩ : ∃ k, n = k + 1 := ⟨n - 1, by omega⟩
    rw [hskip, readEntries, List.nil_append, hu.skipBlank_append]
    rfl
  | cons e es ih =>
    rw [List.forall_mem_cons] at h hkeys
    cases es with
    | nil =>
      obtain ⟨u, hu, hlen, hkey⟩ := readKey_before_colon hkeys.1 ht
      obtain ⟨v, hv, hlen', hread⟩ := h.1.before_mark hu (by decide) (by decide)
      obtain ⟨c, r, heq, hc, hkey⟩ := hkey rest
      obtain ⟨n, rfl⟩ : ∃ k, n = k + 1 := ⟨n - 1, by omega⟩
      rw [heq, readEntries_close hc hkey (hread (by omega) rest), hv.skipBlank_append]
      rfl
    | cons e' es =>
      rw [Markup.entryPieces, Markup.entryPieces, commaPieces, List.append_assoc] at ht
      obtain ⟨u, hu, hlen, hkey⟩ := readKey_before_colon hkeys.1 ht
      obtain ⟨v, hv, hlen', hread⟩ := h.1.before_mark hu (by decide) (by decide)
      obtain ⟨c, r, heq, hc, hkey⟩ := hkey rest
      obtain ⟨n, rfl⟩ : ∃ k, n = k + 1 := ⟨n - 1, by omega⟩
      rw [heq, readEntries_comma hc hkey (hread (by omega) rest), ih hkeys.2 h.2 hv (by omega)]
      rfl

theorem readsBack_array {items : List Markup} (h : ∀ m ∈ items, m.ReadsBack) :
    (Markup.array items).ReadsBack := by
  refine ⟨⟨_, _, _, rfl, rfl⟩, fun {n t rest} ht hn _ => ?_⟩
  obtain ⟨v, hv, hlen, hskip⟩ := Spaced.skip_solid ht (by decide)
  obtain ⟨n, rfl⟩ : ∃ k, n = k + 1 := ⟨n - 1, by omega⟩
  rw [hskip]
  change (readItems n (skipBlank (v ++ rest))).map _ = _
  rw [readItems_spaced h hv (by omega)]
  rfl

theorem readsBack_object {entries : List (String × Markup)}
    (hkeys : ∀ e ∈ entries, '\n' ∉ e.1.toList) (h : ∀ e ∈ entries, e.2.ReadsBack) :
    (Markup.object entries).ReadsBack := by
  refine ⟨⟨_, _, _, rfl, rfl⟩, fun {n t rest} ht hn _ => ?_⟩
  obtain ⟨v, hv, hlen, hskip⟩ := Spaced.skip_solid ht (by decide)
  obtain ⟨n, rfl⟩ : ∃ k, n = k + 1 := ⟨n - 1, by omega⟩
  rw [hskip]
  change (readEntries n (skipBlank (v ++ rest))).map _ = _
  rw [readEntries_spaced hkeys h hv (by omega)]
  rfl

end PageMarkup
