import PageMarkup.Proofs.Markup.ReadBack

/-!
# Tagged trees read back

Elements and fragments read back whose parts do. The value of an attribute is a text taken as it
stands or an expression between braces. A child is a tagged tree, an expression between braces, or a
text, which only reads back before a tag: the blanks between the two are not its own.

## Main definitions

* `IsWord` : the texts that may stand for tags and names of attributes.

## Main results

* `readsBack_element`, `readsBack_fragment` : tagged trees read back.
-/

namespace PageMarkup

open Text (Line)

/-! ### Containers and attributes -/

/-- A text that is a word. -/
def IsWord (s : String) : Prop :=
  s.toList ≠ [] ∧ ∀ c ∈ s.toList, isWordChar c = true

instance (s : String) : Decidable (IsWord s) :=
  decidable_of_iff (s.toList ≠ [] ∧ s.toList.all isWordChar = true) (by simp [IsWord])

private theorem readContainer_spaced {m : Markup} (h : m.ReadsBack) {qs : List Piece}
    {t : List Char} (ht : Spaced (bracePieces m.pieces ++ qs) t) :
    ∃ v, Spaced qs v ∧ v.length < t.length ∧ ∀ {n : Nat}, t.length ≤ n + v.length + 1 → ∀ rest,
      ∃ s, skipBlank (t ++ rest) = '\x7b' :: s ∧
        readContainer n (skipBlank s) = some (m.textsAsLiterals, skipBlank (v ++ rest)) := by
  rw [bracePieces, List.cons_append, List.cons_append, List.append_assoc] at ht
  obtain ⟨u, hu, hlen, hskip⟩ := ht.skip_solid (by decide)
  obtain ⟨v, hv, hlen', hread⟩ := h.before_mark hu (by decide) (by decide)
  refine ⟨v, hv, by omega, fun {n} hn rest => ⟨_, hskip rest, ?_⟩⟩
  obtain ⟨n, rfl⟩ : ∃ k, n = k + 1 := ⟨n - 1, by omega⟩
  rw [List.nil_append, readContainer, hread (by omega) rest]
  simp only [Option.bind_eq_bind, Option.bind_some, afterMark?_cons]
  rfl

private theorem plainAttribute?_eq_some {m : Markup} {l : Line} (h : m.plainAttribute? = some l) :
    ∃ s, m = .literal (.str s) ∧ l = s.toList ∧ isPlainAttribute s.toList = true := by
  unfold Markup.plainAttribute? at h
  split at h
  · rename_i s
    split at h
    · rename_i hplain
      exact ⟨s, rfl, (Option.some.inj h).symm, hplain⟩
    · cases h
  · cases h

private theorem readPlainAttribute_append {s : String} (hs : isPlainAttribute s.toList = true)
    (rest : List Char) : readPlainAttribute (s.toList ++ Text.quoteMark :: rest) =
      some (.literal (.str s), skipBlank rest) := by
  have hquote : ∀ c ∈ s.toList, (c != Text.quoteMark) = true := by
    intro c hc
    simp only [isPlainAttribute, Bool.not_eq_true', List.any_eq_false] at hs
    have := hs c hc
    simp only [isAttributeUnsafe, Bool.or_eq_true, not_or] at this
    simpa using this.1.1.1
  obtain ⟨htake, hdrop⟩ := takeWhile_append_of_head hquote (Text.quoteMark :: rest)
    (by rintro _ ⟨⟩; decide)
  rw [readPlainAttribute, htake, hdrop, afterMark?_cons, String.ofList_toList]
  rfl

private theorem readAttributeValue_spaced {m : Markup} (h : m.ReadsBack) {qs : List Piece}
    {t : List Char} (ht : Spaced (attributeValuePieces m m.pieces ++ qs) t) :
    ∃ v, Spaced qs v ∧ v.length < t.length ∧ ∀ {n : Nat}, t.length ≤ n → ∀ rest,
      readAttributeValue n (skipBlank (t ++ rest)) =
        some (m.textsAsLiterals, skipBlank (v ++ rest)) := by
  unfold attributeValuePieces at ht
  split at ht
  · rename_i l hplain
    obtain ⟨s, rfl, rfl, hs⟩ := plainAttribute?_eq_some hplain
    obtain ⟨v, hv, hlen, hskip⟩ := Spaced.skip_solid ht (by decide)
    refine ⟨v, hv, by omega, fun {n} hn rest => ?_⟩
    obtain ⟨n, rfl⟩ : ∃ k, n = k + 1 := ⟨n - 1, by omega⟩
    rw [hskip]
    change readPlainAttribute (s.toList ++ [Text.quoteMark] ++ (v ++ rest)) = _
    rw [List.append_assoc]
    exact readPlainAttribute_append hs (v ++ rest)
  · obtain ⟨v, hv, hlen, hread⟩ := readContainer_spaced h ht
    refine ⟨v, hv, hlen, fun {n} hn rest => ?_⟩
    obtain ⟨n, rfl⟩ : ∃ k, n = k + 1 := ⟨n - 1, by omega⟩
    obtain ⟨s, hskip, hcontainer⟩ := hread (n := n) (by omega) rest
    rw [hskip]
    exact hcontainer

private theorem readAttributes_cons {n : Nat} {c : Char} {s k r : List Char} {name : List Char}
    {value : Markup} (hc : isWordChar c = true)
    (hname : readRun isWordChar (c :: s) = some (name, '=' :: k))
    (hvalue : readAttributeValue n (skipBlank k) = some (value, r)) :
    readAttributes (n + 1) (c :: s) = (readAttributes n r).map fun q =>
      ((.str (String.ofList name), value) :: q.1, q.2) := by
  rw [readAttributes]
  · rw [hname]
    simp only [Option.bind_eq_bind, Option.bind_some, afterMark?_cons, hvalue]
    cases readAttributes n r <;> rfl
  · exact fun _ heq => ne_of_kind hc (by decide) (List.cons.inj heq).1
  · exact fun _ heq => ne_of_kind hc (by decide) (List.cons.inj heq).1

private theorem readAttributes_spaced {attributes : List (Value × Markup)}
    (hnames : ∀ a ∈ attributes, ∃ name, a.1 = .str name ∧ IsWord name)
    (h : ∀ a ∈ attributes, a.2.ReadsBack) {c : Char} (hc : c = '/' ∨ c = '>') {w : List Char}
    {qs : List Piece} {t : List Char}
    (ht : Spaced (gapPieces (Markup.attributePieces attributes) ++ .solid (c :: w) :: qs) t) :
    ∃ v, Spaced qs v ∧ v.length + w.length < t.length ∧ ∀ {n : Nat}, t.length ≤ n → ∀ rest,
      readAttributes n (skipBlank (t ++ rest)) =
        some (Markup.attributesAsLiterals attributes, c :: (w ++ (v ++ rest))) := by
  induction attributes generalizing t with
  | nil =>
    obtain ⟨v, hv, hlen, hskip⟩ := Spaced.skip_solid ht (by rcases hc with rfl | rfl <;> decide)
    refine ⟨v, hv, hlen, fun {n} hn rest => ?_⟩
    obtain ⟨n, rfl⟩ : ∃ k, n = k + 1 := ⟨n - 1, by omega⟩
    rw [hskip]
    rcases hc with rfl | rfl <;> rfl
  | cons a as ih =>
    rw [List.forall_mem_cons] at hnames h
    obtain ⟨name, m⟩ := a
    obtain ⟨⟨name, rfl, hne, hword⟩, hnames⟩ := hnames
    obtain ⟨d, l, hl⟩ := List.exists_cons_of_ne_nil hne
    have hd : isWordChar d = true := hword d (hl ▸ List.mem_cons_self)
    have hpieces :
        gapPieces (Markup.attributePieces ((.str name, m) :: as)) ++ .solid (c :: w) :: qs =
        .gap :: .solid (d :: l) :: .solid ['='] :: (attributeValuePieces m m.pieces ++
          (gapPieces (Markup.attributePieces as) ++ .solid (c :: w) :: qs)) := by
      simp [Markup.attributePieces, gapPieces, attributePiece, Value.text, hl]
    rw [hpieces] at ht
    obtain ⟨t₁, h₁, hlen₁, hskip₁⟩ := ht.skip_gap
    obtain ⟨t₂, h₂, hlen₂, hskip₂⟩ := h₁.skip_solid (isBlank_of_isWordChar hd)
    obtain ⟨t₃, h₃, hlen₃, hskip₃⟩ := h₂.skip_solid (by decide)
    obtain ⟨t₄, h₄, hlen₄, hvalue⟩ := readAttributeValue_spaced h.1 h₃
    obtain ⟨v, hv, hlen, hattributes⟩ := ih hnames h.2 h₄
    refine ⟨v, hv, by omega, fun {n} hn rest => ?_⟩
    obtain ⟨n, rfl⟩ : ∃ k, n = k + 1 := ⟨n - 1, by omega⟩
    have hname : readRun isWordChar (d :: (l ++ (t₂ ++ rest))) =
        some (name.toList, '=' :: (t₃ ++ rest)) := by
      rw [← List.cons_append, ← hl, readRun_append hne hword
        (h₂.delimited_of_solid (by decide) rest), hskip₃, List.nil_append]
    rw [hskip₁, hskip₂, readAttributes_cons hd hname (hvalue (by omega) rest),
      hattributes (by omega) rest, String.ofList_toList]
    rfl

/-! ### Children -/

private theorem isBlank_head_of_strip {c : Char} {w : List Char}
    (h : Text.strip (c :: w) = c :: w) : Text.isBlank c = false := by
  cases hc : Text.isBlank c with
  | false => rfl
  | true =>
    have hlen : (Text.strip (c :: w)).length ≤ w.length := by
      rw [Text.strip, List.dropWhile_cons_of_pos hc, Text.stripEnd, Text.dropEndWhile,
        List.length_reverse]
      refine Nat.le_trans (List.dropWhile_suffix _).length_le ?_
      rw [List.length_reverse]
      exact (List.dropWhile_suffix _).length_le
    rw [h, List.length_cons] at hlen
    omega

private theorem strip_append_blank {t g : List Char} (hne : t ≠ []) (ht : Text.strip t = t)
    (hg : ∀ c ∈ g, Text.isBlank c = true) : Text.strip (t ++ g) = t := by
  have hend : ∀ s, Text.stripEnd (s ++ g) = Text.stripEnd s := by
    intro s
    rw [Text.stripEnd, Text.dropEndWhile, List.reverse_append, List.dropWhile_append_of_pos]
    · rfl
    · simpa using hg
  obtain ⟨c, w, rfl⟩ := List.exists_cons_of_ne_nil hne
  have hc : ¬ Text.isBlank c = true := by simp [isBlank_head_of_strip ht]
  have hdrop : ∀ s, (c :: s).dropWhile Text.isBlank = c :: s := fun s =>
    List.dropWhile_cons_of_neg hc
  rw [Text.strip, List.cons_append, hdrop, ← List.cons_append, hend]
  rwa [Text.strip, hdrop] at ht

private theorem content_before_tag {w : List Char} {qs : List Piece} {t : List Char}
    (ht : Spaced (.solid ('<' :: w) :: qs) t) (rest : List Char) :
    ∃ g, (∀ c ∈ g, Text.isBlank c = true) ∧ (t ++ rest).takeWhile isContentChar = g ∧
      (t ++ rest).dropWhile isContentChar = skipBlank (t ++ rest) := by
  generalize hr : Piece.solid ('<' :: w) :: qs = r at ht
  induction ht with
  | nil => cases hr
  | solid => 
    cases hr
    exact ⟨[], by simp, rfl, rfl⟩
  | gap => cases hr
  | @blank ps t c hc _ ih =>
    obtain ⟨g, hg, htake, hdrop⟩ := ih hr
    have hblank := isBlank_of_isSpacing hc
    have hcontent : isContentChar c = true := by
      simp only [isSpacing, Bool.or_eq_true, beq_iff_eq] at hc
      rcases hc with rfl | rfl <;> decide
    refine ⟨c :: g, List.forall_mem_cons.mpr ⟨hblank, hg⟩, ?_, ?_⟩
    · rw [List.cons_append, List.takeWhile_cons_of_pos hcontent, htake]
    · rw [List.cons_append, List.dropWhile_cons_of_pos hcontent, hdrop]
      exact (List.dropWhile_cons_of_pos hblank).symm

private theorem tagged_pieces {m : Markup} (h : m.isTagged = true) :
    ∃ w ps, m.pieces = .solid ('<' :: w) :: ps ∧ childPiece m m.pieces = m.pieces := by
  cases m with
  | element tag attributes children =>
    rw [Markup.pieces, elementPieces]
    split
    · exact ⟨_, _, rfl, rfl⟩
    · exact ⟨_, _, rfl, rfl⟩
  | fragment children => exact ⟨_, _, rfl, rfl⟩
  | literal v => cases h
  | raw code => cases h
  | text t => cases h
  | array items => cases h
  | object entries => cases h

private theorem readChild_container {m : Markup} (h : m.ReadsBack) {w : List Char}
    {qs : List Piece} {t : List Char}
    (ht : Spaced (bracePieces m.pieces ++ .solid ('<' :: w) :: qs) t) :
    ∃ v, Spaced (.solid ('<' :: w) :: qs) v ∧ v.length < t.length ∧
      ∀ {n : Nat}, t.length ≤ n + 1 → ∀ rest,
        readChild n (skipBlank (t ++ rest)) = some (m.textsAsLiterals, skipBlank (v ++ rest)) := by
  obtain ⟨v, hv, hlen, hread⟩ := readContainer_spaced h ht
  obtain ⟨_, -, hlen', -⟩ := hv.skip_solid (by decide)
  refine ⟨v, hv, hlen, fun {n} hn rest => ?_⟩
  obtain ⟨n, rfl⟩ : ∃ k, n = k + 1 := ⟨n - 1, by omega⟩
  obtain ⟨s, hskip, hcontainer⟩ := hread (n := n) (by omega) rest
  rw [hskip]
  exact hcontainer

private theorem readChild_content {s : String} (hs : isPlainContent s.toList = true)
    {w : List Char} {qs : List Piece} {t : List Char}
    (ht : Spaced (.solid s.toList :: .solid ('<' :: w) :: qs) t) :
    ∃ v, Spaced (.solid ('<' :: w) :: qs) v ∧ v.length < t.length ∧
      ∀ {n : Nat}, t.length ≤ n + 1 → ∀ rest,
        readChild n (skipBlank (t ++ rest)) = some (.literal (.str s), skipBlank (v ++ rest)) := by
  simp only [isPlainContent, Bool.and_eq_true, Bool.not_eq_true', List.isEmpty_eq_false_iff,
    beq_iff_eq, List.any_eq_false] at hs
  obtain ⟨⟨hne, hstrip⟩, hsafe⟩ := hs
  have hchars : ∀ c ∈ s.toList, isContentChar c = true := by
    intro c hc
    have hunsafe := hsafe c hc
    simp only [isContentUnsafe, Bool.or_eq_true, beq_iff_eq, not_or] at hunsafe
    obtain ⟨⟨⟨⟨⟨⟨hbrace, -⟩, hangle⟩, -⟩, -⟩, -⟩, -⟩ := hunsafe
    simp [isContentChar, hbrace, hangle]
  obtain ⟨c, l, hl⟩ := List.exists_cons_of_ne_nil hne
  have hblank : Text.isBlank c = false := isBlank_head_of_strip (hl ▸ hstrip.symm)
  rw [hl] at ht
  obtain ⟨v, hv, hlen, hskip⟩ := ht.skip_solid hblank
  obtain ⟨_, -, hlen', -⟩ := hv.skip_solid (by decide)
  refine ⟨v, hv, by omega, fun {n} hn rest => ?_⟩
  obtain ⟨n, rfl⟩ : ∃ k, n = k + 1 := ⟨n - 1, by omega⟩
  obtain ⟨g, hg, htake, hdrop⟩ := content_before_tag hv rest
  have hc : isContentChar c = true := hchars c (hl ▸ List.mem_cons_self)
  rw [hskip, readChild]
  · rw [← List.cons_append, ← hl, List.takeWhile_append_of_pos hchars,
      List.dropWhile_append_of_pos hchars, htake, hdrop,
      strip_append_blank hne hstrip.symm hg, String.ofList_toList]
  · exact fun heq => nomatch heq
  · exact fun _ heq => ne_of_kind hc (by decide) (List.cons.inj heq).1
  · exact fun _ heq => ne_of_kind hc (by decide) (List.cons.inj heq).1

private theorem readChild_spaced {m : Markup} (h : m.ReadsBack) {w : List Char} {qs : List Piece}
    {t : List Char} (ht : Spaced (childPiece m m.pieces ++ .solid ('<' :: w) :: qs) t) :
    ∃ v, Spaced (.solid ('<' :: w) :: qs) v ∧ v.length < t.length ∧
      ∀ {n : Nat}, t.length ≤ n + 1 → ∀ rest,
        readChild n (skipBlank (t ++ rest)) = some (m.textsAsLiterals, skipBlank (v ++ rest)) := by
  have hbraces : Spaced (bracePieces m.pieces ++ .solid ('<' :: w) :: qs) t → _ :=
    readChild_container h
  by_cases htagged : m.isTagged = true
  · obtain ⟨l, ps, hm, hchild⟩ := tagged_pieces htagged
    rw [hchild] at ht
    obtain ⟨u, v, rfl, hu, hv⟩ := ht.split
    obtain ⟨_, -, hlen, -⟩ := hv.skip_solid (by decide)
    have hfront : Spaced (.solid ('<' :: l) :: ps) u := hm ▸ hu
    obtain ⟨_, -, hlen', hskip⟩ := hfront.skip_solid (by decide)
    simp only [List.length_append]
    refine ⟨v, hv, by omega, fun {n} hn rest => ?_⟩
    obtain ⟨n, rfl⟩ : ∃ k, n = k + 1 := ⟨n - 1, by omega⟩
    have hread := h.reads (n := n + 1) hu (by omega) (hv.delimited_of_solid (by decide) rest)
    rw [List.append_assoc]
    rw [hskip] at hread ⊢
    exact hread
  cases m with
  | text s =>
    simp only [childPiece] at ht
    split at ht
    · rename_i hplain
      exact readChild_content hplain ht
    · exact hbraces ht
  | element _ _ _ => exact absurd rfl htagged
  | fragment _ => exact absurd rfl htagged
  | literal _ => exact hbraces ht
  | raw _ => exact hbraces ht
  | array _ => exact hbraces ht
  | object _ => exact hbraces ht

private theorem readChild_closing (n : Nat) (s : List Char) :
    readChild n ('<' :: '/' :: s) = none := by
  cases n with
  | zero => rfl
  | succ n =>
    cases n with
    | zero => rfl
    | succ n => rfl

private theorem readChildren_cons {n : Nat} {tag s r : List Char} {m : Markup}
    (h : readChild n s = some (m, r)) :
    readChildren (n + 1) tag s = (readChildren n tag r).map fun q => (m :: q.1, q.2) := by
  rw [readChildren]
  · rw [h]
    simp only [Option.bind_eq_bind, Option.bind_some]
    cases readChildren n tag r <;> rfl
  · rintro u rfl
    rw [readChild_closing] at h
    cases h

private theorem readChildren_spaced {tag : List Char} (htag : ∀ c ∈ tag, isWordChar c = true)
    {children : List Markup} (h : ∀ m ∈ children, m.ReadsBack)
    (htagged : ∀ m ∈ children.tail, m.isTagged = true) {n : Nat} {t rest : List Char}
    (ht : Spaced ((Markup.childPieces children).flatten ++ [.solid (closingLine tag)]) t)
    (hn : t.length ≤ n) :
    readChildren n tag (skipBlank (t ++ rest)) =
      some (Markup.itemsAsLiterals children, skipBlank rest) := by
  induction children generalizing n t with
  | nil =>
    obtain ⟨v, hv, hlen, hskip⟩ := Spaced.skip_solid ht (by decide)
    obtain ⟨n, rfl⟩ : ∃ k, n = k + 1 := ⟨n - 1, by omega⟩
    have hclosing : afterClosing? tag (tag ++ ['>'] ++ (v ++ rest)) = some (skipBlank rest) := by
      obtain ⟨htake, hdrop⟩ := takeWhile_append_of_head htag (['>'] ++ (v ++ rest))
        (by rintro _ ⟨⟩; decide)
      rw [List.append_assoc, afterClosing?, htake, hdrop, if_pos rfl, List.singleton_append,
        afterMark?_cons, hv.skipBlank_append]
    rw [hskip]
    change (afterClosing? tag (tag ++ ['>'] ++ (v ++ rest))).map _ = _
    rw [hclosing]
    rfl
  | cons m ms ih =>
    rw [List.forall_mem_cons] at h
    have hnext : ∃ w qs, (Markup.childPieces ms).flatten ++ [.solid (closingLine tag)] =
        .solid ('<' :: w) :: qs := by
      cases ms with
      | nil => exact ⟨_, _, rfl⟩
      | cons m' ms =>
        obtain ⟨w, ps, hm, hchild⟩ := tagged_pieces (htagged m' List.mem_cons_self)
        rw [Markup.childPieces, hchild, hm]
        exact ⟨_, _, rfl⟩
    obtain ⟨w, qs, hqs⟩ := hnext
    rw [Markup.childPieces, List.flatten_cons, List.append_assoc, hqs] at ht
    obtain ⟨v, hv, hlen, hread⟩ := readChild_spaced h.1 ht
    rw [← hqs] at hv
    obtain ⟨n, rfl⟩ : ∃ k, n = k + 1 := ⟨n - 1, by omega⟩
    rw [readChildren_cons (hread hn rest),
      ih h.2 (fun m' hm' => htagged m' (List.mem_of_mem_tail hm')) hv (by omega)]
    rfl

/-! ### Elements and fragments -/

private theorem delimited_attributes {attributes : List (List Piece)} {c : Char} {w : List Char}
    {qs : List Piece} {t : List Char}
    (ht : Spaced (gapPieces attributes ++ .solid (c :: w) :: qs) t) (hc : isWordChar c = false)
    (rest : List Char) : Delimited (t ++ rest) := by
  cases attributes with
  | nil => exact Spaced.delimited_of_solid ht hc rest
  | cons a as => exact Spaced.delimited_of_gap ht rest

theorem readsBack_fragment {children : List Markup} (h : ∀ m ∈ children, m.ReadsBack)
    (htagged : ∀ m ∈ children, m.isTagged = true) : (Markup.fragment children).ReadsBack := by
  refine ⟨⟨_, _, _, rfl, rfl⟩, fun {n t rest} ht hn _ => ?_⟩
  obtain ⟨v, hv, hlen, hskip⟩ := Spaced.skip_solid ht (by decide)
  rw [List.length_singleton] at hlen
  obtain ⟨n, rfl⟩ : ∃ k, n = k + 2 := ⟨n - 2, by omega⟩
  have hchildren : readChildren n [] (skipBlank (v ++ rest)) =
      some (Markup.itemsAsLiterals children, skipBlank rest) :=
    readChildren_spaced (by simp) h (fun m hm => htagged m (List.mem_of_mem_tail hm)) hv (by omega)
  rw [hskip]
  change (readChildren n [] (skipBlank (v ++ rest))).map _ = _
  rw [hchildren]
  rfl

section Steps

variable {n : Nat} {c : Char} {s tag k r : List Char} {attributes : List (Value × Markup)}

private theorem readTagged_empty (hc : isWordChar c = true)
    (htag : readRun isWordChar (c :: s) = some (tag, k))
    (hattributes : readAttributes n k = some (attributes, '/' :: '>' :: r)) :
    readTagged (n + 1) (c :: s) =
      some (.element (.str (String.ofList tag)) attributes [], skipBlank r) := by
  rw [readTagged]
  · rw [htag]
    simp only [Option.bind_eq_bind, Option.bind_some, hattributes, afterMark?_cons]
    rfl
  · exact fun _ heq => ne_of_kind hc (by decide) (List.cons.inj heq).1

private theorem readTagged_open (hc : isWordChar c = true)
    (htag : readRun isWordChar (c :: s) = some (tag, k))
    (hattributes : readAttributes n k = some (attributes, '>' :: r)) :
    readTagged (n + 1) (c :: s) = (readChildren n tag (skipBlank r)).map fun q =>
      (.element (.str (String.ofList tag)) attributes q.1, q.2) := by
  rw [readTagged]
  · rw [htag]
    simp only [Option.bind_eq_bind, Option.bind_some, hattributes]
    cases readChildren n tag (skipBlank r) <;> rfl
  · exact fun _ heq => ne_of_kind hc (by decide) (List.cons.inj heq).1

end Steps

/-- The tag and the attributes of an element are read up to the end of its opening tag. -/
private theorem readTag_spaced {tag : String} {attributes : List (Value × Markup)}
    (htag : IsWord tag) (hnames : ∀ a ∈ attributes, ∃ name, a.1 = .str name ∧ IsWord name)
    (hvalues : ∀ a ∈ attributes, a.2.ReadsBack) {e : Char} (he : e = '/' ∨ e = '>') {w : List Char}
    {qs : List Piece} {t : List Char}
    (ht : Spaced (.solid ('<' :: tag.toList) ::
      (gapPieces (Markup.attributePieces attributes) ++ .solid (e :: w) :: qs)) t) :
    ∃ v, Spaced qs v ∧ v.length + w.length + 2 < t.length ∧ ∀ {n : Nat}, t.length ≤ n + 2 →
      ∀ rest, ∃ c s k, skipBlank (t ++ rest) = '<' :: c :: s ∧ isWordChar c = true ∧
        readRun isWordChar (c :: s) = some (tag.toList, k) ∧
        readAttributes n k =
          some (Markup.attributesAsLiterals attributes, e :: (w ++ (v ++ rest))) := by
  obtain ⟨hne, hword⟩ := htag
  obtain ⟨c, l, hl⟩ := List.exists_cons_of_ne_nil hne
  have hc : isWordChar c = true := hword c (hl ▸ List.mem_cons_self)
  obtain ⟨u, hu, hlen, hskip⟩ := ht.skip_solid (by decide)
  rw [hl, List.length_cons] at hlen
  obtain ⟨v, hv, hlen', hattributes⟩ := readAttributes_spaced hnames hvalues he hu
  refine ⟨v, hv, by omega, fun {n} hn rest => ⟨c, l ++ (u ++ rest), skipBlank (u ++ rest), ?_, hc,
    ?_, hattributes (by omega) rest⟩⟩
  · rw [hskip, hl, List.cons_append]
  · rw [← List.cons_append, ← hl]
    exact readRun_append hne hword
      (delimited_attributes hu (by rcases he with rfl | rfl <;> decide) rest)

theorem readsBack_element {tag : String} {attributes : List (Value × Markup)}
    {children : List Markup} (htag : IsWord tag)
    (hnames : ∀ a ∈ attributes, ∃ name, a.1 = .str name ∧ IsWord name)
    (hvalues : ∀ a ∈ attributes, a.2.ReadsBack) (hone : children.length ≤ 1)
    (h : ∀ m ∈ children, m.ReadsBack) :
    (Markup.element (.str tag) attributes children).ReadsBack := by
  cases children with
  | nil =>
    have hpieces : (Markup.element (.str tag) attributes []).pieces =
        .solid ('<' :: tag.toList) :: (gapPieces (Markup.attributePieces attributes) ++
          .solid ['/', '>'] :: []) := rfl
    refine ⟨⟨_, _, _, hpieces, rfl⟩, fun {n t rest} ht hn _ => ?_⟩
    rw [hpieces] at ht
    obtain ⟨v, hv, hlen, hread⟩ := readTag_spaced htag hnames hvalues (.inl rfl) ht
    obtain ⟨n, rfl⟩ : ∃ k, n = k + 2 := ⟨n - 2, by omega⟩
    obtain ⟨c, s, k, hskip, hc, hrun, hattributes⟩ := hread hn rest
    rw [List.singleton_append] at hattributes
    rw [hskip]
    change readTagged (n + 1) (c :: s) = _
    rw [readTagged_empty hc hrun hattributes, String.ofList_toList, hv.skipBlank_append]
    rfl
  | cons m ms =>
    have hpieces : (Markup.element (.str tag) attributes (m :: ms)).pieces =
        .solid ('<' :: tag.toList) :: (gapPieces (Markup.attributePieces attributes) ++
          .solid ['>'] :: ((Markup.childPieces (m :: ms)).flatten ++
            [.solid (closingLine tag.toList)])) := by
      simp [Markup.pieces, elementPieces, Markup.childPieces, Value.text]
    refine ⟨⟨_, _, _, hpieces, rfl⟩, fun {n t rest} ht hn _ => ?_⟩
    rw [hpieces] at ht
    obtain ⟨v, hv, hlen, hread⟩ := readTag_spaced htag hnames hvalues (.inr rfl) ht
    obtain ⟨n, rfl⟩ : ∃ k, n = k + 2 := ⟨n - 2, by omega⟩
    obtain ⟨c, s, k, hskip, hc, hrun, hattributes⟩ := hread hn rest
    have hms : ms = [] := List.eq_nil_of_length_eq_zero (by rw [List.length_cons] at hone; omega)
    rw [hskip]
    change readTagged (n + 1) (c :: s) = _
    rw [readTagged_open hc hrun hattributes, List.nil_append,
      readChildren_spaced htag.2 h (by simp [hms]) hv (by omega), String.ofList_toList]
    rfl

end PageMarkup
