import PageMarkup.Json.Reader
import PageMarkup.Proofs.Json.Pieces
import PageMarkup.Proofs.Markup.Scanning
import PageMarkup.Proofs.Text.Quoted

/-!
# Written JSON read back

A written value is read back as the value. The reader skips spacing before every piece, so it is
followed along the pieces of the value and not along its lines. What comes behind a value is a comma
or a closing bracket, or nothing at all; none of them continues a number. The induction is on the
value, and the number of its pieces bounds the nested readings that it takes.

## Main definitions

* `Json.Closes` : what may come behind a value.

## Main results

* `Json.readValue_of_spaced` : a value is read from any text that spaces out its pieces.
* `Json.read_of_write` : a written value is read back.
-/

namespace PageMarkup

/-! ### Spacing -/

namespace Json

theorem isSpace_of_isSpacing {c : Char} (h : isSpacing c = true) : isSpace c = true := by
  simp only [isSpacing, Bool.or_eq_true, beq_iff_eq] at h
  rcases h with rfl | rfl <;> rfl

theorem skipSpace_solid {c : Char} {w t : List Char} {ps : List Piece}
    (h : Spaced (.solid (c :: w) :: ps) t) (hc : isSpace c = false) :
    ∃ u, skipSpace t = c :: (w ++ u) ∧ Spaced ps u := by
  generalize hr : Piece.solid (c :: w) :: ps = r at h
  induction h with
  | nil => cases hr
  | @solid rs t w' h _ =>
    cases hr
    exact ⟨t, List.dropWhile_cons_of_neg (by simp [hc]), h⟩
  | gap => cases hr
  | blank hb _ ih =>
    obtain ⟨u, hskip, hu⟩ := ih hr
    exact ⟨u, (List.dropWhile_cons_of_pos (isSpace_of_isSpacing hb)).trans hskip, hu⟩

theorem skipSpace_nil {t : List Char} (h : Spaced [] t) : skipSpace t = [] := by
  generalize hr : ([] : List Piece) = r at h
  induction h with
  | nil => rfl
  | solid => cases hr
  | gap => cases hr
  | blank hb _ ih => exact (List.dropWhile_cons_of_pos (isSpace_of_isSpacing hb)).trans (ih hr)

/-- What may come behind a value: nothing, a comma or a closing bracket. -/
def Closes (ps : List Piece) : Prop :=
  ∀ p ∈ ps.head?, p = .solid [','] ∨ p = .solid [']'] ∨ p = .solid ['\x7d']

theorem closes_nil : Closes [] := by
  rintro _ ⟨⟩

theorem closes_cons {c : Char} (h : c = ',' ∨ c = ']' ∨ c = '\x7d') (ps : List Piece) :
    Closes (.solid [c] :: ps) := by
  rintro _ ⟨⟩
  rcases h with rfl | rfl | rfl
  · exact .inl rfl
  · exact .inr (.inl rfl)
  · exact .inr (.inr rfl)

/-- A text with which no number goes on. -/
private def EndsNumber (s : List Char) : Prop :=
  ∀ c ∈ s.head?, c.isDigit = false ∧ c ≠ '.' ∧ c ≠ 'e' ∧ c ≠ 'E'

private theorem Closes.endsNumber {ps : List Piece} {t : List Char} (h : Closes ps)
    (ht : Spaced ps t) : EndsNumber t := by
  cases ht with
  | nil => rintro _ ⟨⟩
  | solid w ht =>
    rcases h _ rfl with hw | hw | hw
    all_goals
      obtain rfl := Piece.solid.inj hw
      rintro _ ⟨⟩
      decide
  | gap => simpa using h _ rfl
  | blank hc _ =>
    rintro _ ⟨⟩
    simp only [isSpacing, Bool.or_eq_true, beq_iff_eq] at hc
    rcases hc with rfl | rfl <;> decide

/-! ### Words and numbers -/

private theorem readFraction_eq_none {s : List Char} (h : EndsNumber s) :
    Decimal.readFraction s = none := by
  unfold Decimal.readFraction
  split
  · exact absurd rfl (h _ rfl).2.1
  · rfl

private theorem readExponent_eq_none {s : List Char} (h : EndsNumber s) :
    Decimal.readExponent s = none := by
  cases s with
  | nil => rfl
  | cons c s =>
    obtain ⟨-, -, hsmall, hcapital⟩ := h c rfl
    rw [Decimal.readExponent, if_neg (by simp [hsmall, hcapital])]

private theorem readWhole_natDigits (n : Nat) {s : List Char} (h : EndsNumber s) :
    readWhole (Decimal.natDigits n ++ s) = some (Decimal.natDigits n, s) := by
  rcases Nat.eq_zero_or_pos n with rfl | hn
  · rfl
  · obtain ⟨c, ds, hds, hc⟩ := Decimal.exists_natDigits_eq_cons hn
    obtain ⟨htake, hdrop⟩ := takeWhile_append_of_head (p := Char.isDigit)
      (fun d hd => Decimal.isDigit_of_mem_natDigits hd) s (fun d hd => (h d hd).1)
    have hspan : Decimal.spanDigits (Decimal.natDigits n ++ s) = (Decimal.natDigits n, s) :=
      Prod.ext htake hdrop
    rw [hds] at hspan ⊢
    rw [readWhole]
    · rw [hspan]
    · intro rest heq
      exact hc (List.cons.inj heq).1

private theorem readMagnitude_natDigits (negative : Bool) {n : Nat}
    (hn : (Decimal.natDigits n).length ≤ Decimal.maxDigits) {s : List Char} (h : EndsNumber s) :
    readMagnitude negative (Decimal.natDigits n ++ s) =
      .ok (.int (Decimal.Binary.signed negative n), s) := by
  rw [readMagnitude, readWhole_natDigits n h]
  simp only [orMalformed, bind, Except.bind, readFraction_eq_none h, readExponent_eq_none h,
    Option.map_none, Option.getD_none, Option.isNone_none, Bool.and_self, if_true,
    if_neg (Nat.not_lt.mpr hn), Decimal.digitsValue_natDigits]
  rfl

private theorem words_heads {word : String × Value} (h : word ∈ words) :
    ∃ c d ds, word.1.toList = c :: d :: ds ∧ c.isDigit = false ∧ d.isDigit = false := by
  simp only [words, List.mem_cons, List.not_mem_nil, or_false] at h
  rcases h with rfl | rfl | rfl | rfl | rfl | rfl <;> exact ⟨_, _, _, rfl, by decide, by decide⟩

private theorem findSome?_words_eq_none {s : List Char}
    (h : ∀ word ∈ words, word.1.toList.isPrefixOf s = false) :
    (words.findSome? fun w => (afterWord? w.1 s).map fun rest => (w.2, rest)) = none := by
  refine List.findSome?_eq_none_iff.mpr fun word hword => ?_
  rw [afterWord?, h word hword, if_neg Bool.false_ne_true]
  rfl

private theorem readPlain_int {n : Int} (hn : Decimal.IsReadable n) {s : List Char}
    (h : EndsNumber s) : readPlain ((Value.int n).literalText ++ s) = .ok (.int n, s) := by
  obtain ⟨c, ds, hds⟩ := List.exists_cons_of_ne_nil (Decimal.natDigits_ne_nil n.natAbs)
  have hc : c.isDigit = true := Decimal.isDigit_of_mem_natDigits (hds ▸ List.mem_cons_self)
  by_cases hnegative : n < 0
  · have htext : (Value.int n).literalText = '-' :: Decimal.natDigits n.natAbs := by
      simp [Value.literalText, Decimal.intText, hnegative]
    have hnone := findSome?_words_eq_none (s := '-' :: (Decimal.natDigits n.natAbs ++ s))
      fun word hword => by
        obtain ⟨a, b, cs, hchars, -, hb⟩ := words_heads hword
        have hne : b ≠ c := ne_of_kind (p := fun d => !d.isDigit) (by simp [hb]) (by simp [hc])
        simp [hchars, hds, List.isPrefixOf, hne]
    rw [htext, List.cons_append, readPlain, hnone]
    dsimp only
    rw [readMagnitude_natDigits true hn h]
    simp only [Decimal.Binary.signed, if_true]
    rw [show -(n.natAbs : Int) = n by omega]
  · have htext : (Value.int n).literalText = Decimal.natDigits n.natAbs := by
      simp [Value.literalText, Decimal.intText, hnegative]
    have hnone := findSome?_words_eq_none (s := Decimal.natDigits n.natAbs ++ s)
      fun word hword => by
        obtain ⟨a, b, cs, hchars, ha, -⟩ := words_heads hword
        have hne : a ≠ c := ne_of_kind (p := fun d => !d.isDigit) (by simp [ha]) (by simp [hc])
        simp [hchars, hds, List.isPrefixOf, hne]
    rw [htext, readPlain, hnone]
    · dsimp only
      rw [readMagnitude_natDigits false hn h]
      simp only [Decimal.Binary.signed, Bool.false_eq_true, if_false]
      rw [show (n.natAbs : Int) = n by omega]
    · intro rest heq
      rw [hds] at heq
      exact ne_of_kind hc (by decide) (List.cons.inj heq).1

/-! ### Arrays and objects step by step -/

section Steps

variable {n : Nat} {c : Char} {s t u : List Char} {x : Value} {key : List Char}

private theorem readValue_items (hskip : skipSpace t = c :: s) (hc : c ≠ ']') :
    readValue (n + 1) ('[' :: t) = (readItems n (c :: s)).map fun r => (.list r.1, r.2) := by
  rw [readValue, hskip]
  split
  next heq => exact absurd (List.cons.inj heq).1 hc
  next => rfl

private theorem readValue_fields (hskip : skipSpace t = c :: s) (hc : c ≠ '\x7d') :
    readValue (n + 1) ('\x7b' :: t) =
      (readFields n (c :: s)).map fun r => (.map (Entries.putAll [] r.1), r.2) := by
  rw [readValue, hskip]
  split
  next heq => exact absurd (List.cons.inj heq).1 hc
  next => rfl

private theorem readItems_close (hx : readValue n s = .ok (x, t)) (hskip : skipSpace t = ']' :: u) :
    readItems (n + 1) s = .ok ([x], u) := by
  rw [readItems, hx]
  simp only [bind, Except.bind, hskip]
  rfl

private theorem readItems_comma (hx : readValue n s = .ok (x, t)) (hskip : skipSpace t = ',' :: u) :
    readItems (n + 1) s = (readItems n (skipSpace u)).map fun r => (x :: r.1, r.2) := by
  rw [readItems, hx]
  simp only [bind, Except.bind, hskip]
  cases readItems n (skipSpace u) <;> rfl

variable {colon : List Char} (hkey : Text.readQuoted s = some (key, t))
  (hcolon : skipSpace t = ':' :: colon) (hx : readValue n (skipSpace colon) = .ok (x, u))

include hkey hcolon hx

private theorem readFields_close {rest : List Char} (hskip : skipSpace u = '\x7d' :: rest) :
    readFields (n + 1) s = .ok ([(.str (String.ofList key), x)], rest) := by
  rw [readFields, hkey]
  simp only [orMalformed, bind, Except.bind, hcolon, hx, hskip]
  rfl

private theorem readFields_comma {rest : List Char} (hskip : skipSpace u = ',' :: rest) :
    readFields (n + 1) s =
      (readFields n (skipSpace rest)).map
        fun r => ((.str (String.ofList key), x) :: r.1, r.2) := by
  rw [readFields, hkey]
  simp only [orMalformed, bind, Except.bind, hcolon, hx, hskip]
  cases readFields n (skipSpace rest) <;> rfl

end Steps

/-! ### Values -/

private theorem readValue_plain {n : Nat} {c : Char} (s : List Char)
    (h : c ≠ Text.quoteMark ∧ c ≠ '[' ∧ c ≠ '\x7b') :
    readValue (n + 1) (c :: s) = readPlain (c :: s) := by
  obtain ⟨hquote, harray, hobject⟩ := h
  rw [readValue]
  · exact fun _ heq => hquote (List.cons.inj heq).1
  · exact fun _ heq => harray (List.cons.inj heq).1
  · exact fun _ heq => hobject (List.cons.inj heq).1

private theorem readValue_quote (n : Nat) (s : String) (rest : List Char) :
    readValue (n + 1) (Text.quote s.toList ++ rest) = .ok (.str s, rest) := by
  have hquote := Text.readQuoted_quote s.toList rest
  rw [Text.quote, List.cons_append] at hquote ⊢
  change (orMalformed (Text.readQuoted _)).map _ = _
  rw [hquote, orMalformed, Except.map, String.ofList_toList]

private theorem literalText_int_eq_cons (n : Int) :
    ∃ c w, (Value.int n).literalText = c :: w ∧ (c.isDigit = true ∨ c = '-') := by
  obtain ⟨c, ds, hds⟩ := List.exists_cons_of_ne_nil (Decimal.natDigits_ne_nil n.natAbs)
  by_cases hnegative : n < 0
  · exact ⟨'-', Decimal.natDigits n.natAbs,
      by simp [Value.literalText, Decimal.intText, hnegative], .inr rfl⟩
  · exact ⟨c, ds, by simp [Value.literalText, Decimal.intText, hnegative, hds],
      .inl (Decimal.isDigit_of_mem_natDigits (hds ▸ List.mem_cons_self))⟩

variable {P : Int → Prop} {Q : Char → Prop}

private theorem pieces_eq_cons {v : Value} (h : v.IsJson P Q) :
    ∃ c w ps, pieces v = .solid (c :: w) :: ps ∧ isSpace c = false ∧ c ≠ ']' := by
  cases h with
  | null => exact ⟨_, _, _, rfl, rfl, by decide⟩
  | bool b => cases b <;> exact ⟨_, _, _, rfl, rfl, by decide⟩
  | str h => exact ⟨_, _, _, rfl, rfl, by decide⟩
  | list h => exact ⟨_, _, _, rfl, rfl, by decide⟩
  | map _ _ _ h => exact ⟨_, _, _, rfl, rfl, by decide⟩
  | @int n h =>
    obtain ⟨c, w, htext, hc⟩ := literalText_int_eq_cons n
    refine ⟨c, w, [], congrArg (fun l => [Piece.solid l]) htext, ?_, ?_⟩
    · rcases hc with hc | rfl
      · have hspace : ∀ d : Char, d.isDigit = false → c ≠ d := fun d hd => ne_of_kind hc hd
        simp [isSpace, hspace ' ' rfl, hspace '\t' rfl, hspace '\n' rfl, hspace '\r' rfl]
      · rfl
    · rcases hc with hc | rfl
      · exact ne_of_kind hc (by decide)
      · decide

private theorem readValue_single {v : Value} {c : Char} {w : List Char}
    (hpieces : pieces v = [.solid (c :: w)]) (hc : isSpace c = false)
    (hread : ∀ n rest, EndsNumber rest → readValue (n + 1) (c :: (w ++ rest)) = .ok (v, rest))
    {n : Nat} (hn : (pieces v).length ≤ n) {qs : List Piece} (hqs : Closes qs) {t : List Char}
    (ht : Spaced (pieces v ++ qs) t) :
    ∃ u, readValue n (skipSpace t) = .ok (v, u) ∧ Spaced qs u := by
  rw [hpieces] at hn ht
  obtain ⟨m, rfl⟩ : ∃ m, n = m + 1 := ⟨n - 1, (Nat.sub_add_cancel hn).symm⟩
  obtain ⟨u, hskip, hu⟩ := skipSpace_solid ht hc
  exact ⟨u, by rw [hskip, hread m u (hqs.endsNumber hu)], hu⟩

private theorem readValue_int {k : Int} (hk : Decimal.IsReadable k) {c : Char} {w : List Char}
    (htext : (Value.int k).literalText = c :: w) (hc : c.isDigit = true ∨ c = '-') (n : Nat)
    (rest : List Char) (hrest : EndsNumber rest) :
    readValue (n + 1) (c :: (w ++ rest)) = .ok (.int k, rest) := by
  have hplain := readPlain_int hk hrest
  rw [htext] at hplain
  refine (readValue_plain _ ?_).trans hplain
  rcases hc with hc | rfl
  · exact ⟨ne_of_kind hc (by decide), ne_of_kind hc (by decide), ne_of_kind hc (by decide)⟩
  · decide

private theorem commaPieces_eq_cons {part q : List Piece} {c : Char} {w : List Char}
    (h : part = .solid (c :: w) :: q) (parts : List (List Piece)) :
    ∃ ps', commaPieces (part :: parts) = .solid (c :: w) :: ps' := by
  cases parts with
  | nil => exact ⟨q, h⟩
  | cons p parts =>
    exact ⟨q ++ .solid [','] :: commaPieces (p :: parts), by rw [commaPieces, h]; rfl⟩

private theorem readQuoted_of_spaced {s : String} {qs : List Piece} {t : List Char}
    (ht : Spaced (.solid (Text.quote s.toList) :: qs) t) :
    ∃ u, Text.readQuoted (skipSpace t) = some (s.toList, u) ∧ Spaced qs u := by
  obtain ⟨u, hskip, hu⟩ := skipSpace_solid ht rfl
  exact ⟨u, by rw [hskip]; exact Text.readQuoted_quote s.toList u, hu⟩

private theorem skipSpace_brackets {op cl : Char} (hop : isSpace op = false)
    (hcl : isSpace cl = false) {qs : List Piece} {t : List Char}
    (ht : Spaced (.solid [op] :: .solid [cl] :: qs) t) :
    ∃ t' u, skipSpace t = op :: t' ∧ skipSpace t' = cl :: u ∧ Spaced qs u := by
  obtain ⟨t', hopen, ht'⟩ := skipSpace_solid ht hop
  obtain ⟨u, hclose, hu⟩ := skipSpace_solid ht' hcl
  exact ⟨t', u, hopen, hclose, hu⟩

private theorem skipSpace_items {xs : List Value} (h : ∀ x ∈ xs, x.IsJson P Q)
    (hne : xs ≠ []) {qs : List Piece} {t : List Char}
    (ht : Spaced (commaPieces (itemPieces xs) ++ qs) t) :
    ∃ c s, skipSpace t = c :: s ∧ c ≠ ']' := by
  obtain ⟨x, xs, rfl⟩ := List.exists_cons_of_ne_nil hne
  obtain ⟨c, w, ps, hfirst, hspace, hc⟩ := pieces_eq_cons (h x List.mem_cons_self)
  obtain ⟨ps', hcomma⟩ := commaPieces_eq_cons hfirst (itemPieces xs)
  rw [itemPieces, hcomma] at ht
  obtain ⟨r, hskip, -⟩ := skipSpace_solid ht hspace
  exact ⟨c, w ++ r, hskip, hc⟩

private theorem skipSpace_fields {es : List (Value × Value)} (hne : es ≠ []) {qs : List Piece}
    {t : List Char} (ht : Spaced (commaPieces (fieldPieces es) ++ qs) t) :
    ∃ s, skipSpace t = Text.quoteMark :: s := by
  obtain ⟨⟨k, x⟩, es, rfl⟩ := List.exists_cons_of_ne_nil hne
  obtain ⟨ps', hcomma⟩ := commaPieces_eq_cons
    (q := .solid [':'] :: pieces x) (c := Text.quoteMark) rfl (fieldPieces es)
  rw [fieldPieces, Text.quote, List.cons_append, hcomma] at ht
  obtain ⟨r, hskip, -⟩ := skipSpace_solid ht rfl
  exact ⟨_, hskip⟩

private theorem readValue_int_of_spaced {k : Int} (hk : Decimal.IsReadable k) {n : Nat}
    (hn : (pieces (.int k)).length ≤ n) {qs : List Piece} (hqs : Closes qs) {t : List Char}
    (ht : Spaced (pieces (.int k) ++ qs) t) :
    ∃ u, readValue n (skipSpace t) = .ok (.int k, u) ∧ Spaced qs u := by
  obtain ⟨c, w, htext, hc⟩ := literalText_int_eq_cons k
  have hjson : (Value.int k).IsJson Decimal.IsReadable fun _ => True := .int hk
  obtain ⟨d, w', ps, hpieces, hspace, -⟩ := pieces_eq_cons hjson
  have hsolid : pieces (.int k) = [.solid (c :: w)] := congrArg (fun l => [Piece.solid l]) htext
  obtain ⟨rfl, rfl⟩ : c = d ∧ w = w' := by
    simpa using congrArg List.head? (hsolid.symm.trans hpieces)
  exact readValue_single hsolid hspace (readValue_int hk htext hc) hn hqs ht

private theorem readValue_list_of_spaced {xs : List Value}
    (h : ∀ x ∈ xs, x.IsJson P Q) {n : Nat} (hn : (pieces (.list xs)).length ≤ n) {qs : List Piece}
    {t : List Char} (ht : Spaced (pieces (.list xs) ++ qs) t)
    (hitems : xs ≠ [] → ∀ {m t'}, (commaPieces (itemPieces xs)).length < m →
      Spaced (commaPieces (itemPieces xs) ++ .solid [']'] :: qs) t' →
      ∃ u, readItems m (skipSpace t') = .ok (xs, u) ∧ Spaced qs u) :
    ∃ u, readValue n (skipSpace t) = .ok (.list xs, u) ∧ Spaced qs u := by
  have hpieces : pieces (.list xs) =
    .solid ['['] :: commaPieces (itemPieces xs) ++ [.solid [']']] := rfl
  rw [hpieces, List.length_append, List.length_cons, List.length_singleton] at hn
  rw [hpieces, List.append_assoc] at ht
  obtain ⟨m, rfl⟩ : ∃ m, n = m + 1 := ⟨n - 1, by omega⟩
  by_cases hne : xs = []
  · subst hne
    obtain ⟨t', u, hopen, hclose, hu⟩ := skipSpace_brackets rfl rfl ht
    exact ⟨u, by simp only [hopen, readValue, hclose], hu⟩
  · obtain ⟨t', hopen, ht'⟩ := skipSpace_solid ht rfl
    obtain ⟨u, hread, hu⟩ := hitems hne (by omega : _ < m) ht'
    obtain ⟨c, s, hskip, hc⟩ := skipSpace_items h hne ht'
    refine ⟨u, ?_, hu⟩
    rw [hopen, List.nil_append, readValue_items hskip hc, ← hskip, hread]
    rfl

private theorem readValue_map_of_spaced {es : Entries Value} (htexts : es.HasTextKeys)
    (hdistinct : es.keys.Nodup) {n : Nat} (hn : (pieces (.map es)).length ≤ n) {qs : List Piece}
    {t : List Char} (ht : Spaced (pieces (.map es) ++ qs) t)
    (hfields : es ≠ [] → ∀ {m t'}, (commaPieces (fieldPieces es)).length < m →
      Spaced (commaPieces (fieldPieces es) ++ .solid ['\x7d'] :: qs) t' →
      ∃ u, readFields m (skipSpace t') = .ok (es, u) ∧ Spaced qs u) :
    ∃ u, readValue n (skipSpace t) = .ok (.map es, u) ∧ Spaced qs u := by
  have hpieces : pieces (.map es) =
    .solid ['\x7b'] :: commaPieces (fieldPieces es) ++ [.solid ['\x7d']] := rfl
  rw [hpieces, List.length_append, List.length_cons, List.length_singleton] at hn
  rw [hpieces, List.append_assoc] at ht
  obtain ⟨m, rfl⟩ : ∃ m, n = m + 1 := ⟨n - 1, by omega⟩
  by_cases hne : es = []
  · subst hne
    obtain ⟨t', u, hopen, hclose, hu⟩ := skipSpace_brackets rfl rfl ht
    exact ⟨u, by simp only [hopen, readValue, hclose], hu⟩
  · have hput : Entries.putAll [] es = es := Entries.putAll_of_new htexts hdistinct
    obtain ⟨t', hopen, ht'⟩ := skipSpace_solid ht rfl
    obtain ⟨u, hread, hu⟩ := hfields hne (by omega : _ < m) ht'
    obtain ⟨s, hskip⟩ := skipSpace_fields hne ht'
    refine ⟨u, ?_, hu⟩
    rw [hopen, List.nil_append, readValue_fields hskip (by decide), ← hskip, hread, Except.map,
      hput]

mutual

/-- A value is read from any text that spaces out its pieces and goes on with a comma, a closing
bracket or nothing. -/
theorem readValue_of_spaced {v : Value} (h : v.IsJson Decimal.IsReadable Q) {n : Nat}
    (hn : (pieces v).length ≤ n) {qs : List Piece} (hqs : Closes qs) {t : List Char}
    (ht : Spaced (pieces v ++ qs) t) :
    ∃ u, readValue n (skipSpace t) = .ok (v, u) ∧ Spaced qs u := by
  match v with
  | .null => exact readValue_single rfl rfl (fun _ _ _ => rfl) hn hqs ht
  | .bool true => exact readValue_single rfl rfl (fun _ _ _ => rfl) hn hqs ht
  | .bool false => exact readValue_single rfl rfl (fun _ _ _ => rfl) hn hqs ht
  | .str s => exact readValue_single rfl rfl (fun n rest _ => readValue_quote n s rest) hn hqs ht
  | .int k =>
    cases h with
    | int hk => exact readValue_int_of_spaced hk hn hqs ht
  | .list xs =>
    cases h with
    | list hxs =>
      exact readValue_list_of_spaced hxs hn ht fun hne _ _ hm ht' =>
        readItems_of_spaced hxs hne hm ht'
  | .map es =>
    cases h with
    | map htexts hdistinct _ hes =>
      exact readValue_map_of_spaced htexts hdistinct hn ht fun hne _ _ hm ht' =>
        readFields_of_spaced htexts hes hne hm ht'
  | .float _ | .tuple _ | .foreign _ _ | .markup _ => cases h

theorem readItems_of_spaced {xs : List Value} (h : ∀ x ∈ xs, x.IsJson Decimal.IsReadable Q)
    (hne : xs ≠ []) {n : Nat} (hn : (commaPieces (itemPieces xs)).length < n) {qs : List Piece}
    {t : List Char} (ht : Spaced (commaPieces (itemPieces xs) ++ .solid [']'] :: qs) t) :
    ∃ u, readItems n (skipSpace t) = .ok (xs, u) ∧ Spaced qs u := by
  obtain ⟨m, rfl⟩ : ∃ m, n = m + 1 := ⟨n - 1, by omega⟩
  match xs with
  | [] => exact absurd rfl hne
  | x :: xs =>
    obtain ⟨hx, hxs⟩ := List.forall_mem_cons.mp h
    by_cases hlast : xs = []
    · subst hlast
      obtain ⟨u, hread, hu⟩ := readValue_of_spaced hx (Nat.le_of_lt_succ hn)
        (closes_cons (.inr (.inl rfl)) qs) ht
      obtain ⟨u', hclose, hu'⟩ := skipSpace_solid hu rfl
      exact ⟨u', readItems_close hread hclose, hu'⟩
    · have hmore : itemPieces xs ≠ [] := by
        cases xs with
        | nil => exact absurd rfl hlast
        | cons => exact List.cons_ne_nil _ _
      rw [itemPieces, commaPieces_cons _ hmore, List.append_assoc, List.cons_append] at ht
      rw [itemPieces, commaPieces_cons _ hmore, List.length_append, List.length_cons] at hn
      have hfirst : (pieces x).length ≤ m := by omega
      have hothers : (commaPieces (itemPieces xs)).length < m := by omega
      obtain ⟨u, hread, hu⟩ := readValue_of_spaced hx hfirst (closes_cons (.inl rfl) _) ht
      obtain ⟨u', hcomma, hu'⟩ := skipSpace_solid hu rfl
      obtain ⟨r, hitems, hr⟩ := readItems_of_spaced hxs hlast hothers hu'
      exact ⟨r, by rw [readItems_comma hread hcomma, List.nil_append, hitems]; rfl, hr⟩

theorem readFields_of_spaced {es : List (Value × Value)} (htexts : Entries.HasTextKeys es)
    (h : ∀ e ∈ es, e.2.IsJson Decimal.IsReadable Q) (hne : es ≠ []) {n : Nat}
    (hn : (commaPieces (fieldPieces es)).length < n) {qs : List Piece} {t : List Char}
    (ht : Spaced (commaPieces (fieldPieces es) ++ .solid ['\x7d'] :: qs) t) :
    ∃ u, readFields n (skipSpace t) = .ok (es, u) ∧ Spaced qs u := by
  obtain ⟨m, rfl⟩ : ∃ m, n = m + 1 := ⟨n - 1, by omega⟩
  match es with
  | [] => exact absurd rfl hne
  | (k, x) :: es =>
    obtain ⟨hkey, hkeys⟩ := List.forall_mem_cons.mp htexts
    obtain ⟨s, rfl⟩ : ∃ s, k = .str s := Value.isStr_iff.mp hkey
    obtain ⟨hx, hes⟩ := List.forall_mem_cons.mp h
    by_cases hlast : es = []
    · subst hlast
      rw [fieldPieces, fieldPieces, commaPieces] at ht hn
      simp only [List.length_cons] at hn
      have hfirst : (pieces x).length ≤ m := by omega
      obtain ⟨t₁, hquoted, ht₁⟩ := readQuoted_of_spaced ht
      obtain ⟨t₂, hcolon, ht₂⟩ := skipSpace_solid ht₁ rfl
      obtain ⟨u, hread, hu⟩ := readValue_of_spaced hx hfirst
        (closes_cons (.inr (.inr rfl)) qs) ht₂
      obtain ⟨u', hclose, hu'⟩ := skipSpace_solid hu rfl
      refine ⟨u', ?_, hu'⟩
      rw [readFields_close hquoted hcolon hread hclose, String.ofList_toList]
      rfl
    · have hmore : fieldPieces es ≠ [] := by
        cases es with
        | nil => exact absurd rfl hlast
        | cons => exact List.cons_ne_nil _ _
      rw [fieldPieces, commaPieces_cons _ hmore, List.append_assoc, List.cons_append] at ht
      rw [fieldPieces, commaPieces_cons _ hmore, List.length_append, List.length_cons] at hn
      simp only [List.length_cons] at hn
      have hfirst : (pieces x).length ≤ m := by omega
      have hothers : (commaPieces (fieldPieces es)).length < m := by omega
      obtain ⟨t₁, hquoted, ht₁⟩ := readQuoted_of_spaced ht
      obtain ⟨t₂, hcolon, ht₂⟩ := skipSpace_solid ht₁ rfl
      obtain ⟨u, hread, hu⟩ := readValue_of_spaced hx hfirst (closes_cons (.inl rfl) _) ht₂
      obtain ⟨u', hcomma, hu'⟩ := skipSpace_solid hu rfl
      obtain ⟨r, hfields, hr⟩ := readFields_of_spaced hkeys hes hlast hothers hu'
      refine ⟨r, ?_, hr⟩
      rw [readFields_comma hquoted hcolon hread hcomma, String.ofList_toList, List.nil_append,
        hfields]
      rfl

end

/-! ### Whole texts -/

private theorem literalText_ne_nil {v : Value} (h : v.IsJson P Q) : v.literalText ≠ [] := by
  cases h with
  | null => exact nofun
  | bool b => cases b <;> exact nofun
  | int h =>
    obtain ⟨c, w, htext, -⟩ := literalText_int_eq_cons _
    exact htext ▸ List.cons_ne_nil c w
  | str | list | map => exact nofun

private theorem length_le_of_spaced {ps : List Piece} {t : List Char} (h : Spaced ps t)
    (hsolid : Piece.solid [] ∉ ps) : ps.length ≤ t.length := by
  induction h with
  | nil => exact Nat.le_refl 0
  | @solid ps t w h ih =>
    obtain ⟨hw, hps⟩ := not_or.mp (mt List.mem_cons.mpr hsolid)
    have hpos : 0 < w.length := List.length_pos_iff.mpr fun hnil => hw (hnil ▸ rfl)
    have hrest := ih hps
    rw [List.length_cons, List.length_append]
    omega
  | gap hc h ih => exact Nat.succ_le_succ (ih fun hmem => hsolid (List.mem_cons_of_mem _ hmem))
  | blank hc h ih => exact Nat.le_succ_of_le (ih hsolid)

/-- **A written value is read back.** A value that JSON can hold, with integers of no more digits
than are read, is written, and reading the text gives the value. -/
theorem read_of_write {v : Value} (h : v.IsJson Decimal.IsReadable Q) :
    ∃ text, write v = .ok text ∧ read text = .ok v := by
  obtain ⟨ls, hls, hblock⟩ := writeLines_of_isJson h
  have hspaced : Spaced (pieces v) (Text.joinLines ls) := hblock.joinLines
  have hne : ∀ w, Piece.solid w ∈ pieces v → w ≠ [] := forall_solid_pieces h
    (fun c _ => List.cons_ne_nil c []) fun _ hu _ _ => literalText_ne_nil hu
  have hsteps := length_le_of_spaced hspaced fun hmem => hne [] hmem rfl
  obtain ⟨u, hread, hu⟩ := readValue_of_spaced h (Nat.le_succ_of_le hsteps) closes_nil
    (t := Text.joinLines ls) (by rwa [List.append_nil])
  refine ⟨Text.joinLines ls, by rw [write, hls]; rfl, ?_⟩
  rw [read, hread]
  simp only [bind, Except.bind, skipSpace_nil hu]
  rfl

end Json

end PageMarkup
