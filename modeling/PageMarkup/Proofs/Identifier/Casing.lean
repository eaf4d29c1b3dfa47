import PageMarkup.Identifier.Script
import PageMarkup.Proofs.Identifier.Words
import PageMarkup.Proofs.Text.LetterCase

/-!
# Identifiers that are made from labels

The words of a label are put into lower case before they are joined, so each of them is a run of
small letters or a run of digits, and so is the fallback word of generated modules. What they are
joined to has letters, digits and underscores only. A digit may come first, and is then hidden
behind an underscore; a reserved name takes an underscore at its end, where no reserved name has
one.

Words that are joined by underscores are found again when the name is cut into words. So a name
that has been made in this style is made of itself.

## Main definitions

* `IsLowerWord` : a run of small letters or of digits.
* `IsPlainName` : a letter or an underscore, and then letters, digits and underscores.
* `StartsUpper` : a text starts with a capital or an underscore.

## Main results

* `Sanitizer.isLowerWord_words` : the words that a name is made of.
* `joinWords_eq_cons` : what words are joined to.
* `splitWords_joinSnake` : words joined by underscores are found again.
* `moduleSanitizer_usableName` : the names that are made for generated modules.
-/

namespace PageMarkup.Identifier

/-- A word in lower case: a run of small letters or of digits. -/
def IsLowerWord (w : List Char) : Prop :=
  w ≠ [] ∧ ((∀ c ∈ w, isSmall c = true) ∨ ∀ c ∈ w, isDecimal c = true)

/-- A letter or an underscore, and then letters, digits and underscores. -/
def IsPlainName (s : List Char) : Prop :=
  ∃ c cs, s = c :: cs ∧ (isCapital c = true ∨ isSmall c = true ∨ c = '_') ∧
    ∀ d ∈ cs, isAlphanumeric d = true ∨ d = '_'

/-- A text starts with a capital or an underscore. -/
def StartsUpper (s : List Char) : Prop :=
  ∃ c ∈ s.head?, isCapital c = true ∨ c = '_'

variable {c : Char} {w t : List Char} {ws : List (List Char)}

/-! ### Letter case of words -/

private theorem forall_ascii {P : Char → Prop} (h : ∀ n < 0x80, P (Char.ofNat n))
    (hc : c.toNat < 0x80) : P c := by
  have := h c.toNat hc
  rwa [Char.ofNat_toNat] at this

theorem toNat_lt_of_isAlphanumeric (h : isAlphanumeric c = true) : c.toNat < 0x80 := by
  rw [isAlphanumeric_iff, isCapital_iff, isSmall_iff, isDecimal_iff] at h
  omega

theorem isSmall_toLower (h : isCapital c = true) : isSmall c.toLower = true :=
  forall_ascii (P := fun c => isCapital c = true → isSmall c.toLower = true) (by decide)
    (toNat_lt_of_isAlphanumeric (isAlphanumeric_iff.mpr (.inl h))) h

theorem toCase_of_isSmall (h : isSmall c = true) : c.toLower = c ∧ isCapital c.toUpper = true :=
  forall_ascii (P := fun c => isSmall c = true → c.toLower = c ∧ isCapital c.toUpper = true)
    (by decide) (toNat_lt_of_isAlphanumeric (isAlphanumeric_iff.mpr (.inr (.inl h)))) h

theorem toCase_of_isDecimal (h : isDecimal c = true) :
    c.toLower = c ∧ c.toUpper = c ∧ Text.isDigit c = true :=
  forall_ascii (P := fun c => isDecimal c = true →
      c.toLower = c ∧ c.toUpper = c ∧ Text.isDigit c = true)
    (by decide) (toNat_lt_of_isAlphanumeric (isAlphanumeric_iff.mpr (.inr (.inr h)))) h

theorem IsWord.toNat_lt (h : IsWord w) : ∀ c ∈ w, c.toNat < 0x80 :=
  fun c hc => toNat_lt_of_isAlphanumeric (h.isAlphanumeric c hc)

namespace IsLowerWord

theorem isWord (h : IsLowerWord w) : IsWord w :=
  h.2.elim (.small h.1) (.digits h.1)

theorem map_toLower (h : IsLowerWord w) : w.map Char.toLower = w := by
  have hsame : ∀ c ∈ w, c.toLower = c := by
    intro c hc
    rcases h.2 with hw | hw
    · exact (toCase_of_isSmall (hw c hc)).1
    · exact (toCase_of_isDecimal (hw c hc)).1
  exact (List.map_congr_left hsame).trans (List.map_id' w)

theorem lower_eq (h : IsLowerWord w) : Text.lower w = w :=
  (Text.lowerAfter_of_ascii h.isWord.toNat_lt []).trans h.map_toLower

theorem exists_capitalize (h : IsLowerWord w) :
    ∃ c cs, Text.capitalize w = c :: cs ∧ (isCapital c = true ∨ isDecimal c = true) ∧
      ∀ d ∈ cs, isAlphanumeric d = true := by
  have hchars := h.isWord.isAlphanumeric
  have hlower := h.map_toLower
  obtain ⟨hne, hw⟩ := h
  obtain ⟨c, cs, rfl⟩ := List.exists_cons_of_ne_nil hne
  obtain ⟨hc, hcs⟩ := List.forall_mem_cons.mp hchars
  refine ⟨c.toUpper, cs, ?_, ?_, hcs⟩
  · rw [Text.capitalize_cons_of_ascii (toNat_lt_of_isAlphanumeric hc)
      fun d hd => toNat_lt_of_isAlphanumeric (hcs d hd)]
    rw [(List.cons.inj hlower).2]
  · rcases hw with hw | hw
    · exact .inl (toCase_of_isSmall (hw c List.mem_cons_self)).2
    · have hdigit := hw c List.mem_cons_self
      exact .inr ((toCase_of_isDecimal hdigit).2.1.symm ▸ hdigit)

end IsLowerWord

theorem IsWord.lower (h : IsWord w) : IsLowerWord (Text.lower w) := by
  rw [Text.lower, Text.lowerAfter_of_ascii h.toNat_lt]
  refine ⟨mt List.map_eq_nil_iff.mp h.ne_nil, ?_⟩
  cases h with
  | digits _ hw =>
    refine .inr (List.forall_mem_map.mpr fun c hc => ?_)
    rw [(toCase_of_isDecimal (hw c hc)).1]
    exact hw c hc
  | capitals _ hw => exact .inl (List.forall_mem_map.mpr fun c hc => isSmall_toLower (hw c hc))
  | small _ hw =>
    refine .inl (List.forall_mem_map.mpr fun c hc => ?_)
    rw [(toCase_of_isSmall (hw c hc)).1]
    exact hw c hc
  | capitalized hc _ hw =>
    refine .inl (List.forall_mem_cons.mpr ⟨isSmall_toLower hc, ?_⟩)
    refine List.forall_mem_map.mpr fun c hc => ?_
    rw [(toCase_of_isSmall (hw c hc)).1]
    exact hw c hc

/-! ### The words of a name -/

namespace Sanitizer

variable {s : Sanitizer}

theorem words_ne_nil (s : Sanitizer) (label : List Char) : s.words label ≠ [] := by
  unfold words
  split
  · exact List.cons_ne_nil _ _
  · exact ‹_›

/-- The words that a name is made of, if the fallback word is one. -/
theorem isLowerWord_words (hfallback : IsLowerWord s.fallback.toList) (label : List Char) :
    ∀ w ∈ s.words label, IsLowerWord w := by
  unfold words
  split
  · exact List.forall_mem_singleton.mpr hfallback
  · exact List.forall_mem_map.mpr fun w hw => ((cuts_splitWords label).isWord w hw).lower

theorem words_eq_of_splitWords {label : List Char} (h : splitWords label = ws) (hne : ws ≠ [])
    (hws : ∀ w ∈ ws, IsLowerWord w) : s.words label = ws := by
  have hlower : ws.map Text.lower = ws :=
    (List.map_congr_left fun w hw => (hws w hw).lower_eq).trans (List.map_id' ws)
  unfold words
  rw [h, hlower]
  cases ws with
  | nil => exact absurd rfl hne
  | cons => rfl

end Sanitizer

/-! ### Words that are joined -/

theorem joinSnake_cons (w : List Char) (ws : List (List Char)) :
    joinSnake (w :: ws) = w ++ ws.flatMap ('_' :: ·) := by
  induction ws generalizing w with
  | nil => simp [joinSnake]
  | cons v ws ih => rw [joinSnake, ih, List.flatMap_cons, List.cons_append]

theorem joinWords_cons (style : CaseStyle) (w : List Char) (ws : List (List Char)) :
    joinWords style (w :: ws) = (if style = .pascal then Text.capitalize w else w) ++
      ws.flatMap (if style = .snake then ('_' :: ·) else Text.capitalize) := by
  cases style with
  | snake => exact joinSnake_cons w ws
  | camel => rfl
  | pascal => rfl

/-- Words are joined to letters, digits and underscores, of which the first is no underscore. In
Pascal case it is no small letter either. -/
theorem joinWords_eq_cons (hws : ∀ w ∈ ws, IsLowerWord w) (hne : ws ≠ []) (style : CaseStyle) :
    ∃ c cs, joinWords style ws = c :: cs ∧ isAlphanumeric c = true ∧
      (style = .pascal → isCapital c = true ∨ isDecimal c = true) ∧
      ∀ d ∈ cs, isAlphanumeric d = true ∨ d = '_' := by
  obtain ⟨w, ws, rfl⟩ := List.exists_cons_of_ne_nil hne
  obtain ⟨hw, hws⟩ := List.forall_mem_cons.mp hws
  have hfirst : ∃ c cs, (if style = .pascal then Text.capitalize w else w) = c :: cs ∧
      isAlphanumeric c = true ∧ (style = .pascal → isCapital c = true ∨ isDecimal c = true) ∧
      ∀ d ∈ cs, isAlphanumeric d = true := by
    split
    · obtain ⟨c, cs, heq, hc, hcs⟩ := hw.exists_capitalize
      exact ⟨c, cs, heq, isAlphanumeric_iff.mpr (hc.imp_right .inr), fun _ => hc, hcs⟩
    · have hchars := hw.isWord.isAlphanumeric
      obtain ⟨c, cs, rfl⟩ := List.exists_cons_of_ne_nil hw.1
      obtain ⟨hc, hcs⟩ := List.forall_mem_cons.mp hchars
      exact ⟨c, cs, rfl, hc, fun heq => absurd heq ‹_›, hcs⟩
  have hrest : ∀ d ∈ ws.flatMap (if style = .snake then ('_' :: ·) else Text.capitalize),
      isAlphanumeric d = true ∨ d = '_' := by
    intro d hd
    obtain ⟨v, hv, hd⟩ := List.mem_flatMap.mp hd
    split at hd
    · rcases List.mem_cons.mp hd with rfl | hd
      · exact .inr rfl
      · exact .inl ((hws v hv).isWord.isAlphanumeric d hd)
    · obtain ⟨c, cs, heq, hc, hcs⟩ := (hws v hv).exists_capitalize
      rw [heq] at hd
      rcases List.mem_cons.mp hd with rfl | hd
      · exact .inl (isAlphanumeric_iff.mpr (hc.imp_right .inr))
      · exact .inl (hcs d hd)
  obtain ⟨c, cs, heq, hc, hpascal, hcs⟩ := hfirst
  refine ⟨c, cs ++ _, by rw [joinWords_cons, heq]; rfl, hc, hpascal, ?_⟩
  exact List.forall_mem_append.mpr ⟨fun d hd => .inl (hcs d hd), hrest⟩

/-- Words joined by underscores are found again, whatever separators follow them. -/
theorem splitWords_joinSnake (hws : ∀ w ∈ ws, IsWord w) (ht : ∀ c ∈ t, isAlphanumeric c = false) :
    splitWords (joinSnake ws ++ t) = ws := by
  have hseparator : isAlphanumeric '_' = false := rfl
  induction ws with
  | nil => exact splitWords_of_separators ht
  | cons w ws ih =>
    obtain ⟨hw, hws⟩ := List.forall_mem_cons.mp hws
    cases ws with
    | nil =>
      have hstops : Stops isAlphanumeric t := fun c hc => ht c (List.mem_of_mem_head? hc)
      rw [joinSnake, splitWords_append hw hstops, splitWords_of_separators ht]
    | cons v ws =>
      rw [joinSnake, List.append_assoc, List.cons_append]
      rw [splitWords_append hw (stops_cons.mpr hseparator),
        splitWords_cons_of_eq_false hseparator, ih hws]

/-! ### Names -/

theorem IsPlainName.append_underscore {s : List Char} (h : IsPlainName s) :
    IsPlainName (s ++ ['_']) := by
  obtain ⟨c, cs, rfl, hc, hcs⟩ := h
  exact ⟨c, cs ++ ['_'], rfl, hc,
    List.forall_mem_append.mpr ⟨hcs, List.forall_mem_singleton.mpr (.inr rfl)⟩⟩

namespace Sanitizer

variable {s : Sanitizer}

/-- What the words of a label are joined to is a plain name, or becomes one behind an underscore. In
Pascal case it starts with a capital or an underscore. -/
theorem exists_plainName (hfallback : IsLowerWord s.fallback.toList) (label : List Char)
    (style : CaseStyle) (suffixText : String) :
    ∃ front full, (front = [] ∨ front = ['_']) ∧
      full = front ++ joinWords style (s.words label) ∧ IsPlainName full ∧
      (style = .pascal → StartsUpper full) ∧
      s.name? label style suffixText =
        some (if s.isReserved (String.ofList full) then String.ofList full ++ suffixText
          else String.ofList full) := by
  obtain ⟨c, cs, heq, hc, hpascal, hcs⟩ :=
    joinWords_eq_cons (isLowerWord_words hfallback label) (s.words_ne_nil label) style
  by_cases hdigit : Text.isDigit c = true
  · refine ⟨['_'], '_' :: c :: cs, .inr rfl, by rw [heq]; rfl, ?_, ?_, ?_⟩
    · exact ⟨'_', c :: cs, rfl, .inr (.inr rfl), List.forall_mem_cons.mpr ⟨.inl hc, hcs⟩⟩
    · exact fun _ => ⟨'_', rfl, .inr rfl⟩
    · rw [name?, heq]
      dsimp only
      rw [if_pos hdigit]
  · have hdecimal : ¬ isDecimal c = true := fun h => hdigit (toCase_of_isDecimal h).2.2
    refine ⟨[], c :: cs, .inl rfl, heq.symm, ?_, ?_, ?_⟩
    · rcases isAlphanumeric_iff.mp hc with hletter | hletter | hnumber
      · exact ⟨c, cs, rfl, .inl hletter, hcs⟩
      · exact ⟨c, cs, rfl, .inr (.inl hletter), hcs⟩
      · exact absurd hnumber hdecimal
    · exact fun hstyle => ⟨c, rfl, .inl ((hpascal hstyle).resolve_right hdecimal)⟩
    · rw [name?, heq]
      dsimp only
      rw [if_neg hdigit]

/-- The name of a label is a plain name that is not reserved, if no reserved name ends in an
underscore. But for an underscore on either side it is what the words of the label are joined to. -/
theorem exists_name? (hfallback : IsLowerWord s.fallback.toList)
    (hfree : ∀ name, s.isReserved (name ++ "_") = false) (label : List Char) (style : CaseStyle) :
    ∃ name, s.name? label style "_" = some name ∧ IsPlainName name.toList ∧
      s.isReserved name = false ∧
      (style = .pascal → StartsUpper name.toList) ∧
      ∃ front back, (front = [] ∨ front = ['_']) ∧ (back = [] ∨ back = ['_']) ∧
        name.toList = front ++ joinWords style (s.words label) ++ back := by
  obtain ⟨front, full, hfront, hfull, hplain, hpascal, hname⟩ :=
    exists_plainName hfallback label style "_"
  by_cases hreserved : s.isReserved (String.ofList full) = true
  · rw [if_pos hreserved] at hname
    have htext : (String.ofList full ++ "_").toList = full ++ ['_'] := by
      rw [String.toList_append, String.toList_ofList]
      rfl
    refine ⟨_, hname, ?_, hfree _, ?_, front, ['_'], hfront, .inr rfl, ?_⟩
    · rw [htext]
      exact hplain.append_underscore
    · intro hstyle
      obtain ⟨c, hc, hcapital⟩ := hpascal hstyle
      obtain ⟨cs, rfl⟩ : ∃ cs, full = c :: cs := List.head?_eq_some_iff.mp hc
      exact ⟨c, by rw [htext]; rfl, hcapital⟩
    · rw [htext, hfull]
  · rw [if_neg hreserved] at hname
    have htext : (String.ofList full).toList = full := String.toList_ofList
    refine ⟨_, hname, htext.symm ▸ hplain, Bool.eq_false_iff.mpr hreserved, ?_,
      front, [], hfront, .inl rfl, ?_⟩
    · rw [htext]
      exact hpascal
    · rw [htext, hfull, List.append_nil]

theorem words_of_joinSnake (hfallback : IsLowerWord s.fallback.toList) (label : List Char)
    {front back : List Char} (hfront : front = [] ∨ front = ['_'])
    (hback : back = [] ∨ back = ['_']) :
    s.words (front ++ joinSnake (s.words label) ++ back) = s.words label := by
  have hseparator : isAlphanumeric '_' = false := rfl
  have hws := isLowerWord_words hfallback label
  have hsplit : splitWords (joinSnake (s.words label) ++ back) = s.words label := by
    refine splitWords_joinSnake (fun w hw => (hws w hw).isWord) ?_
    rcases hback with rfl | rfl
    · exact List.forall_mem_nil _
    · exact List.forall_mem_singleton.mpr hseparator
  refine words_eq_of_splitWords ?_ (s.words_ne_nil label) hws
  rw [List.append_assoc]
  rcases hfront with rfl | rfl
  · exact hsplit
  · rw [List.singleton_append, splitWords_cons_of_eq_false hseparator, hsplit]

end Sanitizer

/-! ### Names of generated modules -/

theorem isLowerWord_component : IsLowerWord moduleSanitizer.fallback.toList :=
  ⟨by decide, .inl (List.all_eq_true.mp rfl)⟩

theorem isReserved_append_underscore (name : String) :
    moduleSanitizer.isReserved (name ++ "_") = false := by
  have hlast : ∀ r ∈ moduleSanitizer.reserved, r.toList.getLast? ≠ some '_' := by decide
  refine Bool.eq_false_iff.mpr fun hreserved => ?_
  refine hlast _ (List.contains_iff_mem.mp hreserved) ?_
  rw [String.toList_append]
  exact List.getLast?_concat

/-- **Labels become usable names.** In every case style a label has a name: a plain name that is not
reserved and, but for an underscore on either side, is what the words of the label are joined to. In
snake case the words of the name are those of the label, and the name of this name is itself. -/
theorem moduleSanitizer_usableName (label : List Char) :
    (∀ style, ∃ name, moduleSanitizer.name? label style "_" = some name ∧
      IsPlainName name.toList ∧ moduleSanitizer.isReserved name = false ∧
      ∃ front back, (front = [] ∨ front = ['_']) ∧ (back = [] ∨ back = ['_']) ∧
        name.toList = front ++ joinWords style (moduleSanitizer.words label) ++ back) ∧
    ∃ name, moduleSanitizer.name? label .snake "_" = some name ∧
      moduleSanitizer.words name.toList = moduleSanitizer.words label ∧
      moduleSanitizer.name? name.toList .snake "_" = some name := by
  constructor
  · intro style
    obtain ⟨name, hname, hplain, hfree, -, hjoined⟩ := Sanitizer.exists_name?
      isLowerWord_component isReserved_append_underscore label style
    exact ⟨name, hname, hplain, hfree, hjoined⟩
  · obtain ⟨name, hname, -, -, -, front, back, hfront, hback, htext⟩ :=
      Sanitizer.exists_name? isLowerWord_component isReserved_append_underscore label .snake
    have hwords : moduleSanitizer.words name.toList = moduleSanitizer.words label := by
      rw [htext]
      exact Sanitizer.words_of_joinSnake isLowerWord_component label hfront hback
    refine ⟨name, hname, hwords, ?_⟩
    rw [Sanitizer.name?, hwords]
    exact hname

end PageMarkup.Identifier
