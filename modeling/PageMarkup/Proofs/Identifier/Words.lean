import Mathlib.Data.List.TakeWhile
import PageMarkup.Identifier.Words

/-!
# How a label is cut into words

The words of a label are found from left to right. What may stand at the start of a label is a word
of one of five kinds, each with a condition on what follows it, and the conditions leave no choice:
one of them holds wherever a letter or a digit stands, and each of them gives the length of the
word. A cut of a label is a chain of such steps, and what is shown for every step holds for the
words of a label by induction on its cut.

## Main definitions

* `Stops` : a text does not go on with a character of some class.
* `LeadingWord` : a text is a word where another text follows it.
* `Cuts` : a label is cut into words.
* `IsWord` : the shapes of a word.

## Main results

* `exists_leadingWord`, `LeadingWord.wordLength_append` : the word at the start of a label.
* `cuts_splitWords`, `Cuts.splitWords_eq` : a label is cut into its words and in no other way.
* `splitWords_append` : a word before a separator is found again.
-/

namespace PageMarkup.Identifier

/-- A character that words are made of: an ASCII letter or digit. -/
def isAlphanumeric (c : Char) : Bool := isCapital c || isSmall c || isDecimal c

/-- A text does not start with a character of a class. -/
def Stops (p : Char → Bool) (t : List Char) : Prop :=
  ∀ c ∈ t.head?, p c = false

variable {p : Char → Bool} {c : Char} {s t w : List Char} {ws : List (List Char)}

/-! ### Classes of characters -/

private theorem range_iff {low high : Char} :
    (low ≤ c && c ≤ high) = true ↔ low.toNat ≤ c.toNat ∧ c.toNat ≤ high.toNat := by
  simp only [Bool.and_eq_true, decide_eq_true_eq, Char.le_def, UInt32.le_iff_toNat_le]
  rfl

theorem isCapital_iff : isCapital c = true ↔ 0x41 ≤ c.toNat ∧ c.toNat ≤ 0x5A := range_iff

theorem isSmall_iff : isSmall c = true ↔ 0x61 ≤ c.toNat ∧ c.toNat ≤ 0x7A := range_iff

theorem isDecimal_iff : isDecimal c = true ↔ 0x30 ≤ c.toNat ∧ c.toNat ≤ 0x39 := range_iff

theorem isAlphanumeric_iff :
    isAlphanumeric c = true ↔ isCapital c = true ∨ isSmall c = true ∨ isDecimal c = true := by
  rw [isAlphanumeric, Bool.or_eq_true, Bool.or_eq_true, or_assoc]

theorem isCapital_eq_false_of_isSmall (h : isSmall c = true) : isCapital c = false :=
  Bool.eq_false_iff.mpr fun hc => by
    rw [isSmall_iff] at h
    rw [isCapital_iff] at hc
    omega

theorem isCapital_eq_false_of_isDecimal (h : isDecimal c = true) : isCapital c = false :=
  Bool.eq_false_iff.mpr fun hc => by
    rw [isDecimal_iff] at h
    rw [isCapital_iff] at hc
    omega

theorem isSmall_eq_false_of_isDecimal (h : isDecimal c = true) : isSmall c = false :=
  Bool.eq_false_iff.mpr fun hc => by
    rw [isDecimal_iff] at h
    rw [isSmall_iff] at hc
    omega

theorem isSmall_eq_false_of_isCapital (h : isCapital c = true) : isSmall c = false :=
  Bool.eq_false_iff.mpr fun hc => Bool.eq_false_iff.mp (isCapital_eq_false_of_isSmall hc) h

theorem isDecimal_eq_false_of_isCapital (h : isCapital c = true) : isDecimal c = false :=
  Bool.eq_false_iff.mpr fun hc => Bool.eq_false_iff.mp (isCapital_eq_false_of_isDecimal hc) h

/-! ### Runs -/

theorem stops_nil (p : Char → Bool) : Stops p [] := nofun

theorem stops_cons : Stops p (c :: s) ↔ p c = false :=
  ⟨fun h => h c rfl, fun h _ hd => Option.some.inj hd ▸ h⟩

theorem Stops.mono {q : Char → Bool} (h : Stops q t) (hpq : ∀ c, p c = true → q c = true) :
    Stops p t :=
  fun c hc => Bool.eq_false_iff.mpr fun hp => Bool.eq_false_iff.mp (h c hc) (hpq c hp)

theorem Stops.of_isPrefix (h : Stops p t) (hstart : s <+: t) : Stops p s := by
  cases s with
  | nil => exact stops_nil p
  | cons c s =>
    obtain ⟨u, rfl⟩ := hstart
    exact stops_cons.mpr (stops_cons.mp h)

theorem Stops.append_cons (h : Stops p t) (hc : p c = false) (u : List Char) :
    Stops p (t ++ c :: u) := by
  cases t with
  | nil => exact stops_cons.mpr hc
  | cons d t => exact stops_cons.mpr (stops_cons.mp h)

theorem stops_dropWhile (p : Char → Bool) (s : List Char) : Stops p (s.dropWhile p) := by
  intro c hc
  have hstop := List.head?_dropWhile_not p s
  rwa [Option.mem_def.mp hc] at hstop

theorem takeWhile_append_of_stops (hw : ∀ c ∈ w, p c = true) (ht : Stops p t) :
    (w ++ t).takeWhile p = w := by
  have hnil : t.takeWhile p = [] := by
    cases t with
    | nil => rfl
    | cons c t => rw [List.takeWhile_cons, stops_cons.mp ht]; rfl
  rw [List.takeWhile_append_of_pos hw, hnil, List.append_nil]

theorem takeWhile_of_stops (ht : Stops p t) : t.takeWhile p = [] :=
  takeWhile_append_of_stops (List.forall_mem_nil _) ht

theorem exists_run (p : Char → Bool) (s : List Char) :
    ∃ w t, s = w ++ t ∧ (∀ c ∈ w, p c = true) ∧ Stops p t :=
  ⟨s.takeWhile p, s.dropWhile p, List.takeWhile_append_dropWhile.symm,
    fun _ hc => List.mem_takeWhile_imp hc, stops_dropWhile p s⟩

/-! ### The word at the start of a label -/

/-- A text is a word where another text follows it. -/
inductive LeadingWord : (word rest : List Char) → Prop
  | digits {w t : List Char} (hne : w ≠ []) (hw : ∀ c ∈ w, isDecimal c = true)
    (ht : Stops isDecimal t) : LeadingWord w t
  | small {w t : List Char} (hne : w ≠ []) (hw : ∀ c ∈ w, isSmall c = true)
    (ht : Stops isSmall t) : LeadingWord w t
  | capitalized {c : Char} {w t : List Char} (hc : isCapital c = true) (hne : w ≠ [])
    (hw : ∀ c ∈ w, isSmall c = true) (ht : Stops isSmall t) : LeadingWord (c :: w) t
  | capitals {w t : List Char} (hne : w ≠ []) (hw : ∀ c ∈ w, isCapital c = true)
    (ht : Stops isCapital t) (ht' : Stops isSmall t) : LeadingWord w t
  /-- Capitals leave the last one to a small letter behind it. -/
  | acronym {w : List Char} {c d : Char} {t : List Char} (hne : w ≠ [])
    (hw : ∀ c ∈ w, isCapital c = true) (hc : isCapital c = true) (hd : isSmall d = true) :
    LeadingWord w (c :: d :: t)

private theorem stops_append {q : Char → Bool} (hne : w ≠ []) (hw : ∀ c ∈ w, q c = true)
    (hq : ∀ c, q c = true → p c = false) (t : List Char) : Stops p (w ++ t) := by
  cases w with
  | nil => exact absurd rfl hne
  | cons c w => exact stops_cons.mpr (hq c (hw c List.mem_cons_self))

namespace LeadingWord

theorem ne_nil (h : LeadingWord w t) : w ≠ [] := by
  cases h with
  | digits hne | small hne | capitals hne | acronym hne => exact hne
  | capitalized => exact List.cons_ne_nil _ _

/-- The word at the start of a label has the length that is looked for. -/
theorem wordLength_append (h : LeadingWord w t) : wordLength (w ++ t) = w.length := by
  cases h with
  | digits hne hw ht =>
    have hcapital : (w ++ t).takeWhile isCapital = [] :=
      takeWhile_of_stops (stops_append hne hw (fun _ => isCapital_eq_false_of_isDecimal) t)
    have hsmall : (w ++ t).takeWhile isSmall = [] :=
      takeWhile_of_stops (stops_append hne hw (fun _ => isSmall_eq_false_of_isDecimal) t)
    simp [wordLength, hcapital, hsmall, takeWhile_append_of_stops hw ht]
  | small hne hw ht =>
    have hcapital : (w ++ t).takeWhile isCapital = [] :=
      takeWhile_of_stops (stops_append hne hw (fun _ => isCapital_eq_false_of_isSmall) t)
    simp [wordLength, hcapital, takeWhile_append_of_stops hw ht, hne]
  | @capitalized c w _ hc hne hw ht =>
    have hcapital : (c :: (w ++ t)).takeWhile isCapital = [c] :=
      takeWhile_append_of_stops (w := [c]) (List.forall_mem_singleton.mpr hc)
        (stops_append hne hw (fun _ => isCapital_eq_false_of_isSmall) t)
    simp [wordLength, hcapital, takeWhile_append_of_stops hw ht, hne, Nat.add_comm]
  | capitals hne hw ht ht' =>
    simp [wordLength, takeWhile_append_of_stops hw ht, takeWhile_of_stops ht', hne]
  | @acronym w c d t hne hw hc hd =>
    have hcapital : (w ++ c :: d :: t).takeWhile isCapital = w ++ [c] := by
      rw [List.append_cons]
      refine takeWhile_append_of_stops ?_ (stops_cons.mpr (isCapital_eq_false_of_isSmall hd))
      exact List.forall_mem_append.mpr ⟨hw, List.forall_mem_singleton.mpr hc⟩
    have hdrop : (w ++ c :: d :: t).drop (w.length + 1) = d :: t := by
      rw [List.append_cons]
      exact List.drop_left' (by simp)
    simp [wordLength, hcapital, hdrop, List.takeWhile_cons_of_pos hd, hne]

end LeadingWord

theorem wordLength_cons_of_eq_false (h : isAlphanumeric c = false) (s : List Char) :
    wordLength (c :: s) = 0 := by
  simp only [isAlphanumeric, Bool.or_eq_false_iff] at h
  obtain ⟨⟨hcapital, hsmall⟩, hdecimal⟩ := h
  simp [wordLength, hcapital, hsmall, hdecimal]

/-- A word starts where a letter or a digit stands. -/
theorem exists_leadingWord (h : isAlphanumeric c = true) (s : List Char) :
    ∃ w t, c :: s = w ++ t ∧ LeadingWord w t := by
  obtain ⟨capitals, rest, hs, hcapitals, hrest⟩ := exists_run isCapital (c :: s)
  obtain ⟨small, t, rfl, hsmall, ht⟩ := exists_run isSmall rest
  rcases List.eq_nil_or_concat capitals with rfl | ⟨init, d, rfl⟩
  · by_cases hnil : small = []
    · subst hnil
      -- Neither a capital nor a small letter stands there, so it is a digit.
      rw [List.nil_append, List.nil_append] at hs
      subst hs
      have hdecimal : isDecimal c = true := by
        rcases isAlphanumeric_iff.mp h with hc | hc | hc
        · exact absurd hc (Bool.eq_false_iff.mp (stops_cons.mp hrest))
        · exact absurd hc (Bool.eq_false_iff.mp (stops_cons.mp ht))
        · exact hc
      obtain ⟨digits, t, rfl, hdigits, ht⟩ := exists_run isDecimal s
      exact ⟨c :: digits, t, rfl,
        .digits (List.cons_ne_nil c _) (List.forall_mem_cons.mpr ⟨hdecimal, hdigits⟩) ht⟩
    · exact ⟨small, t, hs, .small hnil hsmall ht⟩
  · rw [List.concat_eq_append] at hs hcapitals
    obtain ⟨hinit, hd⟩ := List.forall_mem_append.mp hcapitals
    have hd : isCapital d = true := hd d List.mem_cons_self
    cases small with
    | nil => exact ⟨init ++ [d], t, hs, .capitals (by simp) hcapitals hrest ht⟩
    | cons e small =>
      by_cases hinit' : init = []
      · subst hinit'
        exact ⟨d :: e :: small, t, hs, .capitalized hd (List.cons_ne_nil e _) hsmall ht⟩
      · have he := hsmall e List.mem_cons_self
        refine ⟨init, d :: e :: (small ++ t), ?_, .acronym hinit' hinit hd he⟩
        rw [hs, List.append_assoc]
        rfl

/-! ### Cuts -/

/-- A label is cut into words: what is neither a letter nor a digit is skipped, and a word is taken
where one starts. -/
inductive Cuts : (label : List Char) → (words : List (List Char)) → Prop
  | nil : Cuts [] []
  | skip {c : Char} (h : isAlphanumeric c = false) {s : List Char} {ws : List (List Char)}
    (hrest : Cuts s ws) : Cuts (c :: s) ws
  | word {w t : List Char} (h : LeadingWord w t) {ws : List (List Char)} (hrest : Cuts t ws) :
    Cuts (w ++ t) (w :: ws)

private theorem Cuts.splitWordsIn_eq (h : Cuts s ws) {steps : Nat} (hsteps : s.length ≤ steps) :
    splitWordsIn steps s = ws := by
  induction h generalizing steps with
  | nil => cases steps <;> rfl
  | @skip c hc s ws _ ih =>
    obtain ⟨n, rfl⟩ := Nat.exists_eq_add_of_le' (Nat.le_trans (Nat.le_add_left 1 _) hsteps)
    rw [splitWordsIn, wordLength_cons_of_eq_false hc]
    exact ih (Nat.le_of_succ_le_succ hsteps)
  | @word w t hw ws _ ih =>
    have hlength := hw.wordLength_append
    obtain ⟨c, w, rfl⟩ := List.exists_cons_of_ne_nil hw.ne_nil
    rw [List.length_append, List.length_cons] at hsteps
    obtain ⟨n, rfl⟩ := Nat.exists_eq_add_of_le' (show 1 ≤ steps by omega)
    rw [List.cons_append] at hlength ⊢
    rw [splitWordsIn, hlength, List.length_cons]
    dsimp only
    rw [List.take_left, List.drop_left, ih (by omega)]

/-- A label is cut in one way only. -/
theorem Cuts.splitWords_eq (h : Cuts s ws) : splitWords s = ws :=
  h.splitWordsIn_eq (Nat.le_refl _)

private theorem exists_cuts (s : List Char) : ∃ ws, Cuts s ws := by
  induction hn : s.length using Nat.strong_induction_on generalizing s with
  | h n ih =>
    cases s with
    | nil => exact ⟨[], .nil⟩
    | cons c s =>
      cases hc : isAlphanumeric c with
      | false =>
        obtain ⟨ws, hws⟩ := ih s.length (hn ▸ Nat.lt_succ_self _) s rfl
        exact ⟨ws, .skip hc hws⟩
      | true =>
        obtain ⟨w, t, hcut, hw⟩ := exists_leadingWord hc s
        have hlt : t.length < n := by
          rw [← hn, hcut, List.length_append]
          exact Nat.lt_add_of_pos_left (List.length_pos_iff.mpr hw.ne_nil)
        obtain ⟨ws, hws⟩ := ih t.length hlt t rfl
        exact ⟨w :: ws, hcut ▸ .word hw hws⟩

/-- A label is cut into its words. -/
theorem cuts_splitWords (s : List Char) : Cuts s (splitWords s) := by
  obtain ⟨ws, hws⟩ := exists_cuts s
  rwa [hws.splitWords_eq]

/-! ### The shapes of words -/

/-- The shapes of a word: digits, capitals, or small letters that a capital may stand before. -/
inductive IsWord : List Char → Prop
  | digits {w : List Char} (hne : w ≠ []) (hw : ∀ c ∈ w, isDecimal c = true) : IsWord w
  | capitals {w : List Char} (hne : w ≠ []) (hw : ∀ c ∈ w, isCapital c = true) : IsWord w
  | small {w : List Char} (hne : w ≠ []) (hw : ∀ c ∈ w, isSmall c = true) : IsWord w
  | capitalized {c : Char} {w : List Char} (hc : isCapital c = true) (hne : w ≠ [])
    (hw : ∀ c ∈ w, isSmall c = true) : IsWord (c :: w)

theorem LeadingWord.isWord (h : LeadingWord w t) : IsWord w := by
  cases h with
  | digits hne hw => exact .digits hne hw
  | small hne hw => exact .small hne hw
  | capitalized hc hne hw => exact .capitalized hc hne hw
  | capitals hne hw | acronym hne hw => exact .capitals hne hw

theorem Cuts.isWord (h : Cuts s ws) : ∀ w ∈ ws, IsWord w := by
  induction h with
  | nil => exact List.forall_mem_nil _
  | skip _ _ ih => exact ih
  | word hw _ ih => exact List.forall_mem_cons.mpr ⟨hw.isWord, ih⟩

namespace IsWord

theorem ne_nil (h : IsWord w) : w ≠ [] := by
  cases h with
  | digits hne | small hne | capitals hne => exact hne
  | capitalized => exact List.cons_ne_nil _ _

theorem isAlphanumeric (h : IsWord w) : ∀ c ∈ w, isAlphanumeric c = true := by
  intro d hd
  rw [isAlphanumeric_iff]
  cases h with
  | digits _ hw => exact .inr (.inr (hw d hd))
  | capitals _ hw => exact .inl (hw d hd)
  | small _ hw => exact .inr (.inl (hw d hd))
  | capitalized hc _ hw =>
    rcases List.mem_cons.mp hd with rfl | hd
    · exact .inl hc
    · exact .inr (.inl (hw d hd))

theorem leadingWord (h : IsWord w) (ht : Stops Identifier.isAlphanumeric t) : LeadingWord w t := by
  have hcapital : Stops isCapital t := ht.mono fun _ hc => isAlphanumeric_iff.mpr (.inl hc)
  have hsmall : Stops isSmall t := ht.mono fun _ hc => isAlphanumeric_iff.mpr (.inr (.inl hc))
  have hdecimal : Stops isDecimal t := ht.mono fun _ hc => isAlphanumeric_iff.mpr (.inr (.inr hc))
  cases h with
  | digits hne hw => exact .digits hne hw hdecimal
  | capitals hne hw => exact .capitals hne hw hcapital hsmall
  | small hne hw => exact .small hne hw hsmall
  | capitalized hc hne hw => exact .capitalized hc hne hw hsmall

end IsWord

/-! ### Words and separators -/

theorem splitWords_cons_of_eq_false (h : isAlphanumeric c = false) (s : List Char) :
    splitWords (c :: s) = splitWords s :=
  (Cuts.skip h (cuts_splitWords s)).splitWords_eq

theorem splitWords_of_separators (h : ∀ c ∈ t, isAlphanumeric c = false) : splitWords t = [] := by
  induction t with
  | nil => rfl
  | cons c t ih =>
    obtain ⟨hc, ht⟩ := List.forall_mem_cons.mp h
    rw [splitWords_cons_of_eq_false hc, ih ht]

/-- The words of a label that starts with a word and a separator. -/
theorem splitWords_append (hw : IsWord w) (ht : Stops isAlphanumeric t) :
    splitWords (w ++ t) = w :: splitWords t :=
  (Cuts.word (hw.leadingWord ht) (cuts_splitWords t)).splitWords_eq

end PageMarkup.Identifier
