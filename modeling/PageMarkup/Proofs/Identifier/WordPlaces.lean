import PageMarkup.Proofs.Identifier.Words

/-!
# Where the words of a label stand

The words of a label are pieces of it with separators between them, so nothing but separators is
lost. A cut of a label may be taken apart at each of its words: the text before the word is cut into
the words before it, and the text behind it into the words behind it. It may also be put together
from two cuts where a capital stands before a small letter, for a word always starts there.

## Main results

* `Cuts.flatten_eq` : the words of a label have its letters and digits.
* `Cuts.exists_place` : a cut is taken apart at a word.
* `splitWords_append_capital` : a capital before a small letter starts a word.
* `splitWords_lossless` : what the words of a label keep.
-/

namespace PageMarkup.Identifier

variable {c d : Char} {s t u w : List Char} {ws ws' : List (List Char)}

/-! ### Words and what follows them -/

namespace LeadingWord

theorem stops_isSmall (h : LeadingWord w t) (hcapitals : ∀ c ∈ w, isCapital c = true) :
    Stops isSmall t := by
  cases h with
  | digits hne hw =>
    obtain ⟨c, hc⟩ := List.exists_mem_of_ne_nil _ hne
    have hdecimal := isDecimal_eq_false_of_isCapital (hcapitals c hc)
    rw [hw c hc] at hdecimal
    cases hdecimal
  | small _ _ ht | capitalized _ _ _ ht | capitals _ _ _ ht => exact ht
  | acronym _ _ hc => exact stops_cons.mpr (isSmall_eq_false_of_isCapital hc)

theorem capital_takeWhile (hc : isCapital c = true) (hd : isSmall d = true) (t : List Char) :
    LeadingWord (c :: d :: t.takeWhile isSmall) (t.dropWhile isSmall) := by
  refine .capitalized hc (List.cons_ne_nil d _) ?_ (stops_dropWhile isSmall t)
  exact List.forall_mem_cons.mpr ⟨hd, fun _ h => List.mem_takeWhile_imp h⟩

/-- A word stays one when a capital and a small letter are put behind what follows it. A word of
capitals that nothing followed stands before the capital then. -/
theorem append_capital (h : LeadingWord w t) (hc : isCapital c = true) (hd : isSmall d = true)
    (u : List Char) : LeadingWord w (t ++ c :: d :: u) := by
  cases h with
  | digits hne hw ht =>
    exact .digits hne hw (ht.append_cons (isDecimal_eq_false_of_isCapital hc) _)
  | small hne hw ht =>
    exact .small hne hw (ht.append_cons (isSmall_eq_false_of_isCapital hc) _)
  | capitalized hc' hne hw ht =>
    exact .capitalized hc' hne hw (ht.append_cons (isSmall_eq_false_of_isCapital hc) _)
  | capitals hne hw ht ht' =>
    cases t with
    | nil => exact .acronym hne hw hc hd
    | cons e t =>
      exact .capitals hne hw (stops_cons.mpr (stops_cons.mp ht))
        (stops_cons.mpr (stops_cons.mp ht'))
  | acronym hne hw hc' hd' => exact .acronym hne hw hc' hd'

/-- A word stays one when the end of what follows it is taken away, but for a capital that would
lose the small letter behind it. -/
theorem of_isPrefix (h : LeadingWord w t) (hstart : s <+: t)
    (hcapital : ∀ c d u, isCapital c = true → isSmall d = true → t = c :: d :: u → s ≠ [c]) :
    LeadingWord w s := by
  cases h with
  | digits hne hw ht => exact .digits hne hw (ht.of_isPrefix hstart)
  | small hne hw ht => exact .small hne hw (ht.of_isPrefix hstart)
  | capitalized hc hne hw ht => exact .capitalized hc hne hw (ht.of_isPrefix hstart)
  | capitals hne hw ht ht' =>
    exact .capitals hne hw (ht.of_isPrefix hstart) (ht'.of_isPrefix hstart)
  | @acronym w c d u hne hw hc hd =>
    rcases s with _ | ⟨e, _ | ⟨e', s⟩⟩
    · exact .capitals hne hw (stops_nil _) (stops_nil _)
    · obtain ⟨rfl, -⟩ := List.cons_prefix_cons.mp hstart
      exact absurd rfl (hcapital e d u hc hd rfl)
    · obtain ⟨rfl, htail⟩ := List.cons_prefix_cons.mp hstart
      obtain ⟨rfl, -⟩ := List.cons_prefix_cons.mp htail
      exact .acronym hne hw hc hd

end LeadingWord

/-! ### Cuts put together and taken apart -/

namespace Cuts

/-- The words of a label have its letters and digits, in their order. -/
theorem flatten_eq (h : Cuts s ws) : ws.flatten = s.filter isAlphanumeric := by
  induction h with
  | nil => rfl
  | skip hc _ ih => rw [ih, List.filter_cons_of_neg (Bool.eq_false_iff.mp hc)]
  | word hw _ ih =>
    rw [List.flatten_cons, ih, List.filter_append,
      List.filter_eq_self.mpr hw.isWord.isAlphanumeric]

/-- Cuts of two labels are a cut of both together if the second one starts with a capital and a
small letter. -/
theorem append_capital (h : Cuts s ws) (hc : isCapital c = true) (hd : isSmall d = true)
    (h' : Cuts (c :: d :: t) ws') : Cuts (s ++ c :: d :: t) (ws ++ ws') := by
  induction h with
  | nil => exact h'
  | skip hsep _ ih => exact .skip hsep ih
  | word hw _ ih =>
    rw [List.append_assoc]
    exact .word (hw.append_capital hc hd t) ih

end Cuts

/-- A capital before a small letter starts a word, with all the small letters behind it. The words
before it are those of the text before it. -/
theorem splitWords_append_capital (hc : isCapital c = true) (hd : isSmall d = true)
    (s t : List Char) :
    splitWords (s ++ c :: d :: t) =
      splitWords s ++ (c :: d :: t.takeWhile isSmall) :: splitWords (t.dropWhile isSmall) := by
  refine ((cuts_splitWords s).append_capital hc hd ?_).splitWords_eq
  have hcut := Cuts.word (LeadingWord.capital_takeWhile hc hd t) (cuts_splitWords _)
  rwa [List.cons_append, List.cons_append, List.takeWhile_append_dropWhile] at hcut

private theorem splitWords_capital (hc : isCapital c = true) : splitWords [c] = [[c]] := by
  have hw : IsWord [c] :=
    .capitals (List.cons_ne_nil c []) (List.forall_mem_singleton.mpr hc)
  exact splitWords_append hw (stops_nil _)

/-- A cut is taken apart at a word: the words before it are those of the text before it, and the
words behind it are those of the text behind it. -/
theorem Cuts.exists_place {before after : List (List Char)} (h : Cuts s (before ++ w :: after)) :
    ∃ front back, s = front ++ w ++ back ∧ Cuts front before ∧ Cuts back after ∧
      LeadingWord w back := by
  generalize hws : before ++ w :: after = ws at h
  induction h generalizing before with
  | nil => cases before <;> cases hws
  | @skip c hc s ws _ ih =>
    obtain ⟨front, back, rfl, hfront, hback, hw⟩ := ih hws
    exact ⟨c :: front, back, rfl, .skip hc hfront, hback, hw⟩
  | @word w₀ t hw₀ ws hrest ih =>
    cases before with
    | nil =>
      obtain ⟨rfl, rfl⟩ := List.cons_eq_cons.mp hws
      exact ⟨[], t, rfl, .nil, hrest, hw₀⟩
    | cons b before =>
      obtain ⟨rfl, htail⟩ := List.cons_eq_cons.mp hws
      obtain ⟨front, back, ht, hfront, hback, hw⟩ := ih htail
      refine ⟨b ++ front, back, by rw [ht]; simp only [List.append_assoc], .word ?_ hfront,
        hback, hw⟩
      refine hw₀.of_isPrefix ⟨w ++ back, by rw [ht, List.append_assoc]⟩ ?_
      -- A capital alone cannot be the text before the word: it would have been in that word.
      rintro c d u hc hd hcons rfl
      have hwords := hrest.splitWords_eq
      rw [← htail, ← hfront.splitWords_eq, splitWords_capital hc, hcons,
        ← List.nil_append (c :: d :: u), splitWords_append_capital hc hd] at hwords
      cases hwords

/-- **Word splitting loses nothing.** The words of a label, put together, are its letters and digits
in their order, and each of them has the shape of a word. A word stands in one piece in its label:
the words of the text before it are the words before it, and the words of the text behind it are the
words behind it. After a word of capitals the label does not go on with a small letter, because a
capital before a small letter starts a word. -/
theorem splitWords_lossless (s : List Char) :
    (splitWords s).flatten = s.filter isAlphanumeric ∧
      (∀ w ∈ splitWords s, IsWord w) ∧
      (∀ before w after, splitWords s = before ++ w :: after →
        ∃ front back, s = front ++ w ++ back ∧ splitWords front = before ∧
          splitWords back = after ∧ ((∀ c ∈ w, isCapital c = true) → Stops isSmall back)) ∧
      ∀ front c d back, isCapital c = true → isSmall d = true → s = front ++ c :: d :: back →
        splitWords s = splitWords front ++
          (c :: d :: back.takeWhile isSmall) :: splitWords (back.dropWhile isSmall) := by
  have hcut := cuts_splitWords s
  refine ⟨hcut.flatten_eq, hcut.isWord, ?_, ?_⟩
  · intro before w after hws
    rw [hws] at hcut
    obtain ⟨front, back, hs, hfront, hback, hw⟩ := hcut.exists_place
    exact ⟨front, back, hs, hfront.splitWords_eq, hback.splitWords_eq, hw.stops_isSmall⟩
  · rintro front c d back hc hd rfl
    exact splitWords_append_capital hc hd front back

/-- Capitals leave the last one to the small letters behind it, and a run of them before a digit
keeps it. -/
example : splitWords "HTMLBlock-2 toJSON5".toList =
    ["HTML", "Block", "2", "to", "JSON", "5"].map String.toList := by
  decide

end PageMarkup.Identifier
