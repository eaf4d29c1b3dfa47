import PageMarkup.Page.Outcome
import PageMarkup.Proofs.Text.Tidy

/-!
# What tidying does to lines

Tidying trims the end of each line and then shortens runs of newlines. Seen on lines, the second
step leaves out empty lines and nothing else: a newline that is cut away stands at the end of an
empty line. So the lines that are not blank stay in their order, and all that changes between two of
them is the number of blank lines, which becomes two if it was more.

## Main definitions

* `IsBlankLine`, `writtenLines` : lines of spaces and tabs, and the other lines of a text.
* `blankLinesBetween` : how many blank lines stand between two lines that are not blank, in order.
* `capLines` : the lines that stay when runs of newlines are cut.

## Main results

* `splitLines_capNewlinesAfter` : cutting runs of newlines leaves out lines.
* `capNewlinesAfter_idem`, `not_newlines_infix_capNewlinesAfter` : runs that are cut are short, and
  stay as they are.
* `tidyCode_idem_and_lines` : what tidying does to code.
-/

namespace PageMarkup.Text

/-- A line without any characters but spaces and tabs. -/
def IsBlankLine (l : Line) : Prop :=
  ∀ c ∈ l, isPadding c = true

instance (l : Line) : Decidable (IsBlankLine l) :=
  List.decidableBAll _ l

/-- The lines of a text that are not blank. -/
def writtenLines (s : List Char) : List Line :=
  (splitLines s).filter (¬ IsBlankLine ·)

/-- The numbers of blank lines right before each line that is not blank, given that `n` blank lines
stand before all of them. -/
def blankLinesBefore (n : Nat) : List Line → List Nat
  | [] => []
  | l :: ls => if IsBlankLine l then blankLinesBefore (n + 1) ls else n :: blankLinesBefore 0 ls

/-- The numbers of blank lines between each line of a text that is not blank and the next one. -/
def blankLinesBetween (s : List Char) : List Nat :=
  (blankLinesBefore 0 (splitLines s)).tail

/-- The lines that stay when runs of newlines are cut to three, given that `run` newlines stand
before them. -/
def capLines (run : Nat) : List Line → List Line
  | [] => []
  | [l] => [l]
  | l :: m :: ls =>
    if l = [] then
      if run < 3 then l :: capLines (run + 1) (m :: ls) else capLines run (m :: ls)
    else l :: capLines 1 (m :: ls)

variable {l : Line} {ls : List Line} {s : List Char} {run n : Nat}

theorem blankLinesBefore_nil (n : Nat) : blankLinesBefore n [] = [] :=
  rfl

theorem blankLinesBefore_cons (n : Nat) (l : Line) (ls : List Line) :
    blankLinesBefore n (l :: ls) =
      if IsBlankLine l then blankLinesBefore (n + 1) ls else n :: blankLinesBefore 0 ls :=
  rfl

theorem capLines_singleton (run : Nat) (l : Line) : capLines run [l] = [l] :=
  rfl

theorem capLines_cons_cons (run : Nat) (l m : Line) (ls : List Line) :
    capLines run (l :: m :: ls) =
      if l = [] then
        if run < 3 then l :: capLines (run + 1) (m :: ls) else capLines run (m :: ls)
      else l :: capLines 1 (m :: ls) :=
  rfl

/-! ### Line ends -/

theorem isBlankLine_iff : IsBlankLine l ↔ dropEndWhile isPadding l = [] :=
  List.rdropWhile_eq_nil_iff.symm

theorem isBlankLine_dropEndWhile : IsBlankLine (dropEndWhile isPadding l) ↔ IsBlankLine l := by
  rw [isBlankLine_iff, dropEndWhile_eq_self (getLast?_dropEndWhile isPadding l), isBlankLine_iff]

theorem splitLines_trimLineEnds (s : List Char) :
    splitLines (trimLineEnds s) = (splitLines s).map (dropEndWhile isPadding) := by
  refine splitLines_joinLines (mt List.map_eq_nil_iff.mp (splitLines_ne_nil s)) ?_
  rw [List.forall_mem_map]
  exact fun l hl hmem =>
    newline_not_mem_of_mem_splitLines hl ((dropEndWhile_prefix_self isPadding l).subset hmem)

theorem blankLinesBefore_map_dropEndWhile (n : Nat) (ls : List Line) :
    blankLinesBefore n (ls.map (dropEndWhile isPadding)) = blankLinesBefore n ls := by
  induction ls generalizing n with
  | nil => rfl
  | cons l ls ih => simp only [List.map_cons, blankLinesBefore_cons, isBlankLine_dropEndWhile, ih]

theorem filter_map_dropEndWhile (ls : List Line) :
    (ls.map (dropEndWhile isPadding)).filter (¬ IsBlankLine ·) =
      (ls.filter (¬ IsBlankLine ·)).map (dropEndWhile isPadding) := by
  rw [List.filter_map]
  simp only [Function.comp_def, isBlankLine_dropEndWhile]

theorem trimLineEnds_eq_self
    (h : ∀ l ∈ splitLines s, ∀ c ∈ l.getLast?, isPadding c = false) : trimLineEnds s = s := by
  rw [trimLineEnds, List.map_congr_left fun l hl => dropEndWhile_eq_self (h l hl), List.map_id',
    joinLines_splitLines]

/-! ### Lines that are left out -/

private theorem splitLines_cons {c : Char} (hc : c ≠ '\n') {cs : List Char}
    (h : splitLines cs = l :: ls) : splitLines (c :: cs) = (c :: l) :: ls := by
  obtain ⟨rfl, rfl⟩ := List.cons_eq_cons.mp h
  rw [splitLines, splitFirst, if_neg hc]

private theorem capLines_cons (run : Nat) (hls : ls ≠ []) :
    capLines run (l :: ls) =
      if l = [] then if run < 3 then l :: capLines (run + 1) ls else capLines run ls
      else l :: capLines 1 ls := by
  obtain ⟨m, ms, rfl⟩ := List.exists_cons_of_ne_nil hls
  exact capLines_cons_cons run l m ms

/-- Cutting runs of newlines leaves out empty lines: a newline that stays ends the line before it,
and one that is cut ends an empty line. -/
theorem splitLines_capNewlinesAfter (run : Nat) (s : List Char) :
    splitLines (capNewlinesAfter run s) = capLines run (splitLines s) := by
  induction s generalizing run with
  | nil => rfl
  | cons c cs ih =>
    rw [capNewlinesAfter_cons]
    by_cases hc : c = '\n'
    · subst hc
      rw [if_pos rfl, splitLines_cons_newline, capLines_cons run (splitLines_ne_nil cs), if_pos rfl]
      by_cases hrun : run < 3
      · rw [if_pos hrun, if_pos hrun, splitLines_cons_newline, ih]
      · rw [if_neg hrun, if_neg hrun, ih]
    · obtain ⟨l, ls, hls⟩ := List.exists_cons_of_ne_nil (splitLines_ne_nil cs)
      rw [if_neg hc, splitLines_cons hc hls]
      have hrest := ih 0
      rw [hls] at hrest
      cases ls with
      | nil => exact splitLines_cons hc hrest
      | cons m ms =>
        have hfirst : capLines 0 (l :: m :: ms) = l :: capLines 1 (m :: ms) := by
          rw [capLines_cons_cons, if_pos (Nat.succ_pos 2), ite_self]
        rw [capLines_cons_cons, if_neg (List.cons_ne_nil c l)]
        exact splitLines_cons hc (hrest.trans hfirst)

theorem capLines_sublist (run : Nat) (ls : List Line) : (capLines run ls).Sublist ls := by
  induction run, ls using capLines.induct with
  | case1 => exact .slnil
  | case2 run l => exact .refl _
  | case3 run m ls hrun ih =>
    rw [capLines_cons_cons, if_pos rfl, if_pos hrun]
    exact ih.cons_cons _
  | case4 run m ls hrun ih =>
    rw [capLines_cons_cons, if_pos rfl, if_neg hrun]
    exact ih.cons _
  | case5 run l m ls hl ih =>
    rw [capLines_cons_cons, if_neg hl]
    exact ih.cons_cons _

private theorem isBlankLine_nil : IsBlankLine [] :=
  List.forall_mem_nil _

theorem filter_capLines (run : Nat) (ls : List Line) :
    (capLines run ls).filter (¬ IsBlankLine ·) = ls.filter (¬ IsBlankLine ·) := by
  induction run, ls using capLines.induct with
  | case1 => rfl
  | case2 run l => rfl
  | case3 run m ls hrun ih =>
    rw [capLines_cons_cons, if_pos rfl, if_pos hrun, List.filter_cons, List.filter_cons, ih]
  | case4 run m ls hrun ih =>
    rw [capLines_cons_cons, if_pos rfl, if_neg hrun, ih]
    exact (List.filter_cons_of_neg (by simpa using isBlankLine_nil)).symm
  | case5 run l m ls hl ih =>
    rw [capLines_cons_cons, if_neg hl, List.filter_cons, List.filter_cons, ih]

/-- Among trimmed lines, blank ones before a line stay up to two. The newlines before the lines are
those of the blank lines and one more. -/
theorem blankLinesBefore_capLines (h : ∀ l ∈ ls, IsBlankLine l → l = []) (n : Nat) :
    blankLinesBefore (min n 2) (capLines (min n 2 + 1) ls) =
      (blankLinesBefore n ls).map (min · 2) := by
  induction ls generalizing n with
  | nil => rfl
  | cons l ls ih =>
    rw [List.forall_mem_cons] at h
    cases ls with
    | nil =>
      by_cases hl : IsBlankLine l <;>
        simp [capLines_singleton, blankLinesBefore_cons, blankLinesBefore_nil, hl]
    | cons m ms =>
      rw [capLines_cons_cons]
      by_cases hl : IsBlankLine l
      · have hnil : l = [] := h.1 hl
        have hnext := ih h.2 (n + 1)
        rw [blankLinesBefore_cons, if_pos hl, if_pos hnil, ← hnext]
        by_cases hn : n < 2
        · have hmin : min n 2 = n ∧ min (n + 1) 2 = n + 1 := by omega
          rw [hmin.1, hmin.2, if_pos (by omega), blankLinesBefore_cons, if_pos hl]
        · have hmin : min n 2 = 2 ∧ min (n + 1) 2 = 2 := by omega
          rw [hmin.1, hmin.2, if_neg (by omega)]
      · have hne : l ≠ [] := fun hnil => hl (hnil ▸ isBlankLine_nil)
        rw [if_neg hne, blankLinesBefore_cons, if_neg hl, blankLinesBefore_cons, if_neg hl]
        exact congrArg (min n 2 :: ·) (ih h.2 0)

theorem tail_blankLinesBefore_capLines (h : ∀ l ∈ ls, IsBlankLine l → l = []) (run k n : Nat) :
    (blankLinesBefore k (capLines run ls)).tail =
      ((blankLinesBefore n ls).tail).map (min · 2) := by
  induction ls generalizing run k n with
  | nil => rfl
  | cons l ls ih =>
    rw [List.forall_mem_cons] at h
    cases ls with
    | nil =>
      by_cases hl : IsBlankLine l <;>
        simp [capLines_singleton, blankLinesBefore_cons, blankLinesBefore_nil, hl]
    | cons m ms =>
      rw [capLines_cons_cons, blankLinesBefore_cons]
      by_cases hl : IsBlankLine l
      · rw [if_pos hl, if_pos (h.1 hl)]
        by_cases hrun : run < 3
        · rw [if_pos hrun, blankLinesBefore_cons, if_pos hl, ih h.2]
        · rw [if_neg hrun, ih h.2]
      · have hne : l ≠ [] := fun hnil => hl (hnil ▸ isBlankLine_nil)
        rw [if_neg hl, if_neg hne, blankLinesBefore_cons, if_neg hl, List.tail_cons, List.tail_cons]
        exact blankLinesBefore_capLines h.2 0

/-! ### Runs of newlines -/

/-- A run of newlines that is cut is not cut again. -/
theorem capNewlinesAfter_idem (run : Nat) (s : List Char) :
    capNewlinesAfter run (capNewlinesAfter run s) = capNewlinesAfter run s := by
  induction s generalizing run with
  | nil => rfl
  | cons c cs ih =>
    rw [capNewlinesAfter_cons]
    by_cases hc : c = '\n'
    · by_cases hrun : run < 3
      · rw [if_pos hc, if_pos hrun, capNewlinesAfter_cons, if_pos hc, if_pos hrun, ih]
      · rw [if_pos hc, if_neg hrun, ih]
    · rw [if_neg hc, capNewlinesAfter_cons, if_neg hc, ih]

private theorem infix_of_infix_append_cons {c : Char} {p t : List Char} (hc : c ∉ p)
    (h : p <:+: s ++ c :: t) : p <:+: s ∨ p <:+: t := by
  obtain ⟨u, v, huv⟩ := h
  rw [List.append_assoc, List.append_eq_append_iff] at huv
  rcases huv with ⟨w, rfl, hw⟩ | ⟨w, rfl, hw⟩
  · rcases List.append_eq_append_iff.mp hw with ⟨z, rfl, -⟩ | ⟨z, rfl, hz⟩
    · exact .inl ⟨u, z, List.append_assoc ..⟩
    · cases z with
      | nil => exact .inl ⟨u, [], by simp⟩
      | cons d ds =>
        obtain ⟨rfl, -⟩ := List.cons_eq_cons.mp hz
        exact absurd (List.mem_append_right w List.mem_cons_self) hc
  · cases w with
    | nil =>
      cases p with
      | nil => exact .inl (List.nil_infix)
      | cons d ds =>
        obtain ⟨rfl, -⟩ := List.cons_eq_cons.mp hw
        exact absurd List.mem_cons_self hc
    | cons d ds =>
      obtain ⟨-, rfl⟩ := List.cons_eq_cons.mp hw
      exact .inr ⟨ds, v, List.append_assoc ..⟩

/-- No more than three newlines stand in a row, those before the text included. -/
theorem not_newlines_infix_capNewlinesAfter (hrun : run ≤ 3) (s : List Char) :
    ¬ List.replicate 4 '\n' <:+: List.replicate run '\n' ++ capNewlinesAfter run s := by
  induction s generalizing run with
  | nil =>
    intro h
    have hlength := h.length_le
    simp [capNewlinesAfter] at hlength
    omega
  | cons c cs ih =>
    rw [capNewlinesAfter_cons]
    by_cases hc : c = '\n'
    · subst hc
      rw [if_pos rfl]
      by_cases hlt : run < 3
      · rw [if_pos hlt, List.append_cons, ← List.replicate_succ']
        exact ih hlt
      · rw [if_neg hlt]
        exact ih hrun
    · rw [if_neg hc]
      intro h
      rcases infix_of_infix_append_cons (fun hmem => hc (List.eq_of_mem_replicate hmem)) h
        with h | h
      · have hlength := h.length_le
        simp only [List.length_replicate] at hlength
        omega
      · exact ih (Nat.zero_le 3) h

/-! ### Tidy texts -/

theorem splitLines_tidy (s : List Char) :
    splitLines (tidy s) = capLines 0 ((splitLines s).map (dropEndWhile isPadding)) := by
  rw [tidy, capNewlines, splitLines_capNewlinesAfter, splitLines_trimLineEnds]

theorem getLast?_of_mem_splitLines_tidy (hl : l ∈ splitLines (tidy s)) :
    ∀ c ∈ l.getLast?, isPadding c = false := by
  rw [splitLines_tidy] at hl
  obtain ⟨m, -, rfl⟩ := List.mem_map.mp ((capLines_sublist _ _).subset hl)
  exact getLast?_dropEndWhile isPadding m

theorem tidy_idem (s : List Char) : tidy (tidy s) = tidy s := by
  have htrim : trimLineEnds (tidy s) = tidy s :=
    trimLineEnds_eq_self fun l hl => getLast?_of_mem_splitLines_tidy hl
  calc tidy (tidy s) = capNewlines (tidy s) := by rw [tidy, htrim]
    _ = tidy s := capNewlinesAfter_idem 0 _

theorem writtenLines_tidy (s : List Char) :
    writtenLines (tidy s) = (writtenLines s).map (dropEndWhile isPadding) := by
  rw [writtenLines, splitLines_tidy, filter_capLines, filter_map_dropEndWhile, writtenLines]

theorem blankLinesBetween_tidy (s : List Char) :
    blankLinesBetween (tidy s) = (blankLinesBetween s).map (min · 2) := by
  have htrimmed : ∀ l ∈ (splitLines s).map (dropEndWhile isPadding), IsBlankLine l → l = [] := by
    rw [List.forall_mem_map]
    exact fun l _ hblank => isBlankLine_iff.mp (isBlankLine_dropEndWhile.mp hblank)
  rw [blankLinesBetween, splitLines_tidy, tail_blankLinesBefore_capLines htrimmed 0 0 0,
    blankLinesBefore_map_dropEndWhile, blankLinesBetween]

end PageMarkup.Text

namespace PageMarkup

open Text (isPadding dropEndWhile splitLines writtenLines blankLinesBetween)

/-- Tidying twice is tidying once. In tidy code no line ends in a space or a tab and no four
newlines stand in a row. Its lines that are not blank are those of the code with their ends trimmed,
in their order, and between two of them stand as many blank lines as in the code, or two if there
are more. -/
theorem tidyCode_idem_and_lines (code : String) :
    tidyCode (tidyCode code) = tidyCode code ∧
      (∀ l ∈ splitLines (tidyCode code).toList, ∀ c ∈ l.getLast?, isPadding c = false) ∧
      ¬ List.replicate 4 '\n' <:+: (tidyCode code).toList ∧
      writtenLines (tidyCode code).toList =
        (writtenLines code.toList).map (dropEndWhile isPadding) ∧
      blankLinesBetween (tidyCode code).toList =
        (blankLinesBetween code.toList).map (min · 2) := by
  have hlist : (tidyCode code).toList = Text.tidy code.toList := String.toList_ofList
  rw [hlist]
  refine ⟨?_, fun l hl => Text.getLast?_of_mem_splitLines_tidy hl, ?_, Text.writtenLines_tidy _,
    Text.blankLinesBetween_tidy _⟩
  · rw [tidyCode, hlist, Text.tidy_idem, tidyCode]
  · exact Text.not_newlines_infix_capNewlinesAfter (Nat.zero_le 3) _

/-- Of three blank lines between two others one goes, and blanks at line ends go. -/
example : tidyCode "a \n\t\n\n \nb\n\nc" = "a\n\n\nb\n\nc" := by decide +kernel

end PageMarkup
