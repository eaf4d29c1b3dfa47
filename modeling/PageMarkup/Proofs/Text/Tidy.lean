import Mathlib.Data.List.Chain
import Mathlib.Data.List.DropRight
import PageMarkup.Text.Lines

/-!
# Texts that are tidy already

Tidying drops spaces and tabs at the end of lines and shortens runs of blank lines. A line is neat
if its last character stays, so there is nothing to drop; an empty line between neat ones makes no
run. A text whose lines are neat, but for such empty ones, is left as it is.

## Main definitions

* `IsSolid` : texts without spaces, tabs and newlines.
* `Neat`, `NeatText` : lines with nothing to drop at their end, and texts of such lines.

## Main results

* `getLast?_dropEndWhile` : no text ends in what was dropped from its end.
* `Neat.append`, `Neat.padLine` : lines with something put before them.
* `tidy_joinLines` : lines that are tidy already.
* `NeatText.tidy_eq`, `NeatText.tidy_apart_eq` : texts that are tidy already, with an empty line in
  them or not.
-/

namespace PageMarkup.Text

/-! ### Ends of texts -/

theorem dropEndWhile_prefix_self (p : Char → Bool) (s : List Char) : dropEndWhile p s <+: s :=
  List.rdropWhile_prefix p s

/-- What is left of a text without an ending of some characters ends in none of them. -/
theorem getLast?_dropEndWhile (p : Char → Bool) (s : List Char) :
    ∀ c ∈ (dropEndWhile p s).getLast?, p c = false := by
  intro c hc
  rw [dropEndWhile, List.getLast?_reverse] at hc
  simpa [Option.mem_def.mp hc] using List.head?_dropWhile_not p s.reverse

theorem dropEndWhile_eq_self {p : Char → Bool} {s : List Char}
    (h : ∀ c ∈ s.getLast?, p c = false) : dropEndWhile p s = s := by
  cases hlast : s.getLast? with
  | none => rw [List.getLast?_eq_none_iff.mp hlast]; rfl
  | some c =>
    obtain ⟨t, rfl⟩ := List.getLast?_eq_some_iff.mp hlast
    exact dropEndWhile_append_singleton (h c hlast)

/-! ### Neat lines -/

/-- A text without spaces, tabs and newlines. -/
def IsSolid (s : List Char) : Prop :=
  ∀ c ∈ s, isPadding c = false ∧ c ≠ '\n'

instance (s : List Char) : Decidable (IsSolid s) :=
  List.decidableBAll _ s

/-- A line whose last character is neither a space nor a tab. -/
def Neat (l : Line) : Prop :=
  '\n' ∉ l ∧ ∃ c ∈ l.getLast?, isPadding c = false

instance (l : Line) : Decidable (Neat l) :=
  have : Decidable (∃ c ∈ l.getLast?, isPadding c = false) := Option.decidableExistsMem _
  instDecidableAnd

variable {l : Line} {s t : List Char}

theorem isSolid_append : IsSolid (s ++ t) ↔ IsSolid s ∧ IsSolid t :=
  List.forall_mem_append

theorem isSolid_cons {c : Char} :
    IsSolid (c :: s) ↔ (isPadding c = false ∧ c ≠ '\n') ∧ IsSolid s :=
  List.forall_mem_cons

theorem isSolid_of_lt (h : ∀ c ∈ s, 0x20 < c.toNat) : IsSolid s := by
  intro c hc
  have hlt := h c hc
  have hne : ∀ d : Char, d.toNat ≤ 0x20 → c ≠ d := by
    rintro d hd rfl
    omega
  exact ⟨by simp [isPadding, hne ' ' (by decide), hne '\t' (by decide)], hne '\n' (by decide)⟩

theorem IsSolid.newline (h : IsSolid s) : '\n' ∉ s :=
  fun hmem => (h _ hmem).2 rfl

theorem IsSolid.neat (h : IsSolid s) (hne : s ≠ []) : Neat s :=
  ⟨h.newline, s.getLast hne, List.getLast?_eq_getLast_of_ne_nil hne,
    (h _ (List.getLast_mem hne)).1⟩

namespace Neat

theorem ne_nil (h : Neat l) : l ≠ [] := by
  rintro rfl
  obtain ⟨-, c, hc, -⟩ := h
  cases hc

theorem newline (h : Neat l) : '\n' ∉ l :=
  h.1

/-- A neat line behind another text is neat. -/
theorem append (h : Neat l) (hs : '\n' ∉ s) : Neat (s ++ l) := by
  obtain ⟨hl, c, hlast, hc⟩ := h
  refine ⟨fun hmem => (List.mem_append.mp hmem).elim hs hl, c, ?_, hc⟩
  rw [List.getLast?_append, Option.mem_def.mp hlast]
  rfl

/-- A neat line stays neat when it is indented. -/
theorem padLine (h : Neat l) (width : Nat) : Neat (Text.padLine width l) := by
  unfold Text.padLine
  split
  · exact h
  · exact h.append fun hmem => absurd (List.eq_of_mem_replicate hmem) (by decide)

theorem dropEndWhile_eq (h : Neat l) : dropEndWhile isPadding l = l := by
  obtain ⟨-, c, hlast, hc⟩ := h
  exact dropEndWhile_eq_self fun d hd => Option.mem_unique hlast hd ▸ hc

end Neat

/-! ### Lines that are tidy already -/

theorem capNewlinesAfter_cons (run : Nat) (c : Char) (cs : List Char) :
    capNewlinesAfter run (c :: cs) =
      if c = '\n' then
        if run < 3 then c :: capNewlinesAfter (run + 1) cs else capNewlinesAfter run cs
      else c :: capNewlinesAfter 0 cs :=
  rfl

private theorem capNewlinesAfter_append (run : Nat) (hne : l ≠ []) (hl : '\n' ∉ l) :
    capNewlinesAfter run (l ++ t) = l ++ capNewlinesAfter 0 t := by
  induction l generalizing run with
  | nil => exact absurd rfl hne
  | cons c cs ih =>
    rw [List.mem_cons, not_or] at hl
    rw [List.cons_append, capNewlinesAfter_cons, if_neg (Ne.symm hl.1), List.cons_append]
    cases cs with
    | nil => rfl
    | cons d ds => rw [ih 0 (List.cons_ne_nil d ds) hl.2]

/-- Lines without two empty ones in a row have no long run of newlines. The run before them is at
most a line end and an empty line, and no more than a line end before an empty line. -/
private theorem capNewlinesAfter_joinLines {ls : List Line} (hlines : ∀ l ∈ ls, '\n' ∉ l)
    (hgaps : ls.IsChain fun a b => a ≠ [] ∨ b ≠ []) {run : Nat} (hrun : run ≤ 2)
    (hempty : ls.head? = some [] → run ≤ 1) :
    capNewlinesAfter run (joinLines ls) = joinLines ls := by
  induction ls generalizing run with
  | nil => rfl
  | cons l ls ih =>
    rw [List.forall_mem_cons] at hlines
    cases ls with
    | nil =>
      cases l with
      | nil => rfl
      | cons c cs =>
        have hline : capNewlinesAfter run (c :: cs ++ []) = c :: cs ++ capNewlinesAfter 0 [] :=
          capNewlinesAfter_append run (List.cons_ne_nil c cs) hlines.1
        simpa [joinLines, capNewlinesAfter] using hline
    | cons m ms =>
      obtain ⟨hpair, hrest⟩ := List.isChain_cons_cons.mp hgaps
      rw [joinLines]
      cases l with
      | nil =>
        have hrun := hempty rfl
        have hm : m ≠ [] := hpair.resolve_left (not_not_intro rfl)
        rw [List.nil_append, capNewlinesAfter_cons, if_pos rfl, if_pos (by omega),
          ih hlines.2 hrest (by omega) fun hhead => absurd (Option.some.inj hhead) hm]
      | cons c cs =>
        rw [capNewlinesAfter_append run (List.cons_ne_nil c cs) hlines.1, capNewlinesAfter_cons,
          if_pos rfl, if_pos (by omega), ih hlines.2 hrest (by omega) fun _ => Nat.le_refl 1]

/-- Lines that are empty or neat, without two empty ones in a row, make a text that tidying leaves
as it is. -/
theorem tidy_joinLines {ls : List Line} (h : ∀ l ∈ ls, l = [] ∨ Neat l)
    (hgaps : ls.IsChain fun a b => a ≠ [] ∨ b ≠ []) : tidy (joinLines ls) = joinLines ls := by
  have hlines : ∀ l ∈ ls, '\n' ∉ l := by
    intro l hl
    rcases h l hl with rfl | hneat
    · exact List.not_mem_nil
    · exact hneat.1
  have htrim : ∀ l ∈ ls, dropEndWhile isPadding l = l := by
    intro l hl
    rcases h l hl with rfl | hneat
    · rfl
    · exact hneat.dropEndWhile_eq
  have hends : trimLineEnds (joinLines ls) = joinLines ls := by
    cases ls with
    | nil => rfl
    | cons l ls =>
      rw [trimLineEnds, splitLines_joinLines (List.cons_ne_nil l ls) hlines,
        List.map_congr_left htrim, List.map_id']
  rw [tidy, hends]
  exact capNewlinesAfter_joinLines hlines hgaps (Nat.zero_le 2) fun _ => Nat.zero_le 1

theorem joinLines_eq_intercalate (ls : List Line) : joinLines ls = List.intercalate ['\n'] ls := by
  induction ls with
  | nil => rfl
  | cons l ls ih =>
    cases ls with
    | nil => rw [joinLines, List.intercalate_singleton]
    | cons m ms => rw [joinLines, ih, List.intercalate_cons_cons, List.append_assoc]; rfl

theorem joinLines_append {ls ms : List Line} (hl : ls ≠ []) (hm : ms ≠ []) :
    joinLines (ls ++ ms) = joinLines ls ++ '\n' :: joinLines ms := by
  induction ls with
  | nil => exact absurd rfl hl
  | cons l ls ih =>
    cases ls with
    | nil =>
      obtain ⟨m, ms, rfl⟩ := List.exists_cons_of_ne_nil hm
      rfl
    | cons k ks =>
      rw [List.cons_append, List.cons_append, joinLines, joinLines, ← List.cons_append,
        ih (List.cons_ne_nil k ks), List.append_assoc, List.cons_append]

/-! ### Texts of neat lines -/

/-- A text of one neat line or of several. -/
def NeatText (t : List Char) : Prop :=
  ∃ ls, ls ≠ [] ∧ (∀ l ∈ ls, Neat l) ∧ joinLines ls = t

theorem Neat.neatText (h : Neat l) : NeatText l :=
  ⟨[l], List.cons_ne_nil _ _, List.forall_mem_singleton.mpr h, rfl⟩

private theorem isChain_of_neat {ls : List Line} (h : ∀ l ∈ ls, Neat l) :
    ls.IsChain fun a b => a ≠ [] ∨ b ≠ [] :=
  (List.pairwise_of_forall_mem_list fun a ha _ _ => Or.inl (h a ha).ne_nil).isChain

namespace NeatText

theorem below (hs : NeatText s) (ht : NeatText t) : NeatText (s ++ '\n' :: t) := by
  obtain ⟨ls, hls, hneat, rfl⟩ := hs
  obtain ⟨ms, hms, hneat', rfl⟩ := ht
  exact ⟨ls ++ ms, List.append_ne_nil_of_left_ne_nil hls ms,
    List.forall_mem_append.mpr ⟨hneat, hneat'⟩, joinLines_append hls hms⟩

/-- A text of neat lines is tidy already. -/
theorem tidy_eq (h : NeatText t) : tidy t = t := by
  obtain ⟨ls, -, hneat, rfl⟩ := h
  exact tidy_joinLines (fun l hl => .inr (hneat l hl)) (isChain_of_neat hneat)

/-- So are two texts of neat lines with an empty line between them. -/
theorem tidy_apart_eq (hs : NeatText s) (ht : NeatText t) :
    tidy (s ++ '\n' :: '\n' :: t) = s ++ '\n' :: '\n' :: t := by
  obtain ⟨ls, hls, hneat, rfl⟩ := hs
  obtain ⟨ms, hms, hneat', rfl⟩ := ht
  have hrest : joinLines ([] :: ms) = '\n' :: joinLines ms := by
    obtain ⟨m, ms, rfl⟩ := List.exists_cons_of_ne_nil hms
    rfl
  rw [← hrest, ← joinLines_append hls (List.cons_ne_nil _ _)]
  refine tidy_joinLines (fun l hl => ?_) (List.isChain_append.mpr ⟨isChain_of_neat hneat, ?_, ?_⟩)
  · rcases List.mem_append.mp hl with hl | hl
    · exact .inr (hneat l hl)
    · exact (List.mem_cons.mp hl).imp_right (hneat' l)
  · refine List.isChain_cons.mpr ⟨fun m hm => .inr ?_, isChain_of_neat hneat'⟩
    exact (hneat' m (List.mem_of_mem_head? hm)).ne_nil
  · exact fun l hl _ _ => .inl (hneat l (List.mem_of_mem_getLast? hl)).ne_nil

end NeatText

end PageMarkup.Text
