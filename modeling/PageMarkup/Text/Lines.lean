import PageMarkup.Text.Blank

/-!
# Lines of a text

A text is cut into lines at every newline character and at no other line break, and lines are
joined by single newlines. The two operations undo each other.

## Main definitions

* `splitLines`, `joinLines` : cutting and joining.
* `padLine`, `indentBlock` : indentation of the lines of a block.
* `tidy` : a text without spaces and tabs at line ends and without long runs of blank lines.

## Main results

* `joinLines_splitLines` : joining the lines of a text gives the text.
* `splitLines_joinLines` : cutting joined lines gives the lines.
-/

namespace PageMarkup.Text

/-- One line of text, without its newline. -/
abbrev Line := List Char

/-- The first line of a text and the lines after it. -/
def splitFirst : List Char → Line × List Line
  | [] => ([], [])
  | c :: cs =>
    let r := splitFirst cs
    if c = '\n' then ([], r.1 :: r.2) else (c :: r.1, r.2)

/-- The lines of a text: at least one, and one more than it has newlines. -/
def splitLines (s : List Char) : List Line :=
  let r := splitFirst s
  r.1 :: r.2

/-- Lines joined by newlines. -/
def joinLines : List Line → List Char
  | [] => []
  | [l] => l
  | l :: m :: ls => l ++ '\n' :: joinLines (m :: ls)

/-- The line behind `width` spaces; an empty line stays empty. -/
def padLine (width : Nat) (l : Line) : Line :=
  if l.isEmpty then l else List.replicate width ' ' ++ l

/-- A block with `width` spaces before each of its lines that is not blank throughout. -/
def indentBlock (width : Nat) (s : List Char) : List Char :=
  joinLines <| (splitLines s).map fun l =>
    if (strip l).isEmpty then l else List.replicate width ' ' ++ l

/-- The two characters that do not stay at the end of a line. -/
def isPadding (c : Char) : Bool :=
  c == ' ' || c == '\t'

/-- A text without spaces and tabs at the end of its lines. -/
def trimLineEnds (s : List Char) : List Char :=
  joinLines ((splitLines s).map (dropEndWhile isPadding))

/-- A text with at most three newlines in a row, given that `run` newlines stand before it. -/
def capNewlinesAfter (run : Nat) : List Char → List Char
  | [] => []
  | c :: cs =>
    if c = '\n' then
      if run < 3 then c :: capNewlinesAfter (run + 1) cs else capNewlinesAfter run cs
    else c :: capNewlinesAfter 0 cs

/-- A text in which runs of four newlines and more are cut to three. -/
def capNewlines (s : List Char) : List Char :=
  capNewlinesAfter 0 s

/-- A text without blanks at line ends and with at most two blank lines in a row. -/
def tidy (s : List Char) : List Char :=
  capNewlines (trimLineEnds s)

theorem splitLines_cons_newline (cs : List Char) :
    splitLines ('\n' :: cs) = [] :: splitLines cs := rfl

theorem splitLines_ne_nil (s : List Char) : splitLines s ≠ [] := by
  simp [splitLines]

/-- Joining the lines of a text gives the text back. -/
theorem joinLines_splitLines (s : List Char) : joinLines (splitLines s) = s := by
  induction s with
  | nil => rfl
  | cons c cs ih =>
    by_cases h : c = '\n'
    · subst h
      rw [splitLines_cons_newline]
      simpa [splitLines, joinLines] using ih
    · simp only [splitLines, splitFirst, h, if_false] at ih ⊢
      cases hr : (splitFirst cs).2 with
      | nil => simpa [joinLines, hr] using ih
      | cons l ls => simpa [joinLines, hr] using ih

theorem splitFirst_append {l : Line} (h : '\n' ∉ l) (s : List Char) :
    splitFirst (l ++ s) = (l ++ (splitFirst s).1, (splitFirst s).2) := by
  induction l with
  | nil => rfl
  | cons c cs ih =>
    simp only [List.mem_cons, not_or] at h
    have hc : c ≠ '\n' := fun e => h.1 e.symm
    simp [splitFirst, hc, ih h.2]

/-- Cutting joined lines gives the lines back. -/
theorem splitLines_joinLines {ls : List Line} (hne : ls ≠ []) (h : ∀ l ∈ ls, '\n' ∉ l) :
    splitLines (joinLines ls) = ls := by
  induction ls with
  | nil => exact absurd rfl hne
  | cons l ls ih =>
    have hl : '\n' ∉ l := h l List.mem_cons_self
    cases ls with
    | nil =>
      have := splitFirst_append hl []
      simp only [List.append_nil] at this
      simp [splitLines, joinLines, this, splitFirst]
    | cons m ms =>
      have hrec := ih (by simp) fun x hx => h x (List.mem_cons_of_mem _ hx)
      simp only [joinLines, splitLines, splitFirst_append hl, splitFirst] at hrec ⊢
      simpa using hrec

theorem newline_not_mem_of_mem_splitLines {s : List Char} {l : Line} (h : l ∈ splitLines s) :
    '\n' ∉ l := by
  induction s generalizing l with
  | nil =>
    have : l = [] := by simpa [splitLines, splitFirst] using h
    simp [this]
  | cons c cs ih =>
    by_cases hc : c = '\n'
    · subst hc
      rw [splitLines_cons_newline, List.mem_cons] at h
      rcases h with rfl | h
      · simp
      · exact ih h
    · simp only [splitLines, splitFirst, hc, if_false, List.mem_cons] at h ih
      rcases h with rfl | h
      · simp only [List.mem_cons, not_or]
        exact ⟨fun e => hc e.symm, ih (Or.inl rfl)⟩
      · exact ih (Or.inr h)

end PageMarkup.Text
