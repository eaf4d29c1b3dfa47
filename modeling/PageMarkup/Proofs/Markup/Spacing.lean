import Mathlib.Data.List.Forall2
import PageMarkup.Markup.Layout

/-!
# Spacing

Written markup is a sequence of pieces: solid characters, and gaps where blanks have to stand. A
text spaces the pieces out if it holds them in order with nothing but spaces and newlines between
them. For a block of lines a line break may stand for a gap, and indentation, joining of blocks and
brackets put before or behind a block keep it spaced out. So what a layout does to pieces can be
said without its choices.

## Main definitions

* `Piece`, `Spaced`, `SpacedBlock` : pieces, and texts and blocks that space them out.
* `commaPieces`, `gapPieces`, `bracePieces` : pieces of lists and containers.

## Main results

* `SpacedBlock.joinLines` : the text of a block.
* `SpacedBlock.append`, `SpacedBlock.appendGap`, `SpacedBlock.inset` : blocks below each other and
  one level deeper.
* `spacedBlock_bracketBlocks`, `spacedBlock_containerBlock`, `spacedBlock_openingBlock` : the
  layouts of bracketed lists, containers and opening tags.
-/

namespace PageMarkup

open Text (Line)

/-- A piece of written markup: characters that stand next to each other, or a gap where at least one
blank stands. -/
inductive Piece where
  | solid (chars : List Char)
  | gap

/-- The blanks that a layout puts between pieces. -/
def isSpacing (c : Char) : Bool :=
  c == ' ' || c == '\n'

/-- A text holds pieces in order, with spacing before and behind each of them. -/
inductive Spaced : List Piece → List Char → Prop
  | nil : Spaced [] []
  | solid {ps t} (w : List Char) (h : Spaced ps t) : Spaced (.solid w :: ps) (w ++ t)
  | gap {ps t c} (hc : isSpacing c = true) (h : Spaced ps t) : Spaced (.gap :: ps) (c :: t)
  | blank {ps t c} (hc : isSpacing c = true) (h : Spaced ps t) : Spaced ps (c :: t)

namespace Spaced

variable {ps qs : List Piece} {t u : List Char}

theorem append (h : Spaced ps t) (h' : Spaced qs u) : Spaced (ps ++ qs) (t ++ u) := by
  induction h with
  | nil => exact h'
  | solid w _ ih =>
    rw [List.append_assoc]
    exact ih.solid w
  | gap hc _ ih => exact ih.gap hc
  | blank hc _ ih => exact ih.blank hc

theorem single (w : List Char) : Spaced [.solid w] w := by
  simpa using nil.solid w

theorem replicate_append (h : Spaced ps t) (n : Nat) :
    Spaced ps (List.replicate n ' ' ++ t) := by
  induction n with
  | zero => exact h
  | succ n ih => exact ih.blank rfl

theorem padLine (h : Spaced ps t) (n : Nat) : Spaced ps (Text.padLine n t) := by
  unfold Text.padLine
  split
  · exact h
  · exact h.replicate_append n

end Spaced

/-- A block of lines holds pieces in order; a line break may stand for a gap. -/
inductive SpacedBlock : List Piece → List Line → Prop
  | line {ps l} (h : Spaced ps l) : SpacedBlock ps [l]
  | cons {ps qs l ls} (h : Spaced ps l) (h' : SpacedBlock qs ls) : SpacedBlock (ps ++ qs) (l :: ls)
  | consGap {ps qs l ls} (h : Spaced ps l) (h' : SpacedBlock qs ls) :
      SpacedBlock (ps ++ .gap :: qs) (l :: ls)

namespace SpacedBlock

variable {ps qs : List Piece} {ls ms : List Line}

theorem ne_nil (h : SpacedBlock ps ls) : ls ≠ [] := by
  cases h <;> simp

theorem eq_single (h : SpacedBlock ps ls) (hs : isSingle ls = true) :
    ∃ l, ls = [l] ∧ Spaced ps l := by
  cases h with
  | line h => exact ⟨_, rfl, h⟩
  | cons _ h' =>
    have := h'.ne_nil
    simp_all [isSingle]
  | consGap _ h' =>
    have := h'.ne_nil
    simp_all [isSingle]

/-- The lines of a block joined by newlines space out its pieces. -/
theorem joinLines (h : SpacedBlock ps ls) : Spaced ps (Text.joinLines ls) := by
  induction h with
  | line h => exact h
  | @cons ps qs l ls h h' ih =>
    obtain ⟨m, ms, rfl⟩ := List.exists_cons_of_ne_nil h'.ne_nil
    exact h.append (ih.blank rfl)
  | @consGap ps qs l ls h h' ih =>
    obtain ⟨m, ms, rfl⟩ := List.exists_cons_of_ne_nil h'.ne_nil
    exact h.append (ih.gap rfl)

theorem map_padLine (h : SpacedBlock ps ls) (n : Nat) :
    SpacedBlock ps (ls.map (Text.padLine n)) := by
  induction h with
  | line h => exact line (h.padLine n)
  | cons h _ ih => exact cons (h.padLine n) ih
  | consGap h _ ih => exact consGap (h.padLine n) ih

theorem inset (h : SpacedBlock ps ls) (s : LayoutStyle) : SpacedBlock ps (s.inset ls) :=
  h.map_padLine s.indent

/-- One block below the other. -/
theorem append (h : SpacedBlock ps ls) (h' : SpacedBlock qs ms) :
    SpacedBlock (ps ++ qs) (ls ++ ms) := by
  induction h with
  | line h => exact cons h h'
  | cons h _ ih =>
    rw [List.append_assoc]
    exact cons h ih
  | consGap h _ ih =>
    rw [List.append_assoc, List.cons_append]
    exact consGap h ih

/-- One block below the other, with a gap between them. -/
theorem appendGap (h : SpacedBlock ps ls) (h' : SpacedBlock qs ms) :
    SpacedBlock (ps ++ .gap :: qs) (ls ++ ms) := by
  induction h with
  | line h => exact consGap h h'
  | cons h _ ih =>
    rw [List.append_assoc]
    exact cons h ih
  | consGap h _ ih =>
    rw [List.append_assoc, List.cons_append]
    exact consGap h ih

theorem prependToFirst {front : Line} (hf : Spaced qs front) (h : SpacedBlock ps ls) :
    SpacedBlock (qs ++ ps) (PageMarkup.prependToFirst front ls) := by
  cases h with
  | line h => exact line (hf.append h)
  | cons h h' =>
    rw [← List.append_assoc]
    exact cons (hf.append h) h'
  | consGap h h' =>
    rw [← List.append_assoc]
    exact consGap (hf.append h) h'

theorem appendToLast {back : Line} (h : SpacedBlock ps ls) (hb : Spaced qs back) :
    SpacedBlock (ps ++ qs) (PageMarkup.appendToLast back ls) := by
  induction h with
  | line h => exact line (h.append hb)
  | @cons ps qs l ls h h' ih =>
    obtain ⟨m, ms, rfl⟩ := List.exists_cons_of_ne_nil h'.ne_nil
    rw [List.append_assoc]
    exact cons h ih
  | @consGap ps qs l ls h h' ih =>
    obtain ⟨m, ms, rfl⟩ := List.exists_cons_of_ne_nil h'.ne_nil
    rw [List.append_assoc, List.cons_append]
    exact consGap h ih

end SpacedBlock

/-! ### Lists of blocks -/

/-- The pieces of several parts, with a comma between two of them. -/
def commaPieces : List (List Piece) → List Piece
  | [] => []
  | [ps] => ps
  | ps :: qs :: rest => ps ++ .solid [','] :: commaPieces (qs :: rest)

/-- The pieces of several parts, with a gap before each of them. -/
def gapPieces (parts : List (List Piece)) : List Piece :=
  parts.flatMap fun ps => .gap :: ps

/-- Pieces between braces. -/
def bracePieces (ps : List Piece) : List Piece :=
  .solid ['\x7b'] :: ps ++ [.solid ['\x7d']]

variable {parts : List (List Piece)} {blocks : List (List Line)}

theorem spacedBlock_commaBlocks (s : LayoutStyle) (h : List.Forall₂ SpacedBlock parts blocks)
    (hne : parts ≠ []) : SpacedBlock (commaPieces parts) (commaBlocks s blocks) := by
  induction h with
  | nil => exact absurd rfl hne
  | @cons ps b parts blocks hb hrest ih =>
    cases hrest with
    | nil => exact hb.inset s
    | cons hc hrest =>
      have hfirst := (hb.appendToLast (.single [','])).inset s
      have := hfirst.append (ih (by simp))
      rwa [List.append_assoc] at this

theorem spaced_commaLine (h : List.Forall₂ SpacedBlock parts blocks)
    (hs : blocks.all isSingle = true) : Spaced (commaPieces parts) (commaLine blocks) := by
  induction h with
  | nil => exact .nil
  | @cons ps b parts blocks hb hrest ih =>
    simp only [List.all_cons, Bool.and_eq_true] at hs
    obtain ⟨l, rfl, hl⟩ := hb.eq_single hs.1
    cases hrest with
    | nil => exact hl
    | cons hc hrest => exact hl.append ((Spaced.blank rfl (ih hs.2)).solid [','])

/-- Blocks between brackets, on one line or on several. -/
theorem spacedBlock_bracketBlocks (s : LayoutStyle) (depth : Int) {op cl : Line}
    {openInline closeInline : Line} (ho : Spaced [.solid op] openInline)
    (hc : Spaced [.solid cl] closeInline) (h : List.Forall₂ SpacedBlock parts blocks)
    (hne : parts ≠ []) :
    SpacedBlock (.solid op :: commaPieces parts ++ [.solid cl])
      (bracketBlocks s depth openInline closeInline op cl blocks) := by
  unfold bracketBlocks
  simp only
  split
  · rename_i hone
    rw [Bool.and_eq_true] at hone
    exact .line ((ho.append (spaced_commaLine h hone.1)).append hc)
  · exact ((SpacedBlock.line (.single op)).append (spacedBlock_commaBlocks s h hne)).append
      (.line (.single cl))

/-- A block between braces. -/
theorem spacedBlock_containerBlock (s : LayoutStyle) (hugs : Bool) {ps : List Piece}
    {block : List Line} (h : SpacedBlock ps block) :
    SpacedBlock (bracePieces ps) (containerBlock s hugs block) := by
  have hopen : Spaced [.solid ['\x7b']] ['\x7b'] := .single _
  have hclose : Spaced [.solid ['\x7d']] ['\x7d'] := .single _
  unfold containerBlock
  split
  · rename_i l
    obtain ⟨_, heq, hl⟩ := h.eq_single rfl
    cases heq
    exact .line ((hopen.append hl).append hclose)
  · split
    · have := (h.appendToLast hclose).prependToFirst hopen
      rwa [← List.append_assoc] at this
    · exact ((SpacedBlock.line hopen).append (h.inset s)).append (.line hclose)

theorem SpacedBlock.append_gapPieces {ps : List Piece} {ls : List Line} (h : SpacedBlock ps ls)
    (s : LayoutStyle) (hb : List.Forall₂ SpacedBlock parts blocks) :
    SpacedBlock (ps ++ gapPieces parts) (ls ++ blocks.flatMap s.inset) := by
  induction hb generalizing ps ls with
  | nil => simpa [gapPieces] using h
  | cons hb _ ih =>
    have := ih (h.appendGap (hb.inset s))
    simpa [gapPieces] using this

theorem SpacedBlock.append_flatten {ps : List Piece} {ls : List Line} (h : SpacedBlock ps ls)
    (s : LayoutStyle) (hb : List.Forall₂ SpacedBlock parts blocks) :
    SpacedBlock (ps ++ parts.flatten) (ls ++ blocks.flatMap s.inset) := by
  induction hb generalizing ps ls with
  | nil => simpa using h
  | cons hb _ ih =>
    have := ih (h.append (hb.inset s))
    simpa using this

private theorem spaced_openingLine (tag : Line) (h : List.Forall₂ SpacedBlock parts blocks)
    (hs : blocks.all isSingle = true) :
    Spaced (.solid ('<' :: tag) :: gapPieces parts) (openingLine tag blocks) := by
  have hattributes : Spaced (gapPieces parts) (blocks.flatMap fun a => ' ' :: a.headD []) := by
    induction h with
    | nil => exact .nil
    | cons hb _ ih =>
      simp only [List.all_cons, Bool.and_eq_true] at hs
      obtain ⟨l, rfl, hl⟩ := hb.eq_single hs.1
      exact (hl.gap rfl).append (ih hs.2)
  exact hattributes.solid _

/-- The opening tag of an element, on one line or stacked. -/
theorem spacedBlock_openingBlock (s : LayoutStyle) (depth : Int) (tag : Line)
    {ending lastLine : Line} (he : Spaced [.solid lastLine] ending)
    (h : List.Forall₂ SpacedBlock parts blocks) :
    SpacedBlock (.solid ('<' :: tag) :: gapPieces parts ++ [.solid lastLine])
      (openingBlock s depth tag ending lastLine blocks) := by
  unfold openingBlock
  simp only
  split
  · rename_i hone
    rw [Bool.and_eq_true] at hone
    exact .line ((spaced_openingLine tag h hone.1).append he)
  · exact ((SpacedBlock.line (.single ('<' :: tag))).append_gapPieces s h).append
      (.line (.single lastLine))

end PageMarkup
