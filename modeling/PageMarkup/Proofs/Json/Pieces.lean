import PageMarkup.Json.Writer
import PageMarkup.Proofs.Content.Outcomes
import PageMarkup.Proofs.Content.TextKeys
import PageMarkup.Proofs.Decimal.Digits
import PageMarkup.Proofs.Markup.Spacing

/-!
# The pieces of written JSON

A value that JSON can hold is written as a sequence of pieces: brackets, commas, colons, words,
digits and quoted texts. The writer puts nothing between them but spaces and newlines, so what it
writes can be read back without regard to the lines it makes.

## Main definitions

* `Value.IsJson` : values without doubles that JSON can hold.
* `Json.pieces` : the pieces of a written value.

## Main results

* `Json.writeLines_of_isJson` : the written form of a value spaces out its pieces.
-/

namespace PageMarkup

open Text (Line)

/-- A value that JSON can hold, without doubles and with integers and characters of one kind only:
nothing, truth values, integers, texts, lists and maps with distinct texts as keys. -/
inductive Value.IsJson (P : Int → Prop) (Q : Char → Prop) : Value → Prop
  | null : IsJson P Q .null
  | bool (b : Bool) : IsJson P Q (.bool b)
  | int {n : Int} (h : P n) : IsJson P Q (.int n)
  | str {s : String} (h : ∀ c ∈ s.toList, Q c) : IsJson P Q (.str s)
  | list {xs : List Value} (h : ∀ x ∈ xs, IsJson P Q x) : IsJson P Q (.list xs)
  | map {es : Entries Value} (htexts : es.HasTextKeys) (hdistinct : es.keys.Nodup)
      (hkeys : ∀ e ∈ es, IsJson P Q e.1) (h : ∀ e ∈ es, IsJson P Q e.2) : IsJson P Q (.map es)

namespace Json

/-! ### Pieces -/

mutual

/-- The pieces of a written value. -/
def pieces : Value → List Piece
  | .list xs => .solid ['['] :: commaPieces (itemPieces xs) ++ [.solid [']']]
  | .map es => .solid ['\x7b'] :: commaPieces (fieldPieces es) ++ [.solid ['\x7d']]
  | v => [.solid v.literalText]
termination_by structural v => v

/-- The pieces of the items of an array. -/
def itemPieces : List Value → List (List Piece)
  | [] => []
  | x :: xs => pieces x :: itemPieces xs
termination_by structural xs => xs

/-- The pieces of the fields of an object, each a quoted text, a colon and a value. -/
def fieldPieces : List (Value × Value) → List (List Piece)
  | [] => []
  | (k, v) :: es =>
    (.solid (Text.quote k.text.toList) :: .solid [':'] :: pieces v) :: fieldPieces es
termination_by structural es => es

end

/-! ### The single pieces -/

theorem commaPieces_cons (ps : List Piece) {parts : List (List Piece)} (h : parts ≠ []) :
    commaPieces (ps :: parts) = ps ++ .solid [','] :: commaPieces parts := by
  obtain ⟨p, parts, rfl⟩ := List.exists_cons_of_ne_nil h
  rfl

private theorem mem_commaPieces {parts : List (List Piece)} {p : Piece}
    (h : p ∈ commaPieces parts) : p = .solid [','] ∨ ∃ part ∈ parts, p ∈ part := by
  induction parts with
  | nil => cases h
  | cons part parts ih =>
    by_cases hlast : parts = []
    · subst hlast
      exact .inr ⟨part, List.mem_cons_self, h⟩
    · rw [commaPieces_cons _ hlast] at h
      rcases List.mem_append.mp h with h | h
      · exact .inr ⟨part, List.mem_cons_self, h⟩
      · rcases List.mem_cons.mp h with rfl | h
        · exact .inl rfl
        · exact (ih h).imp_right fun ⟨q, hq, hp⟩ => ⟨q, List.mem_cons_of_mem _ hq, hp⟩

section

variable {P : Int → Prop} {Q : Char → Prop} {R : List Char → Prop}

/-- The characters that stand between values. -/
def marks : List Char := ['[', ']', '\x7b', '\x7d', ',', ':']

private theorem forall_solid_brackets {parts : List (List Piece)} {op cl : Char}
    (hmarks : ∀ c ∈ marks, R [c]) (hop : op ∈ marks) (hcl : cl ∈ marks)
    (h : ∀ part ∈ parts, ∀ w, .solid w ∈ part → R w) :
    ∀ w, .solid w ∈ .solid [op] :: commaPieces parts ++ [.solid [cl]] → R w := by
  intro w hmem
  rcases List.mem_append.mp hmem with hmem | hmem
  · rcases List.mem_cons.mp hmem with heq | hmem
    · exact Piece.solid.inj heq ▸ hmarks _ hop
    · rcases mem_commaPieces hmem with heq | ⟨part, hpart, hmem⟩
      · exact Piece.solid.inj heq ▸ hmarks _ (by decide)
      · exact h part hpart w hmem
  · exact Piece.solid.inj (List.mem_singleton.mp hmem) ▸ hmarks _ hcl

mutual

theorem forall_solid_pieces {v : Value} (h : v.IsJson P Q) (hmarks : ∀ c ∈ marks, R [c])
    (hliteral : ∀ u : Value, u.IsJson P Q → (∀ xs, u ≠ .list xs) → (∀ es, u ≠ .map es) →
      R u.literalText) : ∀ w, .solid w ∈ pieces v → R w := by
  match v with
  | .null | .bool _ | .int _ | .str _ =>
    intro w hmem
    exact Piece.solid.inj (List.mem_singleton.mp hmem) ▸ hliteral _ h nofun nofun
  | .list xs =>
    cases h with
    | list hxs =>
      exact forall_solid_brackets hmarks (by decide) (by decide)
        (forall_solid_itemPieces hxs hmarks hliteral)
  | .map es =>
    cases h with
    | map htexts _ hkeys hes =>
      exact forall_solid_brackets hmarks (by decide) (by decide)
        (forall_solid_fieldPieces htexts hkeys hes hmarks hliteral)
  | .float _ | .tuple _ | .foreign _ _ | .markup _ => cases h

private theorem forall_solid_itemPieces {xs : List Value} (h : ∀ x ∈ xs, x.IsJson P Q)
    (hmarks : ∀ c ∈ marks, R [c])
    (hliteral : ∀ u : Value, u.IsJson P Q → (∀ xs, u ≠ .list xs) → (∀ es, u ≠ .map es) →
      R u.literalText) : ∀ part ∈ itemPieces xs, ∀ w, .solid w ∈ part → R w := by
  match xs with
  | [] => exact fun _ hpart => nomatch hpart
  | x :: xs =>
    obtain ⟨hx, hxs⟩ := List.forall_mem_cons.mp h
    exact List.forall_mem_cons.mpr ⟨forall_solid_pieces hx hmarks hliteral,
      forall_solid_itemPieces hxs hmarks hliteral⟩

private theorem forall_solid_fieldPieces {es : List (Value × Value)}
    (htexts : Entries.HasTextKeys es) (hkeys : ∀ e ∈ es, e.1.IsJson P Q)
    (h : ∀ e ∈ es, e.2.IsJson P Q) (hmarks : ∀ c ∈ marks, R [c])
    (hliteral : ∀ u : Value, u.IsJson P Q → (∀ xs, u ≠ .list xs) → (∀ es, u ≠ .map es) →
      R u.literalText) : ∀ part ∈ fieldPieces es, ∀ w, .solid w ∈ part → R w := by
  match es with
  | [] => exact fun _ hpart => nomatch hpart
  | (k, v) :: es =>
    obtain ⟨hkey, hothers⟩ := List.forall_mem_cons.mp htexts
    obtain ⟨hk, hks⟩ := List.forall_mem_cons.mp hkeys
    obtain ⟨hv, hvs⟩ := List.forall_mem_cons.mp h
    obtain ⟨s, rfl⟩ : ∃ s, k = .str s := Value.isStr_iff.mp hkey
    refine List.forall_mem_cons.mpr ⟨fun w hmem => ?_,
      forall_solid_fieldPieces hothers hks hvs hmarks hliteral⟩
    rcases List.mem_cons.mp hmem with heq | hmem
    · exact Piece.solid.inj heq ▸ hliteral _ hk nofun nofun
    · rcases List.mem_cons.mp hmem with heq | hmem
      · exact Piece.solid.inj heq ▸ hmarks _ (by decide)
      · exact forall_solid_pieces hv hmarks hliteral w hmem

end

end

/-! ### Blocks of lines -/

private theorem appendComma_eq (ls : List Line) :
    separate.appendComma ls = appendToLast [','] ls := by
  induction ls with
  | nil => rfl
  | cons l ls ih =>
    cases ls with
    | nil => rfl
    | cons m ms => rw [separate.appendComma, appendToLast, ih]

private theorem spacedBlock_deeper {ps : List Piece} {ls : List Line} (h : SpacedBlock ps ls) :
    SpacedBlock ps (ls.map fun l => ' ' :: ' ' :: l) := by
  induction h with
  | line h => exact .line ((h.blank rfl).blank rfl)
  | cons h _ ih => exact .cons ((h.blank rfl).blank rfl) ih
  | consGap h _ ih => exact .consGap ((h.blank rfl).blank rfl) ih

private theorem spacedBlock_separate {parts : List (List Piece)} {blocks : List (List Line)}
    (h : List.Forall₂ SpacedBlock parts blocks) (hne : parts ≠ []) :
    SpacedBlock (commaPieces parts) (separate blocks) := by
  induction h with
  | nil => exact absurd rfl hne
  | @cons ps b parts blocks hb hrest ih =>
    cases hrest with
    | nil => exact spacedBlock_deeper hb
    | cons hc hrest =>
      have hfirst := spacedBlock_deeper (hb.appendToLast (.single [',']))
      have hblocks := hfirst.append (ih (List.cons_ne_nil _ _))
      rw [separate, appendComma_eq]
      rwa [List.append_assoc] at hblocks

/-- Blocks between brackets, on lines of their own; without blocks the brackets are one line. -/
private theorem spacedBlock_brackets {parts : List (List Piece)} {blocks : List (List Line)}
    (h : List.Forall₂ SpacedBlock parts blocks) (op cl : Char) :
    SpacedBlock (.solid [op] :: commaPieces parts ++ [.solid [cl]])
      (if blocks.isEmpty then [[op, cl]] else [op] :: separate blocks ++ [[cl]]) := by
  cases h with
  | nil => exact .line ((Spaced.single [cl]).solid [op])
  | cons hb hrest =>
    exact ((SpacedBlock.line (.single [op])).append
      (spacedBlock_separate (.cons hb hrest) (List.cons_ne_nil _ _))).append
        (.line (.single [cl]))

private theorem spacedBlock_afterKey {ps : List Piece} {ls : List Line} (key : List Char)
    (h : SpacedBlock ps ls) :
    SpacedBlock (.solid (Text.quote key) :: .solid [':'] :: ps) (afterKey key ls) := by
  have hkey : ∀ {qs l}, Spaced qs l → Spaced (.solid (Text.quote key) :: .solid [':'] :: qs)
      (Text.quote key ++ ':' :: ' ' :: l) :=
    fun hl => ((hl.blank (c := ' ') rfl).solid [':']).solid _
  cases h with
  | line h => exact .line (hkey h)
  | cons h h' => exact .cons (hkey h) h'
  | consGap h h' => exact .consGap (hkey h) h'

/-! ### The writer -/

variable {Q : Char → Prop}

private theorem writeLines_literal {v : Value} (h : writeLines v = .ok [v.literalText])
    (hpieces : pieces v = [.solid v.literalText]) :
    ∃ ls, writeLines v = .ok ls ∧ SpacedBlock (pieces v) ls :=
  ⟨_, h, hpieces ▸ .line (.single _)⟩

mutual

/-- The written form of a value spaces out its pieces. -/
theorem writeLines_of_isJson {v : Value} (h : v.IsJson Decimal.IsReadable Q) :
    ∃ ls, writeLines v = .ok ls ∧ SpacedBlock (pieces v) ls := by
  match v with
  | .null => exact writeLines_literal rfl rfl
  | .bool b => exact writeLines_literal rfl rfl
  | .str s => exact writeLines_literal rfl rfl
  | .int n =>
    cases h with
    | int hn =>
      refine writeLines_literal ?_ rfl
      rw [writeLines, writeInt, if_neg (Nat.not_lt.mpr hn)]
      rfl
  | .list xs =>
    cases h with
    | list hxs =>
      obtain ⟨blocks, hblocks, hspaced⟩ := writeItems_of_isJson hxs
      refine ⟨_, ?_, spacedBlock_brackets hspaced '[' ']'⟩
      rw [writeLines, hblocks]
      rfl
  | .map es =>
    cases h with
    | map htexts _ _ hes =>
      obtain ⟨blocks, hblocks, hspaced⟩ := writeFields_of_isJson htexts hes
      refine ⟨_, ?_, spacedBlock_brackets hspaced '\x7b' '\x7d'⟩
      rw [writeLines, hblocks]
      rfl
  | .float _ | .tuple _ | .foreign _ _ | .markup _ => cases h

theorem writeItems_of_isJson {xs : List Value} (h : ∀ x ∈ xs, x.IsJson Decimal.IsReadable Q) :
    ∃ blocks, writeItems xs = .ok blocks ∧ List.Forall₂ SpacedBlock (itemPieces xs) blocks := by
  match xs with
  | [] => exact ⟨[], rfl, .nil⟩
  | x :: xs =>
    obtain ⟨hx, hxs⟩ := List.forall_mem_cons.mp h
    obtain ⟨b, hb, hspaced⟩ := writeLines_of_isJson hx
    obtain ⟨blocks, hblocks, hrest⟩ := writeItems_of_isJson hxs
    refine ⟨b :: blocks, ?_, .cons hspaced hrest⟩
    rw [writeItems, hb, hblocks]
    rfl

theorem writeFields_of_isJson {es : List (Value × Value)} (htexts : Entries.HasTextKeys es)
    (h : ∀ e ∈ es, e.2.IsJson Decimal.IsReadable Q) :
    ∃ blocks, writeFields es = .ok blocks ∧
      List.Forall₂ SpacedBlock (fieldPieces es) blocks := by
  match es with
  | [] => exact ⟨[], rfl, .nil⟩
  | (k, v) :: es =>
    obtain ⟨hk, hks⟩ := List.forall_mem_cons.mp htexts
    obtain ⟨hv, hvs⟩ := List.forall_mem_cons.mp h
    obtain ⟨s, rfl⟩ := Value.isStr_iff.mp hk
    obtain ⟨b, hb, hspaced⟩ := writeLines_of_isJson hv
    obtain ⟨blocks, hblocks, hrest⟩ := writeFields_of_isJson hks hvs
    refine ⟨afterKey s.toList b :: blocks, ?_, .cons (spacedBlock_afterKey s.toList hspaced) hrest⟩
    rw [writeFields, hb, hblocks]
    rfl

end

end Json

end PageMarkup
