import PageMarkup.Proofs.Json.Pieces
import PageMarkup.Text.Encoding

/-!
# The characters of written JSON

Apart from those of its texts, only characters of seven bits are written for a value. So an encoding
that has the characters of the texts has what is written.

## Main results

* `Json.forall_mem_write` : the characters of a written value.
-/

namespace PageMarkup

theorem Spaced.forall_mem {Q : Char → Prop} {ps : List Piece} {t : List Char} (h : Spaced ps t)
    (hspacing : ∀ c, isSpacing c = true → Q c) (hsolid : ∀ w, .solid w ∈ ps → ∀ c ∈ w, Q c) :
    ∀ c ∈ t, Q c := by
  induction h with
  | nil => exact List.forall_mem_nil _
  | solid w _ ih =>
    exact List.forall_mem_append.mpr ⟨hsolid w List.mem_cons_self,
      ih fun v hv => hsolid v (List.mem_cons_of_mem _ hv)⟩
  | gap hc _ ih =>
    exact List.forall_mem_cons.mpr ⟨hspacing _ hc,
      ih fun v hv => hsolid v (List.mem_cons_of_mem _ hv)⟩
  | blank hc _ ih => exact List.forall_mem_cons.mpr ⟨hspacing _ hc, ih hsolid⟩

namespace Text

private theorem all_isSevenBit_hexDigits : ∀ n < 0x20, (hexDigits 4 n).all isSevenBit = true := by
  decide

private theorem eq_or_isSevenBit_of_mem_quoteChar {c d : Char} (h : d ∈ quoteChar c) :
    d = c ∨ isSevenBit d = true := by
  have hpair : ∀ x : Char, isSevenBit x = true → d ∈ [escapeMark, x] → isSevenBit d = true := by
    intro x hx hmem
    have hback : isSevenBit escapeMark = true := by decide
    rcases List.mem_cons.mp hmem with rfl | hmem
    · exact hback
    · exact List.mem_singleton.mp hmem ▸ hx
  unfold quoteChar at h
  split at h
  · rcases List.mem_cons.mp h with rfl | hmem
    · exact .inr (by decide)
    · exact .inl (List.mem_singleton.mp hmem)
  split at h
  · exact .inr (hpair _ (by decide) h)
  split at h
  · exact .inr (hpair _ (by decide) h)
  split at h
  · exact .inr (hpair _ (by decide) h)
  split at h
  · exact .inr (hpair _ (by decide) h)
  split at h
  · exact .inr (hpair _ (by decide) h)
  split at h
  next hcontrol =>
    rcases List.mem_cons.mp h with rfl | h
    · exact .inr (by decide)
    · rcases List.mem_cons.mp h with rfl | h
      · exact .inr (by decide)
      · exact .inr (List.all_eq_true.mp (all_isSevenBit_hexDigits _ hcontrol) _ h)
  next => exact .inl (List.mem_singleton.mp h)

theorem forall_mem_quote {Q : Char → Prop} (hseven : ∀ c, Text.isSevenBit c = true → Q c)
    {s : List Char} (h : ∀ c ∈ s, Q c) : ∀ c ∈ quote s, Q c := by
  have hmark : Q quoteMark := hseven _ (by decide)
  refine List.forall_mem_append.mpr ⟨List.forall_mem_cons.mpr ⟨hmark, fun d hd => ?_⟩,
    List.forall_mem_singleton.mpr hmark⟩
  obtain ⟨c, hc, hd⟩ := List.mem_flatMap.mp hd
  rcases eq_or_isSevenBit_of_mem_quoteChar hd with rfl | hlow
  · exact h _ hc
  · exact hseven _ hlow

end Text

namespace Json

variable {P : Int → Prop} {Q : Char → Prop}

private theorem forall_mem_intText (hseven : ∀ c, Text.isSevenBit c = true → Q c) (n : Int) :
    ∀ c ∈ (Decimal.intText n).toList, Q c := by
  have hdigits : ∀ c ∈ Decimal.natDigits n.natAbs, Q c := by
    intro c hc
    have hdigit := Decimal.isDigit_of_mem_natDigits hc
    have hlow : c.toNat ≤ 57 := by
      simp only [Char.isDigit, Bool.and_eq_true, decide_eq_true_eq] at hdigit
      exact hdigit.2
    exact hseven c (decide_eq_true (by omega))
  rw [Decimal.intText, String.toList_ofList]
  split
  · exact List.forall_mem_cons.mpr ⟨hseven '-' (by decide), hdigits⟩
  · exact hdigits

private theorem forall_mem_literalText (hseven : ∀ c, Text.isSevenBit c = true → Q c) {v : Value}
    (h : v.IsJson P Q) (hlist : ∀ xs, v ≠ .list xs) (hmap : ∀ es, v ≠ .map es) :
    ∀ c ∈ v.literalText, Q c := by
  have hwords : ∀ s : List Char, s.all Text.isSevenBit = true → ∀ c ∈ s, Q c :=
    fun s hs c hc => hseven c (List.all_eq_true.mp hs c hc)
  cases h with
  | null => exact hwords _ (by decide)
  | bool b => cases b <;> exact hwords _ (by decide)
  | int _ => exact forall_mem_intText hseven _
  | str hs => exact Text.forall_mem_quote hseven hs
  | list => exact absurd rfl (hlist _)
  | map => exact absurd rfl (hmap _)

/-- **The characters of a written value** are of seven bits or stand in its texts. -/
theorem forall_mem_write (hseven : ∀ c, Text.isSevenBit c = true → Q c) {v : Value}
    (h : v.IsJson Decimal.IsReadable Q) {text : List Char} (hwrite : write v = .ok text) :
    ∀ c ∈ text, Q c := by
  obtain ⟨ls, hls, hblock⟩ := writeLines_of_isJson h
  rw [write, hls] at hwrite
  obtain rfl := Except.ok.inj hwrite
  have hmarks : marks.all Text.isSevenBit = true := by decide
  refine hblock.joinLines.forall_mem (fun c hc => hseven c ?_) (forall_solid_pieces h
    (fun c hc => List.forall_mem_singleton.mpr (hseven c (List.all_eq_true.mp hmarks c hc)))
    fun u hu hlist hmap => forall_mem_literalText hseven hu hlist hmap)
  rcases Bool.or_eq_true_iff.mp hc with hc | hc
  · exact eq_of_beq hc ▸ by decide
  · exact eq_of_beq hc ▸ by decide

end Json

end PageMarkup
