import PageMarkup.Proofs.Identifier.BareNames
import PageMarkup.Proofs.Text.Tidy

/-!
# Names of component functions are solid

The name of a component function is an identifier, and identifiers are made of printable characters
of ASCII. So the name has no blank, except where a label is kept as it is: the test for a bare name
lets one newline stand at the end.

## Main definitions

* `IsGraphic` : the printable characters of ASCII.

## Main results

* `componentName_solid` : the name of a component function, up to one newline at its end.
-/

namespace PageMarkup.Identifier

open Text (IsSolid isSolid_of_lt)

/-- The printable characters of ASCII. -/
def IsGraphic (c : Char) : Prop :=
  0x20 < c.toNat ∧ c.toNat < 0x80

instance (c : Char) : Decidable (IsGraphic c) :=
  instDecidableAnd

theorem isSolid_of_isGraphic {s : List Char} (h : ∀ c ∈ s, IsGraphic c) : IsSolid s :=
  isSolid_of_lt fun c hc => (h c hc).1

/-! ### Classes of characters -/

theorem IsGraphic.of_isAlphanumeric {c : Char} (h : isAlphanumeric c = true) : IsGraphic c := by
  rw [isAlphanumeric_iff, isCapital_iff, isSmall_iff, isDecimal_iff] at h
  exact ⟨by omega, by omega⟩

theorem IsGraphic.of_isNameChar {c : Char} (h : isNameChar c = true) : IsGraphic c := by
  simp only [isNameChar, isNameStart, Bool.or_eq_true, beq_iff_eq] at h
  rcases h with (((h | h) | rfl) | rfl) | h
  · exact .of_isAlphanumeric (isAlphanumeric_iff.mpr (.inl h))
  · exact .of_isAlphanumeric (isAlphanumeric_iff.mpr (.inr (.inl h)))
  · exact ⟨by decide, by decide⟩
  · exact ⟨by decide, by decide⟩
  · exact .of_isAlphanumeric (isAlphanumeric_iff.mpr (.inr (.inr h)))

/-! ### Names -/

theorem IsIdentifier.isSolid {s : List Char} (h : IsIdentifier s) : IsSolid s :=
  isSolid_of_isGraphic fun c hc => .of_isNameChar (h.isNameChar c hc)

/-- **The name of a component function has no blank.** It is a solid text, perhaps with one newline
behind it if there is anything before it. -/
theorem componentName_solid (label : String) :
    ∃ body, IsSolid body ∧ ((componentName label).toList = body ∨
      body ≠ [] ∧ (componentName label).toList = body ++ ['\n']) := by
  rcases componentName_cases label with ⟨hname, -⟩ | ⟨body, hbody, -, hlabel, hkept⟩
  · exact ⟨_, hname.isSolid, .inl rfl⟩
  · exact ⟨body, hbody.isSolid, .inr ⟨hbody.ne_nil, hkept.symm ▸ hlabel⟩⟩

/-- A name with a newline behind it is kept as it is. -/
example : componentName "Page\n" = "Page\n" := by
  decide

end PageMarkup.Identifier
