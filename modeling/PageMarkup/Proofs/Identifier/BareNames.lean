import PageMarkup.Markup.Layout
import PageMarkup.Proofs.Identifier.Casing

/-!
# Names that stand without quotes

The test for a bare name looks at all of a text but for one newline at its end. So what passes is an
identifier, or an identifier with a newline behind it; reserved words have none, and with a newline
they pass, too. The same holds for the keys of an object that are written without quotes.

The name of a component function is a label that passes the test, or else it is made from the words
of the label. What is made from words is an identifier as a whole.

## Main definitions

* `IsIdentifier` : a letter, an underscore or a dollar sign, and then these and digits.

## Main results

* `hasNameShape_iff`, `isBareName_iff` : what passes the test for a bare name.
* `objectKey_cases` : keys with and without quotes.
* `componentName_cases` : names of component functions.
* `bareName_identifiers` : all of these as identifiers, up to one newline at the end.
-/

namespace PageMarkup.Identifier

/-- A letter, an underscore or a dollar sign, and then these and digits. -/
def IsIdentifier (s : List Char) : Prop :=
  ∃ c cs, s = c :: cs ∧ isNameStart c = true ∧ ∀ d ∈ cs, isNameChar d = true

variable {s : List Char}

/-! ### Identifiers -/

theorem IsIdentifier.ne_nil (h : IsIdentifier s) : s ≠ [] := by
  obtain ⟨c, cs, rfl, -⟩ := h
  exact List.cons_ne_nil c cs

theorem IsIdentifier.isNameChar (h : IsIdentifier s) : ∀ c ∈ s, isNameChar c = true := by
  obtain ⟨c, cs, rfl, hc, hcs⟩ := h
  exact List.forall_mem_cons.mpr ⟨Bool.or_eq_true_iff.mpr (.inl hc), hcs⟩

theorem IsIdentifier.head?_eq {body : List Char} (h : IsIdentifier body)
    (hs : s = body ∨ s = body ++ ['\n']) : s.head? = body.head? := by
  obtain ⟨c, cs, rfl, -⟩ := h
  rcases hs with rfl | rfl <;> rfl

theorem IsPlainName.isIdentifier (h : IsPlainName s) : IsIdentifier s := by
  obtain ⟨c, cs, rfl, hc, hcs⟩ := h
  refine ⟨c, cs, rfl, ?_, fun d hd => ?_⟩
  · rcases hc with hc | hc | rfl
    · simp [isNameStart, hc]
    · simp [isNameStart, hc]
    · rfl
  · rcases hcs d hd with hd | rfl
    · rcases isAlphanumeric_iff.mp hd with hd | hd | hd <;>
        simp [Identifier.isNameChar, isNameStart, hd]
    · rfl

/-! ### The test for a bare name -/

/-- What has the shape of a name is an identifier, up to one newline at its end. -/
theorem hasNameShape_iff :
    hasNameShape s = true ↔ ∃ body, IsIdentifier body ∧ (s = body ∨ s = body ++ ['\n']) := by
  constructor
  · intro h
    cases s with
    | nil => cases h
    | cons c cs =>
      simp only [hasNameShape, Bool.and_eq_true, List.all_eq_true] at h
      obtain ⟨hfirst, hrest⟩ := h
      split at hrest
      next hlast =>
        obtain ⟨t, rfl⟩ := List.getLast?_eq_some_iff.mp hlast
        rw [List.dropLast_concat] at hrest
        exact ⟨c :: t, ⟨c, t, rfl, hfirst, hrest⟩, .inr rfl⟩
      next => exact ⟨c :: cs, ⟨c, cs, rfl, hfirst, hrest⟩, .inl rfl⟩
  · rintro ⟨_, ⟨c, cs, rfl, hfirst, hrest⟩, rfl | rfl⟩
    · -- The newline is no character of a name, so nothing is dropped.
      have hlast : cs.getLast? ≠ some '\n' := fun hcs =>
        absurd (hrest '\n' (List.mem_of_getLast? hcs)) (by decide)
      simp only [hasNameShape, if_neg hlast, hfirst, Bool.true_and, List.all_eq_true]
      exact hrest
    · simp only [List.cons_append, hasNameShape, List.getLast?_concat, if_true, hfirst,
        Bool.true_and, List.dropLast_concat, List.all_eq_true]
      exact hrest

theorem isBareName_iff {name : String} : isBareName name = true ↔
    (∃ body, IsIdentifier body ∧ (name.toList = body ∨ name.toList = body ++ ['\n'])) ∧
      name ∉ reservedWords := by
  rw [isBareName, Bool.and_eq_true, hasNameShape_iff, Bool.not_eq_true', ← Bool.not_eq_true,
    List.contains_iff_mem]

/-- A key is written with quotes, or as it is if it passes the test. -/
theorem objectKey_cases (key : String) :
    ((objectKey key).head? = some Text.quoteMark ∧ objectKey key = Text.quote key.toList) ∨
      ((objectKey key).head? ≠ some Text.quoteMark ∧ objectKey key = key.toList ∧
        isBareName key = true) := by
  unfold objectKey
  split
  next hbare =>
    refine .inr ⟨?_, rfl, hbare⟩
    obtain ⟨⟨body, hbody, hkey⟩, -⟩ := isBareName_iff.mp hbare
    rw [hbody.head?_eq hkey]
    obtain ⟨c, cs, rfl, hc, -⟩ := hbody
    rintro ⟨⟩
    exact absurd hc (by decide)
  next => exact .inl ⟨rfl, rfl⟩

/-! ### Names of component functions -/

theorem isReserved_eq_false_iff {name : String} : moduleSanitizer.isReserved name = false ↔
    name ∉ reservedWords ∧ name ∉ protectedNames := by
  rw [← Bool.not_eq_true, Sanitizer.isReserved, List.contains_iff_mem, moduleSanitizer,
    List.mem_append, not_or]

/-- The name of a component function is an identifier that is free and starts with a capital or an
underscore; or else the label is an identifier that starts with a capital and has a newline behind
it, and is kept as it is. -/
theorem componentName_cases (label : String) :
    (IsIdentifier (componentName label).toList ∧ StartsUpper (componentName label).toList ∧
      componentName label ∉ reservedWords ∧ componentName label ∉ protectedNames) ∨
    ∃ body, IsIdentifier body ∧ (∃ c ∈ body.head?, isCapital c = true) ∧
      label.toList = body ++ ['\n'] ∧ componentName label = label := by
  unfold componentName
  dsimp only
  split
  next hkeeps =>
    simp only [Bool.and_eq_true, Bool.not_eq_true'] at hkeeps
    obtain ⟨⟨hbare, hcapital⟩, hfree⟩ := hkeeps
    obtain ⟨⟨body, hbody, hlabel⟩, -⟩ := isBareName_iff.mp hbare
    have hhead := hbody.head?_eq hlabel
    obtain ⟨c, hc, hcapital⟩ : ∃ c ∈ body.head?, isCapital c = true := by
      rw [hhead] at hcapital
      exact Option.any_eq_true _ _ |>.mp hcapital
    rcases hlabel with hlabel | hlabel
    · refine .inl ⟨hlabel ▸ hbody, ⟨c, hhead ▸ hc, .inl hcapital⟩, ?_⟩
      exact isReserved_eq_false_iff.mp hfree
    · exact .inr ⟨body, hbody, ⟨c, hc, hcapital⟩, hlabel, rfl⟩
  next =>
    obtain ⟨name, hname, hplain, hfree, hupper, -⟩ := Sanitizer.exists_name?
      isLowerWord_component isReserved_append_underscore label.toList .pascal
    rw [hname, Option.getD_some]
    exact .inl ⟨hplain.isIdentifier, hupper rfl, isReserved_eq_false_iff.mp hfree⟩

/-- **Names without quotes are identifiers, up to one newline at the end.** A text passes the test
for a bare name if it is not reserved and is an identifier once a newline at its end is dropped. A
key of an object is quoted, or passes the test and is written as it is. The name of a component
function is a free identifier with a capital or an underscore at its start, unless the label is an
identifier with a leading capital and a newline behind it, which is kept. -/
theorem bareName_identifiers (s : String) :
    (isBareName s = true ↔
      (∃ body, IsIdentifier body ∧ (s.toList = body ∨ s.toList = body ++ ['\n'])) ∧
        s ∉ reservedWords) ∧
    (((objectKey s).head? = some Text.quoteMark ∧ objectKey s = Text.quote s.toList) ∨
      ((objectKey s).head? ≠ some Text.quoteMark ∧ objectKey s = s.toList ∧
        isBareName s = true)) ∧
    ((IsIdentifier (componentName s).toList ∧ StartsUpper (componentName s).toList ∧
        componentName s ∉ reservedWords ∧ componentName s ∉ protectedNames) ∨
      ∃ body, IsIdentifier body ∧ (∃ c ∈ body.head?, isCapital c = true) ∧
        s.toList = body ++ ['\n'] ∧ componentName s = s) :=
  ⟨isBareName_iff, objectKey_cases s, componentName_cases s⟩

/-- A bare name need not be an identifier as a whole: a newline may stand behind it. -/
theorem not_forall_isBareName_iff :
    ¬ ∀ s : String, isBareName s = true ↔ IsIdentifier s.toList ∧ s ∉ reservedWords := by
  intro hall
  have hname := ((hall "a\n").mp (by decide)).1.isNameChar '\n' (by decide)
  exact absurd hname (by decide)

end PageMarkup.Identifier
