import PageMarkup.Imports.Statement
import PageMarkup.Proofs.Content.Outcomes
import PageMarkup.Proofs.Imports.Merge
import PageMarkup.Proofs.Text.Tidy

/-!
# Import statements are neat lines

A statement shows the path and the names of its declaration as they are, and ends in a semicolon. So
it is a single line if these are, and they are if those of the requests are that the declarations
were made for.

## Main definitions

* `ImportSpec.OneLine`, `ImportDeclaration.OneLine` : requests and declarations in single lines.

## Main results

* `DeclaresExactly.oneLine` : declarations of requests in single lines.
* `neat_importStatements` : the statements of declarations in single lines.
-/

namespace PageMarkup

open Text (Neat)

/-- The path and the names of a request are shown in single lines. -/
def ImportSpec.OneLine : ImportSpec → Prop
  | .named path name rename =>
    '\n' ∉ path.text.toList ∧ '\n' ∉ name.text.toList ∧ '\n' ∉ rename.text.toList
  | .default path name => '\n' ∉ path.text.toList ∧ '\n' ∉ name.text.toList

/-- The path and the names of a declaration are shown in single lines. -/
structure ImportDeclaration.OneLine (d : ImportDeclaration) : Prop where
  path : '\n' ∉ d.path.text.toList
  default : '\n' ∉ d.default.text.toList
  named : ∀ e ∈ d.named, '\n' ∉ e.1.text.toList ∧ '\n' ∉ e.2.text.toList

private theorem newline_not_mem_null : '\n' ∉ Value.null.text.toList := by
  decide

/-! ### Requests and declarations -/

theorem ImportSpec.OneLine.path {spec : ImportSpec} (h : spec.OneLine) :
    '\n' ∉ spec.path.text.toList := by
  cases spec <;> exact h.1

/-- A request stays in single lines when its missing name is taken from a tag in a single line. -/
theorem ImportSpec.OneLine.bind {spec bound : ImportSpec} (h : spec.OneLine) {tag : Value}
    (htag : '\n' ∉ tag.text.toList) (hbound : spec.bind tag = .ok bound) : bound.OneLine := by
  have hname : ∀ name, bindingName tag = .ok name → '\n' ∉ name.text.toList := by
    intro name hname
    cases tag with
    | str s =>
      cases hname
      rw [Value.text, String.toList_ofList]
      exact fun hmem => htag ((List.takeWhile_prefix _).mem hmem)
    | null | bool | int | float | list | tuple | map | foreign | markup => cases hname
  cases spec with
  | named path name rename =>
    rw [ImportSpec.bind] at hbound
    split at hbound
    · cases hbound
      exact h
    · obtain ⟨bindingName, hbinding, hbound⟩ := bind_eq_ok_iff.mp hbound
      cases hbound
      exact ⟨h.1, hname _ hbinding, h.2.2⟩
  | default path name =>
    rw [ImportSpec.bind] at hbound
    split at hbound
    · cases hbound
      exact h
    · obtain ⟨bindingName, hbinding, hbound⟩ := bind_eq_ok_iff.mp hbound
      cases hbound
      exact ⟨h.1, hname _ hbinding⟩

private theorem newline_not_mem_keptAlias {name rename : Value}
    (h : '\n' ∉ rename.text.toList) :
    '\n' ∉ (ImportTable.keptAlias name rename).text.toList := by
  unfold ImportTable.keptAlias
  split
  · exact newline_not_mem_null
  · exact h

/-- Declarations that ask for just what requests in single lines ask for are in single lines. -/
theorem DeclaresExactly.oneLine {specs : List ImportSpec} {ds : List ImportDeclaration}
    (h : DeclaresExactly specs ds) (hspecs : ∀ spec ∈ specs, spec.OneLine) :
    ∀ d ∈ ds, d.OneLine := by
  intro d hd
  obtain ⟨spec, hspec, hpath⟩ := (h.path_iff d.path).mp ⟨d, hd, rfl⟩
  have hmet := h.met d hd
  refine ⟨hpath ▸ (hspecs spec hspec).path, ?_, fun e he => ?_⟩
  · rcases hmet.default_asked with hnull | hasked
    · rw [hnull]
      exact newline_not_mem_null
    · exact (hspecs _ hasked).2
  · obtain ⟨rename, hasked, hkept⟩ := (hmet.mem_named_iff e.1 e.2).mp he
    obtain ⟨-, hname, hrename⟩ := hspecs _ hasked
    exact ⟨hname, hkept ▸ newline_not_mem_keptAlias hrename⟩

/-! ### Statements -/

private theorem newline_not_mem_commaSeparated {parts : List String}
    (h : ∀ part ∈ parts, '\n' ∉ part.toList) : '\n' ∉ (commaSeparated parts).toList := by
  rw [commaSeparated, String.toList_intercalate]
  induction parts with
  | nil => exact List.not_mem_nil
  | cons part parts ih =>
    rw [List.forall_mem_cons] at h
    cases parts with
    | nil => simpa using h.1
    | cons other parts =>
      rw [List.map_cons, List.map_cons, List.intercalate_cons_cons, ← List.map_cons]
      simp only [List.mem_append, not_or]
      exact ⟨⟨h.1, by decide⟩, ih h.2⟩

private theorem needText_eq_ok {v : Value} {s : String} (h : v.needText = .ok s) : v.text = s := by
  cases v with
  | str t =>
    cases h
    rfl
  | null | bool | int | float | list | tuple | map | foreign | markup => cases h

private theorem newline_not_mem_specifierText {name rename : Value} {text : String}
    (hname : '\n' ∉ name.text.toList) (hrename : '\n' ∉ rename.text.toList)
    (h : specifierText name rename = .ok text) : '\n' ∉ text.toList := by
  unfold specifierText at h
  split at h
  · cases h
    simp only [String.toList_append, List.mem_append, not_or]
    exact ⟨⟨hname, by decide⟩, hrename⟩
  · exact needText_eq_ok h ▸ hname

private theorem newline_not_mem_clauses {d : ImportDeclaration} (hd : d.OneLine)
    {parts : List String} (h : d.clauses = .ok parts) : ∀ part ∈ parts, '\n' ∉ part.toList := by
  obtain ⟨names, hnames, h⟩ := bind_eq_ok_iff.mp h
  have hspecifiers : ∀ name ∈ names, '\n' ∉ name.toList := by
    intro name hname
    obtain ⟨e, he, htext⟩ := mem_of_mapM_eq_ok hnames name hname
    exact newline_not_mem_specifierText (hd.named e he).1 (hd.named e he).2 htext
  have hbraces : ∀ part ∈ (if (commaSeparated names).isEmpty then [] else
      ["\x7b " ++ commaSeparated names ++ " \x7d"]), '\n' ∉ part.toList := by
    split
    · exact List.forall_mem_nil _
    · refine List.forall_mem_singleton.mpr ?_
      simp only [String.toList_append, List.mem_append, not_or]
      exact ⟨⟨by decide, newline_not_mem_commaSeparated hspecifiers⟩, by decide⟩
  dsimp only at h
  split at h
  · obtain ⟨s, hs, h⟩ := bind_eq_ok_iff.mp h
    cases h
    exact List.forall_mem_cons.mpr ⟨needText_eq_ok hs ▸ hd.default, hbraces⟩
  · cases h
    exact hbraces

/-- The statements of declarations in single lines are single lines that end in a semicolon. -/
theorem neat_importStatements {ds : List ImportDeclaration} (hds : ∀ d ∈ ds, d.OneLine)
    {statements : List String} (h : importStatements ds = .ok statements) :
    ∀ statement ∈ statements, Neat statement.toList := by
  obtain ⟨written, hwritten, h⟩ := bind_eq_ok_iff.mp h
  cases h
  intro statement hstatement
  obtain ⟨x, hx, rfl⟩ := List.mem_filterMap.mp hstatement
  obtain ⟨d, hd, hstatement⟩ := mem_of_mapM_eq_ok hwritten _ hx
  obtain ⟨parts, hparts, hstatement⟩ := bind_eq_ok_iff.mp hstatement
  have hclauses := newline_not_mem_commaSeparated (newline_not_mem_clauses (hds d hd) hparts)
  split at hstatement
  · cases hstatement
  · obtain rfl := Option.some.inj (Except.ok.inj hstatement)
    have hend : Neat "\";".toList := by decide
    rw [String.toList_append]
    refine hend.append ?_
    simp only [String.toList_append, List.mem_append, not_or]
    exact ⟨⟨⟨by decide, hclauses⟩, by decide⟩, (hds d hd).path⟩

end PageMarkup
