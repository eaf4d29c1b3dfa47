import PageMarkup.Proofs.Imports.LocalNames

/-!
# What a table keeps

A request that is met is kept: whatever is met after it, the table holds the name that it asks for,
and the declarations of the table bind it. This takes texts as the path and the names of this one
request. Nothing is asked of the others, which may even have paths that are no texts.

## Main definitions

* `ImportTable.Keeps` : a table holds what a request asks for.

## Main results

* `ImportTable.keeps_of_register`, `ImportTable.Keeps.register` : the request itself, and another
  one after it.
* `ImportTable.keeps_of_mem_registerAll` : requests in order.
* `ImportTable.Keeps.mem_bindings` : what is kept is bound by the declarations.
-/

namespace PageMarkup

namespace ImportTable

variable {t t' : ImportTable} {spec : ImportSpec}

/-- A table holds what a request asks for, under the name that it asks for. -/
def Keeps (t : ImportTable) : ImportSpec → Prop
  | .default path name => name.truthy = true ∧ (t.entry path).default = name
  | .named path name rename =>
    name.truthy = true ∧ (t.entry path).named.find? name = some (keptAlias name rename)

/-! ### One request -/

private theorem entry_putEntry (t : ImportTable) (path : Value) (e : ImportEntry) (s : String) :
    (t.putEntry path e).entry (.str s) = if path.same (.str s) then e else t.entry (.str s) := by
  rw [entry, putEntry, Entries.find?_put]
  split <;> rfl

theorem registerDefault_eq_ok {path name : Value}
    (h : t.registerDefault path name = .ok t') :
    name.truthy = true ∧
      ((t.entry path).default.truthy = true → (t.entry path).default.same name = true) ∧
      t' = t.putEntry path { t.entry path with default := name } := by
  simp only [registerDefault] at h
  split at h
  · cases h
  · next hname =>
    split at h
    · cases h
    · next hsame =>
      refine ⟨by simpa using hname, fun htruthy => ?_, (Except.ok.inj h).symm⟩
      simpa [htruthy] using hsame

/-- A request for an exported name is met if the name is new or there with the same alias. If it is
there already, the table stays as it is. -/
theorem registerNamed_eq_ok {path name rename : Value}
    (h : t.registerNamed path name rename = .ok t') :
    name.truthy = true ∧
      ((∃ present, (t.entry path).named.find? name = some present ∧
          present.same (keptAlias name rename) = true ∧ t' = t) ∨
        ((t.entry path).named.find? name = none ∧ t' = t.putEntry path { t.entry path with
          named := (t.entry path).named ++ [(name, keptAlias name rename)] })) := by
  simp only [registerNamed] at h
  split at h
  · cases h
  · next hname =>
    refine ⟨by simpa using hname, ?_⟩
    split at h
    · cases h
    · split at h
      · next present hfound =>
        split at h
        · next hsame => exact .inl ⟨present, hfound, hsame, (Except.ok.inj h).symm⟩
        · cases h
      · next hfound => exact .inr ⟨hfound, (Except.ok.inj h).symm⟩

theorem register_default_eq_ok {path name : Value}
    (h : t.register (.default path name) = .ok t') : t.registerDefault path name = .ok t' := by
  unfold register at h
  split at h
  · cases h
  · exact h

theorem register_named_eq_ok {path name rename : Value}
    (h : t.register (.named path name rename) = .ok t') :
    t.registerNamed path name rename = .ok t' := by
  unfold register at h
  split at h
  · cases h
  · exact h

/-- A request that is met is kept. -/
theorem keeps_of_register (htext : spec.isTextual = true) (h : t.register spec = .ok t') :
    t'.Keeps spec := by
  cases spec with
  | default path name =>
    obtain ⟨htruthy, -, rfl⟩ := registerDefault_eq_ok (register_default_eq_ok h)
    obtain ⟨s, rfl⟩ := Value.isStr_iff.mp (Bool.and_eq_true_iff.mp htext).1
    refine ⟨htruthy, ?_⟩
    rw [entry_putEntry, if_pos (Value.same_str_iff.mpr rfl)]
  | named path name rename =>
    obtain ⟨htruthy, hmet⟩ := registerNamed_eq_ok (register_named_eq_ok h)
    simp only [ImportSpec.isTextual, Bool.and_eq_true] at htext
    obtain ⟨⟨hpath, hname⟩, hrename⟩ := htext
    obtain ⟨s, rfl⟩ := Value.isStr_iff.mp hpath
    refine ⟨htruthy, ?_⟩
    rcases hmet with ⟨present, hfound, hsame, rfl⟩ | ⟨hfound, rfl⟩
    · rw [hfound, (same_iff_of_textual (keptAlias_textual hrename)).mp hsame]
    · obtain ⟨n, rfl⟩ := eq_str_of_truthy hname htruthy
      rw [entry_putEntry, if_pos (Value.same_str_iff.mpr rfl), Entries.find?_append, hfound,
        Entries.find?_cons, if_pos (Value.same_str_iff.mpr rfl)]
      rfl

/-- What holds of the entry of a path holds after a put, if it does of an entry put there. -/
private theorem entry_putEntry_of {P : ImportEntry → Prop} {path : Value} {e : ImportEntry}
    {s : String} (h : P (t.entry (.str s))) (hput : path = .str s → P e) :
    P ((t.putEntry path e).entry (.str s)) := by
  rw [entry_putEntry]
  split
  · next hpath => exact hput (Value.same_str_iff.mp hpath)
  · exact h

private theorem Keeps.registerDefault {path name : Value} (hkeeps : t.Keeps spec)
    (htext : spec.isTextual = true) (h : t.registerDefault path name = .ok t') : t'.Keeps spec := by
  obtain ⟨-, hsame, rfl⟩ := registerDefault_eq_ok h
  cases spec with
  | default _ kept =>
    simp only [ImportSpec.isTextual, Bool.and_eq_true] at htext
    obtain ⟨s, rfl⟩ := Value.isStr_iff.mp htext.1
    obtain ⟨htruthy, hkept⟩ := hkeeps
    obtain ⟨n, rfl⟩ := eq_str_of_truthy htext.2 htruthy
    -- another name for the default export of this path would have been refused
    refine ⟨htruthy, entry_putEntry_of (P := fun e => e.default = .str n) hkept fun hpath => ?_⟩
    rw [hpath, hkept] at hsame
    exact Value.str_same_iff.mp (hsame htruthy)
  | named _ kept rename =>
    simp only [ImportSpec.isTextual, Bool.and_eq_true] at htext
    obtain ⟨s, rfl⟩ := Value.isStr_iff.mp htext.1.1
    let P : ImportEntry → Prop := fun e => e.named.find? kept = some (keptAlias kept rename)
    exact ⟨hkeeps.1, entry_putEntry_of (P := P) hkeeps.2 fun hpath => hpath ▸ hkeeps.2⟩

private theorem Keeps.registerNamed {path name rename : Value} (hkeeps : t.Keeps spec)
    (htext : spec.isTextual = true) (h : t.registerNamed path name rename = .ok t') :
    t'.Keeps spec := by
  obtain ⟨-, ⟨_, -, -, rfl⟩ | ⟨-, rfl⟩⟩ := registerNamed_eq_ok h
  · exact hkeeps
  · cases spec with
    | default _ kept =>
      obtain ⟨s, rfl⟩ := Value.isStr_iff.mp (Bool.and_eq_true_iff.mp htext).1
      let P : ImportEntry → Prop := fun e => e.default = kept
      exact ⟨hkeeps.1, entry_putEntry_of (P := P) hkeeps.2 fun hpath => hpath ▸ hkeeps.2⟩
    | named _ kept rename' =>
      simp only [ImportSpec.isTextual, Bool.and_eq_true] at htext
      obtain ⟨s, rfl⟩ := Value.isStr_iff.mp htext.1.1
      obtain ⟨htruthy, hkept⟩ := hkeeps
      let P : ImportEntry → Prop := fun e => e.named.find? kept = some (keptAlias kept rename')
      refine ⟨htruthy, entry_putEntry_of (P := P) hkept fun hpath => ?_⟩
      simp only [P, hpath, Entries.find?_append, hkept, Option.some_or]

/-- What is kept stays so when another request is met. -/
theorem Keeps.register {other : ImportSpec} (hkeeps : t.Keeps spec)
    (htext : spec.isTextual = true) (h : t.register other = .ok t') : t'.Keeps spec := by
  cases other with
  | default => exact hkeeps.registerDefault htext (register_default_eq_ok h)
  | named => exact hkeeps.registerNamed htext (register_named_eq_ok h)

/-! ### Requests in order -/

theorem Keeps.registerAll {others : List ImportSpec} (hkeeps : t.Keeps spec)
    (htext : spec.isTextual = true) (h : t.registerAll others = (.ok (), t')) : t'.Keeps spec := by
  induction others generalizing t with
  | nil => exact (Prod.mk.inj h).2 ▸ hkeeps
  | cons other others ih =>
    rw [ImportTable.registerAll] at h
    split at h
    next hmet => exact ih (hkeeps.register htext hmet) h
    next => cases h

/-- Each of several requests that are met is kept. -/
theorem keeps_of_mem_registerAll {specs : List ImportSpec} (hspec : spec ∈ specs)
    (htext : spec.isTextual = true) (h : t.registerAll specs = (.ok (), t')) : t'.Keeps spec := by
  induction specs generalizing t with
  | nil => cases hspec
  | cons first specs ih =>
    rw [ImportTable.registerAll] at h
    split at h
    next hmet =>
      rcases List.mem_cons.mp hspec with rfl | hspec
      · exact (keeps_of_register htext hmet).registerAll htext h
      · exact ih hspec h
    next => cases h

/-! ### Declarations -/

theorem exists_declaration {ds : List ImportDeclaration} {s : String}
    (hasked : ((t.entry (.str s)).default.truthy || !(t.entry (.str s)).named.isEmpty) = true)
    (hds : t.declarations = .ok ds) :
    ∃ d ∈ ds, d.path = .str s ∧ d.default = (t.entry (.str s)).default ∧
      d.named.Perm (t.entry (.str s)).named := by
  obtain ⟨sorted, hsorted, hds⟩ := bind_eq_ok_iff.mp hds
  cases hfound : t.entries.find? (.str s) with
  | none =>
    rw [entry, hfound] at hasked
    cases hasked
  | some e =>
    have hentry : t.entry (.str s) = e := by rw [entry, hfound, Option.getD_some]
    rw [hentry] at hasked ⊢
    have hmem := (perm_of_sortByKey hsorted).mem_iff.mpr (Entries.mem_of_find?_eq_some hfound)
    obtain ⟨d, hd, hmade⟩ := exists_mem_of_mapM_eq_ok hds _ (List.mem_filter.mpr ⟨hmem, hasked⟩)
    obtain ⟨named, hnamed, hmade⟩ := bind_eq_ok_iff.mp hmade
    obtain rfl := Except.ok.inj hmade
    exact ⟨_, hd, rfl, rfl, perm_of_sortByKey hnamed⟩

/-- What is kept is bound by the declarations of the table. -/
theorem Keeps.mem_bindings {ds : List ImportDeclaration} (hkeeps : t.Keeps spec)
    (htext : spec.isTextual = true) (hds : t.declarations = .ok ds) :
    (spec.binding, spec.localName) ∈ ds.flatMap ImportDeclaration.bindings := by
  rw [List.mem_flatMap]
  cases spec with
  | default path name =>
    simp only [ImportSpec.isTextual, Bool.and_eq_true] at htext
    obtain ⟨s, rfl⟩ := Value.isStr_iff.mp htext.1
    obtain ⟨htruthy, hkept⟩ := hkeeps
    obtain ⟨d, hd, hpath, hdefault, -⟩ := exists_declaration (by rw [hkept, htruthy]; rfl) hds
    rw [hkept] at hdefault
    exact ⟨d, hd, ImportDeclaration.mem_bindings_iff.mpr
      (.inl ⟨hdefault ▸ htruthy, hpath ▸ rfl, hdefault.symm⟩)⟩
  | named path name rename =>
    simp only [ImportSpec.isTextual, Bool.and_eq_true] at htext
    obtain ⟨s, rfl⟩ := Value.isStr_iff.mp htext.1.1
    obtain ⟨htruthy, hkept⟩ := hkeeps
    obtain ⟨n, rfl⟩ := eq_str_of_truthy htext.1.2 htruthy
    have hmem := Entries.mem_of_find?_eq_some hkept
    have hasked : (!(t.entry (.str s)).named.isEmpty) = true := by
      rw [Bool.not_eq_true', List.isEmpty_eq_false_iff]
      exact List.ne_nil_of_mem hmem
    obtain ⟨d, hd, hpath, -, hperm⟩ := exists_declaration (by rw [hasked, Bool.or_true]) hds
    refine ⟨d, hd, ImportDeclaration.mem_bindings_iff.mpr
      (.inr ⟨_, hperm.mem_iff.mpr hmem, hpath ▸ rfl, ?_⟩)⟩
    exact (boundName_keptAlias htext.1.2 htruthy).symm

end ImportTable

end PageMarkup
