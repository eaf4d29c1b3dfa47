import PageMarkup.Proofs.Imports.Merge

/-!
# The names that imports bind

An import binds the default export of a path, or one of its exported names, to a local name. Of
declarations that ask for just what requests ask for, no two bind the same, and what each binds goes
by the name that was asked for. So the local names of declarations are distinct exactly if no two
requests ask for different bindings under one name. Nothing in the table looks after this: requests
are compared only if they are for the same binding.

## Main definitions

* `Binding` : what is bound by an import.
* `ImportSpec.binding`, `ImportSpec.localName` : what a request is for, and under which name.
* `ImportDeclaration.bindings`, `localNames` : what declarations bind, and to which names.

## Main results

* `DeclaresExactly.mem_bindings_iff` : declarations bind what is asked for.
* `DeclaresExactly.nodup_bindings` : nothing is bound twice.
* `DeclaresExactly.nodup_localNames_iff` : when local names are distinct.
-/

namespace PageMarkup

open ImportTable (keptAlias)
open ImportSpec (Clashing Nameless Disagrees)

/-- What is bound by an import: the default export of a path, or one of its exported names. -/
inductive Binding where
  | default (path : Value)
  | named (path name : Value)

/-- The path that a binding comes from. -/
def Binding.path : Binding → Value
  | .default path => path
  | .named path _ => path

/-- The name that an exported name is bound to: its alias if it has one, and itself otherwise. -/
def boundName (name rename : Value) : Value :=
  if rename.truthy then rename else name

namespace ImportSpec

/-- What a request is for. -/
def binding : ImportSpec → Binding
  | .default path _ => .default path
  | .named path name _ => .named path name

/-- The name under which a request asks for what it is for. -/
def localName : ImportSpec → Value
  | .default _ name => name
  | .named _ name rename => boundName name rename

end ImportSpec

/-- What a declaration binds, each with its local name. -/
def ImportDeclaration.bindings (d : ImportDeclaration) : List (Binding × Value) :=
  (if d.default.truthy then [(.default d.path, d.default)] else []) ++
    d.named.map fun e => (.named d.path e.1, boundName e.1 e.2)

/-- The local names of declarations. -/
def localNames (ds : List ImportDeclaration) : List Value :=
  (ds.flatMap ImportDeclaration.bindings).map Prod.snd

/-! ### Requests for one binding -/

theorem boundName_keptAlias {name rename : Value}
    (htext : (name.isStr || name.isNull) = true) (hname : name.truthy = true) :
    boundName name (keptAlias name rename) = boundName name rename := by
  unfold keptAlias
  by_cases hsame : rename.same name = true
  · obtain ⟨s, rfl⟩ : ∃ s, name = .str s := by
      cases name <;> simp_all [Value.isStr, Value.isNull, Value.truthy]
    rw [if_pos hsame, Value.same_str_iff.mp hsame]
    simp [boundName, Value.truthy]
  · rw [if_neg hsame]

theorem ImportSpec.disagrees_of_localName_ne {a b : ImportSpec} (ha : a.isTextual = true)
    (hname : ¬ a.Nameless) (hbinding : a.binding = b.binding) (hne : a.localName ≠ b.localName) :
    a.Disagrees b := by
  cases a with
  | default path name =>
    cases b with
    | named _ _ _ => cases hbinding
    | default path' name' => exact ⟨Binding.default.inj hbinding, hne⟩
  | named path name rename =>
    cases b with
    | default _ _ => cases hbinding
    | named path' name' rename' =>
      obtain ⟨rfl, rfl⟩ := Binding.named.inj hbinding
      simp only [isTextual, Bool.and_eq_true] at ha
      have htruthy : name.truthy = true := by simpa [Nameless] using hname
      refine ⟨rfl, rfl, fun hkept => hne ?_⟩
      rw [localName, localName, ← boundName_keptAlias ha.1.2 htruthy, hkept,
        boundName_keptAlias ha.1.2 htruthy]

/-! ### What declarations bind -/

namespace ImportDeclaration

variable {d : ImportDeclaration}

theorem mem_bindings_iff {b : Binding} {name : Value} : (b, name) ∈ d.bindings ↔
    (d.default.truthy = true ∧ b = .default d.path ∧ name = d.default) ∨
      ∃ e ∈ d.named, b = .named d.path e.1 ∧ name = boundName e.1 e.2 := by
  have hdefault : (b, name) ∈ (if d.default.truthy then
      [(Binding.default d.path, d.default)] else []) ↔
        d.default.truthy = true ∧ b = .default d.path ∧ name = d.default := by
    by_cases htruthy : d.default.truthy = true <;> simp [htruthy]
  rw [bindings, List.mem_append, hdefault, List.mem_map]
  simp only [Prod.mk.injEq, eq_comm (a := b), eq_comm (a := name)]

theorem path_of_mem_bindings {e : Binding × Value} (h : e ∈ d.bindings) : e.1.path = d.path := by
  rcases mem_bindings_iff.mp h with ⟨-, hb, -⟩ | ⟨_, -, hb, -⟩ <;> rw [hb, Binding.path]

/-- A declaration whose names are distinct binds nothing twice. -/
theorem nodup_bindings (h : d.named.keys.Nodup) : (d.bindings.map Prod.fst).Nodup := by
  have hnamed : (d.named.map fun e => Binding.named d.path e.1).Nodup := by
    have hinj : Function.Injective (Binding.named d.path) := fun _ _ heq =>
      (Binding.named.inj heq).2
    simpa [Entries.keys, Function.comp_def] using h.map hinj
  have hnames : (d.named.map fun e => (Binding.named d.path e.1, boundName e.1 e.2)).map Prod.fst =
      d.named.map fun e => Binding.named d.path e.1 := by
    rw [List.map_map]
    rfl
  rw [bindings, List.map_append, hnames]
  by_cases htruthy : d.default.truthy = true
  · rw [if_pos htruthy, List.map_singleton, List.singleton_append, List.nodup_cons]
    exact ⟨by simp, hnamed⟩
  · rw [if_neg htruthy]
    exact hnamed

end ImportDeclaration

namespace DeclaresExactly

variable {specs : List ImportSpec} {ds : List ImportDeclaration} (h : DeclaresExactly specs ds)

include h

/-- Declarations bind what is asked for, each under the name that was asked for, and nothing
else. -/
theorem mem_bindings_iff (htext : ∀ spec ∈ specs, spec.isTextual = true)
    (hclash : ¬ Clashing specs) {b : Binding} {name : Value} :
    (b, name) ∈ ds.flatMap ImportDeclaration.bindings ↔
      ∃ spec ∈ specs, spec.binding = b ∧ spec.localName = name := by
  have hnamed : ∀ spec ∈ specs, ¬ spec.Nameless := fun spec hspec hnone =>
    hclash (.inl ⟨spec, hspec, hnone⟩)
  have hbound : ∀ path exported rename, .named path exported rename ∈ specs →
      boundName exported (keptAlias exported rename) = boundName exported rename := by
    intro path exported rename hspec
    have htexts := htext _ hspec
    simp only [ImportSpec.isTextual, Bool.and_eq_true] at htexts
    exact boundName_keptAlias htexts.1.2 (by simpa [Nameless] using hnamed _ hspec)
  rw [List.mem_flatMap]
  constructor
  · rintro ⟨d, hd, hmem⟩
    have hmet := h.met d hd
    rcases ImportDeclaration.mem_bindings_iff.mp hmem with ⟨htruthy, rfl, rfl⟩ | ⟨e, he, rfl, rfl⟩
    · rcases hmet.default_asked with hnull | hasked
      · rw [hnull] at htruthy
        cases htruthy
      · exact ⟨_, hasked, rfl, rfl⟩
    · obtain ⟨rename, hasked, hkept⟩ := (hmet.mem_named_iff e.1 e.2).mp he
      refine ⟨_, hasked, rfl, ?_⟩
      rw [ImportSpec.localName, ← hbound _ _ _ hasked, hkept]
  · rintro ⟨spec, hspec, rfl, rfl⟩
    obtain ⟨d, hd, hpath⟩ := (h.path_iff spec.path).mpr ⟨spec, hspec, rfl⟩
    have hmet := h.met d hd
    rw [hpath] at hmet
    refine ⟨d, hd, ImportDeclaration.mem_bindings_iff.mpr ?_⟩
    cases spec with
    | default path name =>
      have hdefault : d.default = name := hmet.default_eq name hspec
      have htruthy : name.truthy = true := by simpa [Nameless] using hnamed _ hspec
      exact .inl ⟨hdefault ▸ htruthy, congrArg Binding.default hpath.symm, hdefault.symm⟩
    | named path name rename =>
      have hentry := (hmet.mem_named_iff name _).mpr ⟨rename, hspec, rfl⟩
      exact .inr ⟨_, hentry, congrArg (Binding.named · name) hpath.symm,
        (hbound _ _ _ hspec).symm⟩

/-- Declarations of distinct paths bind nothing twice. -/
theorem nodup_bindings (hpaths : (ds.map ImportDeclaration.path).Nodup) :
    ((ds.flatMap ImportDeclaration.bindings).map Prod.fst).Nodup := by
  rw [List.map_flatMap, List.nodup_flatMap]
  refine ⟨fun d hd => ImportDeclaration.nodup_bindings ?_, ?_⟩
  · exact List.pairwise_map.mpr ((h.names_ascending d hd).imp Value.TextLt.ne)
  · refine (List.pairwise_map.mp hpaths).imp fun {d d'} hne => ?_
    refine List.disjoint_left.mpr ?_
    intro b hb hb'
    obtain ⟨e, he, rfl⟩ := List.mem_map.mp hb
    obtain ⟨e', he', heq⟩ := List.mem_map.mp hb'
    rw [← ImportDeclaration.path_of_mem_bindings he, ← heq,
      ImportDeclaration.path_of_mem_bindings he'] at hne
    exact hne rfl

/-- The local names of declarations are distinct exactly if no two requests ask for different
bindings under one name. -/
theorem nodup_localNames_iff (htext : ∀ spec ∈ specs, spec.isTextual = true)
    (hclash : ¬ Clashing specs) (hpaths : (ds.map ImportDeclaration.path).Nodup) :
    (localNames ds).Nodup ↔
      ∀ a ∈ specs, ∀ b ∈ specs, a.localName = b.localName → a.binding = b.binding := by
  have honce := h.nodup_bindings hpaths
  have hmem : ∀ {b name}, (b, name) ∈ ds.flatMap ImportDeclaration.bindings ↔
      ∃ spec ∈ specs, spec.binding = b ∧ spec.localName = name :=
    h.mem_bindings_iff htext hclash
  rw [localNames, List.nodup_map_iff_inj_on honce.of_map]
  constructor
  · intro hinj a ha b hb hname
    have heq := hinj (a.binding, a.localName) (hmem.mpr ⟨a, ha, rfl, rfl⟩)
      (b.binding, b.localName) (hmem.mpr ⟨b, hb, rfl, rfl⟩) hname
    exact (Prod.ext_iff.mp heq).1
  · rintro hapart ⟨b, name⟩ hb ⟨b', name'⟩ hb' hname
    obtain ⟨spec, hspec, rfl, rfl⟩ := hmem.mp hb
    obtain ⟨spec', hspec', rfl, rfl⟩ := hmem.mp hb'
    exact Prod.ext (hapart spec hspec spec' hspec' hname) hname

theorem mem_localNames_iff (htext : ∀ spec ∈ specs, spec.isTextual = true)
    (hclash : ¬ Clashing specs) {name : Value} :
    name ∈ localNames ds ↔ ∃ spec ∈ specs, spec.localName = name := by
  simp only [localNames, List.mem_map, Prod.exists, exists_eq_right,
    h.mem_bindings_iff htext hclash]
  constructor
  · rintro ⟨b, spec, hspec, -, hname⟩
    exact ⟨spec, hspec, hname⟩
  · rintro ⟨spec, hspec, hname⟩
    exact ⟨spec.binding, spec, hspec, rfl, hname⟩

end DeclaresExactly

end PageMarkup
