import PageMarkup.Imports.Table
import PageMarkup.Proofs.Content.TextKeys

/-!
# Requests and the table that meets them

What a list of import requests asks for is said here without any order: which requests have no name,
which two of them cannot both be met, and when a table holds exactly what was asked for. One more
request keeps the table exact if it agrees with those before it, and is refused otherwise.

## Main definitions

* `ImportSpec.isTextual` : the path is a text, and the names are texts or missing.
* `ImportSpec.Nameless`, `ImportSpec.Disagrees`, `ImportSpec.Clashing` : requests that cannot be
  met.
* `MeetsPath` : a default name and names with aliases are what requests ask of a path.
* `ImportTable.Holds` : the table has an entry for the paths of the requests alone, and each entry
  meets them.

## Main results

* `ImportTable.register_of_agrees`, `ImportTable.register_of_not_agrees` : one request.
* `ImportTable.registerAll_holds` : requests in order.
-/

namespace PageMarkup

open ImportTable (keptAlias)

/-! ### What requests ask for -/

namespace ImportSpec

/-- A request as components make it: the path is a text, and a name or alias is a text or
missing. -/
def isTextual : ImportSpec → Bool
  | .named path name rename =>
    path.isStr && (name.isStr || name.isNull) && (rename.isStr || rename.isNull)
  | .default path name => path.isStr && (name.isStr || name.isNull)

theorem isStr_path {spec : ImportSpec} (h : spec.isTextual = true) : spec.path.isStr = true := by
  cases spec with
  | default => exact (Bool.and_eq_true_iff.mp h).1
  | named => exact (Bool.and_eq_true_iff.mp (Bool.and_eq_true_iff.mp h).1).1

/-- A request whose name is missing or empty. -/
def Nameless : ImportSpec → Prop
  | .named _ name _ => name.truthy = false
  | .default _ name => name.truthy = false

/-- Two requests that cannot both be met: for the default export of one path under different names,
or for one exported name of one path with different aliases. -/
def Disagrees : ImportSpec → ImportSpec → Prop
  | .default path name, .default path' name' => path = path' ∧ name ≠ name'
  | .named path name rename, .named path' name' rename' =>
    path = path' ∧ name = name' ∧ keptAlias name rename ≠ keptAlias name' rename'
  | _, _ => False

/-- Requests that cannot all be met. -/
def Clashing (specs : List ImportSpec) : Prop :=
  (∃ spec ∈ specs, spec.Nameless) ∨ ∃ spec ∈ specs, ∃ spec' ∈ specs, spec.Disagrees spec'

/-- A request can be met next to others. -/
def Agrees (spec : ImportSpec) (specs : List ImportSpec) : Prop :=
  ¬ spec.Nameless ∧ ∀ spec' ∈ specs, ¬ spec'.Disagrees spec

theorem not_disagrees_self (spec : ImportSpec) : ¬ spec.Disagrees spec := by
  cases spec <;> simp [Disagrees]

theorem Disagrees.symm {spec spec' : ImportSpec} (h : spec.Disagrees spec') :
    spec'.Disagrees spec := by
  cases spec <;> cases spec' <;> simp only [Disagrees] at h ⊢
  · obtain ⟨rfl, rfl, hne⟩ := h
    exact ⟨rfl, rfl, hne.symm⟩
  · exact ⟨h.1.symm, h.2.symm⟩

theorem Clashing.mono {specs specs' : List ImportSpec} (h : Clashing specs)
    (hsub : ∀ spec ∈ specs, spec ∈ specs') : Clashing specs' := by
  rcases h with ⟨spec, hs, hn⟩ | ⟨spec, hs, spec', hs', hd⟩
  · exact Or.inl ⟨spec, hsub spec hs, hn⟩
  · exact Or.inr ⟨spec, hsub spec hs, spec', hsub spec' hs', hd⟩

theorem not_clashing_nil : ¬ Clashing [] := by
  simp [Clashing]

theorem clashing_cons_iff {spec : ImportSpec} {specs : List ImportSpec} (h : ¬ Clashing specs) :
    Clashing (spec :: specs) ↔ ¬ spec.Agrees specs := by
  constructor
  · rintro hclash ⟨hname, hagree⟩
    rcases hclash with ⟨other, ho, hn⟩ | ⟨a, ha, b, hb, hd⟩
    · rcases List.mem_cons.mp ho with rfl | ho
      · exact hname hn
      · exact h (Or.inl ⟨other, ho, hn⟩)
    · rcases List.mem_cons.mp ha with heq | ha <;> rcases List.mem_cons.mp hb with heq' | hb
      · rw [heq, heq'] at hd
        exact not_disagrees_self spec hd
      · exact hagree b hb (heq ▸ hd.symm)
      · exact hagree a ha (heq' ▸ hd)
      · exact h (Or.inr ⟨a, ha, b, hb, hd⟩)
  · intro hagree
    by_cases hname : spec.Nameless
    · exact Or.inl ⟨spec, List.mem_cons_self, hname⟩
    · simp only [Agrees, hname, not_false_eq_true, true_and, not_forall, not_not] at hagree
      obtain ⟨other, ho, hd⟩ := hagree
      exact Or.inr ⟨other, List.mem_cons_of_mem _ ho, spec, List.mem_cons_self, hd⟩

end ImportSpec

open ImportSpec

/-- A default name and names with their aliases are what requests ask of a path: the default is the
one that was asked for, or nothing, and the names are exactly those asked for, with the aliases that
are kept. -/
structure MeetsPath (specs : List ImportSpec) (path default : Value) (named : Entries Value) :
    Prop where
  default_eq : ∀ name, .default path name ∈ specs → default = name
  default_asked : default = .null ∨ .default path default ∈ specs
  mem_named_iff : ∀ name kept, (name, kept) ∈ named ↔
    ∃ rename, .named path name rename ∈ specs ∧ keptAlias name rename = kept

theorem MeetsPath.congr {specs specs' : List ImportSpec} {path default : Value}
    {named : Entries Value} (h : MeetsPath specs path default named)
    (hmem : ∀ spec, spec.path = path → (spec ∈ specs ↔ spec ∈ specs')) :
    MeetsPath specs' path default named where
  default_eq name hname := h.default_eq name ((hmem _ rfl).mpr hname)
  default_asked := h.default_asked.imp_right (hmem _ rfl).mp
  mem_named_iff name kept := by
    rw [h.mem_named_iff]
    exact exists_congr fun rename => and_congr_left fun _ => hmem _ rfl

namespace MeetsPath

variable {specs : List ImportSpec} {path default : Value} {named : Entries Value}

/-- A request for the default export that agrees with the others makes its name the default. -/
theorem cons_default (h : MeetsPath specs path default named) {name : Value}
    (hagree : (ImportSpec.default path name).Agrees specs) :
    MeetsPath (.default path name :: specs) path name named where
  default_eq other hother := by
    rcases List.mem_cons.mp hother with heq | hother
    · exact (ImportSpec.default.inj heq).2.symm
    · by_contra hne
      exact hagree.2 _ hother ⟨rfl, Ne.symm hne⟩
  default_asked := Or.inr List.mem_cons_self
  mem_named_iff other kept := by
    rw [h.mem_named_iff]
    simp

theorem cons_named (h : MeetsPath specs path default named) (name rename : Value) :
    MeetsPath (.named path name rename :: specs) path default
      (named ++ [(name, keptAlias name rename)]) where
  default_eq other hother := by
    rcases List.mem_cons.mp hother with heq | hother
    · cases heq
    · exact h.default_eq other hother
  default_asked := h.default_asked.imp_right (List.mem_cons_of_mem _)
  mem_named_iff other kept := by
    rw [List.mem_append, h.mem_named_iff, List.mem_singleton, Prod.mk.injEq]
    constructor
    · rintro (⟨rename', hspec, hkept⟩ | ⟨rfl, rfl⟩)
      · exact ⟨rename', List.mem_cons_of_mem _ hspec, hkept⟩
      · exact ⟨rename, List.mem_cons_self, rfl⟩
    · rintro ⟨rename', hspec, hkept⟩
      rcases List.mem_cons.mp hspec with heq | hspec
      · obtain ⟨-, rfl, rfl⟩ := ImportSpec.named.inj heq
        exact Or.inr ⟨rfl, hkept.symm⟩
      · exact Or.inl ⟨rename', hspec, hkept⟩

theorem cons_named_of_mem (h : MeetsPath specs path default named) {name rename : Value}
    (hmem : (name, keptAlias name rename) ∈ named) :
    MeetsPath (.named path name rename :: specs) path default named := by
  refine { h.cons_named name rename with mem_named_iff := fun other kept => ?_ }
  rw [← (h.cons_named name rename).mem_named_iff, List.mem_append, List.mem_singleton]
  constructor
  · exact Or.inl
  · rintro (hin | heq)
    · exact hin
    · exact heq ▸ hmem

end MeetsPath

/-- An entry meets the requests for its path, and its names are distinct texts. -/
structure ImportEntry.Holds (specs : List ImportSpec) (path : Value) (e : ImportEntry) : Prop where
  met : MeetsPath specs path e.default e.named
  text_names : e.named.HasTextKeys
  distinct_names : e.named.keys.Nodup

theorem ImportEntry.Holds.empty {specs : List ImportSpec} {path : Value}
    (h : ∀ spec ∈ specs, spec.path ≠ path) : ImportEntry.empty.Holds specs path where
  met := {
    default_eq := fun _ hname => absurd rfl (h _ hname)
    default_asked := Or.inl rfl
    mem_named_iff := fun _ _ => by
      constructor
      · intro hmem
        cases hmem
      · rintro ⟨_, hspec, _⟩
        exact absurd rfl (h _ hspec) }
  text_names := fun _ he => by cases he
  distinct_names := List.nodup_nil

theorem ImportEntry.Holds.cons_of_ne {specs : List ImportSpec} {path : Value} {e : ImportEntry}
    (h : e.Holds specs path) {spec : ImportSpec} (hne : spec.path ≠ path) :
    e.Holds (spec :: specs) path where
  met := h.met.congr fun other hother => by
    have : other ≠ spec := fun heq => hne (heq ▸ hother)
    simp [this]
  text_names := h.text_names
  distinct_names := h.distinct_names

namespace ImportTable

/-- A table holds what requests ask for: its paths are distinct texts and just those of the
requests, and each entry meets the requests for its path. -/
structure Holds (t : ImportTable) (specs : List ImportSpec) : Prop where
  text_paths : t.entries.HasTextKeys
  distinct_paths : t.entries.keys.Nodup
  mem_paths_iff : ∀ path, path ∈ t.entries.keys ↔ ∃ spec ∈ specs, spec.path = path
  entry_holds : ∀ e ∈ t.entries, e.2.Holds specs e.1

variable {t : ImportTable} {specs : List ImportSpec}

theorem Holds.empty : ImportTable.empty.Holds [] where
  text_paths := fun _ he => by cases he
  distinct_paths := List.nodup_nil
  mem_paths_iff := fun _ => by simp [ImportTable.empty, Entries.keys]
  entry_holds := fun _ he => by cases he

theorem Holds.congr (h : t.Holds specs) {specs' : List ImportSpec}
    (hmem : ∀ spec, spec ∈ specs ↔ spec ∈ specs') : t.Holds specs' where
  text_paths := h.text_paths
  distinct_paths := h.distinct_paths
  mem_paths_iff path := by
    rw [h.mem_paths_iff]
    exact exists_congr fun spec => and_congr_left fun _ => hmem spec
  entry_holds e he := ⟨(h.entry_holds e he).met.congr fun spec _ => hmem spec,
    (h.entry_holds e he).text_names, (h.entry_holds e he).distinct_names⟩

theorem Holds.entry (h : t.Holds specs) (s : String) : (t.entry (.str s)).Holds specs (.str s) := by
  unfold ImportTable.entry
  cases hf : t.entries.find? (.str s) with
  | none =>
    refine ImportEntry.Holds.empty fun spec hs heq => ?_
    exact Entries.find?_eq_none_iff.mp hf ((h.mem_paths_iff _).mpr ⟨spec, hs, heq⟩)
  | some e => exact h.entry_holds _ (Entries.mem_of_find?_eq_some hf)

/-- A table in which the entry of a path is put anew holds one more request for this path if the new
entry does. -/
theorem Holds.putEntry (h : t.Holds specs) {s : String} {spec : ImportSpec}
    (hpath : spec.path = .str s) {e : ImportEntry} (he : e.Holds (spec :: specs) (.str s)) :
    (t.putEntry (.str s) e).Holds (spec :: specs) where
  text_paths := h.text_paths.put s e
  distinct_paths := Entries.nodup_keys_put h.distinct_paths s e
  mem_paths_iff path := by
    rw [ImportTable.putEntry, Entries.mem_keys_put_iff, h.mem_paths_iff, List.exists_mem_cons_iff,
      hpath, @eq_comm _ path]
  entry_holds f hf := by
    rcases (Entries.mem_put_iff h.distinct_paths).mp hf with rfl | ⟨hf, hne⟩
    · exact he
    · exact (h.entry_holds f hf).cons_of_ne (hpath ▸ Ne.symm hne)

/-- A table in which a path has an entry already holds one more request for this path if the entry
does. -/
theorem Holds.cons_of_entry (h : t.Holds specs) {s : String} {spec : ImportSpec}
    (hpath : spec.path = .str s) (hmem : .str s ∈ t.entries.keys)
    (he : (t.entry (.str s)).Holds (spec :: specs) (.str s)) : t.Holds (spec :: specs) where
  text_paths := h.text_paths
  distinct_paths := h.distinct_paths
  mem_paths_iff path := by
    rw [List.exists_mem_cons_iff, ← h.mem_paths_iff, hpath]
    constructor
    · exact Or.inr
    · rintro (rfl | hin)
      · exact hmem
      · exact hin
  entry_holds f hf := by
    by_cases hne : f.1 = .str s
    · have hfound : t.entries.find? (.str s) = some f.2 :=
        (Entries.find?_eq_some_iff h.distinct_paths).mpr (hne ▸ hf)
      rw [hne]
      simpa [ImportTable.entry, hfound] using he
    · exact (h.entry_holds f hf).cons_of_ne (hpath ▸ Ne.symm hne)

/-! ### One more request -/

theorem eq_str_of_truthy {v : Value} (h : (v.isStr || v.isNull) = true)
    (ht : v.truthy = true) : ∃ s, v = .str s := by
  cases v <;> simp_all [Value.isStr, Value.isNull, Value.truthy]

theorem keptAlias_textual {name rename : Value}
    (h : (rename.isStr || rename.isNull) = true) :
    ((keptAlias name rename).isStr || (keptAlias name rename).isNull) = true := by
  unfold keptAlias
  split_ifs
  · rfl
  · exact h

theorem same_iff_of_textual {v w : Value} (h : (w.isStr || w.isNull) = true) :
    v.same w = true ↔ v = w := by
  cases w <;> simp_all [Value.isStr, Value.isNull, Value.same_str_iff, Value.same_null_iff]

private theorem registerDefault_of_agrees (h : t.Holds specs) {s : String} {name : Value}
    (htext : (name.isStr || name.isNull) = true)
    (hagree : (ImportSpec.default (.str s) name).Agrees specs) :
    ∃ t', t.registerDefault (.str s) name = .ok t' ∧
      t'.Holds (.default (.str s) name :: specs) := by
  have he := h.entry s
  have hname : name.truthy = true := by simpa [Nameless] using hagree.1
  have hfree : ((t.entry (.str s)).default.truthy &&
      !(t.entry (.str s)).default.same name) = false := by
    rcases he.met.default_asked with hnull | hasked
    · simp [hnull, Value.truthy]
    · have heq : (t.entry (.str s)).default = name :=
        (he.met.cons_default hagree).default_eq _ (List.mem_cons_of_mem _ hasked) |>.symm
      simp [(same_iff_of_textual htext).mpr heq]
  refine ⟨t.putEntry (.str s) { t.entry (.str s) with default := name }, ?_, ?_⟩
  · simp [registerDefault, hname, hfree]
  · exact h.putEntry rfl ⟨he.met.cons_default hagree, he.text_names, he.distinct_names⟩

private theorem registerNamed_of_agrees (h : t.Holds specs) {s : String} {name rename : Value}
    (htext : (name.isStr || name.isNull) = true) (hrename : (rename.isStr || rename.isNull) = true)
    (hagree : (ImportSpec.named (.str s) name rename).Agrees specs) :
    ∃ t', t.registerNamed (.str s) name rename = .ok t' ∧
      t'.Holds (.named (.str s) name rename :: specs) := by
  have he := h.entry s
  have hname : name.truthy = true := by simpa [Nameless] using hagree.1
  obtain ⟨n, rfl⟩ := eq_str_of_truthy htext hname
  have hhash : (Value.str n).hashable = true := rfl
  cases hf : (t.entry (.str s)).named.find? (.str n) with
  | none =>
    have hnew := Entries.find?_eq_none_iff.mp hf
    refine ⟨t.putEntry (.str s) { t.entry (.str s) with
      named := (t.entry (.str s)).named ++ [(.str n, keptAlias (.str n) rename)] }, ?_, ?_⟩
    · simp [registerNamed, hname, hhash, hf]
    · refine h.putEntry rfl ⟨he.met.cons_named _ _, ?_, ?_⟩
      · rw [← Entries.put_of_notMem hnew]
        exact he.text_names.put _ _
      · rw [← Entries.put_of_notMem hnew]
        exact Entries.nodup_keys_put he.distinct_names _ _
  | some present =>
    have hmem := Entries.mem_of_find?_eq_some hf
    obtain ⟨rename', hasked, hkept⟩ := (he.met.mem_named_iff _ _).mp hmem
    have heq : present = keptAlias (.str n) rename := by
      rw [← hkept]
      by_contra hne
      exact hagree.2 _ hasked ⟨rfl, rfl, hne⟩
    have hkept : ((keptAlias (.str n) rename).isStr || (keptAlias (.str n) rename).isNull) = true :=
      keptAlias_textual hrename
    have hsame := (same_iff_of_textual hkept).mpr heq
    refine ⟨t, by simp [registerNamed, hname, hhash, hf, hsame], h.cons_of_entry rfl ?_ ?_⟩
    · exact (h.mem_paths_iff _).mpr ⟨_, hasked, rfl⟩
    · exact ⟨he.met.cons_named_of_mem (heq ▸ hmem), he.text_names, he.distinct_names⟩

/-- A request that agrees with those that a table holds is met. -/
theorem register_of_agrees (h : t.Holds specs) {spec : ImportSpec}
    (htext : spec.isTextual = true) (hagree : spec.Agrees specs) :
    ∃ t', t.register spec = .ok t' ∧ t'.Holds (spec :: specs) := by
  cases spec with
  | default path name =>
    simp only [isTextual, Bool.and_eq_true] at htext
    obtain ⟨s, rfl⟩ := Value.isStr_iff.mp htext.1
    exact registerDefault_of_agrees h htext.2 hagree
  | named path name rename =>
    simp only [isTextual, Bool.and_eq_true] at htext
    obtain ⟨s, rfl⟩ := Value.isStr_iff.mp htext.1.1
    exact registerNamed_of_agrees h htext.1.2 htext.2 hagree

private theorem register_of_nameless {spec : ImportSpec} (htext : spec.isTextual = true)
    (hname : spec.Nameless) : ∃ f, t.register spec = .error f := by
  cases spec with
  | default path name =>
    simp only [isTextual, Bool.and_eq_true] at htext
    obtain ⟨s, rfl⟩ := Value.isStr_iff.mp htext.1
    have hfalse : name.truthy = false := hname
    exact ⟨_, by simp [register, ImportSpec.path, Value.hashable, registerDefault, hfalse]; rfl⟩
  | named path name rename =>
    simp only [isTextual, Bool.and_eq_true] at htext
    obtain ⟨s, rfl⟩ := Value.isStr_iff.mp htext.1.1
    have hfalse : name.truthy = false := hname
    exact ⟨_, by simp [register, ImportSpec.path, Value.hashable, registerNamed, hfalse]; rfl⟩

/-- A request for a default export is refused if the table holds one under another name. -/
private theorem registerDefault_of_ne (h : t.Holds specs) (hclash : ¬ Clashing specs) {s : String}
    {name other : Value} (htext : (name.isStr || name.isNull) = true)
    (hname : name.truthy = true) (hother : .default (.str s) other ∈ specs) (hne : other ≠ name) :
    ∃ f, t.registerDefault (.str s) name = .error f := by
  have hdefault := (h.entry s).met.default_eq _ hother
  have htruthy : other.truthy = true := by
    by_contra hfalse
    exact hclash (Or.inl ⟨_, hother, by simpa [Nameless] using hfalse⟩)
  have hdiffers : other.same name = false := by
    rw [← Bool.not_eq_true, same_iff_of_textual htext]
    exact hne
  exact ⟨_, by simp [registerDefault, hname, hdefault, htruthy, hdiffers]; rfl⟩

/-- A request for an exported name is refused if the table holds it with another alias. -/
private theorem registerNamed_of_ne (h : t.Holds specs) {s n : String} {rename other : Value}
    (hrename : (rename.isStr || rename.isNull) = true) (hname : (Value.str n).truthy = true)
    (hother : .named (.str s) (.str n) other ∈ specs)
    (hne : keptAlias (.str n) other ≠ keptAlias (.str n) rename) :
    ∃ f, t.registerNamed (.str s) (.str n) rename = .error f := by
  have hmem := ((h.entry s).met.mem_named_iff _ _).mpr ⟨_, hother, rfl⟩
  have hfound := (Entries.find?_eq_some_iff (h.entry s).distinct_names).mpr hmem
  have hdiffers : (keptAlias (.str n) other).same (keptAlias (.str n) rename) = false := by
    rw [← Bool.not_eq_true, same_iff_of_textual (keptAlias_textual hrename)]
    exact hne
  exact ⟨_, by simp [registerNamed, Value.hashable, hname, hfound, hdiffers]; rfl⟩

/-- A request that does not agree with those that a table holds is refused. -/
theorem register_of_not_agrees (h : t.Holds specs) (hclash : ¬ Clashing specs) {spec : ImportSpec}
    (htext : spec.isTextual = true) (hagree : ¬ spec.Agrees specs) :
    ∃ f, t.register spec = .error f := by
  by_cases hname : spec.Nameless
  · exact register_of_nameless htext hname
  · simp only [Agrees, hname, not_false_eq_true, true_and, not_forall, not_not] at hagree
    obtain ⟨other, hother, hdis⟩ := hagree
    cases spec with
    | default path name =>
      simp only [isTextual, Bool.and_eq_true] at htext
      obtain ⟨s, rfl⟩ := Value.isStr_iff.mp htext.1
      cases other with
      | named _ _ _ => exact absurd hdis id
      | default path' other =>
        obtain ⟨rfl, hne⟩ := hdis
        exact registerDefault_of_ne h hclash htext.2 (by simpa [Nameless] using hname) hother hne
    | named path name rename =>
      simp only [isTextual, Bool.and_eq_true] at htext
      obtain ⟨s, rfl⟩ := Value.isStr_iff.mp htext.1.1
      have hnamed : name.truthy = true := by simpa [Nameless] using hname
      obtain ⟨n, rfl⟩ := eq_str_of_truthy htext.1.2 hnamed
      cases other with
      | default _ _ => exact absurd hdis id
      | named path' other rename' =>
        obtain ⟨rfl, rfl, hne⟩ := hdis
        exact registerNamed_of_ne h htext.2 hnamed hother hne

/-! ### Requests in order -/

/-- What a run of requests leaves: either all are met and the table holds them too, or one is
refused and the requests clash. -/
theorem registerAll_holds (h : t.Holds specs) (hclash : ¬ Clashing specs) {more : List ImportSpec}
    (htext : ∀ spec ∈ more, spec.isTextual = true) :
    (∃ t', t.registerAll more = (.ok (), t') ∧ t'.Holds (more ++ specs) ∧
      ¬ Clashing (more ++ specs)) ∨
    (∃ f t', t.registerAll more = (.error f, t') ∧ Clashing (more ++ specs)) := by
  induction more generalizing t specs with
  | nil => exact Or.inl ⟨t, rfl, h, hclash⟩
  | cons spec more ih =>
    have hmem : ∀ other, other ∈ more ++ spec :: specs ↔ other ∈ spec :: more ++ specs := by
      simp [or_left_comm]
    have hspec := htext spec List.mem_cons_self
    by_cases hagree : spec.Agrees specs
    · obtain ⟨t₁, hstep, ht₁⟩ := register_of_agrees h hspec hagree
      have hclash₁ : ¬ Clashing (spec :: specs) := by
        rw [clashing_cons_iff hclash, not_not]
        exact hagree
      rcases ih ht₁ hclash₁ fun other ho => htext other (List.mem_cons_of_mem _ ho) with
        ⟨t', hrun, ht', hfree⟩ | ⟨f, t', hrun, hbad⟩
      · refine Or.inl ⟨t', by simp only [registerAll, hstep, hrun], ht'.congr hmem, ?_⟩
        exact fun hbad => hfree (hbad.mono fun other => (hmem other).mpr)
      · exact Or.inr ⟨f, t', by simp only [registerAll, hstep, hrun],
          hbad.mono fun other => (hmem other).mp⟩
    · obtain ⟨f, hstep⟩ := register_of_not_agrees h hclash hspec hagree
      refine Or.inr ⟨f, t.leftBy spec, by simp only [registerAll, hstep], ?_⟩
      exact ((clashing_cons_iff hclash).mpr hagree).mono fun other ho =>
        (hmem other).mp (List.mem_append_right _ ho)

theorem registerAll_holds_of_perm (h : t.Holds specs) (hclash : ¬ Clashing specs)
    {more more' : List ImportSpec} (hperm : more'.Perm more)
    (htext : ∀ spec ∈ more, spec.isTextual = true) :
    (∃ t', t.registerAll more' = (.ok (), t') ∧ t'.Holds (more ++ specs) ∧
      ¬ Clashing (more ++ specs)) ∨
    (∃ f t', t.registerAll more' = (.error f, t') ∧ Clashing (more ++ specs)) := by
  have hmem : ∀ spec, spec ∈ more' ++ specs ↔ spec ∈ more ++ specs := fun spec =>
    (hperm.append_right specs).mem_iff
  rcases registerAll_holds h hclash fun spec hspec => htext spec (hperm.mem_iff.mp hspec) with
    ⟨t', hrun, hholds, hfree⟩ | ⟨f, t', hrun, hbad⟩
  · exact .inl ⟨t', hrun, hholds.congr hmem, fun hbad =>
      hfree (hbad.mono fun spec => (hmem spec).mpr)⟩
  · exact .inr ⟨f, t', hrun, hbad.mono fun spec => (hmem spec).mp⟩

theorem registerAll_append (t : ImportTable) (first second : List ImportSpec) :
    t.registerAll (first ++ second) =
      match t.registerAll first with
      | (.ok (), t') => t'.registerAll second
      | (.error f, t') => (.error f, t') := by
  induction first generalizing t with
  | nil => rfl
  | cons spec first ih =>
    simp only [List.cons_append, registerAll]
    cases t.register spec with
    | ok t' => exact ih t'
    | error f => rfl

end ImportTable

end PageMarkup
