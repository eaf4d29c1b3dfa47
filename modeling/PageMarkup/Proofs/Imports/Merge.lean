import PageMarkup.Proofs.Content.Outcomes
import PageMarkup.Proofs.Imports.Requests

/-!
# Merging import requests

Whether requests can be met, and which declarations come of them, depends on the requests alone: not
on their order, and not on how they are cut into calls. Declarations come out sorted, one for each
path, with the default name and the names and aliases that were asked for and no others.

## Main definitions

* `ImportTable.registerCalls` : calls one after the other, up to the first that fails.
* `DeclaresExactly` : declarations ask for just what requests ask for.
* `PathsAscending` : one declaration for each path, sorted by path.
* `ImportTable.SameRequests` : tables that hold the same requests.

## Main results

* `ImportTable.declarations_of_holds` : the declarations of a table that holds requests.
* `DeclaresExactly.unique` : sorted declarations of the same requests are the same.
* `registerCalls_perm` : the outcome of calls in any order and cut.
-/

namespace PageMarkup

open ImportSpec ImportTable

/-- Declarations ask for just what requests ask for: there is one for each path of a request and for
no other, it has the default name and the names with aliases that were asked for, and its names are
sorted and distinct. -/
structure DeclaresExactly (specs : List ImportSpec) (ds : List ImportDeclaration) : Prop where
  path_iff : ∀ path, (∃ d ∈ ds, d.path = path) ↔ ∃ spec ∈ specs, spec.path = path
  met : ∀ d ∈ ds, MeetsPath specs d.path d.default d.named
  names_ascending : ∀ d ∈ ds, d.named.Pairwise fun a b => a.1.TextLt b.1

/-- The paths of declarations ascend strictly. -/
def PathsAscending (ds : List ImportDeclaration) : Prop :=
  ds.Pairwise fun a b => a.path.TextLt b.path

/-! ### Declarations are determined by the requests -/

/-- Lists with the same members are equal if both ascend strictly by a text of their members. -/
private theorem eq_of_ascending {α : Type} {key : α → Value} {xs ys : List α}
    (hx : xs.Pairwise fun a b => (key a).TextLt (key b))
    (hy : ys.Pairwise fun a b => (key a).TextLt (key b)) (h : ∀ a, a ∈ xs ↔ a ∈ ys) : xs = ys := by
  have : Std.Antisymm fun a b : α => (key a).TextLt (key b) :=
    ⟨fun _ _ hab hba => absurd hba hab.asymm⟩
  have : Std.Irrefl fun a b : α => (key a).TextLt (key b) := ⟨fun a => Value.TextLt.irrefl (key a)⟩
  exact hx.eq_of_mem_iff hy h

theorem MeetsPath.default_unique {specs : List ImportSpec} {path default default' : Value}
    {named named' : Entries Value} (h : MeetsPath specs path default named)
    (h' : MeetsPath specs path default' named') : default = default' := by
  rcases h.default_asked with hnull | hasked
  · rcases h'.default_asked with hnull' | hasked'
    · rw [hnull, hnull']
    · exact h.default_eq _ hasked'
  · exact (h'.default_eq _ hasked).symm

namespace DeclaresExactly

variable {specs : List ImportSpec} {ds ds' : List ImportDeclaration}

private theorem mem_of_mem (h : DeclaresExactly specs ds) (h' : DeclaresExactly specs ds')
    {d : ImportDeclaration} (hd : d ∈ ds) : d ∈ ds' := by
  obtain ⟨d', hd', hpath⟩ := (h'.path_iff d.path).mpr ((h.path_iff d.path).mp ⟨d, hd, rfl⟩)
  have hmet := h.met d hd
  have hmet' := h'.met d' hd'
  rw [hpath] at hmet'
  have hnamed : d.named = d'.named := by
    apply eq_of_ascending (h.names_ascending d hd) (h'.names_ascending d' hd')
    rintro ⟨name, kept⟩
    rw [hmet.mem_named_iff, hmet'.mem_named_iff]
  have hdefault : d.default = d'.default := hmet.default_unique hmet'
  have heq : d = d' := by
    cases d
    cases d'
    simp_all
  exact heq ▸ hd'

/-- Sorted declarations that ask for just what is requested are the same. -/
theorem unique (h : DeclaresExactly specs ds) (h' : DeclaresExactly specs ds')
    (hs : PathsAscending ds) (hs' : PathsAscending ds') : ds = ds' :=
  eq_of_ascending hs hs' fun _ => ⟨h.mem_of_mem h', h'.mem_of_mem h⟩

end DeclaresExactly

/-! ### The declarations of a table -/

theorem ImportTable.asks_of_holds {t : ImportTable} {specs : List ImportSpec} (h : t.Holds specs)
    (hclash : ¬ Clashing specs) {e : Value × ImportEntry} (he : e ∈ t.entries) :
    (e.2.default.truthy || !e.2.named.isEmpty) = true := by
  obtain ⟨spec, hspec, hpath⟩ := (h.mem_paths_iff _).mp (Entries.mem_keys_of_mem he)
  have hmet := (h.entry_holds e he).met
  rw [← hpath] at hmet
  cases spec with
  | default path name =>
    have hdefault : e.2.default = name := hmet.default_eq name hspec
    have hname : name.truthy = true := by
      by_contra hfalse
      exact hclash (Or.inl ⟨_, hspec, by simpa [Nameless] using hfalse⟩)
    simp [hdefault, hname]
  | named path name rename =>
    have hmem := (hmet.mem_named_iff name _).mpr ⟨rename, hspec, rfl⟩
    have hne : e.2.named ≠ [] := List.ne_nil_of_mem hmem
    simp [hne]

/-- A table that holds requests gives sorted declarations that ask for just what is requested. -/
theorem ImportTable.declarations_of_holds {t : ImportTable} {specs : List ImportSpec}
    (h : t.Holds specs) (hclash : ¬ Clashing specs) :
    ∃ ds, t.declarations = .ok ds ∧ DeclaresExactly specs ds ∧ PathsAscending ds := by
  obtain ⟨sorted, hsort, hperm, hasc⟩ := sortByKey_of_textKeys h.text_paths h.distinct_paths
  have hfilter : sorted.filter (fun e => e.2.default.truthy || !e.2.named.isEmpty) = sorted :=
    List.filter_eq_self.mpr fun e he => asks_of_holds h hclash (hperm.mem_iff.mp he)
  have hnames : ∀ e ∈ sorted, ∃ names, sortByKey e.2.named = .ok names ∧
      names.Perm e.2.named ∧ names.Pairwise fun a b => a.1.TextLt b.1 := by
    intro e he
    have hentry := h.entry_holds e (hperm.mem_iff.mp he)
    exact sortByKey_of_textKeys hentry.text_names hentry.distinct_names
  choose! names hok hnperm hnasc using hnames
  let declared : Value × ImportEntry → ImportDeclaration := fun e => ⟨e.1, e.2.default, names e⟩
  refine ⟨sorted.map declared, ?_, ?_, List.pairwise_map.mpr hasc⟩
  · have hmap : (sorted.mapM fun e => do
        return (⟨e.1, e.2.default, ← sortByKey e.2.named⟩ : ImportDeclaration)) =
          Except.ok (ε := Misuse) (sorted.map declared) :=
      mapM_eq_ok_map fun e he => by
        rw [hok e he]
        rfl
    rw [← hmap, declarations, hsort]
    change (sorted.filter _).mapM _ = _
    rw [hfilter]
  · constructor
    · intro path
      rw [← h.mem_paths_iff]
      simp only [Entries.keys, List.mem_map, exists_exists_and_eq_and, hperm.mem_iff, declared]
    · intro d hd
      obtain ⟨e, he, rfl⟩ := List.mem_map.mp hd
      have hmet := (h.entry_holds e (hperm.mem_iff.mp he)).met
      exact { hmet with
        mem_named_iff := fun name kept => by rw [(hnperm e he).mem_iff, hmet.mem_named_iff] }
    · intro d hd
      obtain ⟨e, he, rfl⟩ := List.mem_map.mp hd
      exact hnasc e he

/-- Two tables hold the same requests, which do not clash. -/
def ImportTable.SameRequests (t t' : ImportTable) : Prop :=
  ∃ specs, t.Holds specs ∧ t'.Holds specs ∧ ¬ Clashing specs

theorem ImportTable.SameRequests.declarations_eq {t t' : ImportTable} (h : t.SameRequests t') :
    t.declarations = t'.declarations := by
  obtain ⟨specs, hholds, hholds', hfree⟩ := h
  obtain ⟨ds, hds, hexact, hasc⟩ := declarations_of_holds hholds hfree
  obtain ⟨ds', hds', hexact', hasc'⟩ := declarations_of_holds hholds' hfree
  rw [hds, hds', hexact.unique hexact' hasc hasc']

/-- The table that holds given declarations. -/
def ImportTable.holding (ds : List ImportDeclaration) : ImportTable :=
  ⟨ds.map fun d => (d.path, ⟨d.default, d.named⟩)⟩

/-- Declarations that are sorted, and each of which asks for something, are those of the table that
holds them. -/
theorem ImportTable.declarations_holding {ds : List ImportDeclaration}
    (htext : ∀ d ∈ ds, d.path.isStr = true) (hpaths : PathsAscending ds)
    (hnames : ∀ d ∈ ds, d.named.HasTextKeys ∧ d.named.Pairwise fun a b => a.1.TextLt b.1)
    (hasked : ∀ d ∈ ds, (d.default.truthy || !d.named.isEmpty) = true) :
    (holding ds).declarations = .ok ds := by
  have hsorted : sortByKey (holding ds).entries = .ok (holding ds).entries :=
    sortByKey_of_ascending (List.forall_mem_map.mpr htext) (List.pairwise_map.mpr hpaths)
  have hfilter : (holding ds).entries.filter
      (fun e => e.2.default.truthy || !e.2.named.isEmpty) = (holding ds).entries :=
    List.filter_eq_self.mpr (List.forall_mem_map.mpr hasked)
  have hmap : ((holding ds).entries.mapM fun e => do
      return (⟨e.1, e.2.default, ← sortByKey e.2.named⟩ : ImportDeclaration)) =
        Except.ok (ε := Misuse) ((holding ds).entries.map fun e => ⟨e.1, e.2.default, e.2.named⟩) :=
    mapM_eq_ok_map (List.forall_mem_map.mpr fun d hd => by
      rw [sortByKey_of_ascending (hnames d hd).1 (hnames d hd).2]
      rfl)
  have hsame : (holding ds).entries.map (fun e => (⟨e.1, e.2.default, e.2.named⟩ :
      ImportDeclaration)) = ds := by
    rw [holding, List.map_map]
    exact List.map_id ds
  rw [declarations, hsorted]
  change ((holding ds).entries.filter _).mapM _ = _
  rw [hfilter, hmap, hsame]

/-! ### Calls in any order and cut -/

/-- Calls with requests one after the other, up to the first that fails. -/
def ImportTable.registerCalls (t : ImportTable) :
    List (List ImportSpec) → Except Fault Unit × ImportTable
  | [] => (.ok (), t)
  | specs :: calls =>
    match t.registerAll specs with
    | (.ok (), t') => t'.registerCalls calls
    | (.error f, t') => (.error f, t')

theorem ImportTable.registerCalls_eq (t : ImportTable) (calls : List (List ImportSpec)) :
    t.registerCalls calls = t.registerAll calls.flatten := by
  induction calls generalizing t with
  | nil => rfl
  | cons specs calls ih =>
    rw [List.flatten_cons, registerAll_append, registerCalls]
    cases t.registerAll specs with
    | mk outcome t' =>
      cases outcome with
      | ok _ => exact ih t'
      | error f => rfl

/-- **Merging does not depend on the order of requests.** Take requests with texts as paths and
names, and calls on an empty table that make these requests in any order and cut. The calls fail
exactly if the requests clash. If they do not, all such calls lead to the same declarations, which
are sorted by path and ask for just what is requested. -/
theorem registerCalls_perm (specs : List ImportSpec)
    (htext : ∀ spec ∈ specs, spec.isTextual = true) :
    (∀ calls : List (List ImportSpec), calls.flatten.Perm specs →
      ((∃ f t, ImportTable.empty.registerCalls calls = (.error f, t)) ↔ Clashing specs)) ∧
    (¬ Clashing specs → ∃ ds, DeclaresExactly specs ds ∧ PathsAscending ds ∧
      ∀ calls : List (List ImportSpec), calls.flatten.Perm specs →
        ∃ t, ImportTable.empty.registerCalls calls = (.ok (), t) ∧ t.declarations = .ok ds) := by
  have hrun : ∀ calls : List (List ImportSpec), calls.flatten.Perm specs →
      (∃ t, ImportTable.empty.registerCalls calls = (.ok (), t) ∧ t.Holds specs ∧
        ¬ Clashing specs) ∨
      (∃ f t, ImportTable.empty.registerCalls calls = (.error f, t) ∧ Clashing specs) := by
    intro calls hperm
    have hmade := registerAll_holds_of_perm Holds.empty not_clashing_nil hperm htext
    rwa [List.append_nil, ← registerCalls_eq] at hmade
  constructor
  · intro calls hperm
    rcases hrun calls hperm with ⟨t, ht, -, hfree⟩ | ⟨f, t, ht, hbad⟩
    · simp [ht, hfree]
    · simp [ht, hbad]
  · intro hfree
    -- the uncut run gives the declarations, and every other run gives the same by uniqueness
    have huncut : [specs].flatten.Perm specs := by simp
    rcases hrun [specs] huncut with ⟨t₀, -, hholds₀, -⟩ | ⟨-, -, -, hbad⟩
    · obtain ⟨ds, -, hexact, hasc⟩ := declarations_of_holds hholds₀ hfree
      refine ⟨ds, hexact, hasc, fun calls hperm => ?_⟩
      rcases hrun calls hperm with ⟨t, ht, hholds, -⟩ | ⟨-, -, -, hbad⟩
      · obtain ⟨ds', hds', hexact', hasc'⟩ := declarations_of_holds hholds hfree
        exact ⟨t, ht, by rw [hds', hexact'.unique hexact hasc' hasc]⟩
      · exact absurd hbad hfree
    · exact absurd hbad hfree

/-- Requests of which two ask for the same in different words. -/
def repeatedRequests : List ImportSpec := [
  .named (.str "antd") (.str "Button") (.str "Button"),
  .default (.str "@/ui") (.str "Ui"),
  .named (.str "antd") (.str "Card") (.str "AntCard"),
  .named (.str "antd") (.str "Button") .null]

/-- Requests that repeat each other in different words lead to the same declarations however they
are made. -/
theorem registerCalls_repeatedRequests :
    (∀ spec ∈ repeatedRequests, spec.isTextual = true) ∧ ¬ Clashing repeatedRequests ∧
      ∃ ds, DeclaresExactly repeatedRequests ds ∧ PathsAscending ds ∧
        ∀ calls : List (List ImportSpec), calls.flatten.Perm repeatedRequests →
          ∃ t, ImportTable.empty.registerCalls calls = (.ok (), t) ∧ t.declarations = .ok ds := by
  have htext : ∀ spec ∈ repeatedRequests, spec.isTextual = true := by decide
  have hfree : ¬ Clashing repeatedRequests := by
    simp [Clashing, Nameless, Disagrees, repeatedRequests, keptAlias, Value.truthy]
  exact ⟨htext, hfree, (registerCalls_perm repeatedRequests htext).2 hfree⟩

end PageMarkup
