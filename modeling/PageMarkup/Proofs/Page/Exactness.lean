import PageMarkup.Proofs.Page.Success

/-!
# What a page shows and imports

The markup of a page that is all data has one element for each visited node that is not skipped and
no others, in the order and nesting of the nodes. Its declarations ask for just what these nodes and
the framework request.

## Main definitions

* `InModuleOrder` : declarations sorted by path, with that of the framework first.

## Main results

* `inModuleOrder_orderImports` : the order of the declarations of a page.
* `pageTree_exact` : the markup and the declarations of a page.
-/

namespace PageMarkup

variable {settings : Settings} {document : Value} {schema : Definition} {nodes : List Value}
  {table : ComponentTable}

/-- Declarations in the order of a module: their paths ascend, but that of the framework comes
before the others if its import is enabled. -/
def InModuleOrder (settings : Settings) (ds : List ImportDeclaration) : Prop :=
  if settings.includeFrameworkImport.truthy then
    ∃ d rest, ds = d :: rest ∧ d.path = settings.frameworkImportPath ∧ PathsAscending rest ∧
      ∀ e ∈ rest, e.path ≠ d.path
  else PathsAscending ds

theorem orderImports_perm (settings : Settings) (ds : List ImportDeclaration) :
    (orderImports settings ds).Perm ds := by
  unfold orderImports
  split
  · exact List.filter_append_perm _ ds
  · exact .refl ds

theorem mem_orderImports_iff {ds : List ImportDeclaration} {d : ImportDeclaration} :
    d ∈ orderImports settings ds ↔ d ∈ ds :=
  (orderImports_perm settings ds).mem_iff

theorem DeclaresExactly.of_mem_iff {specs : List ImportSpec} {ds ds' : List ImportDeclaration}
    (h : DeclaresExactly specs ds) (hmem : ∀ d, d ∈ ds' ↔ d ∈ ds) : DeclaresExactly specs ds' where
  path_iff path := by
    rw [← h.path_iff]
    exact exists_congr fun d => and_congr_left fun _ => hmem d
  met d hd := h.met d ((hmem d).mp hd)
  names_ascending d hd := h.names_ascending d ((hmem d).mp hd)

private theorem filter_of_path_ne {ds : List ImportDeclaration} {s : String}
    (h : ∀ d ∈ ds, d.path ≠ .str s) :
    ds.filter (fun d => d.path.same (.str s)) = [] ∧
      ds.filter (fun d => !d.path.same (.str s)) = ds := by
  constructor
  · exact List.filter_eq_nil_iff.mpr fun d hd hsame => h d hd (Value.same_str_iff.mp hsame)
  · refine List.filter_eq_self.mpr fun d hd => ?_
    rw [Bool.not_eq_true', ← Bool.not_eq_true, Value.same_str_iff]
    exact h d hd

/-- Sorted declarations are put into the order of a module. -/
theorem inModuleOrder_orderImports {ds : List ImportDeclaration} (hsorted : PathsAscending ds)
    (hframework : settings.includeFrameworkImport.truthy = true →
      settings.frameworkImportPath.isStr = true ∧
        ∃ d ∈ ds, d.path = settings.frameworkImportPath) :
    InModuleOrder settings (orderImports settings ds) := by
  unfold InModuleOrder orderImports
  by_cases henabled : settings.includeFrameworkImport.truthy = true
  · rw [if_pos henabled, if_pos henabled]
    obtain ⟨hstr, d, hd, hpath⟩ := hframework henabled
    obtain ⟨s, hs⟩ := Value.isStr_iff.mp hstr
    rw [hs] at hpath ⊢
    -- the declaration of the framework divides the others into those before and those after it
    obtain ⟨before, after, rfl⟩ := List.append_of_mem hd
    obtain ⟨-, hlast, hacross⟩ := List.pairwise_append.mp hsorted
    have hothers : PathsAscending (before ++ after) :=
      hsorted.sublist ((List.sublist_cons_self d after).append_left before)
    have hne : ∀ e ∈ before ++ after, e.path ≠ .str s := by
      refine List.forall_mem_append.mpr ⟨fun e he heq => ?_, fun e he heq => ?_⟩
      · have hlt := hacross e he d List.mem_cons_self
        rw [heq, hpath] at hlt
        exact hlt.irrefl
      · have hlt := (List.pairwise_cons.mp hlast).1 e he
        rw [heq, hpath] at hlt
        exact hlt.irrefl
    have hfound : d.path.same (.str s) = true := Value.same_str_iff.mpr hpath
    obtain ⟨hbefore, hafter⟩ := List.forall_mem_append.mp hne
    refine ⟨d, before ++ after, ?_, hpath, hothers, hpath ▸ hne⟩
    simp [List.filter_append, hfound, filter_of_path_ne hbefore, filter_of_path_ne hafter]
  · rw [if_neg henabled, if_neg henabled]
    exact hsorted

/-- **What a page shows and imports.** Take a page that is all data and has a tree. The elements of
its markup, with their nesting and order, are those of the outline of the nodes: one element for
each visited node that is not skipped, with the tag of the node, around the elements of the nodes
below it, and no others. Its declarations ask for just what the document requests, in the order of a
module. -/
theorem pageTree_exact (h : StaticPage settings document schema nodes table) {depth : Int}
    {page : PageTree} (hpage : pageTree settings document schema depth = .ok page) :
    (∃ outline, NodesOutline table settings nodes outline ∧
      page.root.outline = Outline.mapAll Prod.snd outline ∧
      ∀ v tag, (v, tag) ∈ Outline.labelsAll outline ↔
        (∃ d, Visited table settings nodes d v) ∧ ShownAs table v tag) ∧
      (∃ specs, (∀ spec, spec ∈ specs ↔ Requested table settings nodes spec) ∧
        DeclaresExactly specs page.imports) ∧
      InModuleOrder settings page.imports := by
  rcases h.outcome with ⟨root, run, ds, hrun, hds, hleaves⟩ | ⟨f, run, hrun, -⟩
  · rw [h.pageTree_of_ok hrun hds] at hpage
    cases htext : root.printWith settings.indentSize settings.printWidth depth with
    | error how =>
      rw [htext] at hpage
      cases hpage
    | ok text =>
      rw [htext] at hpage
      cases hpage
      obtain ⟨outline, houtline, heq⟩ := hleaves.written.outline
      rw [List.flatMap_singleton] at heq
      obtain ⟨specs, hmem, hdeclares⟩ := hleaves.declares
      refine ⟨⟨outline, houtline, heq, fun v tag => ?_⟩,
        ⟨specs, hmem, hdeclares.of_mem_iff fun d => mem_orderImports_iff⟩,
        inModuleOrder_orderImports hleaves.ascending fun henabled => ?_⟩
      · rw [houtline.mem_labels_iff, ← exists_visited_iff]
        constructor
        · rintro ⟨d, x, hvisited, rfl, hshown⟩
          exact ⟨⟨d, hvisited⟩, hshown⟩
        · rintro ⟨⟨d, hvisited⟩, hshown⟩
          exact ⟨d, v, hvisited, rfl, hshown⟩
      · have hframework := h.framework
        simp only [frameworkSpec, ImportSpec.isTextual, Bool.and_eq_true] at hframework
        have hrequested := (hmem (frameworkSpec settings)).mpr (.inl ⟨henabled, rfl⟩)
        exact ⟨hframework.1, (hdeclares.path_iff _).mpr ⟨_, hrequested, rfl⟩⟩
  · rw [h.pageTree_of_error hrun] at hpage
    cases hpage

/-- A panel with buttons has a tree, whose markup shows the panel around the two buttons, and whose
declarations start with the framework. -/
theorem pageTree_exact_panelPage :
    ∃ page, pageTree panelSettings (.list [panelNode]) panelSchema 0 = .ok page ∧
      (∃ outline, NodesOutline panelTable panelSettings [panelNode] outline ∧
        page.root.outline = Outline.mapAll Prod.snd outline ∧
        ∀ v tag, (v, tag) ∈ Outline.labelsAll outline ↔
          (∃ d, Visited panelTable panelSettings [panelNode] d v) ∧ ShownAs panelTable v tag) ∧
      (∃ specs, (∀ spec, spec ∈ specs ↔ Requested panelTable panelSettings [panelNode] spec) ∧
        DeclaresExactly specs page.imports) ∧
      InModuleOrder panelSettings page.imports := by
  obtain ⟨page, hpage⟩ := (panelPage.exists_pageTree_iff allShowable_panelPage rfl rfl 0).mpr
    ⟨panelPage_withinReach, not_requestsClash_panelPage⟩
  exact ⟨page, hpage, pageTree_exact panelPage hpage⟩

end PageMarkup
