import PageMarkup.Page.Module
import PageMarkup.Proofs.Imports.LocalNames
import PageMarkup.Proofs.Page.Exactness
import PageMarkup.Proofs.Page.ShellText
import PageMarkup.Proofs.Page.Unseen
import PageMarkup.Proofs.Render.Needs

/-!
# The names that a module declares

A module declares its function and the local names of its imports. An import is declared once, and a
run that needs one import under two names ends in a fault. But nothing compares the names of
different imports with each other, or with that of the function, so two of them may be the same.
They are distinct exactly if different imports are asked for under different names, and none under
that of the function.

## Main definitions

* `declaredNames` : the name of the function and the local names of the imports.
* `NamesApart` : requests for different imports are made under different names.

## Main results

* `declaresExactly_of_needs` : the declarations of a page, by what its run needs.
* `name_declared_twice` : modules that declare a name twice.
* `nodup_declaredNames_iff` : when the names of a module are distinct.
-/

namespace PageMarkup

open ImportSpec (Clashing)

variable {engine : TemplateEngine} {settings : Settings} {document : Value} {schema : Definition}
  {nodes : List Value} {table : ComponentTable}

/-- The names that a module declares: that of its function, and the local names of its imports. -/
def declaredNames (settings : Settings) (made : PageModule) : Except Misuse (List Value) := do
  return .str (← functionName settings) :: localNames made.tree.imports

/-! ### The declarations of a page -/

/-- A document has a module if it has a tree, the imports of the tree have statements, the function
has a name and the shell can be filled. -/
theorem pageModule_eq_ok_iff {made : PageModule} :
    pageModule engine settings document schema = .ok made ↔
      ∃ tree statements name code, pageTree settings document schema moduleDepth = .ok tree ∧
        importStatements tree.imports = .ok statements ∧ functionName settings = .ok name ∧
        Shell.write engine
            ⟨statements, settings.exportDefault, name, settings.indentSize, tree.text⟩ = .ok code ∧
        made = ⟨code, tree, statements⟩ := by
  unfold pageModule
  simp only [bind_eq_ok_iff, liftMisuse_eq_ok_iff]
  constructor
  · rintro ⟨tree, htree, statements, hstatements, name, hname, code, hcode, hmade⟩
    exact ⟨tree, statements, name, code, htree, hstatements, hname, hcode,
      (Except.ok.inj hmade).symm⟩
  · rintro ⟨tree, statements, name, code, htree, hstatements, hname, hcode, rfl⟩
    exact ⟨tree, htree, statements, hstatements, name, hname, code, hcode, rfl⟩

theorem pageTree_of_pageModule {made : PageModule}
    (h : pageModule engine settings document schema = .ok made) :
    pageTree settings document schema moduleDepth = .ok made.tree ∧
      ∃ name, functionName settings = .ok name := by
  obtain ⟨tree, _, name, _, htree, -, hname, -, rfl⟩ := pageModule_eq_ok_iff.mp h
  exact ⟨htree, name, hname⟩

theorem PathsAscending.nodup_orderImports {ds : List ImportDeclaration} (h : PathsAscending ds)
    (settings : Settings) : ((orderImports settings ds).map ImportDeclaration.path).Nodup := by
  have hsorted : (ds.map ImportDeclaration.path).Nodup :=
    List.pairwise_map.mpr (h.imp Value.TextLt.ne)
  exact ((orderImports_perm settings ds).map _).nodup_iff.mpr hsorted

/-- The declarations of a page ask for just what its run needs, and this can all be met. -/
theorem declaresExactly_of_needs (hnodes : contentNodes document = .ok nodes)
    (htable : schema.asTable = .ok table) {specs : List ImportSpec} {result : Except Fault Markup}
    (hneeds : (renderRoot table settings nodes).Needs specs result)
    (htext : ∀ spec ∈ specs, spec.isTextual = true) {depth : Int} {page : PageTree}
    (hpage : pageTree settings document schema depth = .ok page) :
    ¬ Clashing specs ∧ DeclaresExactly specs page.imports ∧
      (page.imports.map ImportDeclaration.path).Nodup := by
  obtain ⟨root, run, text, ds, hrun, -, hds, rfl⟩ := (pageTree_eq_ok_iff hnodes htable).mp hpage
  obtain ⟨himports, hresult⟩ := hneeds .initial
  rw [hrun] at himports hresult
  rcases ImportTable.registerAll_holds .empty ImportSpec.not_clashing_nil htext with
    ⟨t, hmet, hholds, hfree⟩ | ⟨f, t, hrefused, -⟩
  · rw [List.append_nil] at hholds hfree
    obtain ⟨ds', hds', hexact, hsorted⟩ := ImportTable.declarations_of_holds hholds hfree
    have htable : run.imports = t := himports.trans (congrArg Prod.snd hmet)
    rw [htable, hds'] at hds
    obtain rfl := Except.ok.inj hds
    exact ⟨hfree, hexact.of_mem_iff fun d => mem_orderImports_iff,
      hsorted.nodup_orderImports settings⟩
  · have hfails : (RunState.initial.imports.registerAll specs).1 = .error f :=
      congrArg Prod.fst hrefused
    rw [hfails] at hresult
    cases hresult

/-! ### Names that are declared twice -/

/-- The names of a request are texts that may stand as names by themselves. -/
def ImportSpec.hasBareNames : ImportSpec → Bool
  | .named _ name rename =>
    name.str?.any Identifier.isBareName && (rename.isNull || rename.str?.any Identifier.isBareName)
  | .default _ name => name.str?.any Identifier.isBareName

/-- The components of two types that import one thing each. -/
def pairTable (a b : ImportSpec) : ComponentTable :=
  [(.str "A", { Component.plain with imports := [a] }),
    (.str "B", { Component.plain with imports := [b] })]

/-- The schema of these components. -/
def pairSchema (a b : ImportSpec) : Definition :=
  .map ((pairTable a b).map fun e => (e.1, .component e.2))

def pairNodes : List Value := [typedNode "A" [], typedNode "B" []]

/-- The markup of the two nodes. -/
def pairRoot : Markup := .fragment [.element (.str "A") [] [], .element (.str "B") [] []]

/-- The tree of the two nodes, with the declarations that come of their imports. -/
def pairTree (ds : List ImportDeclaration) : PageTree :=
  ⟨pairRoot, String.ofList (pairRoot.print ⟨2, .columns 80⟩ moduleDepth), ds, []⟩

theorem functionName_default : functionName .default = .ok "GeneratedPage" := by
  have hname : Identifier.componentName "GeneratedPage" = "GeneratedPage" := by decide
  exact congrArg Except.ok hname

private theorem exists_pairModule {a b : ImportSpec} {ds : List ImportDeclaration}
    (hrun : (renderRoot (pairTable a b) .default pairNodes).outcome .initial =
      (.ok pairRoot, ⟨.holding ds, []⟩))
    (hds : (ImportTable.holding ds).declarations = .ok ds)
    (hstatements : (importStatements ds).isOk = true) :
    ∃ made, pageModule .reading .default (.list pairNodes) (pairSchema a b) = .ok made ∧
      declaredNames .default made = .ok (.str "GeneratedPage" :: localNames ds) := by
  have htree : pageTree .default (.list pairNodes) (pairSchema a b) moduleDepth =
      .ok (pairTree ds) :=
    (pageTree_eq_ok_iff rfl rfl).mpr ⟨pairRoot, ⟨.holding ds, []⟩, _, ds, hrun,
      Markup.printWith_eq rfl rfl 2 80 moduleDepth, hds, rfl⟩
  have hwidth : Settings.default.indentSize.spaces = .ok 2 := rfl
  obtain ⟨statements, hstatements⟩ := exists_of_isOk hstatements
  obtain ⟨code, hcode⟩ := Shell.exists_write fills_reading
    (s := ⟨statements, _, "GeneratedPage", _, (pairTree ds).text⟩) hwidth
  refine ⟨⟨code, pairTree ds, statements⟩, ?_, ?_⟩
  · exact pageModule_eq_ok_iff.mpr ⟨pairTree ds, statements, _, code, htree, hstatements,
      functionName_default, hcode, rfl⟩
  · rw [declaredNames, functionName_default]
    rfl

/-- Two requests, whose names may stand by themselves, lead to a module that declares a name
twice. -/
def DeclareTwice (a b : ImportSpec) : Prop :=
  a.hasBareNames = true ∧ b.hasBareNames = true ∧
    ∃ made names, pageModule .reading .default (.list pairNodes) (pairSchema a b) = .ok made ∧
      declaredNames .default made = .ok names ∧ ¬ names.Nodup

private theorem declareTwice_of_declarations {a b : ImportSpec} (ds : List ImportDeclaration)
    (ha : a.hasBareNames = true) (hb : b.hasBareNames = true)
    (hrun : (renderRoot (pairTable a b) .default pairNodes).outcome .initial =
      (.ok pairRoot, ⟨.holding ds, []⟩))
    (hds : (ImportTable.holding ds).declarations = .ok ds)
    (hstatements : (importStatements ds).isOk = true)
    (htwice : ¬ (.str "GeneratedPage" :: localNames ds).Nodup) : DeclareTwice a b := by
  obtain ⟨made, hmade, hnames⟩ := exists_pairModule hrun hds hstatements
  exact ⟨ha, hb, made, _, hmade, hnames, htwice⟩

private theorem textLt_of_toList {s t : String} (h : s.toList < t.toList) :
    (Value.str s).TextLt (.str t) :=
  ⟨s, t, rfl, rfl, String.lt_iff_toList_lt.mpr h⟩

private theorem declarations_holding_single {d : ImportDeclaration} (hpath : d.path.isStr = true)
    (htext : ∀ e ∈ d.named, e.1.isStr = true)
    (hnames : d.named.Pairwise fun a b => a.1.TextLt b.1)
    (hasked : (d.default.truthy || !d.named.isEmpty) = true) :
    (ImportTable.holding [d]).declarations = .ok [d] :=
  ImportTable.declarations_holding (List.forall_mem_singleton.mpr hpath)
    (List.pairwise_singleton _ _) (List.forall_mem_singleton.mpr ⟨htext, hnames⟩)
    (List.forall_mem_singleton.mpr hasked)

/-- **Names may be declared twice.** This happens to one exported name of two paths, to a default
export and an exported name of one path, to an exported name under an alias and another one without,
and to an exported name and the function. -/
theorem name_declared_twice :
    DeclareTwice (.named (.str "@/ui") (.str "Button") .null)
      (.named (.str "antd") (.str "Button") .null) ∧
    DeclareTwice (.default (.str "antd") (.str "Card"))
      (.named (.str "antd") (.str "Card") .null) ∧
    DeclareTwice (.named (.str "antd") (.str "Button") (.str "Card"))
      (.named (.str "antd") (.str "Card") .null) ∧
    DeclareTwice (.named (.str "antd") (.str "GeneratedPage") .null)
      (.default (.str "antd") (.str "Antd")) := by
  refine ⟨?_, ?_, ?_, ?_⟩
  · refine declareTwice_of_declarations [⟨.str "@/ui", .null, [(.str "Button", .null)]⟩,
      ⟨.str "antd", .null, [(.str "Button", .null)]⟩] rfl rfl rfl ?_ (by decide) ?_
    · have hpaths : (Value.str "@/ui").TextLt (.str "antd") := textLt_of_toList (by decide)
      have hnames : Entries.HasTextKeys [(Value.str "Button", Value.null)] :=
        List.forall_mem_singleton.mpr rfl
      exact ImportTable.declarations_holding (by decide) (List.pairwise_pair.mpr hpaths)
        (by simp [hnames]) (by decide)
    · simp [localNames, ImportDeclaration.bindings, boundName, Value.truthy]
  · refine declareTwice_of_declarations [⟨.str "antd", .str "Card", [(.str "Card", .null)]⟩]
      rfl rfl rfl ?_ (by decide) ?_
    · exact declarations_holding_single rfl (by decide) (List.pairwise_singleton _ _) rfl
    · simp [localNames, ImportDeclaration.bindings, boundName, Value.truthy]
  · refine declareTwice_of_declarations [⟨.str "antd", .null,
      [(.str "Button", .str "Card"), (.str "Card", .null)]⟩] rfl rfl rfl ?_ (by decide) ?_
    · have hnames : (Value.str "Button").TextLt (.str "Card") := textLt_of_toList (by decide)
      exact declarations_holding_single rfl (by decide) (List.pairwise_pair.mpr hnames) rfl
    · simp [localNames, ImportDeclaration.bindings, boundName, Value.truthy]
  · refine declareTwice_of_declarations [⟨.str "antd", .str "Antd",
      [(.str "GeneratedPage", .null)]⟩] rfl rfl rfl ?_ (by decide) ?_
    · exact declarations_holding_single rfl (by decide) (List.pairwise_singleton _ _) rfl
    · simp [localNames, ImportDeclaration.bindings, boundName, Value.truthy]

/-! ### When the names of a module are distinct -/

/-- Different bindings are asked for under different names, and none under that of the function. -/
def NamesApart (settings : Settings) (specs : List ImportSpec) : Prop :=
  (∀ a ∈ specs, ∀ b ∈ specs, a.localName = b.localName → a.binding = b.binding) ∧
    ∀ a ∈ specs, ∀ name, functionName settings = .ok name → a.localName ≠ .str name

/-- **When the names of a module are distinct.** Take any components, with arbitrary hooks, whose
requests have texts as paths and names. What a run needs does not depend on the import table. If it
needs one binding under two names, there is no module. If there is a module, it binds just what is
needed under the names that are asked for, and nothing twice; and the names that it declares, that
of its function included, are distinct if and only if different bindings are asked for under
different names and none under that of the function. -/
theorem nodup_declaredNames_iff (hnodes : contentNodes document = .ok nodes)
    (htable : schema.asTable = .ok table)
    (htext : ∀ e ∈ table, ∀ spec ∈ e.2.imports, spec.isTextual = true)
    (hframework : settings.includeFrameworkImport.truthy = true →
      (frameworkSpec settings).isTextual = true) :
    ∃ specs result, (renderRoot table settings nodes).Needs specs result ∧
      (∀ a ∈ specs, ∀ b ∈ specs, a.binding = b.binding → a.localName ≠ b.localName →
        ∀ engine, ∃ f, pageModule engine settings document schema = .error f) ∧
      ∀ engine made, pageModule engine settings document schema = .ok made →
        (∀ bound name,
          (bound, name) ∈ made.tree.imports.flatMap ImportDeclaration.bindings ↔
            ∃ spec ∈ specs, spec.binding = bound ∧ spec.localName = name) ∧
        ((made.tree.imports.flatMap ImportDeclaration.bindings).map Prod.fst).Nodup ∧
        ∃ names, declaredNames settings made = .ok names ∧
          (names.Nodup ↔ NamesApart settings specs) := by
  obtain ⟨specs, result, hneeds, hspecs⟩ :=
    needsOnly_renderRoot (fun _ => RequestsOf.isTextual htext) hframework nodes
  have hexact : ∀ {engine made}, pageModule engine settings document schema = .ok made →
      ¬ Clashing specs ∧ DeclaresExactly specs made.tree.imports ∧
        (made.tree.imports.map ImportDeclaration.path).Nodup := fun hmade =>
    declaresExactly_of_needs hnodes htable hneeds hspecs (pageTree_of_pageModule hmade).1
  refine ⟨specs, result, hneeds, fun a ha b hb hbinding hne engine => ?_, fun _ made hmade => ?_⟩
  · cases hmodule : pageModule engine settings document schema with
    | error f => exact ⟨f, rfl⟩
    | ok made =>
      obtain ⟨hfree, -⟩ := hexact hmodule
      have hnamed : ¬ a.Nameless := fun hnone => hfree (.inl ⟨a, ha, hnone⟩)
      have hdisagrees := ImportSpec.disagrees_of_localName_ne (hspecs a ha) hnamed hbinding hne
      exact absurd (.inr ⟨a, ha, b, hb, hdisagrees⟩) hfree
  · obtain ⟨hfree, hexact, hpaths⟩ := hexact hmade
    obtain ⟨name, hname⟩ := (pageTree_of_pageModule hmade).2
    refine ⟨fun _ _ => hexact.mem_bindings_iff hspecs hfree, hexact.nodup_bindings hpaths,
      .str name :: localNames made.tree.imports, by rw [declaredNames, hname]; rfl, ?_⟩
    have hfunction : .str name ∉ localNames made.tree.imports ↔
        ∀ a ∈ specs, ∀ other, functionName settings = .ok other → a.localName ≠ .str other := by
      rw [hexact.mem_localNames_iff hspecs hfree, hname]
      simp
    rw [List.nodup_cons, hfunction, hexact.nodup_localNames_iff hspecs hfree hpaths, and_comm]
    exact Iff.rfl

/-- A request for a default export. -/
def antdDefault : ImportSpec := .default (.str "antd") (.str "Antd")

/-- A request for an exported name, under an alias since the default export has its name. -/
def antdRenamed : ImportSpec := .named (.str "antd") (.str "Antd") (.str "Card")

def antdDeclaration : ImportDeclaration :=
  ⟨.str "antd", .str "Antd", [(.str "Antd", .str "Card")]⟩

/-- With an alias, the names of a module are distinct, and so are those that its run asks for. -/
theorem nodup_declaredNames_antd :
    ∃ made names specs result,
      pageModule .reading .default (.list pairNodes) (pairSchema antdDefault antdRenamed) =
        .ok made ∧
      declaredNames .default made = .ok names ∧ names.Nodup ∧
      (renderRoot (pairTable antdDefault antdRenamed) .default pairNodes).Needs specs result ∧
      NamesApart .default specs := by
  have hnodes : contentNodes (.list pairNodes) = .ok pairNodes := rfl
  have htable : (pairSchema antdDefault antdRenamed).asTable =
      .ok (pairTable antdDefault antdRenamed) := rfl
  have hrun : (renderRoot (pairTable antdDefault antdRenamed) .default pairNodes).outcome .initial =
      (.ok pairRoot, ⟨.holding [antdDeclaration], []⟩) := rfl
  have hds : (ImportTable.holding [antdDeclaration]).declarations = .ok [antdDeclaration] :=
    declarations_holding_single rfl (by decide) (List.pairwise_singleton _ _) rfl
  obtain ⟨made, hmade, hnames⟩ := exists_pairModule hrun hds (by decide)
  have hframework : Settings.default.includeFrameworkImport.truthy = true →
      (frameworkSpec .default).isTextual = true := by decide
  obtain ⟨specs, result, hneeds, -, hmodule⟩ :=
    nodup_declaredNames_iff hnodes htable (by decide) hframework
  obtain ⟨-, -, names, hnames', hapart⟩ := hmodule _ made hmade
  have hdistinct : names.Nodup := by
    rw [← Except.ok.inj (hnames.symm.trans hnames')]
    simp [localNames, antdDeclaration, ImportDeclaration.bindings, boundName, Value.truthy]
  exact ⟨made, names, specs, result, hmade, hnames', hdistinct, hneeds, hapart.mp hdistinct⟩

/-- A default export that is asked for under two names does not make a module. -/
example : (pageModule .reading .default (.list pairNodes) (pairSchema antdDefault
    (.default (.str "antd") (.str "Ui")))).isOk = false := by decide

end PageMarkup
