import PageMarkup.Proofs.Identifier.ComponentName
import PageMarkup.Proofs.Imports.StatementLines
import PageMarkup.Proofs.Markup.Tags
import PageMarkup.Proofs.Page.DeclaredNames
import PageMarkup.Proofs.Page.ShellText
import PageMarkup.Proofs.Render.WellNamed
import PageMarkup.Target.Creation

/-!
# Generated modules are tidy already

Code is tidied before it is handed out. This never changes a module: its import statements, the
lines of its function and those of its markup are neat, and the one empty line in it stands behind
the imports. Whatever blanks and newlines there are in the texts of the content, they stand inside
of lines or are written by escapes, so that none is lost.

## Main definitions

* `PageInLines` : pages without hooks whose names are single lines.

## Main results

* `tidyCode_pageModule` : modules are delivered as they are built.
-/

namespace PageMarkup

/-! ### Pages -/

/-- A page without hooks whose names are single lines: the keys and the names of properties in its
content, the names in its requests, and its tags, which have no spaces and tabs either. -/
structure PageInLines (settings : Settings) (nodes : List Value) (table : ComponentTable) :
    Prop where
  content : ∀ v ∈ nodes, v.WellNamed
  components : table.WellNamed
  requests : ∀ e ∈ table, ∀ spec ∈ e.2.imports, spec.isTextual = true ∧ spec.OneLine
  framework : settings.includeFrameworkImport.truthy = true →
    (frameworkSpec settings).isTextual = true ∧ (frameworkSpec settings).OneLine

variable {engine : TemplateEngine} {settings : Settings} {document : Value} {schema : Definition}
  {nodes : List Value} {table : ComponentTable}

/-- The requests of a page in lines are for texts in single lines, and so are its declarations. -/
theorem PageInLines.oneLine (h : PageInLines settings nodes table)
    (hnodes : contentNodes document = .ok nodes) (htable : schema.asTable = .ok table) {depth : Int}
    {page : PageTree} (hpage : pageTree settings document schema depth = .ok page) :
    ∀ d ∈ page.imports, d.OneLine := by
  have hbound : ∀ specs, RequestsOf table specs →
      ∀ spec ∈ specs, spec.isTextual = true ∧ spec.OneLine := by
    rintro specs ⟨type, c, hc, hspecs⟩ spec hspec
    obtain ⟨unbound, hunbound, hbind⟩ := mem_of_mapM_eq_ok hspecs spec hspec
    obtain ⟨htext, hline⟩ := h.requests _ (mem_of_component? hc).2 unbound hunbound
    exact ⟨ImportSpec.isTextual_of_bind htext hbind,
      hline.bind (h.components.tag type c hc).newline hbind⟩
  obtain ⟨specs, result, hneeds, hfine⟩ := needsOnly_renderRoot hbound h.framework nodes
  obtain ⟨-, hdeclares, -⟩ := declaresExactly_of_needs hnodes htable hneeds
    (fun spec hspec => (hfine spec hspec).1) hpage
  exact hdeclares.oneLine fun spec hspec => (hfine spec hspec).2

private theorem PageInLines.tidyCode_code (hengine : engine.Fills shellTemplate)
    (h : PageInLines settings nodes table)
    (hnodes : contentNodes document = .ok nodes) (htable : schema.asTable = .ok table)
    {made : PageModule} (hmade : pageModule engine settings document schema = .ok made) :
    tidyCode made.code = made.code := by
  obtain ⟨tree, statements, name, code, htree, hstatements, hname, hcode, rfl⟩ :=
    pageModule_eq_ok_iff.mp hmade
  have hlines := h.oneLine hnodes htable htree
  obtain ⟨root, run, text, ds, hrun, htext, -, rfl⟩ := (pageTree_eq_ok_iff hnodes htable).mp htree
  obtain ⟨style, hwidth, rfl⟩ := Markup.exists_print htext
  have hroot : root.WellNamed := leaves_renderRoot settings h.components h.content _ _ _ hrun
  obtain ⟨label, -, hname⟩ := bind_eq_ok_iff.mp hname
  obtain rfl := Except.ok.inj hname
  obtain ⟨body, hsolid, hbody⟩ := Identifier.componentName_solid label
  refine Shell.tidy_write hengine hcode hwidth (neat_importStatements hlines hstatements) hsolid
    hbody ?_
  rw [String.toList_ofList]
  exact hroot.neatText_print style moduleDepth

theorem code_eq_of_generateCode {g : Generator} {input : PageInput} {made : GeneratedCode}
    (hmade : g.generate input = .ok made) {code : String} {warnings : List ContentWarning}
    {facts : Facts} (hrun : generateCode g input = .ok (.generated code warnings facts)) :
    code = tidyCode made.code := by
  unfold generateCode at hrun
  split at hrun
  next hok =>
    obtain ⟨_, -, hok⟩ := bind_eq_ok_iff.mp hok
    obtain ⟨_, hmade', hok⟩ := bind_eq_ok_iff.mp hok
    cases hmade.symm.trans hmade'
    cases hok
    obtain ⟨_, -, hrun⟩ := bind_eq_ok_iff.mp hrun
    cases hrun
    rfl
  next => cases hrun

/-- **Modules are tidy already.** Take an engine that fills the template of modules, and a page
without hooks whose content is plain data, with arbitrary texts in it, and whose names are single
lines. If it has a module, then tidying leaves the code of the module as it is. So whoever asks a
generator for the code, asks for a captured run, or asks a table of targets for the code in one
step, is given the module as it was built. -/
theorem tidyCode_pageModule (hengine : engine.Fills shellTemplate)
    (h : PageInLines settings nodes table)
    (hnodes : contentNodes document = .ok nodes) (htable : schema.asTable = .ok table)
    {made : PageModule} (hmade : pageModule engine settings document schema = .ok made) :
    tidyCode made.code = made.code ∧
      (pageGenerator engine settings).code ⟨document, schema⟩ = .ok made.code ∧
      (∀ code warnings facts,
        generateCode (pageGenerator engine settings) ⟨document, schema⟩ =
          .ok (.generated code warnings facts) → code = made.code) ∧
      ∀ (targets : TargetTable) (w : Workspace) (target : String) (given asked : Value),
        targets.create w target (.value given) = .ok (pageGenerator engine settings) →
        TargetTable.readDocument asked = .ok document →
        targets.code w target given asked schema = .ok made.code := by
  have htidy : tidyCode made.code = made.code := h.tidyCode_code hengine hnodes htable hmade
  have hgenerate : (pageGenerator engine settings).generate ⟨document, schema⟩ =
      .ok ⟨made.code, made.tree.appended⟩ := bind_eq_ok_iff.mpr ⟨made, hmade, rfl⟩
  have hcode : (pageGenerator engine settings).code ⟨document, schema⟩ = .ok made.code :=
    bind_eq_ok_iff.mpr ⟨_, hgenerate, congrArg Except.ok htidy⟩
  refine ⟨htidy, hcode, ?_, ?_⟩
  · intro code warnings facts hrun
    exact (code_eq_of_generateCode hgenerate hrun).trans htidy
  · intro targets w target given asked hcreate hread
    exact bind_eq_ok_iff.mpr ⟨document, liftMisuse_eq_ok_iff.mpr hread,
      bind_eq_ok_iff.mpr ⟨_, hcreate, hcode⟩⟩

/-! ### Loose texts -/

/-- The component of a part of the framework. -/
def suspenseComponent : Component :=
  { Component.plain with imports := [.named (.str "react") .null .null] }

/-- The table of this component. -/
def suspenseTable : ComponentTable := [(.str "Suspense", suspenseComponent)]

/-- The schema of this component. -/
def suspenseSchema : Definition :=
  .map (suspenseTable.map fun e => (e.1, .component e.2))

/-- A text with blanks at the ends of its lines and with a run of newlines. -/
def looseText : String := "late \t\n\n\n\n  blanks \n"

/-- Nodes with this text as their content, and below a key with a space in it. -/
def looseNodes : List Value := [
  typedNode "Suspense" [(.str "children", .str looseText)],
  typedNode "Suspense" [(.str "rows", .map [(.str "a b", .list [.str looseText])])]]

/-- Settings that have the framework imported, as values. -/
def importingGiven : Value := .map [(.str "include_framework_import", .bool true)]

/-- The settings of these values. -/
def importingSettings : Settings := { Settings.default with includeFrameworkImport := .bool true }

/-- A map without a type is well named if its keys are single lines, and its entries well named. -/
private theorem wellNamed_map {es : Entries Value} (hlines : ∀ e ∈ es, '\n' ∉ e.1.text.toList)
    (htype : (Value.map es).get? "type" = none) (hkeys : ∀ e ∈ es, e.1.WellNamed)
    (hvalues : ∀ e ∈ es, e.2.WellNamed) : (Value.map es).WellNamed := by
  refine .map hlines (fun type _ htype' => ?_) hkeys hvalues
  rw [htype] at htype'
  cases htype'

private theorem wellNamed_typedNode (type : String) {props : Entries Value}
    (h : (Value.map props).WellNamed) : (typedNode type props).WellNamed := by
  have htype : '\n' ∉ (Value.str "type").text.toList := by decide
  have hprops : '\n' ∉ (Value.str "props").text.toList := by decide
  refine .map (List.forall_mem_cons.mpr ⟨htype, List.forall_mem_singleton.mpr hprops⟩) ?_
    (List.forall_mem_cons.mpr ⟨.str _, List.forall_mem_singleton.mpr (.str _)⟩)
    (List.forall_mem_cons.mpr ⟨.str _, List.forall_mem_singleton.mpr h⟩)
  intro _ own _ hown
  cases props with
  | nil =>
    cases hown
    exact List.forall_mem_nil _
  | cons e es =>
    cases hown
    exact h.newline_not_mem_keys

private theorem wellNamed_looseNodes : ∀ v ∈ looseNodes, v.WellNamed := by
  have hrows : (Value.map [(.str "a b", .list [.str looseText])]).WellNamed :=
    wellNamed_map (by decide) rfl (List.forall_mem_singleton.mpr (.str _))
      (List.forall_mem_singleton.mpr (.list (List.forall_mem_singleton.mpr (.str _))))
  refine List.forall_mem_cons.mpr ⟨wellNamed_typedNode _ ?_, List.forall_mem_singleton.mpr
    (wellNamed_typedNode _ ?_)⟩
  · exact wellNamed_map (by decide) rfl (List.forall_mem_singleton.mpr (.str _))
      (List.forall_mem_singleton.mpr (.str _))
  · exact wellNamed_map (by decide) rfl (List.forall_mem_singleton.mpr (.str _))
      (List.forall_mem_singleton.mpr hrows)

private theorem pageInLines_looseNodes :
    PageInLines importingSettings looseNodes suspenseTable where
  content := wellNamed_looseNodes
  components := {
    hook := List.forall_mem_singleton.mpr rfl
    tag := by
      intro type c hc
      obtain ⟨rfl, rfl⟩ := Prod.mk.inj (List.mem_singleton.mp (mem_of_component? hc).2)
      decide }
  requests := List.forall_mem_singleton.mpr <|
    List.forall_mem_singleton.mpr ⟨rfl, by decide, by decide, by decide⟩
  framework _ := ⟨rfl, by decide, by decide⟩

/-- Nodes with loose texts, asked for by another name of the target, are delivered as they are
written. -/
theorem tidyCode_pageModule_looseNodes :
    TemplateEngine.reading.Fills shellTemplate ∧
    PageInLines importingSettings looseNodes suspenseTable ∧
    ∃ made, pageModule .reading importingSettings (.list looseNodes) suspenseSchema = .ok made ∧
      tidyCode made.code = made.code ∧
      (TargetTable.builtin .reading).code .empty "JSX" importingGiven (.list looseNodes)
        suspenseSchema = .ok made.code := by
  obtain ⟨made, hmade⟩ :
      ∃ made, pageModule .reading importingSettings (.list looseNodes) suspenseSchema = .ok made :=
    exists_of_isOk (by decide +kernel)
  obtain ⟨htidy, -, -, hcode⟩ := tidyCode_pageModule fills_reading pageInLines_looseNodes rfl rfl
    hmade
  exact ⟨fills_reading, pageInLines_looseNodes, made, hmade, htidy, hcode _ _ _ _ _ rfl rfl⟩

end PageMarkup
