import PageMarkup.Proofs.Imports.Kept
import PageMarkup.Proofs.Page.Exactness
import PageMarkup.Proofs.Page.Rendered
import PageMarkup.Proofs.Render.Needs

/-!
# Imports that are named after tags

A request without a name means the tag that the element of its node is written with, up to the
first dot. So the import of a page brings the tag into scope, unless the request has an alias: then
the exported name is taken from the tag, but it is bound to the alias.

That the requests of a rendered node are met is shown by comparing the run with one that refuses the
node. The two are the same up to the node; and once the element of the node is there, so are its
imports, which no later step takes away.

## Main definitions

* `tagName` : the name that a tag depends on.
* `ImportSpec.bindingOf`, `ImportSpec.alias` : what a request without a name is for, and under which
  other name.

## Main results

* `keptUnder_of_rendered` : the requests of a rendered node are kept.
* `imports_bind_tagName` : what is bound for a request without a name.
* `alias_hides_tag` : with an alias, the tag is not in scope.
-/

namespace PageMarkup

/-! ### The requests of a rendered node -/

/-- A request, bound to a tag, is kept by a table. -/
def KeptUnder (tag : Value) (spec : ImportSpec) (t : ImportTable) : Prop :=
  ∃ bound, spec.bind tag = .ok bound ∧ t.Keeps bound

section

variable {table : ComponentTable} {settings : Settings} {nodes : List Value} {v type : Value}
  {c : Component} {spec : ImportSpec} (htext : spec.isTextual = true)

include htext

private theorem keptUnder_of_registerAll (tag : Value) (t : ImportTable) (specs : List ImportSpec)
    (t' : ImportTable) (h : KeptUnder tag spec t) (hmet : t.registerAll specs = (.ok (), t')) :
    KeptUnder tag spec t' := by
  obtain ⟨bound, hbind, hkept⟩ := h
  exact ⟨bound, hbind, hkept.registerAll (ImportSpec.isTextual_of_bind htext hbind) hmet⟩

private theorem keptUnder_of_renderElement (hspec : spec ∈ c.imports) {render : NodeRenderer}
    {depth : Int}
    {place : Place} {st st' : RunState} {m : Markup}
    (h : (renderElement settings render depth c type v place).outcome st = (.ok m, st')) :
    KeptUnder (c.tag type) spec st'.imports := by
  unfold renderElement at h
  obtain ⟨props, st₁, -, h⟩ := Render.outcome_bind_ok h
  obtain ⟨slots, st₂, -, h⟩ := Render.outcome_bind_ok h
  obtain ⟨stripped, st₃, -, h⟩ := Render.outcome_bind_ok h
  obtain ⟨written, st₄, -, h⟩ := Render.outcome_bind_ok h
  obtain ⟨assembled, st₅, -, h⟩ := Render.outcome_bind_ok h
  obtain ⟨specs, st₆, hspecs, h⟩ := Render.outcome_bind_ok h
  obtain ⟨_, st₇, hmet, h⟩ := Render.outcome_bind_ok h
  obtain ⟨attributes, st₈, hattributes, h⟩ := Render.outcome_bind_ok h
  obtain ⟨-, rfl⟩ := Prod.mk.inj h
  rw [Render.outcome_ofMisuse] at hattributes
  obtain ⟨-, rfl⟩ := Prod.mk.inj hattributes
  cases hbound : c.imports.mapM fun spec => spec.bind (c.tag type) with
  | error how =>
    rw [hbound] at hspecs
    cases hspecs
  | ok requests =>
    rw [hbound] at hspecs
    cases hspecs
    obtain ⟨bound, hmem, hbind⟩ := exists_mem_of_mapM_eq_ok hbound spec hspec
    rw [Render.Meets.register specs] at hmet
    split at hmet
    next t hall =>
      obtain ⟨-, rfl⟩ := Prod.mk.inj hmet
      have hbindText := ImportSpec.isTextual_of_bind htext hbind
      exact ⟨bound, hbind, ImportTable.keeps_of_mem_registerAll hmem hbindText hall⟩
    next => cases hmet

/-- The requests of a rendered node are kept by a run that comes to an end. -/
theorem keptUnder_of_rendered (hc : nodeComponent? table v = some (type, c))
    (hskip : c.skip = false) (hspec : spec ∈ c.imports)
    (hrendered : Rendered table settings nodes v) {root : Markup} {run : RunState}
    (hrun : (renderRoot table settings nodes).outcome .initial = (.ok root, run)) :
    KeptUnder (c.tag type) spec run.imports := by
  classical
  -- the run that refuses just this node is the same up to it
  let refused : Value → Bool := fun w => decide (w = v)
  have hnew : ∀ w, refused w = true → false = true ∨ ∀ n depth place st m st',
      (renderNode table settings (renderUnless table settings (fun _ => false) n) depth w
        place).outcome st = (.ok m, st') → KeptUnder (c.tag type) spec st'.imports := by
    intro w hw
    obtain rfl := of_decide_eq_true hw
    refine .inr fun n depth place st m st' houtcome => ?_
    obtain ⟨x, helement⟩ := outcome_renderNode_ok hc hskip houtcome
    exact keptUnder_of_renderElement htext hspec helement
  have hroot : (renderRootUnless table settings (fun _ => false) nodes).SameUnless
      (KeptUnder (c.tag type) spec) (renderRootUnless table settings refused nodes) :=
    sameUnless_renderRootUnless (keptUnder_of_registerAll htext (c.tag type))
      (fun _ h => absurd h Bool.false_ne_true) hnew nodes
  rw [renderRootUnless_none] at hroot
  rcases hroot.same .initial with hsame | hleaves
  · exact absurd (hsame.symm.trans hrun) (hrendered refused (decide_eq_true rfl) root run)
  · exact hleaves root run hrun

end

/-! ### What is bound -/

/-- The name that a tag depends on, as a value. -/
def tagName (tag : String) : Value :=
  .str (String.ofList (firstPart tag.toList))

/-- What a request is for if it is for the export of a name. -/
def ImportSpec.bindingOf (name : Value) : ImportSpec → Binding
  | .default path _ => .default path
  | .named path _ _ => .named path name

/-- The alias of a request; a default export has none. -/
def ImportSpec.alias : ImportSpec → Value
  | .default _ _ => .null
  | .named _ _ rename => rename

section

variable {settings : Settings} {document : Value} {schema : Definition} {nodes : List Value}
  {table : ComponentTable}

/-- A request without a name is bound to a tag only if the tag is a text, and then it is for the
name that the tag depends on. -/
private theorem ImportSpec.bind_of_nameless {spec bound : ImportSpec} {tag : Value}
    (hnameless : spec.Nameless) (hbind : spec.bind tag = .ok bound) :
    ∃ s, tag = .str s ∧ bound.binding = spec.bindingOf (tagName s) ∧
      bound.localName = boundName (tagName s) spec.alias := by
  have htag : ∀ {k : Value → ImportSpec}, (do return k (← bindingName tag)) = .ok bound →
      ∃ s, tag = .str s ∧ bound = k (tagName s) := by
    intro k h
    obtain ⟨name, hname, h⟩ := bind_eq_ok_iff.mp h
    unfold bindingName at hname
    split at hname
    next s =>
      obtain rfl := Except.ok.inj hname
      exact ⟨s, rfl, (Except.ok.inj h).symm⟩
    next => cases hname
  cases spec with
  | default path name =>
    rw [bind, if_neg (ne_true_of_eq_false hnameless)] at hbind
    obtain ⟨s, rfl, rfl⟩ := htag hbind
    exact ⟨s, rfl, rfl, rfl⟩
  | named path name rename =>
    rw [bind, if_neg (ne_true_of_eq_false hnameless)] at hbind
    obtain ⟨s, rfl, rfl⟩ := htag hbind
    exact ⟨s, rfl, rfl, rfl⟩

/-- **What is bound for a request without a name.** Take any page that has a tree, any node that is
rendered on the way, and a request of its component whose name is missing or empty. Then the tag of
the node is a text, and the imports of the page have, for the path of the request, the default
export or the exported name that the tag depends on, whatever else is asked of the path. A default
export is bound to the name that the tag depends on; an exported name is so too unless the request
has an alias, and is bound to the alias if it has one. -/
theorem imports_bind_tagName (hnodes : contentNodes document = .ok nodes)
    (htable : schema.asTable = .ok table) {depth : Int} {page : PageTree}
    (hpage : pageTree settings document schema depth = .ok page) {v type : Value} {c : Component}
    (hrendered : Rendered table settings nodes v) (hc : nodeComponent? table v = some (type, c))
    (hskip : c.skip = false) {spec : ImportSpec} (hspec : spec ∈ c.imports)
    (htext : spec.isTextual = true) (hnameless : spec.Nameless) :
    ∃ tag, c.tag type = .str tag ∧
      (spec.bindingOf (tagName tag), boundName (tagName tag) spec.alias) ∈
        page.imports.flatMap ImportDeclaration.bindings := by
  obtain ⟨root, run, text, ds, hrun, -, hds, rfl⟩ := (pageTree_eq_ok_iff hnodes htable).mp hpage
  obtain ⟨bound, hbind, hkept⟩ := keptUnder_of_rendered htext hc hskip hspec hrendered hrun
  obtain ⟨tag, htag, hbinding, hlocal⟩ := ImportSpec.bind_of_nameless hnameless hbind
  have hmem := hkept.mem_bindings (ImportSpec.isTextual_of_bind htext hbind) hds
  have hperm := (orderImports_perm settings ds).flatMap_right ImportDeclaration.bindings
  exact ⟨tag, htag, hbinding ▸ hlocal ▸ hperm.mem_iff.mpr hmem⟩

end

/-! ### Cards with titles -/

/-- A component whose nodes hold others in a slot, with a default export named after its tag. -/
def cardComponent : Component :=
  { Component.plain with
    fields := [(.str "body", .mk .slot none none)]
    imports := [.default (.str "antd") .null] }

/-- A component that is written with a member of what it imports. -/
def titleComponent : Component :=
  { Component.plain with
    outputName := .str "Typography.Title"
    imports := [.named (.str "antd") .null .null] }

/-- The components of cards and titles. -/
def cardTable : ComponentTable :=
  [(.str "Card", cardComponent), (.str "Title", titleComponent)]

/-- The schema of cards and titles. -/
def cardSchema : Definition :=
  .map (cardTable.map fun e => (e.1, .component e.2))

def titledCard : Value :=
  typedNode "Card" [(.str "body", .list [typedNode "Title" []])]

/-- A title in a card is rendered, and what its tag is a member of is imported by its own name. -/
theorem imports_bind_tagName_title :
    Rendered cardTable .default [titledCard] (typedNode "Title" []) ∧
    ∃ page, pageTree .default (.list [titledCard]) cardSchema 0 = .ok page ∧
      (.named (.str "antd") (.str "Typography"), .str "Typography") ∈
        page.imports.flatMap ImportDeclaration.bindings := by
  have hbody : .str "body" ∈ cardComponent.slotNames := List.mem_singleton_self _
  have htitle : Rendered cardTable .default [titledCard] (typedNode "Title" []) :=
    (rendered_of_mem (List.mem_singleton_self titledCard)).slot rfl rfl rfl hbody rfl
      (List.mem_singleton_self _)
  obtain ⟨page, hpage⟩ :
      ∃ page, pageTree .default (.list [titledCard]) cardSchema 0 = .ok page :=
    exists_of_isOk (by decide +kernel)
  have hrequest : .named (.str "antd") .null .null ∈ titleComponent.imports :=
    List.mem_singleton_self _
  obtain ⟨tag, htag, hbound⟩ := imports_bind_tagName rfl rfl hpage htitle rfl rfl hrequest rfl rfl
  obtain rfl : "Typography.Title" = tag := Value.str.inj htag
  exact ⟨htitle, page, hpage, hbound⟩

/-! ### Aliases -/

/-- A request without a name, but with an alias. -/
def renamedRequest : ImportSpec := .named (.str "antd") .null (.str "AntButton")

/-- A component with this request. -/
def renamedButton : Component :=
  { Component.plain with imports := [renamedRequest] }

/-- The table of this component. -/
def renamedTable : ComponentTable := [(.str "Button", renamedButton)]

/-- The schema of this component. -/
def renamedSchema : Definition :=
  .map (renamedTable.map fun e => (e.1, .component e.2))

/-- **With an alias, the tag is not in scope.** A button whose component asks for an import without
a name under an alias is written with the tag of its type, but no import of the page is bound to
it. -/
theorem alias_hides_tag :
    Rendered renamedTable .default [typedNode "Button" []] (typedNode "Button" []) ∧
    nodeComponent? renamedTable (typedNode "Button" []) = some (.str "Button", renamedButton) ∧
    renamedButton.skip = false ∧ renamedButton.tag (.str "Button") = .str "Button" ∧
    renamedRequest ∈ renamedButton.imports ∧ renamedRequest.isTextual = true ∧
    renamedRequest.Nameless ∧
    ∃ page, pageTree .default (.list [typedNode "Button" []]) renamedSchema 0 = .ok page ∧
      ∀ bound, (bound, tagName "Button") ∉ page.imports.flatMap ImportDeclaration.bindings := by
  refine ⟨rendered_of_mem (List.mem_singleton_self _), rfl, rfl, rfl, List.mem_singleton_self _,
    rfl, rfl, ?_⟩
  let d : ImportDeclaration := ⟨.str "antd", .null, [(.str "Button", .str "AntButton")]⟩
  have hrun : (renderRoot renamedTable .default [typedNode "Button" []]).outcome .initial =
      (.ok (.element (.str "Button") [] []), ⟨.holding [d], []⟩) := rfl
  have hds : (ImportTable.holding [d]).declarations = .ok [d] :=
    ImportTable.declarations_holding (List.forall_mem_singleton.mpr rfl)
      (List.pairwise_singleton _ _)
      (List.forall_mem_singleton.mpr ⟨List.forall_mem_singleton.mpr rfl,
        List.pairwise_singleton _ _⟩)
      (List.forall_mem_singleton.mpr rfl)
  refine ⟨_, (pageTree_eq_ok_iff rfl rfl).mpr ⟨_, _, _, [d], hrun,
    Markup.printWith_eq rfl rfl 2 80 0, hds, rfl⟩, fun bound hmem => ?_⟩
  have hbindings : (orderImports .default [d]).flatMap ImportDeclaration.bindings =
      [(.named (.str "antd") (.str "Button"), .str "AntButton")] := rfl
  change (bound, tagName "Button") ∈
    (orderImports .default [d]).flatMap ImportDeclaration.bindings at hmem
  rw [hbindings, List.mem_singleton] at hmem
  have hname : tagName "Button" = .str "AntButton" := (Prod.mk.inj hmem).2
  exact absurd (Value.str.inj hname) (by decide)

end PageMarkup
