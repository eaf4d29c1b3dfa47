import PageMarkup.Proofs.Imports.Merge
import PageMarkup.Proofs.Page.Unseen
import PageMarkup.Proofs.Render.Reordering

/-!
# Pages of a schema in another order

A page stays the same when its schema is put into another order: the components of the table, the
fields of a component, the fields that an array or an object declares, the requests of a component
and the properties that it leaves out. The order decides only in which order requests are made, and
the declarations that come of requests do not depend on that.

## Main results

* `exists_declarations_of_perm` : the same requests in another order.
* `pageTree_eq_of_reordered` : a page of a schema in another order.
-/

namespace PageMarkup

open ImportSpec (Clashing)

/-- Requests that can be met can be met in another order, and lead to the same declarations. -/
theorem exists_declarations_of_perm {specs specs' : List ImportSpec} (hperm : specs.Perm specs')
    (htext : ∀ spec ∈ specs, spec.isTextual = true) {t : ImportTable} {ds : List ImportDeclaration}
    (hmet : ImportTable.empty.registerAll specs = (.ok (), t)) (hds : t.declarations = .ok ds) :
    ∃ t', ImportTable.empty.registerAll specs' = (.ok (), t') ∧ t'.declarations = .ok ds := by
  have hruns : ∀ {others : List ImportSpec}, others.Perm specs → _ := fun hothers =>
    ImportTable.registerAll_holds_of_perm .empty ImportSpec.not_clashing_nil hothers htext
  rcases hruns (.refl specs) with ⟨t₁, hrun, hholds, hfree⟩ | ⟨f, t₁, hrun, -⟩
  · obtain rfl : t = t₁ := (Prod.mk.inj (hmet.symm.trans hrun)).2
    rcases hruns hperm.symm with ⟨t', hrun', hholds', -⟩ | ⟨f, t', -, hclash⟩
    · have hsame : t'.SameRequests t := ⟨_, hholds', hholds, hfree⟩
      exact ⟨t', hrun', hsame.declarations_eq.trans hds⟩
    · exact absurd hclash hfree
  · cases hmet.symm.trans hrun

/-- **The order of a schema does not matter.** Take a table of components without hooks whose
requests have texts as paths and names, any document and any settings, and a table in which the
components, the fields of a component, the fields that its arrays and objects declare at any depth,
its requests, and the properties that it leaves out stand in another order. Where the document has a
tree by the one schema, it has the same tree by the other: the same markup, text and imports. -/
theorem pageTree_eq_of_reordered {settings : Settings} {document : Value}
    {schema schema' : Definition} {table table' : ComponentTable}
    (htable : schema.asTable = .ok table) (htable' : schema'.asTable = .ok table')
    (hreordered : Entries.Reordered Component.Reordered table table')
    (hfree : ∀ e ∈ table, e.2.hook = none)
    (htext : ∀ e ∈ table, ∀ spec ∈ e.2.imports, spec.isTextual = true)
    (hframework : settings.includeFrameworkImport.truthy = true →
      (frameworkSpec settings).isTextual = true)
    {depth : Int} {page : PageTree} (hpage : pageTree settings document schema depth = .ok page) :
    pageTree settings document schema' depth = .ok page := by
  obtain ⟨nodes, hnodes, -⟩ := bind_eq_ok_iff.mp hpage
  obtain ⟨root, run, text, ds, hrun, hprint, hds, rfl⟩ :=
    (pageTree_eq_ok_iff hnodes htable).mp hpage
  refine (pageTree_eq_ok_iff hnodes htable').mpr ?_
  rcases renderRoot_alike hreordered hfree htext hframework nodes with
    ⟨specs, specs', a, _, hmeets, hmeets', hperm, hspecs, rfl⟩ | ⟨specs, f, hmeets⟩
  · rw [hmeets .initial] at hrun
    split at hrun
    next t hmet =>
      obtain ⟨hroot, rfl⟩ := Prod.mk.inj hrun
      obtain rfl := Except.ok.inj hroot
      obtain ⟨t', hmet', hds'⟩ := exists_declarations_of_perm hperm hspecs hmet hds
      have hinitial : RunState.initial.imports.registerAll specs' = (.ok (), t') := hmet'
      refine ⟨a, ⟨t', []⟩, text, ds, ?_, hprint, hds', rfl⟩
      rw [hmeets' .initial, hinitial]
      rfl
    next => cases hrun
  · rw [hmeets .initial] at hrun
    split at hrun <;> cases hrun

/-! ### Columns in two orders -/

/-- The fields of columns: two slots, and a style whose entries have fields. -/
def columnsFields (style : Entries Field) : Entries Field :=
  [(.str "left", .mk .slot none none), (.str "right", .mk .slot none none),
    (.str "style", .mk .object none (some style))]

/-- The fields of the entries of a style. -/
def styleFields : Entries Field :=
  [(.str "gap", .mk .number none none), (.str "note", .mk .slot none none)]

def columnsRequests : List ImportSpec :=
  [.named (.str "antd") .null .null, .default (.str "antd") (.str "Antd")]

/-- The properties that columns leave out. -/
def columnsOmitted : List Value := [.str "draft", .str "owner"]

/-- A component with these fields, requests and properties. -/
def columnsComponent : Component :=
  { Component.plain with
    fields := columnsFields styleFields
    imports := columnsRequests
    omitted := columnsOmitted }

/-- The same component with everything in reverse order. -/
def turnedColumns : Component :=
  { Component.plain with
    fields := (columnsFields styleFields.reverse).reverse
    imports := columnsRequests.reverse
    omitted := columnsOmitted.reverse }

/-- A component with an import. -/
def iconComponent : Component :=
  { Component.plain with imports := [.named (.str "antd") (.str "Icon") .null] }

/-- The components of columns and icons. -/
def columnsTable : ComponentTable :=
  [(.str "Columns", columnsComponent), (.str "Icon", iconComponent)]

/-- The same components in reverse order. -/
def turnedTable : ComponentTable :=
  [(.str "Icon", iconComponent), (.str "Columns", turnedColumns)]

def tableSchema (table : ComponentTable) : Definition :=
  .map (table.map fun e => (e.1, .component e.2))

/-- Columns with an icon on the right and columns on the left. -/
def columnsNode : Value :=
  typedNode "Columns" [
    (.str "left", .list [typedNode "Columns" [(.str "owner", .str "me")]]),
    (.str "right", .list [typedNode "Icon" []]),
    (.str "style", .map [(.str "note", .list [typedNode "Icon" []]), (.str "gap", .int 8)])]

private theorem columnsFields_reordered : Entries.Reordered Field.Reordered
    (columnsFields styleFields) (columnsFields styleFields.reverse).reverse := by
  have hstyle : Entries.Reordered Field.Reordered styleFields styleFields.reverse :=
    .swap (Value.apart_str (by decide)) _ _ []
  have hinside : Entries.Reordered Field.Reordered (columnsFields styleFields)
      (columnsFields styleFields.reverse) :=
    .cons _ (.refl _) (.cons _ (.refl _) (.cons _ (.mk .object .none (.some hstyle)) .nil))
  have hapart : (columnsFields styleFields.reverse).Pairwise fun a b => a.1.Apart b.1 :=
    Entries.Reordered.pairwise_apart (by simp [Entries.HasTextKeys, columnsFields, Value.isStr])
      (by simp [Entries.keys, columnsFields])
  exact hinside.trans (.of_perm .refl (List.reverse_perm _).symm hapart)

theorem columnsTable_reordered :
    Entries.Reordered Component.Reordered columnsTable turnedTable := by
  have hcolumns : columnsComponent.Reordered turnedColumns :=
    { fields := columnsFields_reordered
      outputName := rfl
      imports := (List.reverse_perm _).symm
      hook := rfl
      skip := rfl
      omitted := (List.reverse_perm _).symm }
  exact .trans (.cons _ hcolumns (.cons _ (.refl _) .nil))
    (.swap (Value.apart_str (by decide)) _ _ [])

/-- A page of columns is the same by both schemas. -/
theorem pageTree_eq_of_reordered_columns :
    ∃ page, pageTree .default (.list [columnsNode]) (tableSchema columnsTable) 0 = .ok page ∧
      pageTree .default (.list [columnsNode]) (tableSchema turnedTable) 0 = .ok page := by
  obtain ⟨page, hpage⟩ :
      ∃ page, pageTree .default (.list [columnsNode]) (tableSchema columnsTable) 0 = .ok page :=
    exists_of_isOk (by decide +kernel)
  exact ⟨page, hpage, pageTree_eq_of_reordered rfl rfl columnsTable_reordered (by decide)
    (by decide) (by decide) hpage⟩

end PageMarkup
