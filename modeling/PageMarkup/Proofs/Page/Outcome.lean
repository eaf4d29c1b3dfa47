import PageMarkup.Page.Tree
import PageMarkup.Proofs.Content.Outcomes

/-!
# What a page comes to

A document has a tree if four things go well: its nodes and its schema can be read, the run on the
nodes succeeds, its markup has a text, and the imports have declarations.

## Main results

* `pageTree_eq_ok_iff` : the trees of a document, by the run on its nodes.
-/

namespace PageMarkup

variable {settings : Settings} {document : Value} {schema : Definition} {nodes : List Value}
  {table : ComponentTable}

/-- A document has a tree if the run on its nodes succeeds and what it leaves can be written. -/
theorem pageTree_eq_ok_iff (hnodes : contentNodes document = .ok nodes)
    (htable : schema.asTable = .ok table) {depth : Int} {page : PageTree} :
    pageTree settings document schema depth = .ok page ↔
      ∃ root run text ds, (renderRoot table settings nodes).outcome .initial = (.ok root, run) ∧
        root.printWith settings.indentSize settings.printWidth depth = .ok text ∧
        run.imports.declarations = .ok ds ∧
        page = ⟨root, String.ofList text, orderImports settings ds, run.appended⟩ := by
  unfold pageTree
  rw [hnodes, htable]
  cases hrun : (renderRoot table settings nodes).outcome .initial with
  | mk outcome run =>
    simp only [bind_eq_ok_iff, liftMisuse_eq_ok_iff, Except.ok.injEq, exists_eq_left', hrun,
      Prod.mk.injEq]
    constructor
    · rintro ⟨root, hroot, text, htext, ds, hds, hpage⟩
      exact ⟨root, run, text, ds, ⟨hroot, rfl⟩, htext, hds, (Except.ok.inj hpage).symm⟩
    · rintro ⟨root, _, text, ds, ⟨hroot, rfl⟩, htext, hds, rfl⟩
      exact ⟨root, hroot, text, htext, ds, hds, rfl⟩

end PageMarkup
