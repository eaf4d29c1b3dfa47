import PageMarkup.Proofs.Page.Success
import PageMarkup.Proofs.Page.Unseen
import PageMarkup.Proofs.Render.ElementCount

/-!
# Counted nodes of a page

The number of nodes that is reported for a document is found without its schema. It is the number of
elements in the tree of the document where all lists are slots and nodes are in lists alone, and
where properties are maps. Properties that are given as pairs are rendered all the same, but they
cannot be counted.

## Main results

* `countNodes_eq_elementCount_iff` : when as many nodes are counted as there are elements.
* `not_forall_countNodes_eq_elementCount` : this is not always so.
-/

namespace PageMarkup

open Relation (ReflTransGen)

variable {table : ComponentTable}

theorem leaves_renderRoot_counted (settings : Settings) (hhook : ∀ e ∈ table, e.2.hook = none)
    (hskip : ∀ e ∈ table, e.2.skip = false) (hfields : ∀ e ∈ table, e.2.fields.HasTextKeys)
    {nodes : List Value} (hnodes : ∀ v ∈ nodes, NestsBelow table v) {n : Nat}
    (hn : countAll nodes = .ok n) :
    (renderRoot table settings nodes).Leaves fun root => root.elementCount = n := by
  refine (Describes.leaves_renderRoot (fun _ => describes_counted table)
    (fun _ _ _ _ => nodeCounted_of_nodeOf hhook hskip hfields) nodes).mono ?_
  rintro _ ⟨ms, rfl, hms⟩
  rw [← counted_of_nodes hms hnodes hn, ← Markup.countElements_group]
  cases Markup.group (ms.filterMap id) with
  | none => rfl
  | some root => exact (countElements_singleton root).symm

/-- **The reported number of nodes.** Take components without hooks, none of which is skipped, and a
document of plain data that has a tree. Let every list among the properties of its nodes be a slot,
and let no other property lead to a node by its field. Then as many nodes are counted as there are
elements in the tree if and only if the properties of each node are a map, or count as none;
otherwise the count fails. -/
theorem countNodes_eq_elementCount_iff {settings : Settings} {document : Value}
    {schema : Definition} {nodes : List Value}
    (hnodes : contentNodes document = .ok nodes) (htable : schema.asTable = .ok table)
    (hhook : ∀ e ∈ table, e.2.hook = none) (hskip : ∀ e ∈ table, e.2.skip = false)
    (hfields : ∀ e ∈ table, e.2.fields.HasTextKeys) (hdata : ∀ v ∈ nodes, v.IsData)
    (hnests : ∀ v ∈ nodes, ∀ w, ReflTransGen ListedBelow v w → NestsInSlots table w)
    {depth : Int} {page : PageTree} (hpage : pageTree settings document schema depth = .ok page) :
    countNodes document = .ok page.root.elementCount ↔
      ∀ v ∈ nodes, ∀ w, ReflTransGen ListedBelow v w → (w.get? "type").isSome = true →
        w.HoldsMap := by
  obtain ⟨root, run, text, ds, hrun, -, -, rfl⟩ := (pageTree_eq_ok_iff hnodes htable).mp hpage
  rw [countNodes_eq hnodes]
  constructor
  · intro hcount v hv
    exact (counts_countNode_iff v).mp (counts_countAll_iff.mp ⟨_, hcount, trivial⟩ v hv)
  · intro hmaps
    obtain ⟨n, hn, -⟩ := counts_countAll_iff.mpr fun v hv =>
      (counts_countNode_iff v).mpr (hmaps v hv)
    have hcounted := leaves_renderRoot_counted settings hhook hskip hfields
      (fun v hv => ⟨hdata v hv, hnests v hv⟩) hn
    rw [hn, hcounted _ _ _ hrun]

/-! ### A panel with buttons -/

theorem eq_of_listedBelow_panelNode {w : Value} (h : ReflTransGen ListedBelow panelNode w) :
    w = panelNode ∨ w = buttonNode := by
  induction h with
  | refl => exact .inl rfl
  | tail _ hstep ih =>
    obtain ⟨-, ps, hps, e, he, hw⟩ := hstep
    rcases ih with rfl | rfl
    · obtain rfl := Value.map.inj (Option.some.inj hps)
      rcases List.mem_pair.mp he with rfl | rfl
      · cases hw
      · exact .inr (by simpa [Value.items?] using hw)
    · obtain rfl := Value.map.inj (Option.some.inj hps)
      obtain rfl := List.mem_singleton.mp he
      cases hw

/-- The properties of the panel. -/
def panelProps : Entries Value :=
  [(.str "title", .str "Start"), (.str "body", .list [buttonNode, buttonNode])]

theorem nestsInSlots_of_panelProps {v : Value}
    (hc : nodeComponent? panelTable v = some (.str "Panel", panelComponent))
    (hprops : ownProps v = .ok panelProps) : NestsInSlots panelTable v := by
  intro type c props hc' hprops' e he hslot
  obtain ⟨-, rfl⟩ := Prod.mk.inj (Option.some.inj (hc.symm.trans hc'))
  obtain rfl := Except.ok.inj (hprops.symm.trans hprops')
  rcases List.mem_pair.mp he with rfl | rfl
  · exact ⟨rfl, rfl⟩
  · cases hslot

theorem nestsInSlots_buttonNode : NestsInSlots panelTable buttonNode := by
  intro type c props hc hprops e he _
  obtain rfl : buttonComponent = c := congrArg Prod.snd (Option.some.inj hc)
  obtain rfl := Except.ok.inj hprops
  obtain rfl := List.mem_singleton.mp he
  exact ⟨rfl, rfl⟩

/-- As many nodes are counted in the panel as there are elements in its tree. -/
theorem countNodes_panelNode : ∃ page,
    pageTree panelSettings (.list [panelNode]) panelSchema 0 = .ok page ∧
      countNodes (.list [panelNode]) = .ok page.root.elementCount := by
  obtain ⟨page, hpage⟩ := (panelPage.exists_pageTree_iff allShowable_panelPage rfl rfl 0).mpr
    ⟨panelPage_withinReach, not_requestsClash_panelPage⟩
  refine ⟨page, hpage, (countNodes_eq_elementCount_iff rfl rfl (by decide) (by decide)
    (fun e he => (panelTable_isStatic e he).fields) panelPage.data ?_ hpage).mpr ?_⟩
  · refine List.forall_mem_singleton.mpr fun w hw => ?_
    rcases eq_of_listedBelow_panelNode hw with rfl | rfl
    · exact nestsInSlots_of_panelProps rfl rfl
    · exact nestsInSlots_buttonNode
  · refine List.forall_mem_singleton.mpr fun w hw _ p hp _ => ?_
    rcases eq_of_listedBelow_panelNode hw with rfl | rfl
    · exact ⟨_, (Option.some.inj hp).symm⟩
    · exact ⟨_, (Option.some.inj hp).symm⟩

/-! ### The panel with its properties in pairs -/

/-- The panel with its properties given as pairs. -/
def pairedPanel : Value :=
  .map [(.str "type", .str "Panel"), (.str "props", .list [
    .list [.str "title", .str "Start"], .list [.str "body", .list [buttonNode, buttonNode]]])]

theorem isData_pairedPanel : pairedPanel.IsData := by
  have hbody : (Value.list [buttonNode, buttonNode]).IsData := .list <| List.forall_mem_cons.mpr
    ⟨isData_buttonNode, List.forall_mem_singleton.mpr isData_buttonNode⟩
  have hpair : ∀ (name : String) {v : Value}, v.IsData → (Value.list [.str name, v]).IsData :=
    fun name v hv => .list (List.forall_mem_cons.mpr ⟨.str name, List.forall_mem_singleton.mpr hv⟩)
  have hpairs := List.forall_mem_cons.mpr
    ⟨hpair "title" (.str "Start"), List.forall_mem_singleton.mpr (hpair "body" hbody)⟩
  refine .ofTexts [("type", .str "Panel"), ("props", _)] (by decide) ?_
  exact List.forall_mem_cons.mpr ⟨.str _, List.forall_mem_singleton.mpr (.list hpairs)⟩

theorem exists_pageTree_pairedPanel :
    ∃ page, pageTree panelSettings (.list [pairedPanel]) panelSchema 0 = .ok page := by
  obtain ⟨page, hpage⟩ := (panelPage.exists_pageTree_iff allShowable_panelPage rfl rfl 0).mpr
    ⟨panelPage_withinReach, not_requestsClash_panelPage⟩
  have hpaired : NodeEdit panelTable panelSettings (fun _ => False) panelNode pairedPanel :=
    .inside rfl rfl rfl rfl (.refl panelComponent panelProps)
  exact ⟨page, pageTree_eq_of_edit (fun _ => False.elim) rfl rfl rfl (.cons hpaired (.nil _)) hpage⟩

/-- **Properties that are given as pairs** cannot be counted, but they are rendered. -/
theorem not_forall_countNodes_eq_elementCount :
    ¬ ∀ (settings : Settings) (document : Value) (schema : Definition) (nodes : List Value)
        (table : ComponentTable) (depth : Int) (page : PageTree),
        contentNodes document = .ok nodes → schema.asTable = .ok table →
        (∀ e ∈ table, e.2.hook = none) → (∀ e ∈ table, e.2.skip = false) →
        (∀ e ∈ table, e.2.fields.HasTextKeys) → (∀ v ∈ nodes, v.IsData) →
        (∀ v ∈ nodes, ∀ w, ReflTransGen ListedBelow v w → NestsInSlots table w) →
        pageTree settings document schema depth = .ok page →
        countNodes document = .ok page.root.elementCount := by
  intro h
  obtain ⟨page, hpage⟩ := exists_pageTree_pairedPanel
  have hbelow : ∀ w, ReflTransGen ListedBelow pairedPanel w → NestsInSlots panelTable w := by
    intro w hw
    rcases hw.cases_head with rfl | ⟨x, ⟨-, ps, hps, -⟩, -⟩
    · exact nestsInSlots_of_panelProps rfl rfl
    · cases hps
  have hcount := h panelSettings (.list [pairedPanel]) panelSchema [pairedPanel] panelTable 0 page
    rfl rfl (by decide) (by decide) (fun e he => (panelTable_isStatic e he).fields)
    (List.forall_mem_singleton.mpr isData_pairedPanel) (List.forall_mem_singleton.mpr hbelow) hpage
  cases hcount

end PageMarkup
