import PageMarkup.Proofs.Page.Outcome
import PageMarkup.Proofs.Render.Editing

/-!
# What a page does not show

The tree of a page is the same for documents that differ in what never reaches it: the bookkeeping
of the editor together with the properties that a component leaves out, and the nodes of skipped
types. Hooks may be arbitrary here, for they are given neither.

The one exception is a slot that is named like the id. Its nodes are shown as they stand in the key
of their node, the bookkeeping and the skipped ones included.

## Main definitions

* `DifferInBookkeeping`, `DifferInSkipped` : documents that differ in what is not shown.

## Main results

* `pageTree_eq_iff_of_bookkeeping` : the bookkeeping is not shown.
* `pageTree_eq_of_skipped` : nodes of skipped types are not shown.
* `keyed_slot_shows_bookkeeping`, `keyed_slot_shows_skipped` : the exception.
-/

namespace PageMarkup

open Render (Refines)

variable {table : ComponentTable} {settings : Settings} {removable : Value → Prop}
  {document document' : Value} {schema : Definition} {nodes nodes' : List Value}

section

variable (table settings)

/-- Two sequences of nodes differ in nothing but hidden properties of nodes in slots. -/
def DifferInBookkeeping (vs ws : List Value) : Prop :=
  NodesEdit table settings (fun _ => False) (decide (1 < ws.length)) vs ws

/-- The second sequence of nodes comes from the first by replacing nodes of skipped types by others,
and by removing some. Hidden properties may differ as well. -/
def DifferInSkipped (vs ws : List Value) : Prop :=
  NodesEdit table settings (IsSkipped table) (decide (1 < ws.length)) vs ws

end

theorem refines_renderRoot (hskip : ∀ v, removable v → IsSkipped table v)
    (h : NodesEdit table settings removable (decide (1 < nodes'.length)) nodes nodes') :
    Refines Eq (renderRoot table settings nodes) (renderRoot table settings nodes') :=
  .bind_same _ fun _ => (refines_renderer hskip 0 true h).bind fun _ _ heq => .pure (heq ▸ rfl)

theorem pageTree_eq_of_edit (hskip : ∀ v, removable v → IsSkipped table v)
    (hnodes : contentNodes document = .ok nodes) (hnodes' : contentNodes document' = .ok nodes')
    (htable : schema.asTable = .ok table)
    (h : NodesEdit table settings removable (decide (1 < nodes'.length)) nodes nodes')
    {depth : Int} {page : PageTree} (hpage : pageTree settings document schema depth = .ok page) :
    pageTree settings document' schema depth = .ok page := by
  obtain ⟨root, run, text, ds, hrun, hwritten⟩ := (pageTree_eq_ok_iff hnodes htable).mp hpage
  obtain ⟨_, hrun', rfl⟩ := refines_renderRoot hskip h _ root run hrun
  exact (pageTree_eq_ok_iff hnodes' htable).mpr ⟨root, run, text, ds, hrun', hwritten⟩

/-- **Bookkeeping is not shown.** Take any components, with arbitrary hooks, and two documents that
differ in nothing but hidden properties of nodes in slots. Then both have the same tree, or neither
has one. -/
theorem pageTree_eq_iff_of_bookkeeping (hnodes : contentNodes document = .ok nodes)
    (hnodes' : contentNodes document' = .ok nodes') (htable : schema.asTable = .ok table)
    (h : DifferInBookkeeping table settings nodes nodes') (depth : Int) (page : PageTree) :
    pageTree settings document schema depth = .ok page ↔
      pageTree settings document' schema depth = .ok page :=
  ⟨pageTree_eq_of_edit (fun _ => False.elim) hnodes hnodes' htable h,
    pageTree_eq_of_edit (fun _ => False.elim) hnodes' hnodes htable (h.symm _)⟩

/-- **Skipped nodes are not shown.** Take any components, with arbitrary hooks, and a document that
has a tree. Then a document in which nodes of skipped types have been replaced by others or removed
has the same tree, as long as siblings get no keys or the sequences from which nodes have been
removed still have several. -/
theorem pageTree_eq_of_skipped (hnodes : contentNodes document = .ok nodes)
    (hnodes' : contentNodes document' = .ok nodes') (htable : schema.asTable = .ok table)
    (h : DifferInSkipped table settings nodes nodes') {depth : Int} {page : PageTree}
    (hpage : pageTree settings document schema depth = .ok page) :
    pageTree settings document' schema depth = .ok page :=
  pageTree_eq_of_edit (fun _ hv => hv) hnodes hnodes' htable h hpage

/-! ### A section with texts and a note -/

/-- A component whose nodes hold others in a slot. -/
def sectionComponent : Component :=
  { Component.plain with fields := [(.str "body", .mk .slot none none)] }

/-- A component whose nodes are skipped. -/
def noteComponent : Component :=
  { Component.plain with skip := true }

/-- The components of sections, texts and notes. -/
def sectionTable : ComponentTable :=
  [(.str "Section", sectionComponent), (.str "Text", .plain), (.str "Note", noteComponent)]

/-- The schema of sections, texts and notes. -/
def sectionSchema : Definition :=
  .map (sectionTable.map fun e => (e.1, .component e.2))

/-- A node of a type with properties. -/
def typedNode (type : String) (props : Entries Value) : Value :=
  .map [(.str "type", .str type), (.str "props", .map props)]

/-- A section with nodes in its slot, and with bookkeeping. -/
def sectionNode (bookkeeping : Entries Value) (body : List Value) : Value :=
  typedNode "Section" (bookkeeping ++ [(.str "body", .list body)])

/-- A text, and with bookkeeping. -/
def textNode (bookkeeping : Entries Value) : Value :=
  typedNode "Text" (bookkeeping ++ [(.str "text", .str "Hi")])

/-- A section with two texts, one of which is being edited. -/
def editedSection : Value :=
  sectionNode [(.str "puck", .int 1)] [textNode [(.str "editMode", .bool true)], textNode []]

/-- The same section without bookkeeping. -/
def bareSection : Value :=
  sectionNode [] [textNode [], textNode []]

/-- The same section with a note in front of the texts. -/
def notedSection : Value :=
  sectionNode [] [typedNode "Note" [], textNode [], textNode []]

/-- A note whose properties cannot even be read. -/
def brokenNote : Value :=
  .map [(.str "type", .str "Note"), (.str "props", .int 1)]

theorem editedSection_differs :
    DifferInBookkeeping sectionTable {} [editedSection] [bareSection] := by
  have hpuck : Hidden {} sectionComponent (.str "puck") :=
    ⟨rfl, List.forall_mem_singleton.mpr ⟨rfl, rfl⟩, fun h => by simp [idName] at h⟩
  have hmode : Hidden {} Component.plain (.str "editMode") :=
    ⟨rfl, (fun _ h => nomatch h), fun h => by simp [idName] at h⟩
  have htext : NodeEdit sectionTable {} (fun _ => False)
      (textNode [(.str "editMode", .bool true)]) (textNode []) :=
    .inside rfl rfl rfl rfl (.left _ hmode (.refl _ _))
  have htexts : NodesEdit sectionTable {} (fun _ => False) true
      [textNode [(.str "editMode", .bool true)], textNode []] [textNode [], textNode []] :=
    .cons htext (.cons (.refl _) (.nil _))
  have hsection : NodeEdit sectionTable {} (fun _ => False) editedSection bareSection :=
    .inside rfl rfl rfl rfl
      (.left _ hpuck (.slot rfl (fun h => by simp [idName] at h) rfl rfl htexts (.nil _)))
  exact .cons hsection (.nil _)

private theorem isOk_sectionPages :
    ∀ nodes ∈ [[editedSection], [notedSection, typedNode "Note" []]],
    (pageTree {} (.list nodes) sectionSchema 0).isOk = true := by
  decide +kernel

theorem exists_pageTree_editedSection :
    ∃ page, pageTree {} (.list [editedSection]) sectionSchema 0 = .ok page :=
  exists_of_isOk (isOk_sectionPages _ List.mem_cons_self)

/-- A section that is being edited has the tree of the bare section. -/
theorem pageTree_editedSection :
    ∃ page, pageTree {} (.list [editedSection]) sectionSchema 0 = .ok page ∧
      pageTree {} (.list [bareSection]) sectionSchema 0 = .ok page := by
  obtain ⟨page, hpage⟩ := exists_pageTree_editedSection
  exact ⟨page, hpage, (pageTree_eq_iff_of_bookkeeping rfl rfl rfl editedSection_differs 0 page).mp
    hpage⟩

theorem notedSection_differs : DifferInSkipped sectionTable {}
    [notedSection, typedNode "Note" []] [bareSection, brokenNote] := by
  have hnote : IsSkipped sectionTable (typedNode "Note" []) := ⟨_, _, rfl, rfl⟩
  have hbroken : IsSkipped sectionTable brokenNote := ⟨_, _, rfl, rfl⟩
  have hbody : NodesEdit sectionTable {} (IsSkipped sectionTable) true
      [typedNode "Note" [], textNode [], textNode []] [textNode [], textNode []] :=
    .remove hnote (fun _ => rfl) (.cons (.refl _) (.cons (.refl _) (.nil _)))
  have hsection : NodeEdit sectionTable {} (IsSkipped sectionTable) notedSection bareSection :=
    .inside rfl rfl rfl rfl
      (.slot rfl (fun h => by simp [idName] at h) rfl rfl hbody (.nil _))
  exact .cons hsection (.cons (.replace hnote hbroken) (.nil _))

theorem exists_pageTree_notedSection :
    ∃ page, pageTree {} (.list [notedSection, typedNode "Note" []]) sectionSchema 0 = .ok page :=
  exists_of_isOk (isOk_sectionPages _ (List.mem_cons_of_mem _ List.mem_cons_self))

/-- A section with a note has the tree of the section without it, and what another note holds does
not matter. -/
theorem pageTree_notedSection :
    ∃ page, pageTree {} (.list [notedSection, typedNode "Note" []]) sectionSchema 0 = .ok page ∧
      pageTree {} (.list [bareSection, brokenNote]) sectionSchema 0 = .ok page := by
  obtain ⟨page, hpage⟩ := exists_pageTree_notedSection
  exact ⟨page, hpage, pageTree_eq_of_skipped rfl rfl rfl notedSection_differs hpage⟩

/-! ### A box with a slot that is named like the id -/

/-- A component with a slot that is named like the id. -/
def boxComponent : Component :=
  { Component.plain with fields := [(idName, .mk .slot none none)] }

/-- The schema of boxes, texts and notes. -/
def boxSchema : Definition :=
  .map [(.str "Box", .component boxComponent), (.str "Text", .component .plain),
    (.str "Note", .component noteComponent)]

/-- A box with nodes in its slot, and a text next to it. -/
def boxDocument (inside : List Value) : Value :=
  .list [typedNode "Box" [(idName, .list inside)], typedNode "Text" []]

/-- The text of a box with nodes in its slot. -/
def boxText? (inside : List Value) : Option String :=
  (pageTree {} (boxDocument inside) boxSchema 0).toOption.map PageTree.text

private theorem exists_pages_of_boxText? {inside inside' : List Value}
    (h : (boxText? inside).isSome = true ∧ (boxText? inside').isSome = true ∧
      boxText? inside ≠ boxText? inside') :
    ∃ page page', pageTree {} (boxDocument inside) boxSchema 0 = .ok page ∧
      pageTree {} (boxDocument inside') boxSchema 0 = .ok page' ∧ page.text ≠ page'.text := by
  unfold boxText? at h
  cases hpage : pageTree {} (boxDocument inside) boxSchema 0 with
  | error f => simp [hpage, Except.toOption] at h
  | ok page =>
    cases hpage' : pageTree {} (boxDocument inside') boxSchema 0 with
    | error f => simp [hpage', Except.toOption] at h
    | ok page' =>
      refine ⟨page, page', rfl, rfl, fun heq => h.2.2 ?_⟩
      rw [hpage, hpage']
      exact congrArg some heq

/-- Boxes around a text that is being edited or not, and around notes that differ, have different
texts. -/
private theorem boxText?_ne :
    ((boxText? [typedNode "Text" [(.str "puck", .int 1)]]).isSome = true ∧
      (boxText? [typedNode "Text" []]).isSome = true ∧
      boxText? [typedNode "Text" [(.str "puck", .int 1)]] ≠ boxText? [typedNode "Text" []]) ∧
    (boxText? [typedNode "Note" [(.str "a", .int 1)], typedNode "Text" []]).isSome = true ∧
      (boxText? [typedNode "Note" [], typedNode "Text" []]).isSome = true ∧
      boxText? [typedNode "Note" [(.str "a", .int 1)], typedNode "Text" []] ≠
        boxText? [typedNode "Note" [], typedNode "Text" []] := by
  decide +kernel

/-- A slot that is named like the id shows the bookkeeping of its nodes in a key. -/
theorem keyed_slot_shows_bookkeeping :
    ∃ page page', pageTree {} (boxDocument [typedNode "Text" [(.str "puck", .int 1)]]) boxSchema 0 =
      .ok page ∧ pageTree {} (boxDocument [typedNode "Text" []]) boxSchema 0 = .ok page' ∧
        page.text ≠ page'.text :=
  exists_pages_of_boxText? boxText?_ne.1

/-- A slot that is named like the id shows the properties of skipped nodes in a key. -/
theorem keyed_slot_shows_skipped :
    ∃ page page', pageTree {} (boxDocument
        [typedNode "Note" [(.str "a", .int 1)], typedNode "Text" []]) boxSchema 0 = .ok page ∧
      pageTree {} (boxDocument [typedNode "Note" [], typedNode "Text" []]) boxSchema 0 =
        .ok page' ∧ page.text ≠ page'.text :=
  exists_pages_of_boxText? boxText?_ne.2

end PageMarkup
