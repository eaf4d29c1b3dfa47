import PageMarkup.Proofs.Page.Unseen
import PageMarkup.Proofs.Render.Keys

/-!
# Keys of siblings on a page

Elements that come from one list of nodes are told apart by the ids of the nodes, as keys. Top-level
nodes, slots and arrays are three places that each find out by themselves whether nodes are list
items, and the keys are taken from the nodes and not from what is left of their properties. Row by
row, the keys in the tree of a page are nevertheless those of the nodes.

## Main results

* `nodup_keys` : distinct ids make distinct keys.
* `pageTree_siblingKeys` : the keys in the tree of a document.
-/

namespace PageMarkup

open Grouped (labelRows mapRows)

variable {table : ComponentTable} {settings : Settings}

/-- The elements of a row have distinct keys if their nodes have distinct ids. -/
theorem nodup_keys {row : List Placed} (h : AreListItems row)
    (hids : (row.map fun p => nodeId p.node).Nodup) :
    ((row.map Placed.keyed).map KeyedTag.keys).Nodup := by
  rcases h with hitems | hlength
  · have hkeys : (row.map Placed.keyed).map KeyedTag.keys =
        (row.map fun p => nodeId p.node).map fun id => [(0, Markup.literal (.str id))] := by
      rw [List.map_map, List.map_map]
      exact List.map_congr_left fun p hp => if_pos (hitems p hp)
    rw [hkeys]
    refine hids.map fun id id' heq => ?_
    cases heq
    rfl
  · match row, hlength with
    | [], _ => exact List.nodup_nil
    | [p], _ => exact List.nodup_singleton _

theorem leaves_renderRoot_keyed (hhook : ∀ e ∈ table, e.2.hook = none)
    (hfields : ∀ e ∈ table, e.2.fields.HasTextKeys) (hkeys : settings.listKeys.truthy = true)
    {nodes : List Value} (hnodes : ∀ v ∈ nodes, IdentifiedBelow table settings v) :
    (renderRoot table settings nodes).Leaves fun root =>
      ∃ rows, RowsGrouped table settings [.slot nodes] rows ∧
        root.rows = mapRows Placed.keyed rows := by
  refine (Describes.leaves_renderRoot (fun _ => describes_keyed table settings)
    (fun _ _ _ _ => nodeKeyed_of_nodeOf hhook hfields hkeys) nodes).mono ?_
  rintro _ ⟨ms, rfl, hms⟩
  obtain ⟨row, hrow, hgrouped⟩ := keyed_of_nodes hms hnodes
  refine ⟨asRow row, .single hrow, ?_⟩
  have hgroup := Markup.rowsOf_group (congrArg Prod.snd hgrouped)
  rw [congrArg Prod.fst hgrouped] at hgroup
  rw [Grouped.mapRows_asRow, ← hgroup]
  cases Markup.group (ms.filterMap id) with
  | none => rfl
  | some root => rw [Option.getD_some, Option.toList_some, Markup.groupedAll_singleton]; rfl

/-- **Keys of siblings.** Take components without hooks, settings that ask for keys, and a document
of plain data that has a tree, in which each visited node that is not skipped is identified by a
text and holds no key of its own. Then the elements of the tree are those of its nodes, row by row.
The element of a list item, which is a node in a list of at least two top-level nodes, in a slot of
at least two nodes, or among the items of an array, has the id of the node as its first attribute,
named as the key, and no other key. All other elements have no key. So within each row the keys are
distinct if the ids are. It does not matter whether ids are shown or dropped. -/
theorem pageTree_siblingKeys {document : Value} {schema : Definition} {nodes : List Value}
    (hnodes : contentNodes document = .ok nodes) (htable : schema.asTable = .ok table)
    (hhook : ∀ e ∈ table, e.2.hook = none) (hfields : ∀ e ∈ table, e.2.fields.HasTextKeys)
    (hkeys : settings.listKeys.truthy = true) (hdata : ∀ v ∈ nodes, v.IsData)
    (hids : ∀ d v, Visited table settings nodes d v → ¬ IsSkipped table v → Identified v)
    {depth : Int} {page : PageTree} (hpage : pageTree settings document schema depth = .ok page) :
    ∃ rows, RowsGrouped table settings [.slot nodes] rows ∧
      page.root.rows = mapRows Placed.keyed rows ∧
      List.Forall₂ (fun row tags => (row.map fun p => nodeId p.node).Nodup →
        (tags.map KeyedTag.keys).Nodup) (labelRows rows) (labelRows page.root.rows) := by
  obtain ⟨root, run, text, ds, hrun, -, -, rfl⟩ := (pageTree_eq_ok_iff hnodes htable).mp hpage
  have hbelow : ∀ v ∈ nodes, IdentifiedBelow table settings v := fun v hv =>
    ⟨hdata v hv, fun d w hw => hids d w (visited_iff_reaches.mpr ⟨v, hv, hw⟩)⟩
  obtain ⟨rows, hrows, hroot⟩ := leaves_renderRoot_keyed hhook hfields hkeys hbelow _ _ _ hrun
  refine ⟨rows, hrows, hroot, ?_⟩
  rw [hroot, Grouped.labelRows_mapRows, List.forall₂_map_right_iff, List.forall₂_same]
  exact fun row hrow => nodup_keys (hrows.areListItems row hrow)

/-! ### A shelf of labels -/

/-- Shelves with labels in their body and among their items, also as icons. Their ids are not
shown. -/
def shelfComponent : Component :=
  { Component.plain with
    fields := [(.str "body", .mk .slot none none),
      (.str "items", .mk .array (some [(.str "icon", .mk .slot none none)]) none)]
    omitted := [idName] }

/-- The components of shelves, labels and notes. -/
def shelfTable : ComponentTable :=
  [(.str "Shelf", shelfComponent), (.str "Label", .plain), (.str "Note", noteComponent)]

/-- The schema of shelves, labels and notes. -/
def shelfSchema : Definition :=
  .map (shelfTable.map fun e => (e.1, .component e.2))

def labelNode (id : String) : Value :=
  typedNode "Label" [(idName, .str id)]

def noteNode : Value :=
  typedNode "Note" []

/-- A label next to a note in the body of a shelf. -/
def shelfBody : List Value := [labelNode "one", noteNode]

/-- Two labels among the items of a shelf, and one as an icon. -/
def shelfItems : List Value :=
  [labelNode "two", .map [(.str "icon", .list [labelNode "three"])], labelNode "four"]

def shelfNode : Value :=
  typedNode "Shelf" [(idName, .str "shelf"), (.str "body", .list shelfBody),
    (.str "items", .list shelfItems)]

theorem shelfNode_visited {d : Nat} {v : Value}
    (h : Visited shelfTable {} [shelfNode, noteNode] d v) :
    v = shelfNode ∨ v = noteNode ∨ ∃ id, id ≠ "" ∧ v = labelNode id := by
  have hshelf : nodeComponent? shelfTable shelfNode = some (.str "Shelf", shelfComponent) := rfl
  have hnote : nodeComponent? shelfTable noteNode = some (.str "Note", noteComponent) := rfl
  induction h with
  | top h =>
    rcases List.mem_cons.mp h with rfl | h
    · exact .inl rfl
    · exact .inr (.inl (List.mem_singleton.mp h))
  | @step d v w _ hw ih =>
    rcases ih with rfl | rfl | ⟨id, -, rfl⟩
    · have hmem : w ∈ [labelNode "one", noteNode, labelNode "two", labelNode "three",
        labelNode "four"] := (hangsBelow_iff hshelf rfl rfl rfl).mp hw
      simp only [List.mem_cons, List.not_mem_nil, or_false] at hmem
      rcases hmem with rfl | rfl | rfl | rfl | rfl
      · exact .inr (.inr ⟨"one", by decide, rfl⟩)
      · exact .inr (.inl rfl)
      · exact .inr (.inr ⟨"two", by decide, rfl⟩)
      · exact .inr (.inr ⟨"three", by decide, rfl⟩)
      · exact .inr (.inr ⟨"four", by decide, rfl⟩)
    · exact absurd hw (not_hangsBelow_of_skip {} hnote rfl w)
    · have hlabel : nodeComponent? shelfTable (labelNode id) = some (.str "Label", .plain) := rfl
      have hmem := (hangsBelow_iff hlabel rfl rfl rfl).mp hw
      cases hmem

theorem shelfNode_identified (d : Nat) (v : Value)
    (hv : Visited shelfTable {} [shelfNode, noteNode] d v) (hshown : ¬ IsSkipped shelfTable v) :
    Identified v := by
  rcases shelfNode_visited hv with rfl | rfl | ⟨id, hid, rfl⟩
  · exact ⟨_, "shelf", rfl, rfl, by decide, by simp [Entries.keys, keyName, idName]⟩
  · exact absurd ⟨_, _, rfl, rfl⟩ hshown
  · exact ⟨_, id, rfl, rfl, hid, by simp [Entries.keys, keyName, idName]⟩

theorem isData_typedNode (type : String) (props : List (String × Value))
    (hnodup : (props.map Prod.fst).Nodup) (hvalues : ∀ e ∈ props, e.2.IsData) :
    (typedNode type (props.map fun e => (.str e.1, e.2))).IsData := by
  refine .ofTexts [("type", .str type), ("props", _)] (by simp) ?_
  exact List.forall_mem_cons.mpr
    ⟨.str type, List.forall_mem_singleton.mpr (.ofTexts props hnodup hvalues)⟩

theorem isData_labelNode (id : String) : (labelNode id).IsData :=
  isData_typedNode "Label" [("id", .str id)] (List.nodup_singleton _)
    (List.forall_mem_singleton.mpr (.str id))

theorem isData_noteNode : noteNode.IsData :=
  isData_typedNode "Note" [] List.nodup_nil (List.forall_mem_nil _)

theorem isData_shelfNode : shelfNode.IsData := by
  have hbody : (Value.list shelfBody).IsData := .list <| List.forall_mem_cons.mpr
    ⟨isData_labelNode "one", List.forall_mem_singleton.mpr isData_noteNode⟩
  have hicons : (Value.list [labelNode "three"]).IsData :=
    .list (List.forall_mem_singleton.mpr (isData_labelNode "three"))
  have hicon := Value.IsData.ofTexts [("icon", _)] (List.nodup_singleton _)
    (List.forall_mem_singleton.mpr hicons)
  have hitems : (Value.list shelfItems).IsData := .list <| List.forall_mem_cons.mpr
    ⟨isData_labelNode "two", List.forall_mem_cons.mpr
      ⟨hicon, List.forall_mem_singleton.mpr (isData_labelNode "four")⟩⟩
  exact isData_typedNode "Shelf" [("id", .str "shelf"), ("body", _), ("items", _)] (by decide)
    (List.forall_mem_cons.mpr ⟨.str _, List.forall_mem_cons.mpr
      ⟨hbody, List.forall_mem_singleton.mpr hitems⟩⟩)

theorem exists_pageTree_shelf :
    ∃ page, pageTree {} (.list [shelfNode, noteNode]) shelfSchema 0 = .ok page :=
  exists_of_isOk (by decide +kernel)

/-- The labels of a shelf have their keys. -/
theorem pageTree_siblingKeys_shelf :
    ∃ page rows, pageTree {} (.list [shelfNode, noteNode]) shelfSchema 0 = .ok page ∧
      RowsGrouped shelfTable {} [.slot [shelfNode, noteNode]] rows ∧
      page.root.rows = mapRows Placed.keyed rows := by
  obtain ⟨page, hpage⟩ := exists_pageTree_shelf
  have hdata : ∀ v ∈ [shelfNode, noteNode], v.IsData :=
    List.forall_mem_cons.mpr ⟨isData_shelfNode, List.forall_mem_singleton.mpr isData_noteNode⟩
  have hhook : ∀ e ∈ shelfTable, e.2.hook = none := by
    simp [shelfTable, shelfComponent, noteComponent, Component.plain]
  have hshelf : shelfComponent.fields.HasTextKeys := by
    simp [Entries.HasTextKeys, shelfComponent, Value.isStr]
  have hfields : ∀ e ∈ shelfTable, e.2.fields.HasTextKeys :=
    List.forall_mem_cons.mpr ⟨hshelf, List.forall_mem_cons.mpr
      ⟨List.forall_mem_nil _, List.forall_mem_singleton.mpr (List.forall_mem_nil _)⟩⟩
  obtain ⟨rows, hrows, hroot, -⟩ :=
    pageTree_siblingKeys rfl rfl hhook hfields rfl hdata shelfNode_identified hpage
  exact ⟨page, rows, hpage, hrows, hroot⟩

-- the label in the icon is alone in its slot
example : (pageTree {} (.list [shelfNode, noteNode]) shelfSchema 0).toOption.map (fun page =>
    (labelRows page.root.rows).map (List.map fun tag => tag.keys.length)) =
      some [[1], [1], [1, 1], [0]] := by
  decide +kernel

end PageMarkup
