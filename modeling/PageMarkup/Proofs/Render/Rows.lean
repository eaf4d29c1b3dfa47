import PageMarkup.Proofs.Render.Assembly
import PageMarkup.Proofs.Render.Outline

/-!
# Rows of elements

Nodes are met in rows: those of a slot, and those among the items of an array. The elements that
they leave stand next to each other again: in a fragment or alone, and among the items of an array.
So an element has rows of elements inside it, and a node has rows of nodes below it, and both are
listed in the same order: what is in the attributes comes before the content, and the nodes of an
array come before those in its other items. A row without elements cannot be seen and is left out.

## Main definitions

* `Grouped` : labelled elements with the rows of elements inside them.
* `Markup.rows` : the rows of elements in a piece of markup, labelled by their tags and keys.
* `Row`, `rowsBelow` : the rows of nodes directly below a node.
* `RowsGrouped` : the elements of rows of nodes, labelled by the nodes.

## Main results

* `Grouped.labelRows_mapRows` : the labels of all rows, after a change of the labels.
* `RowsGrouped.areListItems` : only list items share a row.
-/

namespace PageMarkup

/-- A labelled element with the rows of elements inside it. -/
inductive Grouped (α : Type) where
  | element (label : α) (rows : List (List (Grouped α)))

/-- The row of some elements; there is none without any. -/
def asRow {α : Type} : List α → List (List α)
  | [] => []
  | as => [as]

theorem eq_of_mem_asRow {α : Type} {as bs : List α} (h : as ∈ asRow bs) : as = bs := by
  cases bs with
  | nil => cases h
  | cons b bs => exact List.mem_singleton.mp h

namespace Grouped

variable {α β : Type}

def label : Grouped α → α
  | .element label _ => label

mutual

/-- An element and those inside it with other labels. -/
def map (f : α → β) : Grouped α → Grouped β
  | .element label rows => .element (f label) (mapRows f rows)
termination_by structural g => g

def mapRow (f : α → β) : List (Grouped α) → List (Grouped β)
  | [] => []
  | g :: row => g.map f :: mapRow f row
termination_by structural row => row

def mapRows (f : α → β) : List (List (Grouped α)) → List (List (Grouped β))
  | [] => []
  | row :: rows => mapRow f row :: mapRows f rows
termination_by structural rows => rows

end

mutual

/-- The labels of the rows inside an element, at every depth. -/
def labelsInside : Grouped α → List (List α)
  | .element _ rows => labelRows rows
termination_by structural g => g

/-- The labels of the rows inside the elements of a row. -/
def labelsInsideRow : List (Grouped α) → List (List α)
  | [] => []
  | g :: row => g.labelsInside ++ labelsInsideRow row
termination_by structural row => row

/-- The labels of rows and of those inside them, row by row. -/
def labelRows : List (List (Grouped α)) → List (List α)
  | [] => []
  | row :: rows => row.map label :: labelsInsideRow row ++ labelRows rows
termination_by structural rows => rows

end

theorem mapRow_append (f : α → β) (row row' : List (Grouped α)) :
    mapRow f (row ++ row') = mapRow f row ++ mapRow f row' := by
  induction row with
  | nil => rfl
  | cons g row ih => rw [List.cons_append, mapRow, mapRow, ih, List.cons_append]

theorem mapRows_append (f : α → β) (rows rows' : List (List (Grouped α))) :
    mapRows f (rows ++ rows') = mapRows f rows ++ mapRows f rows' := by
  induction rows with
  | nil => rfl
  | cons row rows ih => rw [List.cons_append, mapRows, mapRows, ih, List.cons_append]

theorem mapRows_asRow (f : α → β) (row : List (Grouped α)) :
    mapRows f (asRow row) = asRow (mapRow f row) := by
  cases row <;> rfl

theorem map_label_mapRow (f : α → β) (row : List (Grouped α)) :
    (mapRow f row).map label = (row.map label).map f := by
  induction row with
  | nil => rfl
  | cons g row ih =>
    cases g
    rw [mapRow, List.map_cons, ih]
    rfl

theorem labelsInsideRow_append (row row' : List (Grouped α)) :
    labelsInsideRow (row ++ row') = labelsInsideRow row ++ labelsInsideRow row' := by
  induction row with
  | nil => rfl
  | cons g row ih =>
    rw [List.cons_append, labelsInsideRow, labelsInsideRow, ih, List.append_assoc]

theorem labelRows_asRow_append (row : List (Grouped α)) (rows : List (List (Grouped α))) :
    labelRows (asRow row ++ rows) =
      asRow (row.map label) ++ labelsInsideRow row ++ labelRows rows := by
  cases row <;> rfl

mutual

theorem labelsInside_map (f : α → β) (g : Grouped α) :
    (g.map f).labelsInside = g.labelsInside.map (List.map f) := by
  match g with
  | .element label rows =>
    rw [map, labelsInside, labelsInside, labelRows_mapRows f rows]

theorem labelsInsideRow_mapRow (f : α → β) (row : List (Grouped α)) :
    labelsInsideRow (mapRow f row) = (labelsInsideRow row).map (List.map f) := by
  match row with
  | [] => rfl
  | g :: row =>
    rw [mapRow, labelsInsideRow, labelsInsideRow, labelsInside_map f g,
      labelsInsideRow_mapRow f row, List.map_append]

/-- The labels of all rows after a change of the labels. -/
theorem labelRows_mapRows (f : α → β) (rows : List (List (Grouped α))) :
    labelRows (mapRows f rows) = (labelRows rows).map (List.map f) := by
  match rows with
  | [] => rfl
  | row :: rows =>
    rw [mapRows, labelRows, labelRows, labelsInsideRow_mapRow f row, labelRows_mapRows f rows,
      map_label_mapRow, List.map_append, List.map_cons]

end

end Grouped

/-! ### Rows of elements in markup -/

/-- The tag of an element, and the attributes of it that are named as keys, with their positions. -/
structure KeyedTag where
  tag : Value
  keys : List (Nat × Markup)

/-- The attributes that are named as keys, with their positions. -/
def keysOf (attributes : List (Value × Markup)) : List (Nat × Markup) :=
  attributes.zipIdx.filterMap fun a => if a.1.1.same keyName then some (a.2, a.1.2) else none

/-- Elements next to each other as a row, before the rows inside what stands between them. -/
def rowsOf {α : Type} (found : List (Grouped α) × List (List (Grouped α))) :
    List (List (Grouped α)) :=
  asRow found.1 ++ found.2

mutual

/-- The element that a piece of markup is, or the rows of elements inside it. -/
def Markup.grouped : Markup → List (Grouped KeyedTag) × List (List (Grouped KeyedTag))
  | .array items => ([], rowsOf (Markup.groupedAll items))
  | .object entries => ([], Markup.entryRows entries)
  | .element tag attributes content =>
    ([.element ⟨tag, keysOf attributes⟩
      (Markup.attributeRows attributes ++ rowsOf (Markup.groupedAll content))], [])
  | .fragment children => ([], rowsOf (Markup.groupedAll children))
  | _ => ([], [])
termination_by structural m => m

/-- The elements among several pieces of markup, and the rows inside the others. -/
def Markup.groupedAll : List Markup → List (Grouped KeyedTag) × List (List (Grouped KeyedTag))
  | [] => ([], [])
  | m :: ms => (m.grouped.1 ++ (Markup.groupedAll ms).1, m.grouped.2 ++ (Markup.groupedAll ms).2)
termination_by structural ms => ms

/-- The rows in the entries of an object. -/
def Markup.entryRows : List (String × Markup) → List (List (Grouped KeyedTag))
  | [] => []
  | (_, m) :: es => rowsOf m.grouped ++ Markup.entryRows es
termination_by structural es => es

/-- The rows in the values of attributes. -/
def Markup.attributeRows : List (Value × Markup) → List (List (Grouped KeyedTag))
  | [] => []
  | (_, m) :: es => rowsOf m.grouped ++ Markup.attributeRows es
termination_by structural es => es

end

namespace Markup

theorem grouped_array (items : List Markup) :
    grouped (.array items) = ([], rowsOf (groupedAll items)) :=
  rfl

theorem grouped_object (entries : List (String × Markup)) :
    grouped (.object entries) = ([], entryRows entries) :=
  rfl

theorem grouped_element (tag : Value) (attributes : List (Value × Markup))
    (content : List Markup) :
    grouped (.element tag attributes content) =
      ([.element ⟨tag, keysOf attributes⟩
        (attributeRows attributes ++ rowsOf (groupedAll content))], []) :=
  rfl

theorem grouped_fragment (children : List Markup) :
    grouped (.fragment children) = ([], rowsOf (groupedAll children)) :=
  rfl

theorem groupedAll_cons (m : Markup) (ms : List Markup) : groupedAll (m :: ms) =
    (m.grouped.1 ++ (groupedAll ms).1, m.grouped.2 ++ (groupedAll ms).2) :=
  rfl

theorem entryRows_cons (o : String × Markup) (os : List (String × Markup)) :
    entryRows (o :: os) = rowsOf o.2.grouped ++ entryRows os :=
  rfl

theorem attributeRows_cons (a : Value × Markup) (as : List (Value × Markup)) :
    attributeRows (a :: as) = rowsOf a.2.grouped ++ attributeRows as :=
  rfl

end Markup

/-- The rows of elements in a piece of markup, with the rows inside them. -/
def Markup.rows (m : Markup) : List (List (Grouped KeyedTag)) :=
  rowsOf m.grouped

/-! ### Rows of nodes -/

/-- Nodes that are met together, as list items or not. One node at most is met as no list item. -/
structure Row where
  listItem : Bool
  nodes : List Value
  alone : listItem = false → nodes.length ≤ 1

/-- The nodes of a slot are list items if there are at least two of them. -/
def Row.slot (nodes : List Value) : Row :=
  ⟨1 < nodes.length, nodes, fun h => Nat.not_lt.mp (of_decide_eq_false h)⟩

/-- The nodes of an array are list items. -/
def Row.array (nodes : List Value) : Row :=
  ⟨true, nodes, fun h => nomatch h⟩

/-- The row of a value as a slot. -/
def slotRows (v : Value) : List Row :=
  (v.items?.map Row.slot).toList

mutual

/-- The rows of nodes that are reached inside a value by its field. -/
def nestedRows (field : Option Field) : Value → List Row
  | .list xs =>
    if slotField field then [.slot xs]
    else match field.bind Field.itemFields? with
      | some fields => .array (xs.filter isNodeShaped) :: rowsInItems fields xs
      | none => []
  | .tuple xs =>
    if slotField field then [.slot xs]
    else match field.bind Field.itemFields? with
      | some fields => .array (xs.filter isNodeShaped) :: rowsInItems fields xs
      | none => []
  | .map es =>
    if slotField field then []
    else match field.bind Field.entryFields? with
      | some fields => rowsInEntries fields es
      | none => []
  | _ => []
termination_by structural v => v

/-- The rows of nodes that are reached inside the items of an array that are no nodes. -/
def rowsInItems (fields : Entries Field) : List Value → List Row
  | [] => []
  | .map es :: xs =>
    (if isNodeShaped (.map es) then [] else rowsInEntries fields es) ++ rowsInItems fields xs
  | _ :: xs => rowsInItems fields xs
termination_by structural xs => xs

/-- The rows of nodes that are reached inside the entries of an object. -/
def rowsInEntries (fields : Entries Field) : List (Value × Value) → List Row
  | [] => []
  | (k, v) :: es => nestedRows (fields.find? k) v ++ rowsInEntries fields es
termination_by structural es => es

end

theorem nestedRows_of_items {field : Option Field} {v : Value} {vs : List Value}
    (hitems : v.items? = some vs) : nestedRows field v =
      if slotField field then [.slot vs]
      else match field.bind Field.itemFields? with
        | some fields => .array (vs.filter isNodeShaped) :: rowsInItems fields vs
        | none => [] := by
  cases v with
  | list | tuple =>
    cases hitems
    rfl
  | null | bool | int | float | str | map | foreign | markup => cases hitems

theorem nestedRows_map (field : Option Field) (es : Entries Value) : nestedRows field (.map es) =
    if slotField field then []
    else match field.bind Field.entryFields? with
      | some fields => rowsInEntries fields es
      | none => [] :=
  rfl

theorem rowsInItems_map_cons (fields : Entries Field) (es : Entries Value) (xs : List Value) :
    rowsInItems fields (.map es :: xs) =
      (if isNodeShaped (.map es) then [] else rowsInEntries fields es) ++ rowsInItems fields xs :=
  rfl

theorem rowsInItems_cons_of_ne {fields : Entries Field} {x : Value} (h : ∀ es, x ≠ .map es)
    (xs : List Value) : rowsInItems fields (x :: xs) = rowsInItems fields xs := by
  cases x with
  | map es => exact absurd rfl (h es)
  | null | bool | int | float | str | list | tuple | foreign | markup => rfl

/-- The rows of nodes below a node that one of its properties holds. -/
def entryRows (c : Component) (stripped : List Value) (e : Value × Value) : List Row :=
  if nameIn e.1 c.slotNames then slotRows e.2
  else if nameIn e.1 stripped then []
  else nestedRows (c.field? e.1) e.2

/-- The rows of nodes directly below a node with the given properties; the content comes last. -/
def rowsBelow (c : Component) (stripped : List Value) (props : Entries Value) : List Row :=
  (props.filter fun e => !e.1.same childrenName).flatMap (entryRows c stripped) ++
    (props.filter fun e => e.1.same childrenName).flatMap (entryRows c stripped)

/-! ### Elements of nodes -/

/-- A node that has an element, with its tag, as a list item or not. -/
structure Placed where
  node : Value
  tag : Value
  listItem : Bool

section

variable (table : ComponentTable) (settings : Settings)

mutual

/-- The element of a node: none for a skipped one, and otherwise one with the rows of the elements
of the nodes below it. -/
inductive NodeGrouped : Bool → Value → List (Grouped Placed) → Prop
  | skipped {listItem : Bool} {node type : Value} {c : Component}
      (hc : nodeComponent? table node = some (type, c)) (hskip : c.skip = true) :
      NodeGrouped listItem node []
  | element {listItem : Bool} {node type : Value} {c : Component} {props : Entries Value}
      {stripped : List Value} {rows : List (List (Grouped Placed))}
      (hc : nodeComponent? table node = some (type, c)) (hskip : c.skip = false)
      (hprops : ownProps node = .ok props) (hstripped : strippedNames c settings = .ok stripped)
      (h : RowsGrouped (rowsBelow c stripped props) rows) :
      NodeGrouped listItem node [.element ⟨node, c.tag type, listItem⟩ rows]

/-- The elements of nodes that are met together. -/
inductive NodesGrouped : Bool → List Value → List (Grouped Placed) → Prop
  | nil (listItem : Bool) : NodesGrouped listItem [] []
  | cons {listItem : Bool} {node : Value} {nodes : List Value} {gs row : List (Grouped Placed)}
      (h : NodeGrouped listItem node gs) (h' : NodesGrouped listItem nodes row) :
      NodesGrouped listItem (node :: nodes) (gs ++ row)

/-- The rows of elements of rows of nodes, without those that have no elements. -/
inductive RowsGrouped : List Row → List (List (Grouped Placed)) → Prop
  | nil : RowsGrouped [] []
  | cons {r : Row} {rs : List Row} {row : List (Grouped Placed)}
      {rows : List (List (Grouped Placed))} (h : NodesGrouped r.listItem r.nodes row)
      (h' : RowsGrouped rs rows) : RowsGrouped (r :: rs) (asRow row ++ rows)

end

end

variable {table : ComponentTable} {settings : Settings}

theorem RowsGrouped.single {r : Row} {row : List (Grouped Placed)}
    (h : NodesGrouped table settings r.listItem r.nodes row) :
    RowsGrouped table settings [r] (asRow row) := by
  simpa using RowsGrouped.cons h .nil

theorem RowsGrouped.append {rs rs' : List Row} {rows rows' : List (List (Grouped Placed))}
    (h : RowsGrouped table settings rs rows) (h' : RowsGrouped table settings rs' rows') :
    RowsGrouped table settings (rs ++ rs') (rows ++ rows') := by
  induction rs generalizing rows with
  | nil =>
    cases h
    exact h'
  | cons r rs ih =>
    cases h with
    | cons hr hrs =>
      rw [List.append_assoc]
      exact .cons hr (ih hrs)

/-! ### List items -/

/-- Nodes of a row: all of them are list items, or there is at most one. -/
def AreListItems (row : List Placed) : Prop :=
  (∀ p ∈ row, p.listItem = true) ∨ row.length ≤ 1

/-- The elements of nodes that are met together are labelled as these are met, and there are at most
as many as nodes. -/
theorem NodesGrouped.labels {listItem : Bool} {vs : List Value} {row : List (Grouped Placed)}
    (h : NodesGrouped table settings listItem vs row) :
    (∀ g ∈ row, g.label.listItem = listItem) ∧ row.length ≤ vs.length := by
  induction vs generalizing row with
  | nil =>
    cases h
    exact ⟨List.forall_mem_nil _, Nat.le_refl 0⟩
  | cons v vs ih =>
    cases h with
    | cons hv hvs =>
      obtain ⟨hlabels, hlength⟩ := ih hvs
      cases hv with
      | skipped => exact ⟨hlabels, Nat.le_succ_of_le hlength⟩
      | element =>
        exact ⟨List.forall_mem_cons.mpr ⟨rfl, hlabels⟩, Nat.succ_le_succ hlength⟩

theorem areListItems_labels {r : Row} {row : List (Grouped Placed)}
    (h : NodesGrouped table settings r.listItem r.nodes row) :
    AreListItems (row.map Grouped.label) := by
  obtain ⟨hlabels, hlength⟩ := h.labels
  cases hitem : r.listItem with
  | true => exact .inl (List.forall_mem_map.mpr (hitem ▸ hlabels))
  | false =>
    rw [AreListItems, List.length_map]
    exact .inr (hlength.trans (r.alone hitem))

mutual

private theorem NodeGrouped.areListItems {listItem : Bool} {v : Value} {gs : List (Grouped Placed)}
    (h : NodeGrouped table settings listItem v gs) :
    ∀ labels ∈ Grouped.labelsInsideRow gs, AreListItems labels := by
  match h with
  | .skipped _ _ => exact List.forall_mem_nil _
  | .element _ _ _ _ hrows =>
    rw [Grouped.labelsInsideRow, Grouped.labelsInside, Grouped.labelsInsideRow, List.append_nil]
    exact hrows.areListItems

private theorem NodesGrouped.areListItems {listItem : Bool} {vs : List Value}
    {row : List (Grouped Placed)} (h : NodesGrouped table settings listItem vs row) :
    ∀ labels ∈ Grouped.labelsInsideRow row, AreListItems labels := by
  match h with
  | .nil _ => exact List.forall_mem_nil _
  | .cons hv hvs =>
    rw [Grouped.labelsInsideRow_append]
    exact List.forall_mem_append.mpr ⟨hv.areListItems, hvs.areListItems⟩

/-- **Only list items share a row.** In each row at every depth the elements are those of list
items, or there is at most one of them. -/
theorem RowsGrouped.areListItems {rs : List Row} {rows : List (List (Grouped Placed))}
    (h : RowsGrouped table settings rs rows) :
    ∀ labels ∈ Grouped.labelRows rows, AreListItems labels := by
  match h with
  | .nil => exact List.forall_mem_nil _
  | .cons hr hrest =>
    rw [Grouped.labelRows_asRow_append]
    refine List.forall_mem_append.mpr ⟨List.forall_mem_append.mpr ⟨fun labels hlabels => ?_,
      hr.areListItems⟩, hrest.areListItems⟩
    exact eq_of_mem_asRow hlabels ▸ areListItems_labels hr

end

end PageMarkup
