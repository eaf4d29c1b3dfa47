import PageMarkup.Proofs.Render.Description
import PageMarkup.Proofs.Render.Editing
import PageMarkup.Proofs.Render.Properties
import PageMarkup.Proofs.Render.Rows

/-!
# Keys of siblings

Without hooks, and with nodes that are identified by a text, the rows of elements in what is written
are those of the nodes, and each element has the key that its node is to have: the id of the node if
it is met as a list item, and none otherwise. Each way of writing a value keeps this, whether the
nodes in it are met in a slot or in an array, and the id is read from the node, so that it does not
matter whether the element shows it.

## Main definitions

* `Identified` : nodes with a text as their id and without a key of their own.
* `Placed.keyed` : the tag and the keys of the element of a node.
* `NodeKeyed`, `ValueKeyed` : the markup of nodes and values has the rows of elements of the nodes.

## Main results

* `valueKeyed_array`, `ItemsKeyed.consNode` : arrays and the nodes in them.
* `describes_keyed` : each way of writing a value keeps this.
* `nodeKeyed_of_nodeOf` : nodes, from those one level deeper.
-/

namespace PageMarkup

/-! ### Rows in several pieces of markup -/

namespace Markup

theorem groupedAll_append (ms ns : List Markup) : groupedAll (ms ++ ns) =
    ((groupedAll ms).1 ++ (groupedAll ns).1, (groupedAll ms).2 ++ (groupedAll ns).2) := by
  induction ms with
  | nil => rfl
  | cons m ms ih => rw [List.cons_append, groupedAll_cons, groupedAll_cons, ih, List.append_assoc,
      List.append_assoc]

theorem groupedAll_singleton (m : Markup) : groupedAll [m] = m.grouped := by
  rw [groupedAll_cons]
  exact Prod.ext (List.append_nil _) (List.append_nil _)

theorem entryRows_append (os ps : List (String × Markup)) :
    entryRows (os ++ ps) = entryRows os ++ entryRows ps := by
  induction os with
  | nil => rfl
  | cons o os ih => rw [List.cons_append, entryRows_cons, entryRows_cons, ih, List.append_assoc]

theorem attributeRows_append (as bs : List (Value × Markup)) :
    attributeRows (as ++ bs) = attributeRows as ++ attributeRows bs := by
  induction as with
  | nil => rfl
  | cons a as ih =>
    rw [List.cons_append, attributeRows_cons, attributeRows_cons, ih, List.append_assoc]

theorem groupedAll_of_forall {ms : List Markup} (h : ∀ m ∈ ms, m.grouped = ([], [])) :
    groupedAll ms = ([], []) := by
  induction ms with
  | nil => rfl
  | cons m ms ih =>
    rw [List.forall_mem_cons] at h
    rw [groupedAll_cons, h.1, ih h.2]
    rfl

theorem entryRows_of_forall {os : List (String × Markup)} (h : ∀ o ∈ os, o.2.grouped = ([], [])) :
    entryRows os = [] := by
  induction os with
  | nil => rfl
  | cons o os ih =>
    rw [List.forall_mem_cons] at h
    rw [entryRows_cons, h.1, ih h.2]
    rfl

theorem rowsOf_group {ms : List Markup} (h : (groupedAll ms).2 = []) :
    rowsOf (groupedAll (Markup.group ms).toList) = asRow (groupedAll ms).1 := by
  match ms with
  | [] => rfl
  | [m] =>
    change asRow (groupedAll [m]).1 ++ (groupedAll [m]).2 = _
    rw [h, List.append_nil]
  | m :: n :: ms =>
    change rowsOf (groupedAll [.fragment (m :: n :: ms)]) = _
    rw [groupedAll_singleton, grouped_fragment, rowsOf, rowsOf, h, List.append_nil]
    rfl

theorem grouped_asLiteral {v : Value} (h : v.IsData) : v.asLiteral.grouped = ([], []) := by
  induction h with
  | null | bool | int | float | str | foreign => rfl
  | list _ ih | tuple _ ih =>
    rw [Value.asLiteral, grouped_array, itemLiterals_eq,
      groupedAll_of_forall (List.forall_mem_map.mpr ih)]
    rfl
  | map _ _ _ _ ih =>
    rw [Value.asLiteral, grouped_object, entryRows_of_forall fun o ho => ?_]
    obtain ⟨e, he, rfl⟩ := mem_entryLiterals ho
    exact ih e he

end Markup

open Markup (groupedAll grouped_asLiteral)
open Grouped (mapRow mapRows)

/-! ### Keys -/

/-- The text that is the id of a node; it is empty if there is none. -/
def nodeId (node : Value) : String :=
  match ownProps node with
  | .ok props => (idOf props).str?.getD ""
  | .error _ => ""

/-- A node is identified by a text that is not empty, and holds no key of its own. -/
def Identified (node : Value) : Prop :=
  ∃ props s, ownProps node = .ok props ∧ props.find? idName = some (.str s) ∧ s ≠ "" ∧
    keyName ∉ props.keys

/-- The tag and the keys of the element of a node: as a list item the node has its id as the first
attribute, and otherwise no key. -/
def Placed.keyed (p : Placed) : KeyedTag :=
  ⟨p.tag, if p.listItem then [(0, .literal (.str (nodeId p.node)))] else []⟩

section

variable (table : ComponentTable) (settings : Settings)

/-- A node is plain data, and all nodes that are reached from it and shown are identified. -/
def IdentifiedBelow (v : Value) : Prop :=
  v.IsData ∧ ∀ d w, Reaches table settings d v w → ¬ IsSkipped table w → Identified w

/-- The markup of a node is its element, with its key. -/
def NodeKeyed (listItem : Bool) (v : Value) (m : Option Markup) : Prop :=
  IdentifiedBelow table settings v → ∃ gs, NodeGrouped table settings listItem v gs ∧
    groupedAll m.toList = (mapRow Placed.keyed gs, [])

/-- The markup of a value has the rows of the nodes that are reached inside the value. Markup is
written as it stands. -/
def ValueKeyed (field : Option Field) (v : Value) (m : Option Markup) : Prop :=
  (∀ x, v = .markup x → m = some x) ∧
    (v.IsData → (∀ w ∈ nestedNodes field v, IdentifiedBelow table settings w) →
      ∃ rows, RowsGrouped table settings (nestedRows field v) rows ∧
        rowsOf (groupedAll m.toList) = mapRows Placed.keyed rows)

/-- The markup of the items of an array has the elements of the nodes among them, and the rows that
are reached inside the others. -/
def ItemsKeyed (fields : Entries Field) (vs : List Value) (ms : List Markup) : Prop :=
  (∀ v ∈ vs, v.IsData) →
    (∀ w ∈ nestedInItems fields vs, IdentifiedBelow table settings w) →
      ∃ row rows, NodesGrouped table settings true (vs.filter isNodeShaped) row ∧
        RowsGrouped table settings (rowsInItems fields vs) rows ∧
        groupedAll ms = (mapRow Placed.keyed row, mapRows Placed.keyed rows)

/-- The markup of the entries of an object has the rows that are reached inside them. -/
def EntriesKeyed (fields : Entries Field) (es : Entries Value) (os : List (String × Markup)) :
    Prop :=
  (∀ e ∈ es, e.2.IsData) →
    (∀ w ∈ nestedInEntries fields es, IdentifiedBelow table settings w) →
      ∃ rows, RowsGrouped table settings (rowsInEntries fields es) rows ∧
        Markup.entryRows os = mapRows Placed.keyed rows

end

variable {table : ComponentTable} {settings : Settings}

theorem IdentifiedBelow.below {v w : Value} (h : IdentifiedBelow table settings v)
    (hw : HangsBelow table settings v w) : IdentifiedBelow table settings w :=
  ⟨Value.IsData.handedDown.hangsBelow h.1 hw, fun d x hx => h.2 (d + 1) x (.step hw hx)⟩

theorem keyed_of_nodes {listItem : Bool} {vs : List Value} {ms : List (Option Markup)}
    (h : List.Forall₂ (NodeKeyed table settings listItem) vs ms)
    (hvs : ∀ v ∈ vs, IdentifiedBelow table settings v) :
    ∃ row, NodesGrouped table settings listItem vs row ∧
      groupedAll (ms.filterMap id) = (mapRow Placed.keyed row, []) := by
  induction h with
  | nil => exact ⟨[], .nil _, rfl⟩
  | @cons v m vs ms hnode _ ih =>
    rw [List.forall_mem_cons] at hvs
    obtain ⟨gs, hgs, hm⟩ := hnode hvs.1
    obtain ⟨row, hrow, hms⟩ := ih hvs.2
    refine ⟨gs ++ row, .cons hgs hrow, ?_⟩
    have hcons : (m :: ms).filterMap id = m.toList ++ ms.filterMap id := by
      cases m <;> rfl
    rw [hcons, Markup.groupedAll_append, hm, hms, Grouped.mapRow_append]
    rfl

theorem keyed_of_slot {v : Value} {m : Option Markup}
    (h : SlotMarkup (NodeKeyed table settings) v m)
    (hv : ∀ w ∈ v.items?.getD [], IdentifiedBelow table settings w) :
    ∃ rows, RowsGrouped table settings (slotRows v) rows ∧
      rowsOf (groupedAll m.toList) = mapRows Placed.keyed rows := by
  unfold slotRows
  cases h with
  | empty hitems =>
    rw [hitems]
    exact ⟨[], .nil, rfl⟩
  | nodes hitems hnodes =>
    rw [hitems] at hv ⊢
    obtain ⟨row, hrow, hms⟩ := keyed_of_nodes hnodes hv
    refine ⟨asRow row, RowsGrouped.single hrow, ?_⟩
    rw [Markup.rowsOf_group (by rw [hms]), hms, Grouped.mapRows_asRow]

/-! ### Values -/

theorem nestedNodes_of_slot {field : Option Field} (hslot : slotField field = true) (v : Value) :
    nestedNodes field v = v.items?.getD [] := by
  cases v <;> simp [nestedNodes, hslot, Value.items?]

theorem nestedRows_of_slot {field : Option Field} (hslot : slotField field = true) (v : Value) :
    nestedRows field v = slotRows v := by
  cases v with
  | list | tuple =>
    rw [nestedRows_of_items rfl, if_pos hslot]
    rfl
  | map =>
    rw [nestedRows_map, if_pos hslot]
    rfl
  | null | bool | int | float | str | foreign | markup => rfl

theorem exists_map_of_isNodeShaped {v : Value} (h : isNodeShaped v = true) :
    ∃ es, v = .map es := by
  cases v with
  | map es => exact ⟨es, rfl⟩
  | null | bool | int | float | str | list | tuple | foreign | markup =>
    exact absurd h Bool.false_ne_true

theorem valueKeyed_slot {field : Option Field} {v : Value} {m : Option Markup}
    (hslot : slotField field = true) (hplain : ∀ x, v ≠ .markup x)
    (h : SlotMarkup (NodeKeyed table settings) v m) : ValueKeyed table settings field v m := by
  refine ⟨fun x hx => absurd hx (hplain x), fun _ hv => ?_⟩
  rw [nestedNodes_of_slot hslot] at hv
  rw [nestedRows_of_slot hslot]
  exact keyed_of_slot h hv

theorem valueKeyed_literal {field : Option Field} {v : Value} (hslot : slotField field = false)
    (hitems : v.items?.isSome = true → field.bind Field.itemFields? = none)
    (hentries : v.entries?.isSome = true → field.bind Field.entryFields? = none) :
    ValueKeyed table settings field v (some v.asLiteral) := by
  refine ⟨fun x hx => by rw [hx]; rfl, fun hdata _ => ⟨[], ?_, ?_⟩⟩
  · have hnone : nestedRows field v = [] := by
      cases v with
      | list | tuple =>
        rw [nestedRows_of_items rfl, hslot, if_neg Bool.false_ne_true, hitems rfl]
      | map => rw [nestedRows_map, hslot, if_neg Bool.false_ne_true, hentries rfl]
      | null | bool | int | float | str | foreign | markup => rfl
    exact hnone ▸ .nil
  · rw [Option.toList_some, Markup.groupedAll_singleton, grouped_asLiteral hdata]
    rfl

theorem nested_of_items {field : Option Field} {fields : Entries Field} {v : Value}
    {vs : List Value} (hslot : slotField field = false)
    (hfields : field.bind Field.itemFields? = some fields) (hitems : v.items? = some vs) :
    nestedRows field v = .array (vs.filter isNodeShaped) :: rowsInItems fields vs ∧
      nestedNodes field v = nestedInItems fields vs := by
  constructor
  · rw [nestedRows_of_items hitems, hslot, if_neg Bool.false_ne_true, hfields]
  · cases v with
    | list | tuple =>
      cases hitems
      rw [nestedNodes, hslot, if_neg Bool.false_ne_true, hfields]
    | null | bool | int | float | str | map | foreign | markup => cases hitems

/-- The nodes of an array are a row, before the rows inside the other items. -/
theorem valueKeyed_array {field : Option Field} {fields : Entries Field} {v : Value}
    {vs : List Value} {ms : List Markup} (hslot : slotField field = false)
    (hfields : field.bind Field.itemFields? = some fields) (hitems : v.items? = some vs)
    (h : ItemsKeyed table settings fields vs ms) :
    ValueKeyed table settings field v (some (.array ms)) := by
  refine ⟨fun x hx => ?_, fun hdata hv => ?_⟩
  · rw [hx] at hitems
    cases hitems
  · obtain ⟨hnestedRows, hnestedNodes⟩ := nested_of_items hslot hfields hitems
    have hvs := Value.IsData.handedDown.items? hdata hitems
    rw [hnestedNodes] at hv
    obtain ⟨row, rows, hrow, hrows, hms⟩ := h hvs hv
    refine ⟨asRow row ++ rows, hnestedRows ▸ .cons hrow hrows, ?_⟩
    rw [Option.toList_some, Markup.groupedAll_singleton, Markup.grouped_array, hms,
      Grouped.mapRows_append, Grouped.mapRows_asRow]
    rfl

theorem valueKeyed_object {field : Option Field} {fields : Entries Field} {es : Entries Value}
    {os : List (String × Markup)} (hslot : slotField field = false)
    (hfields : field.bind Field.entryFields? = some fields)
    (h : EntriesKeyed table settings fields es os) :
    ValueKeyed table settings field (.map es) (some (.object os)) := by
  refine ⟨fun x hx => ?_, fun hdata hv => ?_⟩
  · cases hx
  · rw [nestedNodes, hslot, if_neg Bool.false_ne_true, hfields] at hv
    rw [nestedRows_map, hslot, if_neg Bool.false_ne_true, hfields]
    obtain ⟨rows, hrows, hos⟩ := h (Value.IsData.handedDown.values hdata) hv
    refine ⟨rows, hrows, ?_⟩
    rw [Option.toList_some, Markup.groupedAll_singleton, Markup.grouped_object, hos]
    rfl

section

variable {fields : Entries Field} {vs : List Value} {ms : List Markup}

/-- One more node of an array is one more element of its row. -/
theorem ItemsKeyed.consNode {v : Value} {m : Option Markup} (hshape : isNodeShaped v = true)
    (hnode : NodeKeyed table settings true v m) (h : ItemsKeyed table settings fields vs ms) :
    ItemsKeyed table settings fields (v :: vs) (m.toList ++ ms) := by
  intro hvs hbelow
  rw [List.forall_mem_cons] at hvs
  obtain ⟨es, rfl⟩ := exists_map_of_isNodeShaped hshape
  rw [nestedInItems, if_pos hshape, List.singleton_append, List.forall_mem_cons] at hbelow
  obtain ⟨gs, hgs, hm⟩ := hnode hbelow.1
  obtain ⟨row, rows, hrow, hrows, hms⟩ := h hvs.2 hbelow.2
  refine ⟨gs ++ row, rows, ?_, ?_, ?_⟩
  · rw [List.filter_cons_of_pos hshape]
    exact .cons hgs hrow
  · rw [rowsInItems_map_cons, if_pos hshape, List.nil_append]
    exact hrows
  · rw [Markup.groupedAll_append, hm, hms, Grouped.mapRow_append]
    rfl

theorem ItemsKeyed.consMap {es : Entries Value} {os : List (String × Markup)}
    (hshape : isNodeShaped (.map es) = false) (hentries : EntriesKeyed table settings fields es os)
    (h : ItemsKeyed table settings fields vs ms) :
    ItemsKeyed table settings fields (.map es :: vs) (.object os :: ms) := by
  intro hvs hbelow
  rw [List.forall_mem_cons] at hvs
  rw [nestedInItems, hshape, if_neg Bool.false_ne_true, List.forall_mem_append] at hbelow
  obtain ⟨rows, hrows, hos⟩ := hentries (Value.IsData.handedDown.values hvs.1) hbelow.1
  obtain ⟨row, rows', hrow, hrows', hms⟩ := h hvs.2 hbelow.2
  refine ⟨row, rows ++ rows', ?_, ?_, ?_⟩
  · rw [List.filter_cons_of_neg (Bool.eq_false_iff.mp hshape)]
    exact hrow
  · rw [rowsInItems_map_cons, hshape, if_neg Bool.false_ne_true]
    exact hrows.append hrows'
  · rw [Markup.groupedAll_cons, Markup.grouped_object, hos, hms, Grouped.mapRows_append]
    rfl

theorem ItemsKeyed.consOther {v : Value} (hother : v.entries? = none)
    (h : ItemsKeyed table settings fields vs ms) :
    ItemsKeyed table settings fields (v :: vs) (v.asLiteral :: ms) := by
  intro hvs hbelow
  rw [List.forall_mem_cons] at hvs
  have hmap : ∀ es, v ≠ .map es := fun es heq => by
    rw [heq] at hother
    cases hother
  have hshape : ¬ isNodeShaped v = true := fun hshape => by
    obtain ⟨es, hes⟩ := exists_map_of_isNodeShaped hshape
    exact hmap es hes
  rw [nestedInItems_cons_of_ne hmap] at hbelow
  obtain ⟨row, rows, hrow, hrows, hms⟩ := h hvs.2 hbelow
  refine ⟨row, rows, ?_, ?_, ?_⟩
  · rw [List.filter_cons_of_neg hshape]
    exact hrow
  · rw [rowsInItems_cons_of_ne hmap]
    exact hrows
  · rw [Markup.groupedAll_cons, grouped_asLiteral hvs.1, hms]
    rfl

theorem EntriesKeyed.cons {k v : Value} {es : Entries Value} {m : Option Markup}
    {os : List (String × Markup)} (hvalue : ValueKeyed table settings (fields.find? k) v m)
    (h : EntriesKeyed table settings fields es os) :
    EntriesKeyed table settings fields ((k, v) :: es)
      ((m.map fun m => (k.text, m)).toList ++ os) := by
  intro hes hbelow
  rw [List.forall_mem_cons] at hes
  rw [nestedInEntries, List.forall_mem_append] at hbelow
  obtain ⟨rows, hrows, hm⟩ := hvalue.2 hes.1 hbelow.1
  obtain ⟨rows', hrows', hos⟩ := h hes.2 hbelow.2
  refine ⟨rows ++ rows', ?_, ?_⟩
  · exact hrows.append hrows'
  · rw [Markup.entryRows_append, hos, Grouped.mapRows_append, ← hm]
    cases m with
    | none => rfl
    | some m =>
      rw [Option.toList_some, Markup.groupedAll_singleton]
      exact congrArg (· ++ _) (List.append_nil _)

end

/-- **Each way of writing a value keeps the rows of elements.** -/
theorem describes_keyed (table : ComponentTable) (settings : Settings) :
    Describes (NodeKeyed table settings) (ValueKeyed table settings) (ItemsKeyed table settings)
      (EntriesKeyed table settings) where
  markup field m := by
    refine ⟨fun x hx => congrArg some (Value.markup.inj hx), fun hdata => ?_⟩
    cases hdata
  null field := by
    refine ⟨fun x hx => ?_, fun _ _ => ⟨[], .nil, rfl⟩⟩
    cases hx
  slot hslot hplain h := valueKeyed_slot hslot hplain h
  literal hslot hitems hentries := valueKeyed_literal hslot hitems hentries
  array hslot hfields hitems h := valueKeyed_array hslot hfields hitems h
  object hslot hfields h := valueKeyed_object hslot hfields h
  nil fields _ _ := ⟨[], [], .nil _, .nil, rfl⟩
  consNode hshape hnode h := h.consNode hshape hnode
  consMap hshape hentries h := h.consMap hshape hentries
  consOther hother h := h.consOther hother
  entriesNil fields _ _ := ⟨[], .nil, rfl⟩
  entriesCons hvalue h := h.cons hvalue

/-! ### Attributes and content -/

/-- What an entry adds to an element has the rows of some nodes, and is one piece at most unless it
is the content. -/
def EntryKeyed (table : ComponentTable) (settings : Settings) (rs : List Row)
    (p : Value × List Markup) : Prop :=
  (∃ rows, RowsGrouped table settings rs rows ∧
    rowsOf (groupedAll p.2) = mapRows Placed.keyed rows) ∧
    (p.1.same childrenName = false → p.2.length ≤ 1)

section

variable {c : Component} {stripped : List Value} {props : Entries Value}
  {slots : Entries (Option Markup)}

theorem entryKeyed_plain {name v : Value} {p : Value × List Markup} (hdata : v.IsData)
    (hbelow : ∀ w ∈ nestedNodes (c.field? name) v, IdentifiedBelow table settings w)
    (h : EntryMarkup (ValueKeyed table settings) c (name, ⟨v, some name⟩) p) :
    p.1 = name ∧ EntryKeyed table settings (nestedRows (c.field? name) v) p := by
  cases h with
  | @text _ s _ hname =>
    refine ⟨rfl, ⟨[], .nil, ?_⟩, fun hfalse => absurd hname (Bool.eq_false_iff.mp hfalse)⟩
    dsimp only
    split <;> rfl
  | @value _ _ m h =>
    refine ⟨rfl, h.2 hdata hbelow, fun _ => ?_⟩
    cases m <;> simp

theorem entryKeyed_slot {name v : Value} {m : Option Markup} {p : Value × List Markup}
    (hbelow : ∀ w ∈ v.items?.getD [], IdentifiedBelow table settings w)
    (hslot : SlotMarkup (NodeKeyed table settings) v m)
    (h : EntryMarkup (ValueKeyed table settings) c
      (name, ⟨(m.map Value.markup).getD .null, some name⟩) p) :
    p.1 = name ∧ EntryKeyed table settings (slotRows v) p := by
  obtain ⟨rows, hrows, hm⟩ := keyed_of_slot hslot hbelow
  generalize hvalue : (m.map Value.markup).getD .null = value at h
  cases h with
  | text => cases m <;> cases hvalue
  | @value _ _ written h =>
    refine ⟨rfl, ⟨rows, hrows, hm ▸ ?_⟩, fun _ => by cases written <;> simp⟩
    cases m with
    | some m => rw [h.1 m hvalue.symm]
    | none =>
      subst hvalue
      obtain ⟨none', hnone, hwritten⟩ := h.2 .null (fun _ hw => nomatch hw)
      cases hnone
      exact hwritten

theorem attributeRows_map {ms : List Markup} (name : Value) (h : ms.length ≤ 1) :
    Markup.attributeRows (ms.map fun m => (name, m)) = rowsOf (groupedAll ms) := by
  match ms, h with
  | [], _ => rfl
  | [m], _ =>
    rw [Markup.groupedAll_singleton]
    exact List.append_nil _

/-- The attributes and the content of an element have the rows of the nodes below its node. -/
structure PartsKeyed (table : ComponentTable) (settings : Settings) (c : Component)
    (stripped : List Value) (props : Entries Value) (parts : Entries (List Markup)) : Prop where
  attributes : ∃ rows, RowsGrouped table settings
    ((props.filter fun e => !e.1.same childrenName).flatMap (entryRows c stripped)) rows ∧
      Markup.attributeRows (attributesOf parts) = mapRows Placed.keyed rows
  content : ∃ rows, RowsGrouped table settings
    ((props.filter fun e => e.1.same childrenName).flatMap (entryRows c stripped)) rows ∧
      rowsOf (groupedAll (contentOf parts)) = mapRows Placed.keyed rows

theorem PartsKeyed.cons {e : Value × Value} {parts : Entries (List Markup)}
    (h : PartsKeyed table settings c stripped props parts) {p : Value × List Markup}
    (hname : p.1 = e.1) (hp : EntryKeyed table settings (entryRows c stripped e) p)
    (hfirst : ∀ f ∈ props, e.1.isStr = true → e.1 ≠ f.1) :
    PartsKeyed table settings c stripped (e :: props) (p :: parts) := by
  obtain ⟨⟨rows, hrows, hpieces⟩, hlength⟩ := hp
  obtain ⟨outer, houter, hattributes⟩ := h.attributes
  cases hsame : e.1.same childrenName with
  | true =>
    -- no other property has the name of the content
    have hnone : (props.filter fun f => f.1.same childrenName) = [] := by
      refine List.filter_eq_nil_iff.mpr fun f hf hother => ?_
      have hchildren := Value.same_str_iff.mp hsame
      refine hfirst f hf (hchildren ▸ rfl) ?_
      rw [hchildren, Value.same_str_iff.mp hother]
    refine ⟨⟨outer, ?_, ?_⟩, rows, ?_, ?_⟩
    · rw [List.filter_cons_of_neg (by simp [hsame])]
      exact houter
    · rw [attributesOf_cons, hname, hsame]
      exact hattributes
    · rw [List.filter_cons_of_pos (by exact hsame), hnone, List.flatMap_singleton]
      exact hrows
    · rw [contentOf_cons, hname, hsame]
      exact hpieces
  | false =>
    obtain ⟨inner, hinner, hcontent⟩ := h.content
    rw [hname] at hlength
    refine ⟨⟨rows ++ outer, ?_, ?_⟩, inner, ?_, ?_⟩
    · rw [List.filter_cons_of_pos (by simp [hsame]), List.flatMap_cons]
      exact hrows.append houter
    · rw [attributesOf_cons, hname, hsame, if_neg Bool.false_ne_true, Markup.attributeRows_append,
        attributeRows_map _ (hlength hsame), hpieces, hattributes, Grouped.mapRows_append]
    · rw [List.filter_cons_of_neg (by simp [hsame])]
      exact hinner
    · rw [contentOf_cons, hname, hsame]
      exact hcontent

theorem PartsKeyed.cons_of_dropped {e : Value × Value} {parts : Entries (List Markup)}
    (h : PartsKeyed table settings c stripped props parts) (hnone : entryRows c stripped e = []) :
    PartsKeyed table settings c stripped (e :: props) parts where
  attributes := by
    obtain ⟨rows, hrows, hattributes⟩ := h.attributes
    refine ⟨rows, ?_, hattributes⟩
    rw [List.filter_cons]
    split
    · rw [List.flatMap_cons, hnone]
      exact hrows
    · exact hrows
  content := by
    obtain ⟨rows, hrows, hcontent⟩ := h.content
    refine ⟨rows, ?_, hcontent⟩
    rw [List.filter_cons]
    split
    · rw [List.flatMap_cons, hnone]
      exact hrows
    · exact hrows

/-- The parts of an element without a hook have the rows of the nodes below its node, if the markup
of its slots has. -/
theorem partsKeyed_unhookedProps (hdata : ∀ e ∈ props, e.2.IsData) (hdistinct : props.DistinctTexts)
    (hnames : slots.keys = c.slotNames)
    (hslots : ∀ e ∈ props, ∀ m, slots.find? e.1 = some m →
      SlotMarkup (NodeKeyed table settings) e.2 m)
    (hbelow : ∀ e ∈ props, ∀ w ∈ entryNodes c stripped e, IdentifiedBelow table settings w)
    {parts : Entries (List Markup)}
    (hparts : List.Forall₂ (EntryMarkup (ValueKeyed table settings) c)
      (unhookedProps stripped props slots) parts) :
    PartsKeyed table settings c stripped props parts := by
  induction props generalizing parts with
  | nil =>
    cases hparts
    exact ⟨⟨[], .nil, rfl⟩, [], .nil, rfl⟩
  | cons e es ih =>
    rw [List.forall_mem_cons] at hdata hslots hbelow
    obtain ⟨hfirst, hrest⟩ := List.pairwise_cons.mp hdistinct
    have ih := @ih hdata.2 hrest hslots.2 hbelow.2
    have hslot := Entries.isSome_find?_eq_nameIn slots e.1
    have hnodes := hbelow.1
    unfold entryNodes at hnodes
    rw [hnames] at hslot
    rw [unhookedProps_cons] at hparts
    split at hparts
    · rename_i m hfind
      replace hslot : nameIn e.1 c.slotNames = true := by rw [← hslot, hfind, Option.isSome_some]
      rw [if_pos hslot] at hnodes
      obtain ⟨p, parts, hp, hes, rfl⟩ := List.forall₂_cons_left_iff.mp hparts
      obtain ⟨hname, hkeyed⟩ := entryKeyed_slot hnodes (hslots.1 m hfind) hp
      refine (ih hes).cons hname ?_ hfirst
      rw [entryRows, if_pos hslot]
      exact hkeyed
    · rename_i hfind
      have hnone : ¬ nameIn e.1 c.slotNames = true := by
        rw [← hslot, hfind, Option.isSome_none]
        exact Bool.false_ne_true
      rw [if_neg hnone] at hnodes
      split at hparts
      · rename_i hstripped
        refine (ih hparts).cons_of_dropped ?_
        rw [entryRows, if_neg hnone, if_pos hstripped]
      · rename_i hstripped
        rw [if_neg hstripped] at hnodes
        obtain ⟨p, parts, hp, hes, rfl⟩ := List.forall₂_cons_left_iff.mp hparts
        obtain ⟨hname, hkeyed⟩ := entryKeyed_plain hdata.1 hnodes hp
        refine (ih hes).cons hname ?_ hfirst
        rw [entryRows, if_neg hnone, if_neg hstripped]
        exact hkeyed

end

theorem keysOf_eq_nil {attributes : List (Value × Markup)}
    (h : ∀ a ∈ attributes, ¬ a.1.same keyName = true) (k : Nat) :
    (attributes.zipIdx k).filterMap
      (fun a => if a.1.1.same keyName then some (a.2, a.1.2) else none) = [] := by
  refine List.filterMap_eq_nil_iff.mpr fun a ha => if_neg (h a.1 ?_)
  exact List.fst_mem_of_mem_zipIdx ha

theorem keysOf_withListKey {attributes attributes' : List (Value × Markup)}
    (h : ∀ a ∈ attributes, ¬ a.1.same keyName = true) {s : String} (hs : s ≠ "")
    (hadded : withListKey attributes (.str s) = .ok attributes') :
    keysOf attributes' = [(0, .literal (.str s))] ∧
      Markup.attributeRows attributes' = Markup.attributeRows attributes := by
  have hempty : (Value.str s).same (.str "") = false :=
    Bool.eq_false_iff.mpr fun hsame => hs (Value.str.inj (Value.same_str_iff.mp hsame))
  have hany : (attributes.any fun a => a.1.same keyName) = false :=
    List.any_eq_false.mpr h
  rw [withListKey, hempty, hany] at hadded
  obtain rfl : (keyName, .literal (.str s)) :: attributes = attributes' := Except.ok.inj hadded
  refine ⟨?_, rfl⟩
  rw [keysOf, List.zipIdx_cons]
  exact congrArg ((0, Markup.literal (.str s)) :: ·) (keysOf_eq_nil h 1)

theorem slotMarkup_of_find? {node : Bool → Value → Option Markup → Prop} {c : Component}
    (hfields : c.fields.HasTextKeys) {props : Entries Value} (hdistinct : props.DistinctTexts)
    {slots : Entries (Option Markup)} (hnames : slots.keys = c.slotNames)
    (hslots : ∀ e ∈ slots, SlotMarkup node ((props.find? e.1).getD .null) e.2)
    {e : Value × Value} (he : e ∈ props) {m : Option Markup} (hfind : slots.find? e.1 = some m) :
    SlotMarkup node e.2 m := by
  obtain ⟨f, hf, rfl⟩ := Option.map_eq_some_iff.mp hfind
  have hmem := List.mem_of_find?_eq_some hf
  have hsame := List.find?_some hf
  obtain ⟨s, hs⟩ := Value.isStr_iff.mp
    (Component.isStr_slotNames hfields f.1 (hnames ▸ Entries.mem_keys_of_mem hmem))
  rw [hs] at hsame
  have hname : (.str s, e.2) ∈ props := Value.str_same_iff.mp hsame ▸ he
  have hslot := hslots f hmem
  rw [hs, hdistinct.find?_eq hname, Option.getD_some] at hslot
  exact hslot

/-- The element of a node that is identified has the rows of the nodes below it, and the id of the
node as its key if it is a list item. -/
theorem grouped_of_parts {c : Component} {stripped : List Value} {props : Entries Value}
    (hkeys : settings.listKeys.truthy = true) {v : Value} (hprops : ownProps v = .ok props)
    {s : String} (hid : props.find? idName = some (.str s)) (hs : s ≠ "")
    {parts : Entries (List Markup)} (hnames : ∀ name ∈ parts.keys, ¬ name.same keyName = true)
    (hparts : PartsKeyed table settings c stripped props parts) {listItem : Bool}
    {attributes : List (Value × Markup)}
    (hitem : itemAttributes settings listItem (attributesOf parts) (idOf props) = .ok attributes)
    (tag : Value) :
    ∃ rows, RowsGrouped table settings (rowsBelow c stripped props) rows ∧
      (Markup.element tag attributes (contentOf parts)).grouped =
      ([(Grouped.element ⟨v, tag, listItem⟩ rows).map Placed.keyed], []) := by
  obtain ⟨outer, houter, hattributes⟩ := hparts.attributes
  obtain ⟨inner, hinner, hcontent⟩ := hparts.content
  refine ⟨outer ++ inner, houter.append hinner, ?_⟩
  have hnone : ∀ a ∈ attributesOf parts, ¬ a.1.same keyName = true := fun a ha =>
    hnames a.1 (mem_keys_of_mem_attributesOf ha)
  have hown : idOf props = .str s := by
    rw [idOf, hid, Option.getD_some]
  have hnode : nodeId v = s := by
    simp only [nodeId, hprops, hown, Value.str?, Option.getD_some]
  rw [itemAttributes, hkeys, hown, Bool.and_true] at hitem
  rw [Markup.grouped_element, Grouped.map, Placed.keyed, Grouped.mapRows_append, hcontent, hnode]
  cases listItem with
  | true =>
    obtain ⟨hkeyed, hrows⟩ := keysOf_withListKey hnone hs hitem
    rw [if_pos rfl, hkeyed, hrows, hattributes]
  | false =>
    obtain rfl : attributesOf parts = attributes := Except.ok.inj hitem
    rw [if_neg Bool.false_ne_true, hattributes, keysOf, keysOf_eq_nil hnone 0]

/-- The element of a node that is identified has its key, and the rows of the nodes below it. -/
theorem nodeGrouped_of_elementOf (hkeys : settings.listKeys.truthy = true) {c : Component}
    (hhook : c.hook = none) (hfields : c.fields.HasTextKeys) {type v : Value}
    (hc : nodeComponent? table v = some (type, c)) (hskip : c.skip = false)
    (hv : IdentifiedBelow table settings v) {listItem : Bool} {m : Markup}
    (h : ElementOf settings (NodeKeyed table settings) (ValueKeyed table settings) c type listItem v
      m) :
    ∃ gs, NodeGrouped table settings listItem v gs ∧ m.grouped = (mapRow Placed.keyed gs, []) := by
  obtain ⟨props, s, hprops, hid, hs, hkey⟩ := hv.2 0 v (.refl v) (not_isSkipped hc hskip)
  cases h with
  | @mk props' _ stripped slots written parts _ hprops' hstripped hnames hslots hmapped hparts
      hattributes =>
    cases hprops.symm.trans hprops'
    cases hmapped with
    | hooked hsome => cases hhook.symm.trans hsome
    | unhooked =>
      obtain ⟨hdistinct, hdata⟩ := hv.1.ownProps hprops
      have hbelow : ∀ e ∈ props, ∀ w ∈ entryNodes c stripped e, IdentifiedBelow table settings w :=
        fun e he w hw => hv.below ((hangsBelow_iff hc hskip hprops hstripped).mpr
          (mem_nodesBelow_iff.mpr ⟨e, he, hw⟩))
      have hkeyed := partsKeyed_unhookedProps hdata hdistinct hnames
        (fun e he m hfind => slotMarkup_of_find? hfields hdistinct hnames hslots he hfind)
        hbelow hparts
      have hfree : ∀ name ∈ parts.keys, ¬ name.same keyName = true := by
        intro name hname hsame
        rw [keys_of_entryMarkup hparts, Value.same_str_iff.mp hsame] at hname
        exact hkey ((sublist_keys_unhookedProps stripped props slots).mem hname)
      obtain ⟨rows, hrows, hgrouped⟩ := grouped_of_parts hkeys hprops hid hs hfree hkeyed
        hattributes (c.tag type)
      exact ⟨_, .element hc hskip hprops hstripped hrows, hgrouped⟩

/-- **A node has the element with its key**, if this is so one level deeper. -/
theorem nodeKeyed_of_nodeOf (hhook : ∀ e ∈ table, e.2.hook = none)
    (hfields : ∀ e ∈ table, e.2.fields.HasTextKeys) (hkeys : settings.listKeys.truthy = true)
    {listItem : Bool} {v : Value} {m : Option Markup}
    (h : NodeOf table settings (NodeKeyed table settings) (ValueKeyed table settings) listItem v
      m) :
    NodeKeyed table settings listItem v m := by
  intro hv
  cases h with
  | skipped hc hskip => exact ⟨[], .skipped hc hskip, rfl⟩
  | element hc hskip helement =>
    have hmem := (mem_of_nodeComponent? hc).2
    obtain ⟨gs, hgs, hgrouped⟩ := nodeGrouped_of_elementOf hkeys (hhook _ hmem) (hfields _ hmem) hc
      hskip hv helement
    refine ⟨gs, hgs, ?_⟩
    rw [Option.toList_some, Markup.groupedAll_singleton, hgrouped]

end PageMarkup
