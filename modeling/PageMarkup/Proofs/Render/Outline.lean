import PageMarkup.Proofs.Markup.Tags
import PageMarkup.Proofs.Render.Literals
import PageMarkup.Proofs.Render.Visiting

/-!
# Outlines

The outline of markup is what is left of it without its literals: its elements, each with the
elements in its attributes and its content. The outline of a document has one element for each
visited node that is not skipped, with the elements of the nodes below it; the node and its tag are
its label. A run without hooks writes markup of this outline, in which only the tags are left of the
labels.

## Main definitions

* `Outline`, `Markup.outline` : elements within elements, and those of a piece of markup.
* `NodeOutline`, `NodesOutline` : the outline of a node and of several nodes in order.
* `ShownAs` : a node that has an element, with its tag.
* `Written` : markup that shows visited nodes.

## Main results

* `NodesOutline.append` : outlines of nodes one after the other.
* `NodesOutline.mem_labels_iff` : the elements are those of the nodes that are reached.
* `written_asLiteral` : plain data that no field describes shows no nodes.
-/

namespace PageMarkup

/-- A labelled element with the elements inside it. -/
inductive Outline (α : Type) where
  | element (label : α) (inside : List (Outline α))

namespace Outline

variable {α β : Type}

mutual

/-- An element and those inside it with other labels. -/
def map (f : α → β) : Outline α → Outline β
  | .element label inside => .element (f label) (mapAll f inside)
termination_by structural o => o

/-- Elements with other labels. -/
def mapAll (f : α → β) : List (Outline α) → List (Outline β)
  | [] => []
  | o :: os => o.map f :: mapAll f os
termination_by structural os => os

end

mutual

/-- The labels of an element and of those inside it. -/
def labels : Outline α → List α
  | .element label inside => label :: labelsAll inside
termination_by structural o => o

/-- The labels of elements and of those inside them. -/
def labelsAll : List (Outline α) → List α
  | [] => []
  | o :: os => o.labels ++ labelsAll os
termination_by structural os => os

end

theorem mapAll_cons (f : α → β) (o : Outline α) (os : List (Outline α)) :
    mapAll f (o :: os) = o.map f :: mapAll f os :=
  rfl

theorem labelsAll_cons (o : Outline α) (os : List (Outline α)) :
    labelsAll (o :: os) = o.labels ++ labelsAll os :=
  rfl

theorem labelsAll_element (label : α) (inside : List (Outline α)) :
    labelsAll [.element label inside] = label :: labelsAll inside :=
  List.append_nil _

theorem mapAll_append (f : α → β) (os ps : List (Outline α)) :
    mapAll f (os ++ ps) = mapAll f os ++ mapAll f ps := by
  induction os with
  | nil => rfl
  | cons o os ih => rw [List.cons_append, mapAll_cons, mapAll_cons, ih, List.cons_append]

theorem labelsAll_append (os ps : List (Outline α)) :
    labelsAll (os ++ ps) = labelsAll os ++ labelsAll ps := by
  induction os with
  | nil => rfl
  | cons o os ih => rw [List.cons_append, labelsAll_cons, labelsAll_cons, ih, List.append_assoc]

end Outline

mutual

/-- The elements of a piece of markup in order, those of its attributes before those of its
content. -/
def Markup.outline : Markup → List (Outline Value)
  | .array items => Markup.outlineAll items
  | .object entries => Markup.outlineEntries entries
  | .element tag attributes children =>
    [.element tag (Markup.outlineAttributes attributes ++ Markup.outlineAll children)]
  | .fragment children => Markup.outlineAll children
  | _ => []
termination_by structural m => m

def Markup.outlineAll : List Markup → List (Outline Value)
  | [] => []
  | m :: ms => m.outline ++ Markup.outlineAll ms
termination_by structural ms => ms

/-- The elements in the entries of an object. -/
def Markup.outlineEntries : List (String × Markup) → List (Outline Value)
  | [] => []
  | (_, m) :: es => m.outline ++ Markup.outlineEntries es
termination_by structural es => es

/-- The elements in the values of attributes. -/
def Markup.outlineAttributes : List (Value × Markup) → List (Outline Value)
  | [] => []
  | (_, m) :: es => m.outline ++ Markup.outlineAttributes es
termination_by structural es => es

end

section

variable (table : ComponentTable) (settings : Settings)

mutual

/-- The outline of a node: nothing for a skipped one, and otherwise one element with the outlines of
the nodes directly below it, in the order in which its element shows them. -/
inductive NodeOutline : Value → List (Outline (Value × Value)) → Prop
  | skipped {node type : Value} {c : Component} (hc : nodeComponent? table node = some (type, c))
      (hskip : c.skip = true) : NodeOutline node []
  | element {node type : Value} {c : Component} {props : Entries Value} {stripped : List Value}
      {inside : List (Outline (Value × Value))}
      (hc : nodeComponent? table node = some (type, c)) (hskip : c.skip = false)
      (hprops : ownProps node = .ok props) (hstripped : strippedNames c settings = .ok stripped)
      (h : NodesOutline (nodesBelow c stripped props) inside) :
      NodeOutline node [.element (node, c.tag type) inside]

/-- The outline of several nodes, one after the other. -/
inductive NodesOutline : List Value → List (Outline (Value × Value)) → Prop
  | nil : NodesOutline [] []
  | cons {node : Value} {nodes : List Value} {os ps : List (Outline (Value × Value))}
      (h : NodeOutline node os) (h' : NodesOutline nodes ps) :
      NodesOutline (node :: nodes) (os ++ ps)

end

end

variable {table : ComponentTable} {settings : Settings}

/-! ### Outlines of nodes -/

theorem NodesOutline.single {v : Value} {os : List (Outline (Value × Value))}
    (h : NodeOutline table settings v os) : NodesOutline table settings [v] os := by
  simpa using NodesOutline.cons h .nil

/-- Outlines of nodes one after the other. -/
theorem NodesOutline.append {vs ws : List Value} {os ps : List (Outline (Value × Value))}
    (h : NodesOutline table settings vs os) (h' : NodesOutline table settings ws ps) :
    NodesOutline table settings (vs ++ ws) (os ++ ps) := by
  induction vs generalizing os with
  | nil =>
    cases h
    exact h'
  | cons v vs ih =>
    cases h with
    | cons hv hvs =>
      rw [List.append_assoc]
      exact .cons hv (ih hvs)

/-- A node that is not skipped is shown as an element with its tag. -/
def ShownAs (table : ComponentTable) (node tag : Value) : Prop :=
  ∃ type c, nodeComponent? table node = some (type, c) ∧ c.skip = false ∧ c.tag type = tag

theorem shownAs_iff {node type tag : Value} {c : Component}
    (hc : nodeComponent? table node = some (type, c)) :
    ShownAs table node tag ↔ c.skip = false ∧ c.tag type = tag :=
  exists_nodeComponent_iff hc

mutual

theorem NodeOutline.mem_labels_iff {v : Value} {os : List (Outline (Value × Value))}
    (h : NodeOutline table settings v os) (w tag : Value) :
    (w, tag) ∈ Outline.labelsAll os ↔
      ∃ d x, Reaches table settings d v x ∧ x = w ∧ ShownAs table x tag := by
  rw [exists_reaches_iff]
  match h with
  | .skipped hc hskip =>
    have hbelow := not_hangsBelow_of_skip settings hc hskip
    simp [Outline.labelsAll, shownAs_iff hc, hskip, hbelow]
  | .element hc hskip hprops hstripped hbelow =>
    have hinside := hbelow.mem_labels_iff w tag
    simp only [Outline.labelsAll, Outline.labels, List.append_nil, List.mem_cons, Prod.mk.injEq,
      shownAs_iff hc, hskip, hangsBelow_iff hc hskip hprops hstripped, true_and, hinside]
    exact or_congr (and_congr eq_comm eq_comm) Iff.rfl

/-- The elements of several nodes are those of the nodes that are reached from them. -/
theorem NodesOutline.mem_labels_iff {vs : List Value} {os : List (Outline (Value × Value))}
    (h : NodesOutline table settings vs os) (w tag : Value) :
    (w, tag) ∈ Outline.labelsAll os ↔
      ∃ v ∈ vs, ∃ d x, Reaches table settings d v x ∧ x = w ∧ ShownAs table x tag := by
  match h with
  | .nil => simp [Outline.labelsAll]
  | .cons hv hvs =>
    rw [Outline.labelsAll_append, List.mem_append, hv.mem_labels_iff, hvs.mem_labels_iff,
      List.exists_mem_cons_iff]

end

/-! ### Markup of an outline -/

namespace Markup

theorem outlineAll_eq (ms : List Markup) : outlineAll ms = ms.flatMap outline := by
  induction ms with
  | nil => rfl
  | cons m ms ih => exact congrArg (m.outline ++ ·) ih

theorem outlineEntries_eq (es : List (String × Markup)) :
    outlineEntries es = (es.map Prod.snd).flatMap outline := by
  induction es with
  | nil => rfl
  | cons e es ih => exact congrArg (e.2.outline ++ ·) ih

theorem outlineAttributes_eq (es : List (Value × Markup)) :
    outlineAttributes es = (es.map Prod.snd).flatMap outline := by
  induction es with
  | nil => rfl
  | cons e es ih => exact congrArg (e.2.outline ++ ·) ih

theorem outline_array (ms : List Markup) : (array ms).outline = ms.flatMap outline :=
  outlineAll_eq ms

theorem outline_object (es : List (String × Markup)) :
    (object es).outline = (es.map Prod.snd).flatMap outline :=
  outlineEntries_eq es

theorem outline_element (tag : Value) (as : List (Value × Markup)) (ms : List Markup) :
    (element tag as ms).outline =
      [.element tag ((as.map Prod.snd ++ ms).flatMap outline)] := by
  rw [List.flatMap_append, ← outlineAttributes_eq, ← outlineAll_eq]
  rfl

theorem outline_fragment (ms : List Markup) : (fragment ms).outline = ms.flatMap outline :=
  outlineAll_eq ms

end Markup

/-- Markup shows nodes: its tags are texts, and it has the outline of the nodes, with tags alone as
labels. -/
structure Written (table : ComponentTable) (settings : Settings) (vs : List Value)
    (ms : List Markup) : Prop where
  textTags : ∀ m ∈ ms, m.hasTextTags = true
  outline : ∃ os, NodesOutline table settings vs os ∧
    ms.flatMap Markup.outline = Outline.mapAll Prod.snd os

namespace Written

variable {vs ws : List Value} {ms ns : List Markup}

theorem nil : Written table settings [] [] := ⟨by simp, [], .nil, rfl⟩

theorem append (h : Written table settings vs ms) (h' : Written table settings ws ns) :
    Written table settings (vs ++ ws) (ms ++ ns) where
  textTags := List.forall_mem_append.mpr ⟨h.textTags, h'.textTags⟩
  outline := by
    obtain ⟨os, hos, heq⟩ := h.outline
    obtain ⟨ps, hps, heq'⟩ := h'.outline
    refine ⟨os ++ ps, hos.append hps, ?_⟩
    rw [List.flatMap_append, Outline.mapAll_append, heq, heq']

theorem array (h : Written table settings vs ms) : Written table settings vs [.array ms] where
  textTags := List.forall_mem_singleton.mpr (Markup.allTextTags_iff.mpr h.textTags)
  outline := by
    rw [List.flatMap_singleton, Markup.outline_array]
    exact h.outline

theorem object {es : List (String × Markup)} (h : Written table settings vs (es.map Prod.snd)) :
    Written table settings vs [.object es] where
  textTags := List.forall_mem_singleton.mpr (Markup.entriesTextTags_iff.mpr h.textTags)
  outline := by
    rw [List.flatMap_singleton, Markup.outline_object]
    exact h.outline

theorem group (h : Written table settings vs ms) :
    Written table settings vs (Markup.group ms).toList := by
  match ms with
  | [] => exact h
  | [m] => exact h
  | m :: n :: ms =>
    refine ⟨List.forall_mem_singleton.mpr (Markup.allTextTags_iff.mpr h.textTags), ?_⟩
    change ∃ os, _ ∧ List.flatMap _ [Markup.fragment (m :: n :: ms)] = _
    rw [List.flatMap_singleton, Markup.outline_fragment]
    exact h.outline

end Written

/-! ### Literals -/

private theorem plain_itemLiterals {xs : List Value}
    (h : ∀ x ∈ xs, x.asLiteral.hasTextTags = true ∧ x.asLiteral.outline = []) :
    (Markup.array (Value.itemLiterals xs)).hasTextTags = true ∧
      (Markup.array (Value.itemLiterals xs)).outline = [] := by
  rw [itemLiterals_eq, Markup.outline_array]
  refine ⟨Markup.allTextTags_iff.mpr (List.forall_mem_map.mpr fun x hx => (h x hx).1), ?_⟩
  exact List.flatMap_eq_nil_iff.mpr (List.forall_mem_map.mpr fun x hx => (h x hx).2)

private theorem plain_entryLiterals {es : Entries Value}
    (h : ∀ e ∈ es, e.2.asLiteral.hasTextTags = true ∧ e.2.asLiteral.outline = []) :
    (Markup.object (Value.entryLiterals es)).hasTextTags = true ∧
      (Markup.object (Value.entryLiterals es)).outline = [] := by
  rw [Markup.outline_object]
  refine ⟨Markup.entriesTextTags_iff.mpr (List.forall_mem_map.mpr fun p hp => ?_),
    List.flatMap_eq_nil_iff.mpr (List.forall_mem_map.mpr fun p hp => ?_)⟩
  · obtain ⟨e, he, rfl⟩ := mem_entryLiterals hp
    exact (h e he).1
  · obtain ⟨e, he, rfl⟩ := mem_entryLiterals hp
    exact (h e he).2

/-- The literal of plain data has no elements. -/
theorem written_asLiteral {v : Value} (h : v.IsData) : Written table settings [] [v.asLiteral] := by
  have hplain : v.asLiteral.hasTextTags = true ∧ v.asLiteral.outline = [] := by
    induction h with
    | list _ ih => exact plain_itemLiterals ih
    | tuple _ ih => exact plain_itemLiterals ih
    | map _ _ _ _ ih => exact plain_entryLiterals ih
    | null => exact ⟨rfl, rfl⟩
    | bool => exact ⟨rfl, rfl⟩
    | int => exact ⟨rfl, rfl⟩
    | float => exact ⟨rfl, rfl⟩
    | str => exact ⟨rfl, rfl⟩
    | foreign => exact ⟨rfl, rfl⟩
  refine ⟨List.forall_mem_singleton.mpr hplain.1, [], .nil, ?_⟩
  rw [List.flatMap_singleton, hplain.2]
  rfl

end PageMarkup
