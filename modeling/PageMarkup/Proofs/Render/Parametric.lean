import PageMarkup.Proofs.Render.Visiting
import PageMarkup.Proofs.Schema.Bisimulation

/-!
# Values read by related renderers

A value under a field becomes markup step by step, and only the nodes inside it reach the renderer,
one level deeper. So two readings of a value are related as soon as the two renderers are related
there for these nodes, and the two fields read alike. This is one induction over values. It compares
runs by one schema, and runs by schemas that differ in their order; with a relation that looks at
the first run only, it shows something of that run.

## Main definitions

* `Render.IsSequential` : a relation between steps that sequencing keeps.
* `RelatedFor` : levels that are related for each of some entries.

## Main results

* `related_renderSlot`, `related_renderSlotValue` : slots.
* `related_serialize` : values under fields.
* `related_assemble` : the attributes and the content of an element.
-/

namespace PageMarkup

/-! ### Relations between steps -/

namespace Render

/-- A relation between steps that sequencing keeps: it holds of what is computed outside a run and
itself, and with the first of two steps and what follows them it holds of the two together. -/
structure IsSequential (R : (α : Type) → Render α → Render α → Prop) : Prop where
  ofMisuse {α : Type} (result : Except Misuse α) :
    R α (Render.ofMisuse result) (Render.ofMisuse result)
  bind {α β : Type} {r r' : Render α} {k k' : α → Render β} (h : R α r r')
    (h' : ∀ a, R β (k a) (k' a)) : R β (r >>= k) (r' >>= k')

namespace IsSequential

variable {R : (α : Type) → Render α → Render α → Prop} {α β : Type} (hR : IsSequential R)

include hR

theorem pure (a : α) : R α (Pure.pure a) (Pure.pure a) :=
  hR.ofMisuse (.ok a)

theorem map {r r' : Render α} (h : R α r r') (g : α → β) : R β (g <$> r) (g <$> r') := by
  rw [map_eq_pure_bind, map_eq_pure_bind]
  exact hR.bind h fun a => hR.pure (g a)

theorem mapM {γ : Type} {f f' : γ → Render α} {xs : List γ} (h : ∀ x ∈ xs, R α (f x) (f' x)) :
    R (List α) (xs.mapM f) (xs.mapM f') := by
  induction xs with
  | nil => exact hR.pure []
  | cons x xs ih =>
    rw [List.forall_mem_cons] at h
    rw [List.mapM_cons, List.mapM_cons]
    exact hR.bind h.1 fun a => hR.bind (ih h.2) fun as => hR.pure (a :: as)

end IsSequential

end Render

theorem Field.IsBisimulation.slotField_eq {F : Field → Field → Prop} (hF : IsBisimulation F)
    {field field' : Option Field} (h : Option.Rel F field field') :
    slotField field = slotField field' := by
  cases h with
  | none => rfl
  | some h => exact hF.isSlot_eq h

/-! ### Slots -/

/-- Two levels are related for each of some entries. -/
def RelatedFor (R : (α : Type) → Render α → Render α → Prop) (level level' : LevelRenderer)
    (vs : List Value) : Prop :=
  ∀ v ∈ vs, ∀ place, R (Option Markup) (level v place) (level' v place)

variable {R : (α : Type) → Render α → Render α → Prop}

theorem relatedFor_append_iff {level level' : LevelRenderer} {vs ws : List Value} :
    RelatedFor R level level' (vs ++ ws) ↔
      RelatedFor R level level' vs ∧ RelatedFor R level level' ws :=
  List.forall_mem_append

section

variable (hR : Render.IsSequential R)

include hR

set_option linter.unusedSectionVars false

theorem related_renderSiblings {level level' : LevelRenderer} (counted : Bool) {vs : List Value}
    (h : RelatedFor R level level' vs) :
    R (Option Markup) (renderSiblings level counted vs) (renderSiblings level' counted vs) :=
  hR.bind (hR.mapM fun v hv => h v hv _) fun _ => hR.pure _

variable {render render' : NodeRenderer} {depth depth' : Int}

theorem related_renderSlot (counted : Bool) {vs : List Value}
    (h : RelatedFor R (render (depth + 1)) (render' (depth' + 1)) vs) :
    R (Option Markup) (renderSlot render depth counted vs) (renderSlot render' depth' counted vs) :=
  related_renderSiblings hR counted h

/-- A value as a slot. -/
theorem related_renderSlotValue (counted : Bool) {v : Value}
    (h : RelatedFor R (render (depth + 1)) (render' (depth' + 1)) (v.items?.getD [])) :
    R (Option Markup) (renderSlotValue render depth counted v)
      (renderSlotValue render' depth' counted v) := by
  unfold renderSlotValue
  cases hitems : v.items? with
  | none => exact hR.pure none
  | some nodes =>
    rw [hitems] at h
    exact related_renderSlot hR counted h

theorem related_renderSlots (counted : Bool) {c : Component} {props : Entries Value}
    (h : ∀ name ∈ c.slotNames,
      RelatedFor R (render (depth + 1)) (render' (depth' + 1))
        (((props.find? name).getD .null).items?.getD [])) :
    R (Entries (Option Markup)) (renderSlots render depth counted c props)
      (renderSlots render' depth' counted c props) :=
  hR.mapM fun name hname => hR.bind (related_renderSlotValue hR counted (h name hname)) fun _ =>
    hR.pure _

/-! ### Values under fields -/

theorem related_serializeLiteral (v : Value) :
    R (Option Markup) (serializeLiteral v) (serializeLiteral v) :=
  hR.bind (hR.ofMisuse _) fun _ => hR.pure _

variable {F : Field → Field → Prop} (hF : Field.IsBisimulation F)

include hF

/-- A sequence: its entries if it is a slot, the items by their fields if these are declared, and no
entry otherwise. -/
private theorem related_sequence {counted : Bool} {field field' : Option Field}
    (hfield : Option.Rel F field field') {xs : List Value} (literal : Value)
    (hitems : ∀ fields fields', Entries.FindsAlike F fields fields' →
      RelatedFor R (render (depth + 1)) (render' (depth' + 1)) (nestedInItems fields xs) →
        R (List Markup) (serializeItems render depth counted fields xs)
          (serializeItems render' depth' counted fields' xs))
    (h : RelatedFor R (render (depth + 1)) (render' (depth' + 1)) (nestedNodes field (.list xs))) :
    R (Option Markup)
      (if slotField field then renderSlot render depth counted xs
      else match field.bind Field.itemFields? with
        | some fields => do return some (.array (← serializeItems render depth counted fields xs))
        | none => serializeLiteral literal)
      (if slotField field' then renderSlot render' depth' counted xs
      else match field'.bind Field.itemFields? with
        | some fields => do return some (.array (← serializeItems render' depth' counted fields xs))
        | none => serializeLiteral literal) := by
  rw [nestedNodes] at h
  rw [← hF.slotField_eq hfield]
  by_cases hslot : slotField field = true
  · rw [if_pos hslot] at h ⊢
    rw [if_pos hslot]
    exact related_renderSlot hR counted h
  · rw [if_neg hslot] at h ⊢
    rw [if_neg hslot]
    have hdeclared := optionRel_bind hfield fun _ _ => hF.itemFields?
    generalize field.bind Field.itemFields? = declared,
      field'.bind Field.itemFields? = declared' at h hdeclared ⊢
    cases hdeclared with
    | none => exact related_serializeLiteral hR literal
    | some hfields => exact hR.bind (hitems _ _ hfields h) fun _ => hR.pure _

mutual

/-- A value under a field: the two readings are related if the renderers are for all entries that
are reached inside it. -/
theorem related_serialize (counted : Bool) {field field' : Option Field}
    (hfield : Option.Rel F field field') (v : Value)
    (h : RelatedFor R (render (depth + 1)) (render' (depth' + 1)) (nestedNodes field v)) :
    R (Option Markup) (serialize render depth counted field v)
      (serialize render' depth' counted field' v) := by
  match v with
  | .list xs =>
    rw [serialize, serialize]
    exact related_sequence hR hF hfield _ (fun _ _ h => related_serializeItems counted h xs) h
  | .tuple xs =>
    rw [serialize, serialize]
    exact related_sequence hR hF hfield _ (fun _ _ h => related_serializeItems counted h xs) h
  | .map es =>
    rw [nestedNodes] at h
    rw [serialize, serialize, ← hF.slotField_eq hfield]
    by_cases hslot : slotField field = true
    · rw [if_pos hslot, if_pos hslot]
      exact hR.pure none
    · rw [if_neg hslot] at h ⊢
      rw [if_neg hslot]
      have hdeclared := optionRel_bind hfield fun _ _ => hF.entryFields?
      generalize field.bind Field.entryFields? = declared,
        field'.bind Field.entryFields? = declared' at h hdeclared ⊢
      cases hdeclared with
      | none => exact related_serializeLiteral hR _
      | some hfields => exact hR.bind (related_serializeEntries hfields es h) fun _ => hR.pure _
  | .null | .markup _ => exact hR.pure _
  | .bool _ | .int _ | .float _ | .str _ | .foreign _ _ =>
    have hslot := hF.slotField_eq hfield
    simp only [serialize, hslot]
    split
    · exact hR.pure none
    · exact related_serializeLiteral hR _

theorem related_serializeItems (counted : Bool) {fields fields' : Entries Field}
    (hfields : Entries.FindsAlike F fields fields') (xs : List Value)
    (h : RelatedFor R (render (depth + 1)) (render' (depth' + 1)) (nestedInItems fields xs)) :
    R (List Markup) (serializeItems render depth counted fields xs)
      (serializeItems render' depth' counted fields' xs) := by
  match xs with
  | [] => exact hR.pure []
  | .map es :: xs =>
    rw [nestedInItems, relatedFor_append_iff] at h
    have hrest := related_serializeItems counted hfields xs h.2
    rw [serializeItems, serializeItems]
    by_cases hshape : isNodeShaped (.map es) = true
    · rw [if_pos hshape] at h ⊢
      rw [if_pos hshape]
      have hnode := h.1 _ (List.mem_singleton_self _) ⟨true, counted⟩
      exact hR.bind hnode fun _ => hR.bind hrest fun _ => hR.pure _
    · rw [if_neg hshape] at h ⊢
      rw [if_neg hshape]
      have hentries := related_serializeEntries hfields es h.1
      exact hR.bind (hR.map (hR.map hentries _) _) fun _ => hR.bind hrest fun _ => hR.pure _
  | .markup _ :: xs =>
    exact hR.bind (related_serializeItems counted hfields xs h) fun _ => hR.pure _
  | .null :: xs | .bool _ :: xs | .int _ :: xs | .float _ :: xs | .str _ :: xs | .list _ :: xs
  | .tuple _ :: xs | .foreign _ _ :: xs =>
    exact hR.bind (hR.ofMisuse _) fun _ =>
      hR.bind (related_serializeItems counted hfields xs h) fun _ => hR.pure _

theorem related_serializeEntries {fields fields' : Entries Field}
    (hfields : Entries.FindsAlike F fields fields') (es : Entries Value)
    (h : RelatedFor R (render (depth + 1)) (render' (depth' + 1)) (nestedInEntries fields es)) :
    R (List (String × Markup)) (serializeEntries render depth fields es)
      (serializeEntries render' depth' fields' es) := by
  match es with
  | [] => exact hR.pure []
  | (k, v) :: es =>
    rw [nestedInEntries, relatedFor_append_iff] at h
    rw [serializeEntries, serializeEntries]
    exact hR.bind (related_serialize false (hfields k) v h.1) fun _ =>
      hR.bind (hR.ofMisuse _) fun _ =>
        hR.bind (related_serializeEntries hfields es h.2) fun _ => hR.pure _

end

/-! ### Elements -/

omit hF in
/-- The attributes and the content of an element, if each value that is written is read alike by the
fields of two components. -/
theorem related_assemble (counted : Bool) {c c' : Component} {written : Entries Sourced}
    (h : ∀ e ∈ written, ∀ counted, R (Option Markup)
      (serialize render depth counted (c.field? (e.2.source.getD e.1)) e.2.value)
      (serialize render' depth' counted (c'.field? (e.2.source.getD e.1)) e.2.value)) :
    R (List (Value × Markup) × List Markup) (assemble render depth counted c written)
      (assemble render' depth' counted c' written) := by
  induction written with
  | nil => exact hR.pure ([], [])
  | cons e written ih =>
    obtain ⟨name, item⟩ := e
    rw [List.forall_mem_cons] at h
    have hvalue := h.1 (counted && item.source.isSome)
    have hrest := ih h.2
    rw [assemble, assemble]
    by_cases hchildren : name.same childrenName = true
    · rw [if_pos hchildren, if_pos hchildren]
      refine hR.bind ?_ fun _ => hR.bind hrest fun _ => hR.pure _
      unfold renderChildren
      split
      · exact hR.pure _
      · exact hR.bind hvalue fun _ => hR.pure _
    · rw [if_neg hchildren, if_neg hchildren]
      exact hR.bind hvalue fun _ => hR.bind hrest fun _ => hR.pure _

end

end PageMarkup
