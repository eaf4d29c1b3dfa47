import PageMarkup.Proofs.Render.Parametric
import PageMarkup.Proofs.Render.Refinement
import PageMarkup.Render.Node

/-!
# What holds of a run because of its steps

Rendering a node calls the renderer one level deeper: for the nodes of a slot, for those among the
items of an array, and, through both, for what a hook makes up. All that stands
between two such calls is computed without it. So a relation between runs that fixed steps keep, and
that steps one after the other keep, holds of two renderings of a node once it holds of the calls in
them. For values under fields this is the induction over values that related renderers have in
general; here elements and nodes come on top of it, hooks included.

## Main definitions

* `RequestsOf` : the requests that the nodes of a type make.
* `Render.IsCongruence` : a relation between runs that their steps keep.

## Main results

* `serialize_congr`, `renderElement_congr` : values under fields, and elements.
* `renderTyped_congr`, `renderNode_congr` : nodes.
* `Render.isCongruence_eq`, `Render.Refines.isCongruence` : equality and refinement are such
  relations.
-/

namespace PageMarkup

/-- The requests that the nodes of some type make, bound to the tag of their component. -/
def RequestsOf (table : ComponentTable) (specs : List ImportSpec) : Prop :=
  ∃ type c, table.component? type = some c ∧
    (c.imports.mapM fun spec => spec.bind (c.tag type)) = .ok specs

namespace Render

/-- A relation between runs that the steps of a rendering keep: it holds of a fixed outcome and
itself, of some requests and of a note of what a hook has appended, and with the first of two steps
and what follows them it holds of the two together. -/
structure IsCongruence (requests : List ImportSpec → Prop)
    (R : (α : Type) → Render α → Render α → Prop) : Prop where
  ofExcept {α : Type} (result : Except Fault α) : R α (Render.ofExcept result) (.ofExcept result)
  register {specs : List ImportSpec} (h : requests specs) :
    R Unit (Render.register specs) (Render.register specs)
  noteAppended (items : List Value) :
    R Unit (Render.noteAppended items) (Render.noteAppended items)
  bind {α β : Type} {r r' : Render α} {k k' : α → Render β} (h : R α r r')
    (h' : ∀ a, R β (k a) (k' a)) : R β (r >>= k) (r' >>= k')

namespace IsCongruence

variable {requests : List ImportSpec → Prop} {R : (α : Type) → Render α → Render α → Prop}
  {α β : Type} (hR : IsCongruence requests R)

include hR

theorem pure (a : α) : R α (Pure.pure a) (Pure.pure a) :=
  hR.ofExcept (.ok a)

theorem fail (f : Fault) : R α (Render.fail f) (Render.fail f) :=
  hR.ofExcept (.error f)

theorem ofMisuse (r : Except Misuse α) : R α (Render.ofMisuse r) (Render.ofMisuse r) :=
  hR.ofExcept (liftMisuse r)

theorem isSequential : IsSequential R where
  ofMisuse := hR.ofMisuse
  bind := hR.bind

end IsCongruence

end Render

open Render (IsCongruence)

section

variable {table : ComponentTable} {settings : Settings} {requests : List ImportSpec → Prop}
  {R : (α : Type) → Render α → Render α → Prop} (hR : IsCongruence requests R)
  {render render' : NodeRenderer} {depth depth' : Int}
  (hdeeper : ∀ v place,
    R (Option Markup) (render (depth + 1) v place) (render' (depth' + 1) v place))

include hR hdeeper

set_option linter.unusedSectionVars false

/-! ### Values under fields -/

/-- A value under a field. -/
theorem serialize_congr (counted : Bool) (field : Option Field) (v : Value) :
    R (Option Markup) (serialize render depth counted field v)
      (serialize render' depth' counted field v) :=
  related_serialize hR.isSequential Field.IsBisimulation.eq counted
    (optionRel_refl (fun _ => rfl) field) v fun w _ => hdeeper w

/-! ### Nodes -/

theorem renderSlots_congr (counted : Bool) (c : Component) (props : Entries Value) :
    R (Entries (Option Markup)) (renderSlots render depth counted c props)
      (renderSlots render' depth' counted c props) :=
  related_renderSlots hR.isSequential counted fun _ _ v _ => hdeeper v

theorem assemble_congr (counted : Bool) (c : Component) (written : Entries Sourced) :
    R (List (Value × Markup) × List Markup) (assemble render depth counted c written)
      (assemble render' depth' counted c written) :=
  related_assemble hR.isSequential counted fun _ _ counted => serialize_congr hR hdeeper counted _ _

omit hdeeper in
theorem mapProps_congr (c : Component) (stripped : List Value) (counted : Bool)
    (props : Entries Value) (slots : Entries (Option Markup)) :
    R (Entries Sourced × Entries Value) (mapProps c stripped counted props slots)
      (mapProps c stripped counted props slots) := by
  unfold mapProps
  cases c.hook with
  | none => exact hR.pure _
  | some hook =>
    refine hR.bind (hR.ofExcept _) fun outcome => ?_
    have hrest : ∀ written : Entries Sourced, R (Entries Sourced × Entries Value)
        (pure (written, appendItems props outcome.appended))
        (pure (written, appendItems props outcome.appended)) := fun _ => hR.pure _
    split
    · exact hR.bind (hR.noteAppended _) fun _ => hR.bind (hR.ofMisuse _) hrest
    · exact hR.bind (hR.ofMisuse _) hrest

/-- The element of a node, if the requests of its component may be made. -/
theorem renderElement_congr {c : Component} {type : Value}
    (hrequests : ∀ specs, (c.imports.mapM fun spec => spec.bind (c.tag type)) = .ok specs →
      requests specs) (node : Value) (place : Place) :
    R Markup (renderElement settings render depth c type node place)
      (renderElement settings render' depth' c type node place) := by
  unfold renderElement
  refine hR.bind (hR.ofMisuse _) fun props => ?_
  refine hR.bind (renderSlots_congr hR hdeeper _ c props) fun slots => ?_
  refine hR.bind (hR.ofMisuse _) fun stripped => ?_
  refine hR.bind (mapProps_congr hR c stripped _ props slots) fun written => ?_
  refine hR.bind (assemble_congr hR hdeeper _ c written.1) fun assembled => ?_
  dsimp only
  cases hbound : c.imports.mapM fun spec => spec.bind (c.tag type) with
  | error how => exact hR.fail (.misuse how)
  | ok specs =>
    rw [Render.ofMisuse_ok, pure_bind]
    exact hR.bind (hR.register (hrequests specs hbound)) fun _ =>
      hR.bind (hR.ofMisuse _) fun _ => hR.pure _

/-- A node that is not too deep, if the requests of all components may be made. -/
theorem renderTyped_congr (hrequests : ∀ specs, RequestsOf table specs → requests specs)
    (node : Value) (place : Place) :
    R (Option Markup) (renderTyped table settings render depth node place)
      (renderTyped table settings render' depth' node place) := by
  unfold renderTyped
  cases node.get? "type" with
  | none => exact hR.fail _
  | some type =>
    dsimp only
    cases hc : table.component? type with
    | none => exact hR.fail _
    | some c =>
      dsimp only
      split
      · exact hR.pure none
      · have hbound := fun specs h => hrequests specs ⟨type, c, hc, h⟩
        exact hR.isSequential.map (renderElement_congr hR hdeeper hbound node place) some

/-- A node, if both depths lie within the maximum depth or neither does. -/
theorem renderNode_congr (hrequests : ∀ specs, RequestsOf table specs → requests specs)
    (hdepth : settings.isBeyond depth = settings.isBeyond depth') (node : Value) (place : Place) :
    R (Option Markup) (renderNode table settings render depth node place)
      (renderNode table settings render' depth' node place) := by
  unfold renderNode
  rw [hdepth]
  refine hR.bind (hR.ofMisuse _) fun beyond => ?_
  split
  · exact hR.fail _
  · exact renderTyped_congr hR hdeeper hrequests node place

end

/-! ### Equality and refinement -/

theorem Render.isCongruence_eq :
    IsCongruence (fun _ => True) fun α (r r' : Render α) => r = r' where
  ofExcept _ := rfl
  register _ := rfl
  noteAppended _ := rfl
  bind h h' := h ▸ congrArg _ (funext h')

/-- A run that refines another keeps doing so in whatever is put together from the two. -/
theorem Render.Refines.isCongruence :
    IsCongruence (fun _ => True) fun _ => Render.Refines Eq where
  ofExcept _ := .refl (fun _ => rfl) _
  register _ := .refl (fun _ => rfl) _
  noteAppended _ := .refl (fun _ => rfl) _
  bind h h' := h.bind fun a _ hab => hab ▸ h' a

end PageMarkup
