import Mathlib.Data.List.Perm.Basic
import Mathlib.Tactic.Choose
import PageMarkup.Page.Tree
import PageMarkup.Proofs.Render.Components
import PageMarkup.Proofs.Render.Meeting
import PageMarkup.Proofs.Render.Needs
import PageMarkup.Proofs.Render.Parametric
import PageMarkup.Proofs.Schema.Reordering

/-!
# Rendering by a schema in another order

The order of fields is the order in which slots are rendered, and so it is the order of the requests
that their nodes make. Two runs by schemas that differ in their order are compared here: if one
comes to an end, so does the other, with a related result and the same requests in some order. Slots
are looked up by their names, so the markup of an element is the same for both.

Nothing is assumed of the content, which may hold markup and values that no document can hold.

## Main definitions

* `Render.Alike` : a step makes the requests of another one in some order, with a related result.

## Main results

* `Render.Alike.bind`, `Render.Alike.mapM_perm` : steps one after the other, and in another order.
* `serialize_alike`, `renderElement_alike` : values under fields, and elements.
* `renderRoot_alike` : the top-level nodes.
-/

namespace PageMarkup

namespace Render

variable {α β γ δ : Type}

/-- Two steps make the same requests, in some order and all for texts, and have related results,
unless the first one fails. -/
def Alike (P : α → β → Prop) (r : Render α) (r' : Render β) : Prop :=
  (∃ specs specs' a b, r.Meets specs (.ok a) ∧ r'.Meets specs' (.ok b) ∧ specs.Perm specs' ∧
    (∀ spec ∈ specs, spec.isTextual = true) ∧ P a b) ∨
  ∃ specs f, r.Meets specs (.error f)

namespace Alike

variable {P : α → β → Prop} {Q : γ → δ → Prop} {r : Render α} {r' : Render β}

theorem pure {a : α} {b : β} (h : P a b) : Alike P (Pure.pure a) (Pure.pure b) :=
  .inl ⟨[], [], a, b, .pure a, .pure b, .refl [], List.forall_mem_nil _, h⟩

theorem fail (f : Fault) (r' : Render β) : Alike P (Render.fail f) r' :=
  .inr ⟨[], f, .fail f⟩

theorem mono (h : Alike P r r') {P' : α → β → Prop} (himp : ∀ a b, P a b → P' a b) :
    Alike P' r r' := by
  rcases h with ⟨specs, specs', a, b, hr, hr', hperm, htext, hP⟩ | herror
  · exact .inl ⟨specs, specs', a, b, hr, hr', hperm, htext, himp a b hP⟩
  · exact .inr herror

theorem register {specs specs' : List ImportSpec} (hperm : specs.Perm specs')
    (htext : ∀ spec ∈ specs, spec.isTextual = true) :
    Alike (fun _ _ => True) (Render.register specs) (Render.register specs') :=
  .inl ⟨specs, specs', (), (), .register specs, .register specs', hperm, htext, trivial⟩

theorem ofMisuse {x : Except Misuse α} {y : Except Misuse β}
    (h : ∀ a, x = .ok a → ∃ b, y = .ok b ∧ P a b) :
    Alike P (Render.ofMisuse x) (Render.ofMisuse y) := by
  cases x with
  | error how => exact fail (.misuse how) _
  | ok a =>
    obtain ⟨b, rfl, hP⟩ := h a rfl
    exact pure hP

/-- Steps one after the other. -/
theorem bind (h : Alike P r r') {k : α → Render γ} {k' : β → Render δ}
    (h' : ∀ a b, P a b → Alike Q (k a) (k' b)) : Alike Q (r >>= k) (r' >>= k') := by
  rcases h with ⟨specs, specs', a, b, hr, hr', hperm, htext, hP⟩ | ⟨specs, f, hr⟩
  · rcases h' a b hP with ⟨more, more', c, d, hk, hk', hmore, hmoreText, hQ⟩ | ⟨more, f, hk⟩
    · exact .inl ⟨specs ++ more, specs' ++ more', c, d, hr.bind hk, hr'.bind hk',
        hperm.append hmore, List.forall_mem_append.mpr ⟨htext, hmoreText⟩, hQ⟩
    · exact .inr ⟨specs ++ more, f, hr.bind hk⟩
  · exact .inr ⟨specs, f, hr.bind_error k⟩

theorem map (h : Alike P r r') {g : α → γ} {g' : β → δ} (himp : ∀ a b, P a b → Q (g a) (g' b)) :
    Alike Q (g <$> r) (g' <$> r') := by
  rw [map_eq_pure_bind, map_eq_pure_bind]
  exact h.bind fun a b hab => pure (himp a b hab)

theorem isSequential : IsSequential fun _ => Alike Eq where
  ofMisuse r := by
    cases r with
    | ok a => exact .pure rfl
    | error how => exact .fail _ _
  bind h h' := h.bind fun a _ hab => hab ▸ h' a

end Alike

theorem Meets.mapM {f : γ → Render α} {xs : List γ} {specs : γ → List ImportSpec} {g : γ → α}
    (h : ∀ x ∈ xs, (f x).Meets (specs x) (.ok (g x))) :
    (xs.mapM f).Meets (xs.flatMap specs) (.ok (xs.map g)) := by
  induction xs with
  | nil => exact .pure []
  | cons x xs ih =>
    rw [List.forall_mem_cons] at h
    rw [List.mapM_cons, List.flatMap_cons, List.map_cons, ← List.append_nil (xs.flatMap specs)]
    exact h.1.bind ((ih h.2).bind (.pure _))

private theorem exists_mapM_error {f : γ → Render α} {xs : List γ}
    (h : ∀ x ∈ xs, (∃ specs a, (f x).Meets specs (.ok a)) ∨
      ∃ specs e, (f x).Meets specs (.error e))
    (herror : ∃ x ∈ xs, ∃ specs e, (f x).Meets specs (.error e)) :
    ∃ specs e, (xs.mapM f).Meets specs (.error e) := by
  induction xs with
  | nil =>
    obtain ⟨x, hx, -⟩ := herror
    cases hx
  | cons x xs ih =>
    rw [List.mapM_cons]
    rw [List.forall_mem_cons] at h
    by_cases hfirst : ∃ specs e, (f x).Meets specs (.error e)
    · obtain ⟨specs, e, hx⟩ := hfirst
      exact ⟨specs, e, hx.bind_error _⟩
    · obtain ⟨specs, a, hx⟩ := h.1.resolve_right hfirst
      obtain ⟨y, hy, hlater⟩ := herror
      have hrest : y ∈ xs := (List.mem_cons.mp hy).resolve_left fun heq => hfirst (heq ▸ hlater)
      obtain ⟨more, e, hmore⟩ := ih h.2 ⟨y, hrest, hlater⟩
      exact ⟨specs ++ more, e, hx.bind (hmore.bind_error _)⟩

/-- Steps for the members of a list in another order: they come to the same for each member. -/
theorem Alike.mapM_perm [Nonempty α] {f f' : γ → Render α} {post : γ → α → Prop} {xs ys : List γ}
    (hperm : xs.Perm ys) (h : ∀ x ∈ xs, Alike (fun a b => a = b ∧ post x a) (f x) (f' x)) :
    Alike (fun as bs => ∃ g : γ → α, (∀ x ∈ xs, post x (g x)) ∧ as = xs.map g ∧ bs = ys.map g)
      (xs.mapM f) (ys.mapM f') := by
  by_cases herror : ∃ x ∈ xs, ∃ specs e, (f x).Meets specs (.error e)
  · refine .inr (exists_mapM_error (fun x hx => ?_) herror)
    rcases h x hx with ⟨specs, -, a, -, hmeets, -⟩ | hfails
    · exact .inl ⟨specs, a, hmeets⟩
    · exact .inr hfails
  · have hgood : ∀ x ∈ xs, ∃ specs specs' a, (f x).Meets specs (.ok a) ∧
        (f' x).Meets specs' (.ok a) ∧ specs.Perm specs' ∧
          (∀ spec ∈ specs, spec.isTextual = true) ∧ post x a := by
      intro x hx
      rcases h x hx with ⟨specs, specs', a, _, hr, hr', hspecs, htext, rfl, hpost⟩ | hfails
      · exact ⟨specs, specs', a, hr, hr', hspecs, htext, hpost⟩
      · exact absurd ⟨x, hx, hfails⟩ herror
    choose! specs specs' g hr hr' hspecs htext hpost using hgood
    refine .inl ⟨_, _, _, _, .mapM hr, .mapM fun y hy => hr' y (hperm.mem_iff.mpr hy),
      hperm.flatMap hspecs, fun spec hspec => ?_, g, hpost, rfl, rfl⟩
    obtain ⟨y, hy, hspec⟩ := List.mem_flatMap.mp hspec
    exact htext y hy spec hspec

end Render

open Render (Alike)

variable {settings : Settings} {render render' : NodeRenderer} {depth depth' : Int}

/-! ### Values under fields -/

section

variable (hdeeper : ∀ v place, Alike Eq (render (depth + 1) v place) (render' (depth' + 1) v place))

include hdeeper

set_option linter.unusedSectionVars false

/-- A value under a field. -/
theorem serialize_alike (counted : Bool) {field field' : Option Field}
    (hfield : Option.Rel Field.Reordered field field') (v : Value) :
    Alike Eq (serialize render depth counted field v) (serialize render' depth' counted field' v) :=
  related_serialize Alike.isSequential Field.Reordered.isBisimulation counted hfield v fun w _ =>
    hdeeper w

/-! ### Elements -/

section

variable {c c' : Component} (hc : c.Reordered c')

include hc

theorem renderSlots_alike (counted : Bool) (props : Entries Value) :
    Alike (Entries.Reordered Eq) (renderSlots render depth counted c props)
      (renderSlots render' depth' counted c' props) := by
  have hslots : Entries.Reordered Field.Reordered
      (List.filter (fun e => e.2.isSlot) c.fields) (List.filter (fun e => e.2.isSlot) c'.fields) :=
    hc.fields.filter Field.Reordered.refl fun h => h.isSlot_eq
  have hslot : ∀ name ∈ c.slotNames,
      Alike (fun a b : Value × Option Markup => a = b ∧ a.1 = name)
        (do return (name, ← renderSlotValue render depth counted ((props.find? name).getD .null)))
        (do return (name,
          ← renderSlotValue render' depth' counted ((props.find? name).getD .null))) := by
    intro name _
    have hvalue : Alike Eq (renderSlotValue render depth counted ((props.find? name).getD .null))
        (renderSlotValue render' depth' counted ((props.find? name).getD .null)) :=
      related_renderSlotValue Alike.isSequential counted fun v _ => hdeeper v
    exact hvalue.bind fun _ _ heq => .pure ⟨heq ▸ rfl, rfl⟩
  have hnames : c.slotNames.Perm c'.slotNames := hslots.perm_keys
  refine (Alike.mapM_perm hnames hslot).mono ?_
  rintro _ _ ⟨g, hname, rfl, rfl⟩
  have hpairs : ∀ names : List Value, (∀ name ∈ names, name ∈ c.slotNames) →
      names.map g = names.map fun name => (name, (g name).2) := fun names hmem =>
    List.map_congr_left fun name hn => Prod.ext (hname name (hmem name hn)) rfl
  rw [hpairs _ fun _ hn => hn, hpairs _ fun _ hn => hnames.mem_iff.mpr hn]
  exact hslots.map_keys fun name => (g name).2

theorem assemble_alike (counted : Bool) (written : Entries Sourced) :
    Alike Eq (assemble render depth counted c written)
      (assemble render' depth' counted c' written) :=
  related_assemble Alike.isSequential counted fun _ _ counted =>
    serialize_alike hdeeper counted (hc.field? _) _

omit hdeeper in
private theorem strippedNames_perm {stripped : List Value}
    (h : strippedNames c settings = .ok stripped) :
    ∃ stripped', strippedNames c' settings = .ok stripped' ∧ stripped.Perm stripped' := by
  unfold strippedNames at h ⊢
  split at h
  next hhashable =>
    obtain rfl := Except.ok.inj h
    rw [hc.omitted.all_eq] at hhashable
    exact ⟨_, if_pos hhashable, (hc.omitted.append_left _).append_right _⟩
  next => cases h

omit hdeeper hc in
private theorem unhookedProps_eq_of_reordered {stripped stripped' : List Value}
    (hstripped : stripped.Perm stripped') {slots slots' : Entries (Option Markup)}
    (hslots : Entries.Reordered Eq slots slots') (props : Entries Value) :
    unhookedProps stripped props slots = unhookedProps stripped' props slots' := by
  have hfind : ∀ key, slots.find? key = slots'.find? key := by
    intro key
    generalize hfound : slots.find? key = m, hfound' : slots'.find? key = m'
    have hrel := hslots.find? (fun _ => rfl) (fun _ _ _ => Eq.trans) key
    rw [hfound, hfound'] at hrel
    cases hrel with
    | none => rfl
    | some heq => rw [heq]
  have hname : ∀ name, nameIn name stripped = nameIn name stripped' := fun _ => hstripped.any_eq
  simp only [unhookedProps, hfind, hname]

/-- The element of a node. -/
theorem renderElement_alike (hook : c.hook = none)
    (htext : ∀ spec ∈ c.imports, spec.isTextual = true) (type node : Value) (place : Place) :
    Alike Eq (renderElement settings render depth c type node place)
      (renderElement settings render' depth' c' type node place) := by
  have htag : c'.tag type = c.tag type := by rw [Component.tag, Component.tag, hc.outputName]
  have hook' : c'.hook = none := hc.hook.symm.trans hook
  simp only [renderElement, mapProps, hook, hook', htag]
  refine (Alike.ofMisuse fun props hprops => ⟨props, hprops, rfl⟩).bind ?_
  rintro props _ rfl
  refine (renderSlots_alike hdeeper hc place.counted props).bind fun slots slots' hslots => ?_
  refine (Alike.ofMisuse fun _ h => strippedNames_perm hc h).bind fun stripped stripped' hperm => ?_
  rw [pure_bind, pure_bind, unhookedProps_eq_of_reordered hperm hslots]
  refine (assemble_alike hdeeper hc place.counted _).bind ?_
  rintro assembled _ rfl
  have hbound : Alike (fun specs specs' : List ImportSpec =>
        specs.Perm specs' ∧ ∀ spec ∈ specs, spec.isTextual = true)
      (Render.ofMisuse (c.imports.mapM fun spec => spec.bind (c.tag type)))
      (Render.ofMisuse (c'.imports.mapM fun spec => spec.bind (c.tag type))) := by
    refine Alike.ofMisuse fun specs hspecs => ?_
    obtain ⟨specs', hspecs', hperm⟩ := exists_perm_of_mapM_eq_ok hc.imports hspecs
    refine ⟨specs', hspecs', hperm, fun spec hspec => ?_⟩
    obtain ⟨unbound, hunbound, hbind⟩ := mem_of_mapM_eq_ok hspecs spec hspec
    exact ImportSpec.isTextual_of_bind (htext unbound hunbound) hbind
  refine hbound.bind fun specs specs' hspecs => ?_
  refine (Alike.register hspecs.1 hspecs.2).bind fun _ _ _ => ?_
  exact Alike.isSequential.bind (Alike.isSequential.ofMisuse _) fun _ => .pure rfl

end

end

/-! ### Nodes -/

section

variable {table table' : ComponentTable}
  (htable : Entries.Reordered Component.Reordered table table')
  (hfree : ∀ e ∈ table, e.2.hook = none)
  (htext : ∀ e ∈ table, ∀ spec ∈ e.2.imports, spec.isTextual = true)

include htable hfree htext

theorem renderTyped_alike
    (hdeeper : ∀ v place, Alike Eq (render (depth + 1) v place) (render' (depth' + 1) v place))
    (node : Value) (place : Place) :
    Alike Eq (renderTyped table settings render depth node place)
      (renderTyped table' settings render' depth' node place) := by
  unfold renderTyped
  cases node.get? "type" with
  | none => exact .fail _ _
  | some type =>
    have hcomponent : Option.Rel Component.Reordered (table.component? type)
        (table'.component? type) := by
      unfold ComponentTable.component?
      split
      · exact htable.find? Component.Reordered.refl (fun _ _ _ h h' => h.trans h') type
      · exact .none
    dsimp only
    generalize hc : table.component? type = found, table'.component? type = found' at hcomponent ⊢
    cases hcomponent with
    | none => exact .fail _ _
    | @some c c' hreordered =>
      have hmem := (mem_of_component? hc).2
      dsimp only
      rw [← hreordered.skip]
      split
      · exact .pure rfl
      · have helement : Alike Eq (renderElement settings render depth c type node place)
            (renderElement settings render' depth' c' type node place) :=
          renderElement_alike hdeeper hreordered (hfree _ hmem) (htext _ hmem) type node place
        exact helement.map fun _ _ heq => heq ▸ rfl

theorem renderWithin_alike (levels : Nat) (depth : Int) (node : Value) (place : Place) :
    Alike Eq (renderWithin table settings levels depth node place)
      (renderWithin table' settings levels depth node place) := by
  induction levels generalizing depth node place with
  | zero => exact .fail _ _
  | succ n ih =>
    rw [renderWithin, renderWithin, renderNode, renderNode]
    refine Alike.isSequential.bind (Alike.isSequential.ofMisuse _) fun beyond => ?_
    split
    · exact .fail _ _
    · exact renderTyped_alike htable hfree htext (ih (depth + 1)) node place

/-- The top-level nodes. -/
theorem renderRoot_alike
    (hframework : settings.includeFrameworkImport.truthy = true →
      (frameworkSpec settings).isTextual = true) (nodes : List Value) :
    Alike Eq (renderRoot table settings nodes) (renderRoot table' settings nodes) := by
  have hrequest : Alike (fun _ _ => True) (requestFramework settings)
      (requestFramework settings) := by
    unfold requestFramework
    split
    · exact .register (.refl _) (List.forall_mem_singleton.mpr (hframework ‹_›))
    · exact .pure trivial
  have htop : Alike Eq (renderSiblings (renderer table settings 0) true nodes)
      (renderSiblings (renderer table' settings 0) true nodes) :=
    related_renderSiblings Alike.isSequential true fun node _ =>
      renderWithin_alike htable hfree htext _ 0 node
  exact hrequest.bind fun _ _ _ => htop.bind fun _ _ heq => .pure (heq ▸ rfl)

end

end PageMarkup
