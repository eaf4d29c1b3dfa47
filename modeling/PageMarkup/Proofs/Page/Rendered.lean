import PageMarkup.Proofs.Page.Depth
import PageMarkup.Proofs.Render.Levels

/-!
# Rendered nodes

Hooks may make up nodes, so which nodes a run renders cannot be read off the content. It is said
here without opening the run: a node is rendered if no renderer that refuses this node comes to an
end. A run that renders a node and one that refuses it are the same up to the node; after it, the
one has left something in the import table that the other has not.

## Main definitions

* `rendererUnless` : a renderer that refuses nodes.
* `Rendered` : a node is rendered in a run.
* `Render.SameUnless` : two steps are the same, or the first leaves an import table of a kind.

## Main results

* `Render.SameUnless.isCongruence` : the steps of a rendering keep this.
* `sameUnless_renderRootUnless` : runs that refuse more or fewer nodes.
* `rendered_of_mem`, `Rendered.slot` : top-level nodes are rendered, and so are those in the slots
  of rendered nodes, whatever hooks do.
-/

namespace PageMarkup

open Render (IsCongruence)

/-! ### Renderers that refuse nodes -/

section

variable (table : ComponentTable) (settings : Settings) (refused : Value → Bool)

/-- The markup of a node within some levels, unless it is one of the refused ones. -/
def renderUnless : (levels : Nat) → NodeRenderer
  | 0 => fun _ _ _ => Render.fail (.content (.tooDeep settings.maxDepth))
  | n + 1 => fun depth node place =>
    if refused node then Render.fail (.content (.invalidNode node))
    else renderNode table settings (renderUnless n) depth node place

/-- The renderer that refuses some nodes at every level. -/
def rendererUnless : NodeRenderer := fun depth =>
  renderUnless table settings refused (settings.levels depth + 1) depth

/-- The markup of the top-level nodes by this renderer. -/
def renderRootUnless (nodes : List Value) : Render Markup :=
  renderRootBy (fun table call =>
    rendererUnless table settings refused call.depth call.node call.place) settings table nodes

end

theorem renderUnless_succ (table : ComponentTable) (settings : Settings)
    (refused : Value → Bool) (n : Nat) (depth : Int) (node : Value) (place : Place) :
    renderUnless table settings refused (n + 1) depth node place =
      if refused node then Render.fail (.content (.invalidNode node))
      else renderNode table settings (renderUnless table settings refused n) depth node place := rfl

/-- A node is rendered in a run for some top-level nodes: no renderer that refuses it comes to an
end with them. -/
def Rendered (table : ComponentTable) (settings : Settings) (nodes : List Value) (v : Value) :
    Prop :=
  ∀ refused : Value → Bool, refused v = true → ∀ root st,
    (renderRootUnless table settings refused nodes).outcome .initial ≠ (.ok root, st)

/-! ### Two runs that are the same up to a node -/

namespace Render

variable {α : Type} {K : ImportTable → Prop}

/-- Two steps are the same, or the first leaves an import table of a kind where it has a result.
From a table of this kind, it leaves one of this kind. -/
structure SameUnless (K : ImportTable → Prop) (r r' : Render α) : Prop where
  keeps : ∀ st a st', r.outcome st = (.ok a, st') → K st.imports → K st'.imports
  same : ∀ st, r.outcome st = r'.outcome st ∨
    ∀ a st', r.outcome st = (.ok a, st') → K st'.imports

namespace SameUnless

theorem refl {r : Render α}
    (h : ∀ st a st', r.outcome st = (.ok a, st') → K st.imports → K st'.imports) :
    r.SameUnless K r :=
  ⟨h, fun _ => .inl rfl⟩

theorem bind {β : Type} {r r' : Render α} {k k' : α → Render β} (h : r.SameUnless K r')
    (h' : ∀ a, (k a).SameUnless K (k' a)) : (r >>= k).SameUnless K (r' >>= k') := by
  constructor
  · intro st b st' hrun hst
    obtain ⟨a, mid, hr, hk⟩ := outcome_bind_ok hrun
    exact (h' a).keeps _ _ _ hk (h.keeps _ _ _ hr hst)
  · intro st
    rcases h.same st with heq | hleaves
    · cases hr : r.outcome st with
      | mk result mid =>
        cases result with
        | ok a =>
          rw [outcome_bind, outcome_bind, ← heq, hr]
          exact (h' a).same mid
        | error f =>
          rw [outcome_bind, outcome_bind, ← heq, hr]
          exact .inl rfl
    · refine .inr fun b st' hrun => ?_
      obtain ⟨a, mid, hr, hk⟩ := outcome_bind_ok hrun
      exact (h' a).keeps _ _ _ hk (hleaves _ _ hr)

/-- To be the same or to leave a table of a kind is kept by the steps of a rendering, if the kind is
kept by requests that are met. -/
theorem isCongruence (hK : ∀ t specs t', K t → t.registerAll specs = (.ok (), t') → K t') :
    IsCongruence (fun _ => True) fun _ r r' => r.SameUnless K r' where
  ofExcept result := refl fun st a st' h hst => by
    cases result with
    | ok b =>
      obtain ⟨-, rfl⟩ := Prod.mk.inj h
      exact hst
    | error f => cases h
  register {specs} _ := refl fun st a st' h hst => by
    rw [Meets.register specs st] at h
    split at h
    next t hmet =>
      obtain ⟨-, rfl⟩ := Prod.mk.inj h
      exact hK _ _ _ hst hmet
    next => cases h
  noteAppended items := refl fun st a st' h hst => by
    obtain ⟨-, rfl⟩ := Prod.mk.inj h
    exact hst
  bind h h' := h.bind h'

end SameUnless

end Render

section

variable {table : ComponentTable} {settings : Settings} {nodes : List Value} {v : Value}

private theorem sameUnless_renderRootBy {K : ImportTable → Prop}
    (hR : IsCongruence (fun _ => True) fun _ r r' => Render.SameUnless K r r')
    {answers answers' : ComponentTable → CallAnswers}
    (h : ∀ node place,
      (answers table ⟨0, node, place⟩).SameUnless K (answers' table ⟨0, node, place⟩)) :
    (renderRootBy answers settings table nodes).SameUnless K
      (renderRootBy answers' settings table nodes) := by
  have hrequest : (requestFramework settings).SameUnless K (requestFramework settings) := by
    unfold requestFramework
    split
    · exact hR.register trivial
    · exact hR.pure ()
  have htop := related_renderSiblings hR.isSequential true fun node (_ : node ∈ nodes) => h node
  exact hR.bind hrequest fun _ => hR.bind htop fun root => hR.pure (root.getD (.fragment []))

section

variable {refused refused' : Value → Bool} {K : ImportTable → Prop}
  (hK : ∀ t specs t', K t → t.registerAll specs = (.ok (), t') → K t')
  (hmore : ∀ w, refused w = true → refused' w = true)
  (hnew : ∀ w, refused' w = true → refused w = true ∨ ∀ n depth place st m st',
    (renderNode table settings (renderUnless table settings refused n) depth w place).outcome st =
      (.ok m, st') → K st'.imports)

include hK hmore hnew

private theorem sameUnless_renderUnless (levels : Nat) (depth : Int) (node : Value)
    (place : Place) : (renderUnless table settings refused levels depth node place).SameUnless K
      (renderUnless table settings refused' levels depth node place) := by
  have hR := Render.SameUnless.isCongruence hK
  induction levels generalizing depth node place with
  | zero => exact hR.fail _
  | succ n ih =>
    have hinside : (renderNode table settings (renderUnless table settings refused n) depth node
        place).SameUnless K
        (renderNode table settings (renderUnless table settings refused' n) depth node place) :=
      renderNode_congr hR (ih (depth + 1)) (fun _ _ => trivial) rfl node place
    rw [renderUnless_succ, renderUnless_succ]
    by_cases hrefused : refused node = true
    · rw [if_pos hrefused, if_pos (hmore node hrefused)]
      exact hR.fail _
    · rw [if_neg hrefused]
      split
      next hrefused' =>
        have hleaves := (hnew node hrefused').resolve_left hrefused
        exact ⟨hinside.keeps, fun st => .inr fun m st' => hleaves n depth place st m st'⟩
      next => exact hinside

/-- To refuse more nodes makes no difference up to the first of them, if a table of the kind is left
wherever one of them is rendered. -/
theorem sameUnless_renderRootUnless (nodes : List Value) :
    (renderRootUnless table settings refused nodes).SameUnless K
      (renderRootUnless table settings refused' nodes) := by
  rw [renderRootUnless, renderRootUnless]
  exact sameUnless_renderRootBy (Render.SameUnless.isCongruence hK)
    (sameUnless_renderUnless hK hmore hnew (settings.levels 0 + 1) 0)

end

private theorem renderUnless_none (levels : Nat) :
    renderUnless table settings (fun _ => false) levels = renderWithin table settings levels := by
  induction levels with
  | zero => rfl
  | succ n ih => rw [renderWithin, ← ih]; rfl

theorem renderRootUnless_none (nodes : List Value) :
    renderRootUnless table settings (fun _ => false) nodes = renderRoot table settings nodes := by
  have hrenderer : ∀ table,
      rendererUnless table settings (fun _ => false) = renderer table settings := fun table =>
    funext fun depth => congrFun (renderUnless_none _) depth
  simp only [renderRootUnless, hrenderer]
  rfl

private theorem outcome_renderTyped_ok {render : NodeRenderer} {depth : Int} {type : Value}
    {c : Component} (hc : nodeComponent? table v = some (type, c)) (hskip : c.skip = false)
    {place : Place} {st st' : RunState} {m : Option Markup}
    (h : (renderTyped table settings render depth v place).outcome st = (.ok m, st')) :
    ∃ x, (renderElement settings render depth c type v place).outcome st = (.ok x, st') := by
  rw [renderTyped_of_some hc, hskip, if_neg Bool.false_ne_true, map_eq_pure_bind] at h
  obtain ⟨x, mid, helement, h⟩ := Render.outcome_bind_ok h
  obtain ⟨-, rfl⟩ := Prod.mk.inj h
  exact ⟨x, helement⟩

theorem outcome_renderNode_ok {render : NodeRenderer} {depth : Int} {type : Value} {c : Component}
    (hc : nodeComponent? table v = some (type, c)) (hskip : c.skip = false) {place : Place}
    {st st' : RunState} {m : Option Markup}
    (h : (renderNode table settings render depth v place).outcome st = (.ok m, st')) :
    ∃ x, (renderElement settings render depth c type v place).outcome st = (.ok x, st') := by
  cases hdepth : settings.isBeyond depth with
  | error how =>
    rw [renderNode_of_error hdepth] at h
    cases h
  | ok beyond =>
    rw [renderNode_of_isBeyond hdepth] at h
    cases beyond with
    | true => cases h
    | false => exact outcome_renderTyped_ok hc hskip h

/-! ### Which nodes are rendered -/

namespace Render

variable {α β : Type}

theorem outcome_mapM_ok {f : α → Render β} {xs : List α} {st st' : RunState} {ys : List β}
    (h : (xs.mapM f).outcome st = (.ok ys, st')) :
    ∀ x ∈ xs, ∃ before y after, (f x).outcome before = (.ok y, after) := by
  induction xs generalizing st ys st' with
  | nil => exact fun x hx => nomatch hx
  | cons x xs ih =>
    rw [List.mapM_cons] at h
    obtain ⟨y, mid, hx, h⟩ := outcome_bind_ok h
    obtain ⟨zs, after, hrest, -⟩ := outcome_bind_ok h
    exact List.forall_mem_cons.mpr ⟨⟨_, _, _, hx⟩, ih hrest⟩

end Render

private theorem outcome_renderSiblings_ok {level : LevelRenderer} {counted : Bool}
    {st st' : RunState} {m : Option Markup}
    (h : (renderSiblings level counted nodes).outcome st = (.ok m, st')) (hv : v ∈ nodes) :
    ∃ place before m after, (level v place).outcome before = (.ok m, after) := by
  obtain ⟨ms, mid, hall, -⟩ := Render.outcome_bind_ok h
  obtain ⟨before, m, after, hnode⟩ := Render.outcome_mapM_ok hall v hv
  exact ⟨_, before, m, after, hnode⟩

private theorem renderUnless_ne {refused : Value → Bool} (hrefused : refused v = true)
    (levels : Nat) (depth : Int) (place : Place) (st : RunState) (m : Option Markup)
    (st' : RunState) :
    (renderUnless table settings refused levels depth v place).outcome st ≠ (.ok m, st') := by
  cases levels with
  | zero => exact fun h => nomatch h
  | succ n =>
    rw [renderUnless_succ, if_pos hrefused]
    exact fun h => nomatch h

/-- Top-level nodes are rendered. -/
theorem rendered_of_mem (hv : v ∈ nodes) : Rendered table settings nodes v := by
  intro refused hrefused root st hrun
  obtain ⟨_, mid, -, hrun⟩ := Render.outcome_bind_ok hrun
  obtain ⟨m, mid', htop, -⟩ := Render.outcome_bind_ok hrun
  obtain ⟨place, before, m, after, hnode⟩ := outcome_renderSiblings_ok htop hv
  exact renderUnless_ne hrefused _ 0 place before m after hnode

private theorem outcome_renderElement_ok {render : NodeRenderer} {depth : Int} {c : Component}
    {type outer name : Value} {place : Place} {props : Entries Value} {inside : List Value}
    (hprops : ownProps outer = .ok props) (hname : name ∈ c.slotNames)
    (hitems : ((props.find? name).getD .null).items? = some inside) (hv : v ∈ inside)
    {st st' : RunState} {m : Markup}
    (h : (renderElement settings render depth c type outer place).outcome st = (.ok m, st')) :
    ∃ place before m after, (render (depth + 1) v place).outcome before = (.ok m, after) := by
  rw [renderElement, hprops, Render.ofMisuse_ok, pure_bind] at h
  obtain ⟨slots, mid, hslots, -⟩ := Render.outcome_bind_ok h
  obtain ⟨before, m, after, hslot⟩ := Render.outcome_mapM_ok hslots name hname
  obtain ⟨m, mid, hslot, -⟩ := Render.outcome_bind_ok hslot
  rw [renderSlotValue, hitems] at hslot
  exact outcome_renderSiblings_ok hslot hv

/-- Nodes in the slots of a rendered node are rendered. -/
theorem Rendered.slot {outer type name : Value} {c : Component} {props : Entries Value}
    {inside : List Value} (h : Rendered table settings nodes outer)
    (hc : nodeComponent? table outer = some (type, c)) (hskip : c.skip = false)
    (hprops : ownProps outer = .ok props) (hname : name ∈ c.slotNames)
    (hitems : ((props.find? name).getD .null).items? = some inside) (hv : v ∈ inside) :
    Rendered table settings nodes v := by
  classical
  intro refused hrefused root st hrun
  -- a run that refuses the outer node too comes to an end wherever this one does
  let refused' : Value → Bool := fun w => refused w || decide (w = outer)
  have hmore : ∀ w, refused w = true → refused' w = true := fun w hw => by simp [refused', hw]
  have hnew : ∀ w, refused' w = true → refused w = true ∨ ∀ n depth place st m st',
      (renderNode table settings (renderUnless table settings refused n) depth w place).outcome
        st = (.ok m, st') → False := by
    intro w hw
    refine (Bool.or_eq_true_iff.mp hw).imp_right fun houter n depth place st m st' houtcome => ?_
    obtain rfl := of_decide_eq_true houter
    obtain ⟨x, helement⟩ := outcome_renderNode_ok hc hskip houtcome
    obtain ⟨place, before, m, after, hinner⟩ :=
      outcome_renderElement_ok hprops hname hitems hv helement
    exact renderUnless_ne hrefused n (depth + 1) place before m after hinner
  have hroot : (renderRootUnless table settings refused nodes).SameUnless (fun _ => False)
      (renderRootUnless table settings refused' nodes) :=
    sameUnless_renderRootUnless (fun _ _ _ h _ => h) hmore hnew nodes
  rcases hroot.same .initial with hsame | hleaves
  · have houter : refused' outer = true := by simp [refused']
    exact h refused' houter root st (hsame.symm.trans hrun)
  · exact hleaves root st hrun

end

end PageMarkup
