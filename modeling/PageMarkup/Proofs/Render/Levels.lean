import PageMarkup.Page.Tree
import PageMarkup.Proofs.Render.Components
import PageMarkup.Proofs.Render.Properties

/-!
# Levels of a run

Going down one level meets a node, then the entries below it, and then the requests of its
component. So a node can be written within some levels exactly if everything that is reached from it
lies within these levels and can be rendered, and what it asks for is what the reached nodes ask
for. By induction on the levels this holds for every node of plain data.

## Main definitions

* `FineWithin` : a node and all below it lie within some levels and can be rendered.
* `AsksBelow` : what a node and the nodes below it ask for.
* `Settings.reach`, `topLevels` : the levels that are rendered from a depth on, and from the top.
* `VisitsWithin` : a level visits nodes and writes them.

## Main results

* `visits_renderElement` : the element of a node, given the level below it.
* `renderNode_of_isBeyond`, `renderTyped_of_some` : how a node is rendered by its depth and by its
  component.
* `visits_renderWithin`, `visits_renderer` : nodes within some levels, and those at the top.
-/

namespace PageMarkup

open Render (Visits)

variable {table : ComponentTable} {settings : Settings} {clean : Prop} {render : NodeRenderer}
  {depth : Int}

/-- All that is reached from a node lies within some levels and can be rendered. -/
def FineWithin (table : ComponentTable) (settings : Settings) (levels : Nat) (v : Value) : Prop :=
  ∀ d w, Reaches table settings d v w → d < levels ∧ Renderable table w

/-- A node asks for an import, or one that is reached from it does. -/
def AsksBelow (table : ComponentTable) (settings : Settings) (v : Value) (spec : ImportSpec) :
    Prop :=
  ∃ d w, Reaches table settings d v w ∧ AsksFor table w spec

theorem not_fineWithin_zero (v : Value) : ¬ FineWithin table settings 0 v :=
  fun h => absurd (h 0 v (.refl v)).1 (Nat.lt_irrefl 0)

theorem fineWithin_succ_iff {n : Nat} {v : Value} : FineWithin table settings (n + 1) v ↔
    Renderable table v ∧ ∀ w, HangsBelow table settings v w → FineWithin table settings n w := by
  constructor
  · refine fun h => ⟨(h 0 v (.refl v)).2, fun w hw d x hx => ?_⟩
    obtain ⟨hd, hfine⟩ := h (d + 1) x (.step hw hx)
    exact ⟨Nat.lt_of_succ_lt_succ hd, hfine⟩
  · rintro ⟨hv, hbelow⟩ d x hx
    cases hx with
    | refl => exact ⟨Nat.succ_pos n, hv⟩
    | step hw hx =>
      obtain ⟨hd, hfine⟩ := hbelow _ hw _ x hx
      exact ⟨Nat.succ_lt_succ hd, hfine⟩

theorem asksBelow_iff {v : Value} {spec : ImportSpec} : AsksBelow table settings v spec ↔
    AsksFor table v spec ∨ ∃ w, HangsBelow table settings v w ∧ AsksBelow table settings w spec :=
  exists_reaches_iff

/-! ### The element of a node -/

theorem written_keyLiteral {id : Value} {m : Markup} (h : keyLiteral id = .ok m) :
    Written table settings [] [m] := by
  unfold keyLiteral at h
  split at h
  · exact Except.ok.inj h ▸ written_asLiteral (.str _)
  · exact Except.ok.inj h ▸ written_asLiteral (.int _)
  · obtain ⟨s, -, h⟩ := bind_eq_ok_iff.mp h
    exact Except.ok.inj h ▸ written_asLiteral (.str s)

theorem Written.itemAttributes {vs : List Value} {attributes attributes' : List (Value × Markup)}
    {content : List Markup} (h : Written table settings vs (attributes.map Prod.snd ++ content))
    {listItem : Bool} {id : Value}
    (hitem : PageMarkup.itemAttributes settings listItem attributes id = .ok attributes') :
    Written table settings vs (attributes'.map Prod.snd ++ content) := by
  rcases itemAttributes_eq_ok hitem with rfl | ⟨key, hkey, -, rfl⟩
  · exact h
  · exact (written_keyLiteral hkey).append h

theorem Written.element {node type : Value} {c : Component} {props : Entries Value}
    {stripped : List Value} (hc : nodeComponent? table node = some (type, c))
    (hskip : c.skip = false) (hprops : ownProps node = .ok props)
    (hstripped : strippedNames c settings = .ok stripped)
    (htag : (c.tag type).isStr = true) {attributes : List (Value × Markup)} {content : List Markup}
    (h : Written table settings (nodesBelow c stripped props)
      (attributes.map Prod.snd ++ content)) :
    Written table settings [node] [.element (c.tag type) attributes content] where
  textTags := by
    obtain ⟨hattributes, hcontent⟩ := List.forall_mem_append.mp h.textTags
    simp [Markup.hasTextTags, htag, Markup.attributesTextTags_iff.mpr hattributes,
      Markup.allTextTags_iff.mpr hcontent]
  outline := by
    obtain ⟨inside, hinside, heq⟩ := h.outline
    refine ⟨_, .single (.element hc hskip hprops hstripped hinside), ?_⟩
    rw [List.flatMap_singleton, Markup.outline_element, heq]
    rfl

/-- A level visits each node of plain data and writes it. -/
def VisitsWithin (clean : Prop) (table : ComponentTable) (settings : Settings) (n : Nat)
    (level : LevelRenderer) : Prop :=
  ∀ v : Value, v.IsData → (clean → v.isShowable = true) → ∀ place,
    Visits clean (FineWithin table settings n) (AsksBelow table settings) (level v place) [v]
      fun m => Written table settings [v] m.toList

theorem renderElement_eq {c : Component} (hook : c.hook = none) {type node : Value} {place : Place}
    {props : Entries Value} {stripped : List Value} {bound : List ImportSpec}
    (hprops : ownProps node = .ok props) (hstripped : strippedNames c settings = .ok stripped)
    (hbound : (c.imports.mapM fun spec => spec.bind (c.tag type)) = .ok bound) :
    renderElement settings render depth c type node place = (do
      let r ← renderProps render depth place.counted c stripped props
      Render.register bound
      let id := (props.find? idName).getD .null
      return .element (c.tag type)
        (← Render.ofMisuse (itemAttributes settings place.listItem r.1 id)) r.2) := by
  simp only [renderElement, renderProps, hprops, hstripped, hbound, mapProps, hook,
    Render.ofMisuse_ok, pure_bind, bind_assoc]

private theorem isShowable_id {props : Entries Value} (h : ∀ e ∈ props, e.2.isShowable = true) :
    ((props.find? idName).getD .null).isShowable = true := by
  cases hid : props.find? idName with
  | none => rfl
  | some id => exact h _ (Entries.mem_of_find?_eq_some hid)

/-- The element of a node that is not skipped. -/
theorem visits_renderElement {n : Nat}
    (hdeeper : VisitsWithin clean table settings n (render (depth + 1))) {c : Component}
    (hstatic : c.IsStatic) {type node : Value} (hc : nodeComponent? table node = some (type, c))
    (hskip : c.skip = false) (htype : type.isStr = true) (hdata : node.IsData)
    (hshow : clean → node.isShowable = true) {props : Entries Value}
    (hprops : ownProps node = .ok props) (place : Place) :
    Visits clean (FineWithin table settings (n + 1)) (AsksBelow table settings)
      (renderElement settings render depth c type node place) [node] fun m =>
        Written table settings [node] [m] := by
  obtain ⟨stripped, hstripped⟩ := hstatic.strippedNames_eq settings
  obtain ⟨bound, hbound, hrequests⟩ := hstatic.bindImports htype
  have hbelow : ∀ w, HangsBelow table settings node w ↔ w ∈ nodesBelow c stripped props := fun w =>
    hangsBelow_iff hc hskip hprops hstripped
  have heach : VisitsEach clean table settings (render (depth + 1)) (FineWithin table settings n)
      (AsksBelow table settings) (nodesBelow c stripped props) := fun w hw =>
    hdeeper w (Value.IsData.handedDown.hangsBelow hdata ((hbelow w).mpr hw)) fun hc =>
      Value.handedDown_isShowable.hangsBelow (hshow hc) ((hbelow w).mpr hw)
  obtain ⟨hdistinct, hvalues⟩ := hdata.ownProps hprops
  have hshown : clean → ∀ e ∈ props, e.2.isShowable = true := fun hc e he =>
    ((Value.handedDown_isShowable.ownProps (hshow hc) hprops).2 e he).2
  rw [renderElement_eq hstatic.hook hprops hstripped hbound]
  have htext := Component.isStr_slotNames hstatic.fields
  have hvisits := visits_renderProps place.counted htext hdistinct hvalues
    (fun e he hc => hshown hc e he) heach
  rcases hvisits with ⟨specs, r, hmeets, hfine, hasks, hwritten⟩ | ⟨specs, f, hmeets, hnot⟩
  · cases hitem : itemAttributes settings place.listItem r.1 ((props.find? idName).getD .null) with
    | error how =>
      have hrefused : (do
          let attributes ← Render.ofMisuse (.error how)
          return .element (c.tag type) attributes r.2 : Render Markup).Meets []
          (.error (.misuse how)) := (Render.Meets.fail _).bind_error _
      refine .inr ⟨_, _, hmeets.bind ((Render.Meets.register bound).bind (hitem ▸ hrefused)), ?_⟩
      intro hclean
      obtain ⟨attributes, hok⟩ := exists_itemAttributes settings place.listItem r.1
        (isShowable_id (hshown hclean))
      cases hitem.symm.trans hok
    | ok attributes =>
      have hwhole : (do
          let attributes ← Render.ofMisuse (.ok attributes)
          return .element (c.tag type) attributes r.2 : Render Markup).Meets []
          (.ok (.element (c.tag type) attributes r.2)) := .pure _
      refine .inl ⟨_, _, hmeets.bind ((Render.Meets.register bound).bind (hitem ▸ hwhole)), ?_, ?_,
        ?_⟩
      · refine List.forall_mem_singleton.mpr (fineWithin_succ_iff.mpr ⟨?_, fun w hw => ?_⟩)
        · exact ⟨type, c, hc, fun _ => ⟨props, hprops⟩⟩
        · exact hfine w ((hbelow w).mp hw)
      · intro spec
        simp only [List.append_nil, List.mem_append, hasks, hrequests, List.mem_singleton,
          exists_eq_left, asksBelow_iff (v := node), asksFor_iff hc, hskip, hbelow, true_and]
        exact or_comm
      · exact Written.element hc hskip hprops hstripped (hstatic.isStr_tag htype)
          (hwritten.itemAttributes hitem)
  · refine .inr ⟨specs, f, hmeets.bind_error _, fun hclean => ?_⟩
    obtain ⟨w, hw, hbad⟩ := hnot hclean
    refine ⟨node, List.mem_singleton_self node, fun hfine => ?_⟩
    exact hbad ((fineWithin_succ_iff.mp hfine).2 w ((hbelow w).mpr hw))

/-! ### One level after the other -/

theorem renderTyped_of_none (settings : Settings) (render : NodeRenderer) (depth : Int)
    {node : Value} (hc : nodeComponent? table node = none) (place : Place) :
    ∃ f, renderTyped table settings render depth node place = Render.fail f := by
  unfold renderTyped
  cases htype : node.get? "type" with
  | none => exact ⟨_, rfl⟩
  | some type =>
    cases hcomponent : table.component? type with
    | none => exact ⟨.unknownType type, by simp only [hcomponent]⟩
    | some c =>
      rw [nodeComponent?_eq_some_iff.mpr ⟨htype, hcomponent⟩] at hc
      cases hc

/-- A node with a component has no markup if it is skipped, and an element otherwise. -/
theorem renderTyped_of_some {node type : Value} {c : Component}
    (hc : nodeComponent? table node = some (type, c)) (place : Place) :
    renderTyped table settings render depth node place =
      if c.skip then pure none
      else some <$> renderElement settings render depth c type node place := by
  obtain ⟨htype, hcomponent⟩ := nodeComponent?_eq_some_iff.mp hc
  simp only [renderTyped, htype, hcomponent]

private theorem visits_skipped {n : Nat} {node type : Value} {c : Component}
    (hc : nodeComponent? table node = some (type, c)) (hskip : c.skip = true) :
    Visits clean (FineWithin table settings (n + 1)) (AsksBelow table settings) (pure none) [node]
      fun m => Written table settings [node] (Option.toList m) := by
  have hbelow := not_hangsBelow_of_skip settings hc hskip
  have hrenderable : Renderable table node :=
    ⟨type, c, hc, fun hfalse => absurd (hfalse.symm.trans hskip) Bool.false_ne_true⟩
  have hwritten : Written table settings [node] [] :=
    ⟨by simp, [], .single (.skipped hc hskip), rfl⟩
  refine .inl ⟨[], none, .pure none, ?_, fun spec => ?_, hwritten⟩
  · refine List.forall_mem_singleton.mpr (fineWithin_succ_iff.mpr ⟨hrenderable, fun w hw => ?_⟩)
    exact absurd hw (hbelow w)
  · simp [asksBelow_iff (v := node), asksFor_iff hc, hskip, hbelow]

theorem visits_renderTyped (htable : table.IsStatic) {n : Nat}
    (hdeeper : VisitsWithin clean table settings n (render (depth + 1))) :
    VisitsWithin clean table settings (n + 1) (renderTyped table settings render depth) := by
  intro node hdata hshow place
  have hrenderable : FineWithin table settings (n + 1) node → Renderable table node := fun hfine =>
    (fineWithin_succ_iff.mp hfine).1
  cases hc : nodeComponent? table node with
  | none =>
    obtain ⟨f, hf⟩ := renderTyped_of_none settings render depth hc place
    rw [hf]
    refine .inr ⟨[], f, .fail f, fun _ => ⟨node, List.mem_singleton_self node, fun hfine => ?_⟩⟩
    obtain ⟨type, c, hsome, -⟩ := hrenderable hfine
    exact absurd (hc.symm.trans hsome) (by simp)
  | some found =>
    obtain ⟨type, c⟩ := found
    obtain ⟨hstr, hstatic⟩ := htable.nodeComponent hc
    rw [renderTyped_of_some hc]
    cases hskip : c.skip with
    | true => exact visits_skipped hc hskip
    | false =>
      rw [if_neg Bool.false_ne_true, map_eq_pure_bind]
      cases hprops : ownProps node with
      | ok props =>
        exact (visits_renderElement hdeeper hstatic hc hskip hstr hdata hshow hprops place).map
          fun m hm => hm
      | error how =>
        have hmeets : (renderElement settings render depth c type node place).Meets []
            (.error (.misuse how)) := by
          rw [renderElement, hprops]
          exact (Render.Meets.fail _).bind_error _
        refine .inr ⟨[], _, hmeets.bind_error _, fun _ => ⟨node, List.mem_singleton_self node, ?_⟩⟩
        intro hfine
        obtain ⟨props, hok⟩ := (exists_nodeComponent_iff hc).mp (hrenderable hfine) hskip
        rw [hprops] at hok
        cases hok

private theorem visitsWithin_fail (f : Fault) :
    VisitsWithin clean table settings 0 fun _ _ => Render.fail f := fun v _ _ _ =>
  .inr ⟨[], f, .fail f, fun _ => ⟨v, List.mem_singleton_self v, not_fineWithin_zero v⟩⟩

/-- The number of levels from a depth on that are rendered, if calls are carried out up to a number
of levels. -/
def Settings.reach (s : Settings) : Nat → Int → Nat
  | 0, _ => 0
  | n + 1, depth =>
    match s.isBeyond depth with
    | .ok false => s.reach n (depth + 1) + 1
    | _ => 0

/-- How a node is rendered by whether it is too deep. -/
theorem renderNode_of_isBeyond {b : Bool} (h : settings.isBeyond depth = .ok b) :
    renderNode table settings render depth =
      if b then fun _ _ => Render.fail (.content (.tooDeep settings.maxDepth))
      else renderTyped table settings render depth := by
  funext node place
  unfold renderNode
  rw [h]
  cases b <;> rfl

theorem renderNode_of_error {how : Misuse} (h : settings.isBeyond depth = .error how) :
    renderNode table settings render depth = fun _ _ => Render.fail (.misuse how) := by
  funext node place
  unfold renderNode
  rw [h]
  rfl

/-- Nodes at a depth, calls carried out up to a number of levels. -/
theorem visits_renderWithin (htable : table.IsStatic) (n : Nat) (depth : Int) :
    VisitsWithin clean table settings (settings.reach n depth)
      (renderWithin table settings n depth) := by
  induction n generalizing depth with
  | zero => exact visitsWithin_fail _
  | succ n ih =>
    rw [renderWithin, Settings.reach]
    cases hdepth : settings.isBeyond depth with
    | error how =>
      rw [renderNode_of_error hdepth]
      exact visitsWithin_fail _
    | ok beyond =>
      rw [renderNode_of_isBeyond hdepth]
      cases beyond with
      | true => exact visitsWithin_fail _
      | false => exact visits_renderTyped htable (ih (depth + 1))

/-- The number of levels from the top that are rendered. -/
def topLevels (settings : Settings) : Nat :=
  settings.reach (settings.levels 0 + 1) 0

/-- Nodes at the top level. -/
theorem visits_renderer (settings : Settings) (htable : table.IsStatic) :
    VisitsWithin clean table settings (topLevels settings) (renderer table settings 0) :=
  visits_renderWithin htable _ 0

end PageMarkup
