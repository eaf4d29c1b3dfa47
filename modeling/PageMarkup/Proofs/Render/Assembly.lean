import PageMarkup.Proofs.Content.TextKeys
import PageMarkup.Proofs.Render.Congruence

/-!
# Elements entry by entry

What an element is written from is a list of entries. Each entry is written by itself, in order, and
none of them looks at another one; only then the entries are put together, the one named `children`
as the content and all others as attributes. So an element is known once its entries are, and how
they came about does not matter: from the properties of a node as they stand, or from a hook.

## Main definitions

* `renderUnder`, `renderEntry` : what a value and an entry add to an element.
* `attributesOf`, `contentOf` : the attributes and the content, from what the entries add.
* `closeElement` : the element, from what its entries add.

## Main results

* `assemble_eq_mapM` : the attributes and the content are written entry by entry.
* `renderElement_eq_closeElement` : the element of a node, from its slots on.
-/

namespace PageMarkup

/-- What a value adds to an element under a name: its markup by a field, if it has any. -/
def renderUnder (render : NodeRenderer) (depth : Int) (counted : Bool) (field : Option Field)
    (name value : Value) : Render (List Markup) :=
  if name.same childrenName then renderChildren render depth counted field value
  else Option.toList <$> serialize render depth counted field value

/-- What an entry adds to an element. It is read by the field of the name that its value was given
under, and written under its own name. -/
def renderEntry (render : NodeRenderer) (depth : Int) (counted : Bool) (c : Component)
    (e : Value × Sourced) : Render (Value × List Markup) := do
  let field := c.field? (e.2.source.getD e.1)
  return (e.1, ← renderUnder render depth (counted && e.2.source.isSome) field e.1 e.2.value)

/-- The attributes of an element, from what its entries add. -/
def attributesOf (parts : Entries (List Markup)) : List (Value × Markup) :=
  parts.flatMap fun p => if p.1.same childrenName then [] else p.2.map fun m => (p.1, m)

/-- The content of an element, from what its entries add. -/
def contentOf (parts : Entries (List Markup)) : List Markup :=
  (parts.find? childrenName).getD []

theorem attributesOf_cons (p : Value × List Markup) (parts : Entries (List Markup)) :
    attributesOf (p :: parts) =
      (if p.1.same childrenName then [] else p.2.map fun m => (p.1, m)) ++ attributesOf parts :=
  List.flatMap_cons

theorem contentOf_cons (p : Value × List Markup) (parts : Entries (List Markup)) :
    contentOf (p :: parts) = if p.1.same childrenName then p.2 else contentOf parts := by
  rw [contentOf, Entries.find?_cons]
  split <;> rfl

theorem exists_of_mem_attributesOf {parts : Entries (List Markup)} {a : Value × Markup}
    (h : a ∈ attributesOf parts) :
    ∃ p ∈ parts, p.1.same childrenName = false ∧ p.1 = a.1 ∧ a.2 ∈ p.2 := by
  obtain ⟨p, hp, ha⟩ := List.mem_flatMap.mp h
  split at ha
  · cases ha
  · rename_i hname
    obtain ⟨m, hm, rfl⟩ := List.mem_map.mp ha
    exact ⟨p, hp, Bool.eq_false_iff.mpr hname, rfl, hm⟩

theorem mem_keys_of_mem_attributesOf {parts : Entries (List Markup)} {a : Value × Markup}
    (h : a ∈ attributesOf parts) : a.1 ∈ parts.keys := by
  obtain ⟨p, hp, -, hname, -⟩ := exists_of_mem_attributesOf h
  exact hname ▸ Entries.mem_keys_of_mem hp

theorem contentOf_eq_nil_or (parts : Entries (List Markup)) :
    contentOf parts = [] ∨ ∃ p ∈ parts, contentOf parts = p.2 := by
  unfold contentOf
  cases hfind : parts.find? childrenName with
  | none => exact .inl rfl
  | some ms => exact .inr ⟨_, Entries.mem_of_find?_eq_some hfind, rfl⟩

variable {settings : Settings} {render : NodeRenderer} {depth : Int} {counted : Bool}
  {c : Component}

/-- The attributes and the content of an element are written entry by entry. -/
theorem assemble_eq_mapM (written : Entries Sourced) :
    assemble render depth counted c written =
      (written.mapM (renderEntry render depth counted c) >>= fun parts =>
        pure (attributesOf parts, contentOf parts)) := by
  induction written with
  | nil => rfl
  | cons e written ih =>
    obtain ⟨name, item⟩ := e
    rw [assemble, ih, List.mapM_cons]
    unfold renderEntry renderUnder
    by_cases hname : name.same childrenName = true
    · simp only [hname, if_true, bind_assoc, pure_bind, attributesOf_cons, contentOf_cons,
        List.nil_append]
    · simp only [hname, map_eq_pure_bind, bind_assoc, pure_bind, attributesOf_cons, contentOf_cons,
        Bool.false_eq_true, if_false]
      refine bind_congr fun value => bind_congr fun parts => ?_
      cases value <;> rfl

/-- The element of a node from what its entries add: the requests of the component are met, and the
id becomes the key of a node among siblings. -/
def closeElement (settings : Settings) (c : Component) (type id : Value) (place : Place)
    (parts : Entries (List Markup)) : Render Markup := do
  Render.register (← Render.ofMisuse (c.imports.mapM fun spec => spec.bind (c.tag type)))
  let attributes ← Render.ofMisuse (itemAttributes settings place.listItem (attributesOf parts) id)
  return .element (c.tag type) attributes (contentOf parts)

/-- The value of the id among properties. -/
def idOf (props : Entries Value) : Value :=
  (props.find? idName).getD .null

/-- The element of a node: the slots come first, then it is found what is to be written, and this is
written entry by entry. -/
theorem renderElement_eq_closeElement {type node : Value} {place : Place} {props : Entries Value}
    {stripped : List Value} (hprops : ownProps node = .ok props)
    (hstripped : strippedNames c settings = .ok stripped) :
    renderElement settings render depth c type node place = (do
      let slots ← renderSlots render depth place.counted c props
      let (written, props) ← mapProps c stripped place.counted props slots
      let parts ← written.mapM (renderEntry render depth place.counted c)
      closeElement settings c type (idOf props) place parts) := by
  simp only [renderElement, hprops, hstripped, Render.ofMisuse_ok, pure_bind, assemble_eq_mapM,
    bind_assoc, closeElement, idOf]

theorem mapM_ownSourced (props : Entries Value) :
    (ownSourced props).mapM (renderEntry render depth counted c) =
      props.mapM fun e => do
        return (e.1, ← renderUnder render depth counted (c.field? e.1) e.1 e.2) := by
  rw [ownSourced, List.mapM_map]
  refine congrArg (props.mapM ·) (funext fun e => ?_)
  rw [Function.comp_apply, renderEntry, Option.isSome_some, Bool.and_true, Option.getD_some]

theorem Render.outcome_noteAppended_nil (st : RunState) :
    (Render.noteAppended []).outcome st = (.ok (), st) := by
  change (Except.ok (), { st with appended := st.appended ++ [] }) = (Except.ok (), st)
  rw [List.append_nil]

theorem outcome_mapProps (c : Component) {hook : Hook} (hhook : c.hook = some hook)
    {stripped : List Value} {props : Entries Value} {slots : Entries (Option Markup)}
    {outcome : HookOutcome}
    (houtcome : hook.call (hook.given (plainProps c stripped props) slots) = .ok outcome)
    (hnothing : outcome.appended = []) {written : Entries Sourced}
    (hwritten : hookedProps (plainProps c stripped props)
      (hook.given (plainProps c stripped props) slots) outcome = .ok written)
    (counted : Bool) (st : RunState) :
    (mapProps c stripped counted props slots).outcome st = (.ok (written, props), st) := by
  rw [mapProps, hhook]
  dsimp only
  rw [houtcome, Render.outcome_bind]
  change Render.outcome _ st = _
  rw [hnothing, hwritten]
  cases counted with
  | false => rfl
  | true =>
    rw [if_pos rfl, List.map_nil, Render.outcome_bind, Render.outcome_noteAppended_nil]
    rfl

/-- The element of a node, once its slots are rendered and it is found what is to be written. -/
theorem outcome_renderElement (c : Component) (type : Value) (place : Place) {node : Value}
    {props : Entries Value} {stripped : List Value} (hprops : ownProps node = .ok props)
    (hstripped : strippedNames c settings = .ok stripped) {st mid : RunState}
    {slots : Entries (Option Markup)} {written : Entries Sourced}
    (hslots : (renderSlots render depth place.counted c props).outcome st = (.ok slots, mid))
    (hwritten : (mapProps c stripped place.counted props slots).outcome mid =
      (.ok (written, props), mid)) :
    (renderElement settings render depth c type node place).outcome st =
      (do
        let parts ← written.mapM (renderEntry render depth place.counted c)
        closeElement settings c type (idOf props) place parts : Render Markup).outcome mid := by
  rw [renderElement_eq_closeElement hprops hstripped, Render.outcome_bind, hslots]
  dsimp only
  rw [Render.outcome_bind, hwritten]

/-- What comes before the hook of a node does not depend on it: either there are properties, slots
and dropped names, or there is no element with any hook. -/
theorem exists_slots_or_error (settings : Settings) (render : NodeRenderer) (depth : Int)
    (c : Component) (type node : Value) (place : Place) (st : RunState) :
    (∃ props stripped slots mid, ownProps node = .ok props ∧
      strippedNames c settings = .ok stripped ∧
      (renderSlots render depth place.counted c props).outcome st = (.ok slots, mid)) ∨
    ∃ f run, ∀ hook, (renderElement settings render depth { c with hook := hook } type node
      place).outcome st = (.error f, run) := by
  cases hprops : ownProps node with
  | error how =>
    refine .inr ⟨.misuse how, st, fun hook => ?_⟩
    rw [renderElement, hprops]
    rfl
  | ok props =>
    cases hslots : (renderSlots render depth place.counted c props).outcome st with
    | mk result mid =>
      have hsame : ∀ hook, (renderSlots render depth place.counted { c with hook := hook }
          props).outcome st = (result, mid) := fun _ => hslots
      cases result with
      | error f =>
        refine .inr ⟨f, mid, fun hook => ?_⟩
        rw [renderElement, hprops, Render.ofMisuse_ok, pure_bind, Render.outcome_bind, hsame]
      | ok slots =>
        cases hstripped : strippedNames c settings with
        | ok stripped => exact .inl ⟨props, stripped, slots, mid, rfl, rfl, hslots⟩
        | error how =>
          have hdropped : ∀ hook, strippedNames { c with hook := hook } settings = .error how :=
            fun _ => hstripped
          refine .inr ⟨.misuse how, mid, fun hook => ?_⟩
          rw [renderElement, hprops, Render.ofMisuse_ok, pure_bind, Render.outcome_bind, hsame]
          dsimp only
          rw [hdropped]
          rfl

end PageMarkup
