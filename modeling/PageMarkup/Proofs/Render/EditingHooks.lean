import PageMarkup.Proofs.Content.Outcomes
import PageMarkup.Proofs.Page.Unseen
import PageMarkup.Proofs.Render.Assembly
import PageMarkup.Schema.HookScript

/-!
# Hooks that edit what they are given

The maps that a hook is given are its own. It may set, delete and spread entries of them as it
likes: the objects in them are those of the node, but as long as the hook appends to none of them,
what it does cannot reach the renderer, neither its matching of objects to fields, nor its fallback
to the properties as they are, nor its keys. So the element is known from the properties and the
slots of the node and from what the hook gives back. If it gives back nothing, the properties are
written in order, each by its own field, and no slot is.

No step of a script but one appends, so a script without this step is such a hook, by induction on
its steps.

## Main definitions

* `Hook.EditsTo` : a hook edits what it is given and comes to a result.
* `HookScript.OnlyEdits` : scripts without steps that change objects.

## Main results

* `HookScript.editsTo` : scripts that only edit.
* `renderElement_of_editsTo` : the element of a node whose hook only edits.
-/

namespace PageMarkup

/-- On what it is given a hook does not fail and changes no object. It leaves its two maps in any
state, and it comes to the given result. -/
def Hook.EditsTo (hook : Hook) (given : HookInput) (result : HookResult) : Prop :=
  ∃ left, hook.call given = .ok ⟨result, left, []⟩

/-! ### Scripts that only edit -/

/-- A step that changes no object: it sets, deletes or spreads entries, or it fails. -/
def HookStep.isEdit : HookStep → Bool
  | .append _ _ => false
  | _ => true

/-- A script without steps that change objects. -/
def HookScript.OnlyEdits (script : HookScript) : Prop :=
  ∀ step ∈ script.steps, step.isEdit = true

instance (script : HookScript) : Decidable script.OnlyEdits :=
  inferInstanceAs (Decidable (∀ step ∈ script.steps, step.isEdit = true))

namespace HookState

variable {st st' : HookState}

@[simp] theorem put_appended (st : HookState) (which : HookMap) (es : Entries Nat) :
    (st.put which es).appended = st.appended := by
  cases which <;> rfl

theorem appended_of_eval {source : HookSource} {place : Nat}
    (heval : st.eval source = .ok (place, st')) : st'.appended = st.appended := by
  cases source with
  | entry which key required =>
    rw [HookState.eval] at heval
    split at heval
    · cases heval
      rfl
    · split at heval
      · cases heval
      · cases heval
        rfl
  | names which =>
    cases heval
    rfl
  | constant v =>
    cases heval
    rfl

theorem appended_of_step {step : HookStep} (hedit : step.isEdit = true)
    (hstep : st.step step = .ok st') : st'.appended = st.appended := by
  cases step with
  | set which key source =>
    obtain ⟨⟨place, mid⟩, heval, hput⟩ := bind_eq_ok_iff.mp hstep
    obtain rfl := Except.ok.inj hput
    rw [put_appended, appended_of_eval heval]
  | delete which key =>
    rw [HookState.step] at hstep
    split at hstep
    · cases hstep
      exact put_appended st which _
    · cases hstep
  | spread which =>
    cases hstep
    rfl
  | append => cases hedit
  | fail text => cases hstep

theorem appended_of_run {steps : List HookStep} (hedits : ∀ step ∈ steps, step.isEdit = true)
    (hrun : steps.foldlM HookState.step st = .ok st') : st'.appended = st.appended := by
  induction steps generalizing st with
  | nil =>
    cases hrun
    rfl
  | cons step steps ih =>
    rw [List.forall_mem_cons] at hedits
    rw [List.foldlM_cons] at hrun
    obtain ⟨mid, hstep, hrest⟩ := bind_eq_ok_iff.mp hrun
    exact (ih hedits.2 hrest).trans (appended_of_step hedits.1 hstep)

theorem appended_of_finish {result : HookReturn} {outcome : HookOutcome}
    (hfinish : st.finish result = .ok outcome) : outcome.appended = st.appended := by
  cases result with
  | map which =>
    cases hfinish
    rfl
  | nothing =>
    cases hfinish
    rfl
  | source s =>
    obtain ⟨⟨place, last⟩, heval, hvalue⟩ := bind_eq_ok_iff.mp hfinish
    dsimp only at hvalue
    split at hvalue <;>
    · cases hvalue
      exact appended_of_eval heval

end HookState

/-- A script that only edits changes no object on its way to a result. -/
theorem HookScript.editsTo {script : HookScript} (hedits : script.OnlyEdits) {given : HookInput}
    {result : HookResult} (hresult : HookOutcome.result <$> script.hook.call given = .ok result) :
    script.hook.EditsTo given result := by
  obtain ⟨outcome, hcall, houtcome⟩ := map_eq_ok_iff.mp hresult
  obtain ⟨st, hrun, hfinish⟩ := bind_eq_ok_iff.mp hcall
  have hnothing : outcome.appended = [] :=
    (HookState.appended_of_finish hfinish).trans (HookState.appended_of_run hedits hrun)
  refine ⟨outcome.left, ?_⟩
  rw [hcall, ← houtcome, ← hnothing]

/-! ### The element -/

variable {settings : Settings} {render : NodeRenderer} {depth : Int} {node : Value}
  {props : Entries Value} {stripped : List Value} {slots : Entries (Option Markup)}
  {st mid : RunState}

/-- What is written after a hook that only edits depends on its result, and not on the state in
which it leaves its maps. -/
private theorem outcome_mapProps_of_editsTo (c : Component) {hook : Hook}
    (hhook : c.hook = some hook) {given : HookInput}
    (hgiven : hook.given (plainProps c stripped props) slots = given) {result : HookResult}
    (hedits : hook.EditsTo given result) (counted : Bool) (st : RunState) :
    (mapProps c stripped counted props slots).outcome st =
      (do
        let written ← Render.ofMisuse
          (hookedProps (plainProps c stripped props) given ⟨result, given, []⟩)
        return (written, props) : Render (Entries Sourced × Entries Value)).outcome st := by
  obtain ⟨left, hcall⟩ := hedits
  rw [mapProps, hhook]
  dsimp only
  rw [hgiven, hcall, Render.outcome_bind]
  change Render.outcome _ st = _
  cases counted with
  | false => rfl
  | true =>
    rw [if_pos rfl, List.map_nil, Render.outcome_bind, Render.outcome_noteAppended_nil]
    rfl

private theorem outcome_renderElement_of_editsTo (c : Component) (type : Value) (place : Place)
    {hook : Hook} (hhook : c.hook = some hook)
    (hprops : ownProps node = .ok props) (hstripped : strippedNames c settings = .ok stripped)
    (hslots : (renderSlots render depth place.counted c props).outcome st = (.ok slots, mid))
    {given : HookInput} (hgiven : hook.given (plainProps c stripped props) slots = given)
    {result : HookResult} (hedits : hook.EditsTo given result) :
    (renderElement settings render depth c type node place).outcome st =
      (do
        let written ← Render.ofMisuse
          (hookedProps (plainProps c stripped props) given ⟨result, given, []⟩)
        let parts ← written.mapM (renderEntry render depth place.counted c)
        closeElement settings c type (idOf props) place parts : Render Markup).outcome mid := by
  rw [renderElement_eq_closeElement hprops hstripped, Render.outcome_bind, hslots]
  dsimp only
  rw [Render.outcome_bind, outcome_mapProps_of_editsTo c hhook hgiven hedits]
  cases hookedProps (plainProps c stripped props) given ⟨result, given, []⟩ <;> rfl

/-- **A hook that only edits cannot disturb the renderer.** Take a node whose slots are rendered,
and a hook that does not fail on what it is given for this node and changes no object, whatever it
sets, deletes and spreads. If it gives back nothing, then the properties of the node that are
neither slots nor dropped are written in order, each by the field of its own name, and no slot is.
If it gives back a map, then the entries of this map are written, each by the field of the name
that its object was given under before the hook took its steps. Any other hook that is given the
same objects, only edits and comes to the same result leads to the same element and the same
imports. -/
theorem renderElement_of_editsTo {c : Component} (type : Value) (place : Place) {hook : Hook}
    (hhook : c.hook = some hook)
    (hprops : ownProps node = .ok props) (hstripped : strippedNames c settings = .ok stripped)
    (hslots : (renderSlots render depth place.counted c props).outcome st = (.ok slots, mid))
    {result : HookResult}
    (hedits : hook.EditsTo (hook.given (plainProps c stripped props) slots) result) :
    (result = .nothing →
      (renderElement settings render depth c type node place).outcome st =
        (do
          let parts ← (plainProps c stripped props).mapM fun e => do
            let field := c.field? e.1
            return (e.1, ← renderUnder render depth place.counted field e.1 e.2)
          closeElement settings c type (idOf props) place parts : Render Markup).outcome mid) ∧
    (∀ map, result = .entries (.ok map) →
      (renderElement settings render depth c type node place).outcome st =
        (do
          let given := hook.given (plainProps c stripped props) slots
          let parts ← (map.map fun e => (e.1, ⟨e.2.value, given.sourceOf e.1 e.2⟩)).mapM
            (renderEntry render depth place.counted c)
          closeElement settings c type (idOf props) place parts : Render Markup).outcome mid) ∧
    ∀ hook' : Hook,
      hook'.given (plainProps c stripped props) slots =
        hook.given (plainProps c stripped props) slots →
      hook'.EditsTo (hook.given (plainProps c stripped props) slots) result →
      (renderElement settings render depth { c with hook := some hook' } type node place).outcome
          st =
        (renderElement settings render depth c type node place).outcome st := by
  have hown := outcome_renderElement_of_editsTo c type place hhook hprops hstripped hslots rfl
    hedits
  refine ⟨?_, ?_, fun hook' hgiven hedits' => ?_⟩
  · rintro rfl
    rw [hown, ← mapM_ownSourced]
    rfl
  · rintro map rfl
    exact hown
  · -- neither the slots nor what is dropped depends on the hook
    have hother := outcome_renderElement_of_editsTo { c with hook := some hook' } type place rfl
      hprops hstripped hslots hgiven hedits'
    exact hother.trans hown.symm

/-! ### Two hooks for a list -/

/-- A component whose nodes have items with an icon in a slot, and a body. -/
def listComponent (script : HookScript) : Component :=
  { Component.plain with
    fields := [(.str "items", .mk .array (some [(.str "icon", .mk .slot none none)]) none),
      (.str "body", .mk .slot none none)]
    hook := some script.hook }

/-- Writes the items as rows and the body on the side. -/
def renameScript : HookScript where
  steps := [.set .out (.str "rows") (.entry .props (.str "items") true),
    .set .out (.str "side") (.entry .slots (.str "body") true)]
  result := .map .out

/-- Gives back the same, and leaves its two maps in disorder. -/
def carelessScript : HookScript where
  steps := [.set .out (.str "rows") (.entry .props (.str "items") true),
    .delete .props (.str "items"), .set .props (.str "title") (.constant .null),
    .set .slots (.str "items") (.entry .props (.str "title") true),
    .set .out (.str "side") (.entry .slots (.str "body") true), .delete .slots (.str "body")]
  result := .map .out

/-- The properties of a list with an icon in its item and a text in its body. -/
def listProps : Entries Value :=
  [(.str "title", .str "Names"), (.str "items", .list [.map [(.str "icon", .list [textNode []])]]),
    (.str "body", .list [textNode []])]

/-- How the nodes in a list are rendered. -/
def listRenderer : NodeRenderer := renderWithin [(.str "Text", .plain)] {} 1

/-- The markup of the body of this list. -/
def listSlots : Entries (Option Markup) :=
  [(.str "body", some (.element (.str "Text") [(.str "text", .literal (.str "Hi"))] []))]

/-- What both hooks give back for this list: its items and its body. -/
def listRows : Entries Object :=
  [(.str "rows", ⟨.place 1, .list [.map [(.str "icon", .list [textNode []])]]⟩),
    (.str "side", ⟨.place 2,
      .markup (.element (.str "Text") [(.str "text", .literal (.str "Hi"))] [])⟩)]

/-- The disorder that the second hook leaves does not show. -/
theorem renderElement_of_editsTo_list :
    (renderElement {} listRenderer 0 (listComponent carelessScript) (.str "List")
      (typedNode "List" listProps) ⟨false, true⟩).outcome .initial =
    (renderElement {} listRenderer 0 (listComponent renameScript) (.str "List")
      (typedNode "List" listProps) ⟨false, true⟩).outcome .initial := by
  have hprops : ownProps (typedNode "List" listProps) = .ok listProps := rfl
  have hstripped : strippedNames (listComponent renameScript) {} =
      .ok (internalNames ++ [idName]) := rfl
  have hslots : (renderSlots listRenderer 0 true (listComponent renameScript) listProps).outcome
      .initial = (.ok listSlots, .initial) := rfl
  let given : HookInput := renameScript.hook.given (listProps.take 2) listSlots
  have hrename : renameScript.hook.EditsTo given (.entries (.ok listRows)) :=
    HookScript.editsTo (by decide) rfl
  have hcareless : carelessScript.hook.EditsTo given (.entries (.ok listRows)) :=
    HookScript.editsTo (by decide) rfl
  exact (renderElement_of_editsTo (.str "List") ⟨false, true⟩ rfl hprops hstripped hslots
    hrename).2.2 carelessScript.hook rfl hcareless

/-- Writes a constant as the body. -/
def constantScript : HookScript where
  steps := [.set .out (.str "body") (.constant (.bool true))]
  result := .map .out

/-- A constant that is the same object as a property is read by the field of the property, and not
as the slot whose name it is given. -/
example : ((renderElement {} listRenderer 0 (listComponent constantScript) (.str "Box")
      (typedNode "Box" [(.str "flag", .bool true)]) ⟨false, true⟩).outcome .initial).1.toOption =
    some (.element (.str "Box") [(.str "body", .literal (.bool true))] []) := by
  rfl

end PageMarkup
