import PageMarkup.Proofs.Render.Depth
import Mathlib.Data.List.Chain
import Mathlib.Logic.Function.Iterate

/-!
# Nested calls of the renderer

Rendering a node calls the renderer for other nodes: those in its slots, those among the items of
its arrays, and those that its hook makes up. Content does not bound how deep such calls nest, since
a hook may make up nodes of its own type. What bounds them is the depth that is handed on, through
slots, values, items and entries: on every route to a call one is added to it once, and beyond the
maximum depth a node makes no calls.

This is shown of the recursion as it stands, with the answers to its calls, at whatever depth, left
open. One step of it gives the answer to a call, given answers to all calls. If this is done often
enough, whatever answers one starts from do not matter any more; what comes out is the renderer, and
nothing else solves the recursion.

## Main definitions

* `RenderCall`, `CallAnswers` : calls of the renderer, and how they are answered.
* `answerCall` : one step of the recursion.
* `CallsFor` : a call may make another one.

## Main results

* `answerCall_renderCall` : the renderer solves the recursion.
* `iterate_answerCall` : enough steps lead to it from any answers.
* `CallsFor.depth_eq`, `length_le_of_isChain` : how calls nest.
-/

namespace PageMarkup

/-- A call of the renderer: a node at a depth and a place. -/
structure RenderCall where
  depth : Int
  node : Value
  place : Place

/-- How calls are answered. -/
abbrev CallAnswers := RenderCall → Render (Option Markup)

section

variable (table : ComponentTable) (settings : Settings) (limit : Int)

/-- What a call does, given how the calls that it makes are answered. -/
def answerCall (answers : CallAnswers) : CallAnswers := fun call =>
  renderNode table (settings.limited limit) (fun depth node place => answers ⟨depth, node, place⟩)
    call.depth call.node call.place

/-- What a call does, all calls in it carried out. -/
def renderCall : CallAnswers := fun call =>
  renderer table (settings.limited limit) call.depth call.node call.place

/-- A call may make another one: for some answers to all other calls, what it does depends on how
this one is answered. -/
def CallsFor (outer inner : RenderCall) : Prop :=
  ∃ answers answers' : CallAnswers, (∀ call, call ≠ inner → answers call = answers' call) ∧
    answerCall table settings limit answers outer ≠ answerCall table settings limit answers' outer

end

variable {table : ComponentTable} {settings : Settings} {limit : Int}

/-! ### One step -/

theorem answerCall_of_lt {call : RenderCall} (h : limit < call.depth) (answers : CallAnswers) :
    answerCall table settings limit answers call =
      Render.fail (.content (.tooDeep (.int limit))) := by
  rw [answerCall, renderNode_limited, if_pos h]

/-- A call only makes calls that are one level deeper: every route from a node to the nodes in it
adds one to the depth. -/
theorem answerCall_congr {answers answers' : CallAnswers} {call : RenderCall}
    (h : ∀ inner, inner.depth = call.depth + 1 → answers inner = answers' inner) :
    answerCall table settings limit answers call =
      answerCall table settings limit answers' call := by
  have hdeeper : (fun node place => answers ⟨call.depth + 1, node, place⟩) =
      fun node place => answers' ⟨call.depth + 1, node, place⟩ :=
    funext fun node => funext fun place => h ⟨call.depth + 1, node, place⟩ rfl
  rw [answerCall, answerCall, renderNode_limited, renderNode_limited]
  split
  · rfl
  · exact congrFun (congrFun (renderTyped_eq_of_deeper table settings hdeeper) _) _

/-- The renderer solves the recursion. -/
theorem answerCall_renderCall (call : RenderCall) :
    answerCall table settings limit (renderCall table settings limit) call =
      renderCall table settings limit call := by
  rw [renderCall, renderer_limited]
  rfl

/-! ### Enough steps -/

/-- As many steps as there are levels, and one more, carry out all calls in a call. -/
theorem iterate_answerCall {n : Nat} {call : RenderCall} (h : (limit - call.depth + 1).toNat < n)
    (answers : CallAnswers) :
    (answerCall table settings limit)^[n] answers call = renderCall table settings limit call := by
  induction n generalizing call with
  | zero => exact absurd h (Nat.not_lt_zero _)
  | succ n ih =>
    rw [Function.iterate_succ_apply', ← answerCall_renderCall]
    by_cases hdeep : limit < call.depth
    · rw [answerCall_of_lt hdeep, answerCall_of_lt hdeep]
    · exact answerCall_congr fun inner hinner => ih (by omega)

theorem eq_renderCall_of_fixed {answers : CallAnswers}
    (h : answerCall table settings limit answers = answers) :
    answers = renderCall table settings limit := by
  funext call
  have hfixed := Function.iterate_fixed h ((limit - call.depth + 1).toNat + 1)
  rw [← hfixed]
  exact iterate_answerCall (Nat.lt_succ_self _) answers

/-! ### Chains of calls -/

/-- A call is made one level deeper than the call that makes it. -/
theorem CallsFor.depth_eq {outer inner : RenderCall}
    (h : CallsFor table settings limit outer inner) : inner.depth = outer.depth + 1 := by
  obtain ⟨answers, answers', hothers, hdiffer⟩ := h
  by_contra hdepth
  exact hdiffer (answerCall_congr fun call hcall =>
    hothers call fun heq => hdepth (heq ▸ hcall))

theorem CallsFor.depth_le {outer inner : RenderCall}
    (h : CallsFor table settings limit outer inner) : outer.depth ≤ limit := by
  obtain ⟨answers, answers', -, hdiffer⟩ := h
  by_contra hdeep
  have hlt : limit < outer.depth := Int.not_le.mp hdeep
  exact hdiffer (by rw [answerCall_of_lt hlt, answerCall_of_lt hlt])

theorem pairwise_depth_of_isChain {calls : List RenderCall}
    (h : calls.IsChain (CallsFor table settings limit)) :
    calls.Pairwise fun outer inner => outer.depth < inner.depth := by
  have hlt : (calls.map RenderCall.depth).IsChain (· < ·) := by
    refine List.isChain_map_of_isChain _ (fun outer inner hcall => ?_) h
    have hdepth := hcall.depth_eq
    omega
  exact List.pairwise_map.mp hlt.pairwise

/-- Below a call there are no more nested calls than levels. -/
theorem length_le_of_isChain {outer : RenderCall} {calls : List RenderCall}
    (h : (outer :: calls).IsChain (CallsFor table settings limit)) :
    calls.length ≤ (limit - outer.depth + 1).toNat := by
  induction calls generalizing outer with
  | nil => exact Nat.zero_le _
  | cons inner calls ih =>
    obtain ⟨hcall, hrest⟩ := List.isChain_cons_cons.mp h
    have hshorter := ih hrest
    have hdepth := hcall.depth_eq
    have hle := hcall.depth_le
    rw [List.length_cons]
    omega

end PageMarkup
