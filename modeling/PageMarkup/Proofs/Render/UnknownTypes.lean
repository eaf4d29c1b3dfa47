import PageMarkup.Proofs.Render.Levels
import PageMarkup.Proofs.Render.Parametric
import PageMarkup.Proofs.Render.Refinement

/-!
# Where an unknown type comes from

A run without hooks ends with an unknown type only because of an entry that it reaches: one whose
type is this one, and names no component. No other step of a run fails in this way.

## Main definitions

* `Render.RejectsOnly` : a step rejects some types only.
* `LeadsToUnknown` : an entry of unknown type is reached from another one.

## Main results

* `rejectsOnly_serialize`, `rejectsOnly_renderElement` : values under fields, and nodes.
* `rejectsOnly_renderWithin`, `rejectsOnly_renderer` : nodes within some levels, and at a depth.
-/

namespace PageMarkup

/-! ### Requests -/

namespace ImportTable

theorem registerDefault_ne_unknownType (t : ImportTable) (path name type : Value) :
    t.registerDefault path name ≠ .error (.unknownType type) := by
  unfold registerDefault
  dsimp only
  split
  · simp
  · split <;> simp

theorem registerNamed_ne_unknownType (t : ImportTable) (path name rename type : Value) :
    t.registerNamed path name rename ≠ .error (.unknownType type) := by
  unfold registerNamed
  dsimp only
  split
  · simp
  · split
    · simp [misused]
    · split
      · split <;> simp
      · simp

theorem registerAll_ne_unknownType (specs : List ImportSpec) (t : ImportTable) (type : Value) :
    (t.registerAll specs).1 ≠ .error (.unknownType type) := by
  induction specs generalizing t with
  | nil => simp [registerAll]
  | cons spec specs ih =>
    have hfirst : t.register spec ≠ .error (.unknownType type) := by
      unfold register
      split
      · simp [misused]
      · split
        · exact registerDefault_ne_unknownType t _ _ type
        · exact registerNamed_ne_unknownType t _ _ _ type
    unfold registerAll
    cases hspec : t.register spec with
    | ok t' => exact ih t'
    | error f =>
      rw [hspec] at hfirst
      simpa using hfirst

end ImportTable

namespace Render

variable {α β : Type} {P : Value → Prop}

/-- A step fails for an unknown type only if it is one of some types. -/
def RejectsOnly (P : Value → Prop) (r : Render α) : Prop :=
  ∀ st type st', r.outcome st = (.error (.unknownType type), st') → P type

namespace RejectsOnly

theorem pure (a : α) : RejectsOnly P (Pure.pure a : Render α) := by
  intro st type st' h
  cases h

theorem fail {f : Fault} (h : ∀ type, f = .unknownType type → P type) :
    RejectsOnly P (Render.fail f : Render α) := by
  intro st type st' hf
  cases hf
  exact h type rfl

theorem fail_bind {f : Fault} (h : ∀ type, f = .unknownType type → P type) (k : α → Render β) :
    RejectsOnly P (Render.fail f >>= k) := by
  intro st type st' hf
  cases hf
  exact h type rfl

theorem ofMisuse (r : Except Misuse α) : RejectsOnly P (Render.ofMisuse r) := by
  cases r with
  | ok a => exact pure a
  | error how => exact fail (by simp)

theorem register (specs : List ImportSpec) : RejectsOnly P (Render.register specs) := by
  intro st type st' h
  have hmeets := Meets.register specs st
  have hne := ImportTable.registerAll_ne_unknownType specs st.imports type
  rw [h] at hmeets
  cases hall : st.imports.registerAll specs with
  | mk result t =>
    rw [hall] at hmeets hne
    cases result with
    | ok u => cases hmeets
    | error f =>
      simp only [Prod.mk.injEq, Except.error.injEq] at hmeets
      exact absurd (congrArg Except.error hmeets.1.symm) hne

theorem bind_of {r : Render α} (h : RejectsOnly P r) {post : α → Prop}
    (hpost : ∀ st a st', r.outcome st = (.ok a, st') → post a) {k : α → Render β}
    (h' : ∀ a, post a → RejectsOnly P (k a)) : RejectsOnly P (r >>= k) := by
  intro st type st' hrun
  rw [outcome_bind] at hrun
  cases hr : r.outcome st with
  | mk result mid =>
    rw [hr] at hrun
    cases result with
    | ok a => exact h' a (hpost st a mid hr) mid type st' hrun
    | error f =>
      simp only [Prod.mk.injEq, Except.error.injEq] at hrun
      exact h st type mid (hrun.1 ▸ hr)

theorem bind {r : Render α} (h : RejectsOnly P r) {k : α → Render β}
    (h' : ∀ a, RejectsOnly P (k a)) : RejectsOnly P (r >>= k) :=
  h.bind_of (fun _ _ _ _ => trivial) fun a (_ : True) => h' a

theorem map {r : Render α} (h : RejectsOnly P r) (g : α → β) : RejectsOnly P (g <$> r) := by
  rw [map_eq_pure_bind]
  exact h.bind fun a => pure (g a)

theorem mono {r : Render α} (h : RejectsOnly P r) {P' : Value → Prop}
    (himp : ∀ type, P type → P' type) : RejectsOnly P' r :=
  fun st type st' hr => himp type (h st type st' hr)

theorem isSequential (P : Value → Prop) : IsSequential fun _ r _ => RejectsOnly P r where
  ofMisuse := ofMisuse
  bind h h' := h.bind h'

end RejectsOnly

end Render

open Render (RejectsOnly)

variable {table : ComponentTable} {settings : Settings} {render : NodeRenderer} {depth : Int}
  {P : Value → Prop}

/-- A level rejects some types only, for each of some entries. -/
def RejectsOnlyFor (P : Value → Prop) (level : LevelRenderer) (vs : List Value) : Prop :=
  ∀ v ∈ vs, ∀ place, RejectsOnly P (level v place)

theorem RejectsOnlyFor.relatedFor {level : LevelRenderer} {vs : List Value}
    (h : RejectsOnlyFor P level vs) :
    RelatedFor (fun _ r _ => RejectsOnly P r) level level vs :=
  h

theorem rejectsOnly_renderSiblings {level : LevelRenderer} (counted : Bool) {vs : List Value}
    (h : RejectsOnlyFor P level vs) : RejectsOnly P (renderSiblings level counted vs) :=
  related_renderSiblings (RejectsOnly.isSequential P) counted h.relatedFor

/-- A value under a field is rejected only for the entries that are reached inside it. -/
theorem rejectsOnly_serialize (counted : Bool) (field : Option Field) (v : Value)
    (h : RejectsOnlyFor P (render (depth + 1)) (nestedNodes field v)) :
    RejectsOnly P (serialize render depth counted field v) :=
  related_serialize (RejectsOnly.isSequential P) Field.IsBisimulation.eq counted
    (optionRel_refl (fun _ => rfl) field) v h.relatedFor

/-! ### The properties of a node -/

theorem rejectsOnly_renderSlots (counted : Bool) {c : Component} (stripped : List Value)
    {props : Entries Value} (htext : ∀ name ∈ c.slotNames, name.isStr = true)
    (h : RejectsOnlyFor P (render (depth + 1)) (nodesBelow c stripped props)) :
    RejectsOnly P (renderSlots render depth counted c props) := by
  have hslot : ∀ name ∈ c.slotNames, RejectsOnlyFor P (render (depth + 1)) (slotNodes props name) :=
    fun name hname v hv =>
      h v (mem_nodesBelow_iff.mpr (exists_entryNodes_of_slotNodes stripped htext hname hv))
  exact related_renderSlots (RejectsOnly.isSequential P) counted fun name hname =>
    (hslot name hname).relatedFor

theorem keys_of_renderSlots {counted : Bool} {c : Component} {props : Entries Value}
    {st st' : RunState} {slots : Entries (Option Markup)}
    (h : (renderSlots render depth counted c props).outcome st = (.ok slots, st')) :
    slots.keys = c.slotNames := by
  unfold renderSlots at h
  generalize c.slotNames = names at h ⊢
  induction names generalizing st slots with
  | nil =>
    cases h
    rfl
  | cons name names ih =>
    rw [List.mapM_cons] at h
    obtain ⟨e, mid, he, hrest⟩ := Render.outcome_bind_ok h
    obtain ⟨m, mid', hm, hpair⟩ := Render.outcome_bind_ok he
    obtain ⟨rest, mid'', hslots, hcons⟩ := Render.outcome_bind_ok hrest
    cases hpair
    cases hcons
    exact congrArg (name :: ·) (ih hslots)

theorem rejectsOnly_assemble (counted : Bool) (c : Component) {written : Entries Sourced}
    (h : ∀ e ∈ written, ∀ counted,
      RejectsOnly P (serialize render depth counted (c.field? (e.2.source.getD e.1)) e.2.value)) :
    RejectsOnly P (assemble render depth counted c written) :=
  @related_assemble _ (RejectsOnly.isSequential P) render render depth depth counted c c written h

/-! ### Nodes -/

/-- A component without a hook, whose fields are named by texts and whose omitted names can serve as
keys. -/
structure Component.IsHookFree (c : Component) : Prop where
  hook : c.hook = none
  fields : c.fields.HasTextKeys
  omitted : c.omitted.all Value.hashable = true

theorem Component.IsHookFree.strippedNames_eq {c : Component} (h : c.IsHookFree)
    (settings : Settings) : ∃ stripped, strippedNames c settings = .ok stripped :=
  ⟨_, if_pos h.omitted⟩

/-- A node is rejected only for what hangs below it, once its component is known. -/
theorem rejectsOnly_renderElement {c : Component} (hfree : c.IsHookFree) {type node : Value}
    (hc : nodeComponent? table node = some (type, c)) (hskip : c.skip = false) (place : Place)
    (h : ∀ w, HangsBelow table settings node w →
      ∀ place, RejectsOnly P (render (depth + 1) w place)) :
    RejectsOnly P (renderElement settings render depth c type node place) := by
  obtain ⟨stripped, hstripped⟩ := hfree.strippedNames_eq settings
  unfold renderElement
  cases hprops : ownProps node with
  | error how => exact .fail_bind (by simp) _
  | ok props =>
    rw [Render.ofMisuse_ok, pure_bind]
    have hbelow : RejectsOnlyFor P (render (depth + 1)) (nodesBelow c stripped props) := fun w hw =>
      h w ((hangsBelow_iff hc hskip hprops hstripped).mpr hw)
    have htext := Component.isStr_slotNames hfree.fields
    refine (rejectsOnly_renderSlots _ stripped htext hbelow).bind_of
      (fun _ _ _ => keys_of_renderSlots) fun slots hslots => ?_
    rw [hstripped, Render.ofMisuse_ok, pure_bind, mapProps, hfree.hook]
    refine (rejectsOnly_assemble _ c ?_).bind fun _ => (RejectsOnly.ofMisuse _).bind fun _ =>
      (RejectsOnly.register _).bind fun _ => (RejectsOnly.ofMisuse _).bind fun _ => .pure _
    intro e he counted
    obtain ⟨p, hp, ⟨⟨name, m⟩, -, rfl⟩ | ⟨hslot, hstripped, rfl⟩⟩ := mem_unhookedProps he
    · cases m <;> exact .pure _
    · refine rejectsOnly_serialize _ _ _ fun w hw => hbelow w (mem_nodesBelow_iff.mpr ⟨p, hp, ?_⟩)
      have hnoslot : nameIn p.1 c.slotNames = false := by
        rw [← hslots, ← Entries.isSome_find?_eq_nameIn, hslot]
        rfl
      simpa [entryNodes, hnoslot, hstripped] using hw

/-- An entry of the given type, which names no component, is reached from another one. -/
def LeadsToUnknown (table : ComponentTable) (settings : Settings) (v type : Value) : Prop :=
  ∃ d w, Reaches table settings d v w ∧ w.get? "type" = some type ∧ table.component? type = none

/-- A node is rejected only for entries of unknown type that it leads to, if this is so one level
deeper. -/
theorem rejectsOnly_renderTyped (hfree : ∀ e ∈ table, e.2.IsHookFree)
    (ih : ∀ v place, RejectsOnly (LeadsToUnknown table settings v) (render (depth + 1) v place))
    (v : Value) (place : Place) :
    RejectsOnly (LeadsToUnknown table settings v)
      (renderTyped table settings render depth v place) := by
  cases htype : v.get? "type" with
  | none =>
    simp only [renderTyped, htype]
    exact .fail (by simp)
  | some type =>
    cases hcomponent : table.component? type with
    | none =>
      simp only [renderTyped, htype, hcomponent]
      refine .fail fun type' h => ?_
      cases h
      exact ⟨0, v, .refl v, htype, hcomponent⟩
    | some c =>
      have hc := nodeComponent?_eq_some_iff.mpr ⟨htype, hcomponent⟩
      rw [renderTyped_of_some hc]
      cases hskip : c.skip with
      | true => exact .pure none
      | false =>
        have hcfree := hfree _ (mem_of_nodeComponent? hc).2
        refine (rejectsOnly_renderElement hcfree hc hskip place fun w hw place => ?_).map some
        refine (ih w place).mono fun type' => ?_
        rintro ⟨d, x, hx, hunknown⟩
        exact ⟨d + 1, x, .step hw hx, hunknown⟩

/-- Within some levels, a node is rejected only for entries of unknown type that it leads to. -/
theorem rejectsOnly_renderWithin (hfree : ∀ e ∈ table, e.2.IsHookFree) (n : Nat) (depth : Int)
    (v : Value) (place : Place) :
    RejectsOnly (LeadsToUnknown table settings v)
      (renderWithin table settings n depth v place) := by
  induction n generalizing depth v place with
  | zero => exact .fail (by simp)
  | succ n ih =>
    rw [renderWithin, renderNode]
    refine (RejectsOnly.ofMisuse _).bind fun beyond => ?_
    split
    · exact .fail (by simp)
    · exact rejectsOnly_renderTyped hfree (ih (depth + 1)) v place

/-- At a depth, a node is rejected only for entries of unknown type that it leads to. -/
theorem rejectsOnly_renderer (hfree : ∀ e ∈ table, e.2.IsHookFree) (depth : Int) (v : Value)
    (place : Place) :
    RejectsOnly (LeadsToUnknown table settings v) (renderer table settings depth v place) :=
  rejectsOnly_renderWithin hfree _ depth v place

end PageMarkup
