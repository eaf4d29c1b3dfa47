import PageMarkup.Proofs.Render.Levels
import PageMarkup.Proofs.Render.Refinement

/-!
# Edits that the markup does not show

Much of a document never reaches the markup: the bookkeeping of the editor, the properties that a
component leaves out, and whole nodes of skipped types. An edit changes such parts anywhere in the
slots of a document. The run on an edited document is compared with the run before, step by step and
with arbitrary hooks: where the first succeeds, the second has the same markup and meets the same
requests.

An edit leaves one place alone. A slot that is named like the id of a node is its key too, with all
that stands in it, so its nodes are edited only if siblings get no keys.

## Main definitions

* `Hidden` : the names under which a node may hold anything.
* `NodeEdit`, `PropsEdit`, `NodesEdit` : edits of a node, of its properties and of a sequence of
  nodes.

## Main results

* `PropsEdit.plainProps_eq`, `PropsEdit.unhookedProps_eq`, `PropsEdit.find?_slot`,
  `PropsEdit.find?_id` : what a node reads of its properties.
* `refines_renderElement` : the element of an edited node.
* `refines_renderWithin`, `refines_renderer` : edited nodes within some levels, and at a depth.
* `NodesEdit.symm` : an edit that removes nothing can be undone.
-/

namespace PageMarkup

open Render (Refines)

/-! ### Look-ups -/

namespace Entries

variable {α β : Type}

theorem find?_map_value (f : Value → α → β) (es : Entries α) (s : String) :
    find? (es.map fun e => (e.1, f e.1 e.2)) (.str s) =
      (es.find? (.str s)).map (f (.str s)) := by
  induction es with
  | nil => rfl
  | cons e es ih =>
    rw [List.map_cons, find?_cons, find?_cons]
    by_cases hsame : e.1.same (.str s) = true
    · rw [if_pos hsame, if_pos hsame, Value.same_str_iff.mp hsame]
      rfl
    · rw [if_neg hsame, if_neg hsame]
      exact ih

end Entries

/-- What is found under a text after values have been appended depends only on what was found
before. -/
theorem find?_appendItems_congr {ps qs : Entries Value} {s : String}
    (h : ps.find? (.str s) = qs.find? (.str s)) (appended : List (Value × Value)) :
    (appendItems ps appended).find? (.str s) = (appendItems qs appended).find? (.str s) := by
  induction appended generalizing ps qs with
  | nil => exact h
  | cons a appended ih =>
    let grow : Value → Value → Value := fun name v => if name.same a.1 then v.append a.2 else v
    have hgrow : ∀ es : Entries Value,
        (es.map fun e => if e.1.same a.1 then (e.1, e.2.append a.2) else e) =
          es.map fun e => (e.1, grow e.1 e.2) := by
      intro es
      refine List.map_congr_left fun e _ => ?_
      cases hsame : e.1.same a.1 <;> simp [grow, hsame]
    have hstep : ∀ es : Entries Value, appendItems es (a :: appended) =
        appendItems (es.map fun e => (e.1, grow e.1 e.2)) appended := fun es => by
      rw [← hgrow]
      rfl
    rw [hstep, hstep]
    exact ih (by rw [Entries.find?_map_value, Entries.find?_map_value, h])

/-! ### Edits -/

/-- The names that are dropped from the properties of a component's nodes. -/
def droppedNames (c : Component) (settings : Settings) : List Value :=
  internalNames ++ c.omitted ++ if settings.preserveIds.truthy then [] else [idName]

theorem strippedNames_eq_ok {c : Component} {settings : Settings} {stripped : List Value}
    (h : strippedNames c settings = .ok stripped) : stripped = droppedNames c settings := by
  unfold strippedNames at h
  split at h
  · exact (Except.ok.inj h).symm
  · cases h

/-- A name under which a node may hold anything: it is dropped and no slot, and siblings get no keys
if it is the id. -/
structure Hidden (settings : Settings) (c : Component) (name : Value) : Prop where
  dropped : nameIn name (droppedNames c settings) = true
  noSlot : ∀ slot ∈ c.slotNames, slot.same name = false ∧ name.same slot = false
  noKey : name = idName → settings.listKeys.truthy = false

section

variable (table : ComponentTable) (settings : Settings) (removable : Value → Prop)

mutual

/-- An edit of a node: removable nodes take the place of one another, and what a node holds as
properties is edited. -/
inductive NodeEdit : Value → Value → Prop
  | refl (v : Value) : NodeEdit v v
  | replace {v w : Value} (hv : removable v) (hw : removable w) : NodeEdit v w
  | inside {v w type : Value} {c : Component} {ps qs : Entries Value}
      (hv : nodeComponent? table v = some (type, c)) (hw : nodeComponent? table w = some (type, c))
      (hps : ownProps v = .ok ps) (hqs : ownProps w = .ok qs) (h : PropsEdit c ps qs) :
      NodeEdit v w

/-- An edit of the properties of a node: hidden ones come, go and change, and the nodes of slots are
edited. -/
inductive PropsEdit : Component → Entries Value → Entries Value → Prop
  | nil (c : Component) : PropsEdit c [] []
  | keep {c : Component} {ps qs : Entries Value} (e : Value × Value) (h : PropsEdit c ps qs) :
      PropsEdit c (e :: ps) (e :: qs)
  | slot {c : Component} {name v w : Value} {xs ys : List Value} {ps qs : Entries Value}
      (hslot : nameIn name c.slotNames = true)
      (hkey : name = idName → settings.listKeys.truthy = false)
      (hv : v.items? = some xs) (hw : w.items? = some ys)
      (hnodes : NodesEdit (decide (1 < ys.length)) xs ys) (h : PropsEdit c ps qs) :
      PropsEdit c ((name, v) :: ps) ((name, w) :: qs)
  | left {c : Component} {name : Value} {ps qs : Entries Value} (v : Value)
      (hhidden : Hidden settings c name) (h : PropsEdit c ps qs) :
      PropsEdit c ((name, v) :: ps) qs
  | right {c : Component} {name : Value} {ps qs : Entries Value} (v : Value)
      (hhidden : Hidden settings c name) (h : PropsEdit c ps qs) :
      PropsEdit c ps ((name, v) :: qs)

/-- An edit of a sequence, after which it has several nodes or not: its nodes are edited, and
removable ones removed, if siblings get no keys or there are still several nodes. -/
inductive NodesEdit : Bool → List Value → List Value → Prop
  | nil (several : Bool) : NodesEdit several [] []
  | cons {several : Bool} {v w : Value} {vs ws : List Value} (h : NodeEdit v w)
      (h' : NodesEdit several vs ws) : NodesEdit several (v :: vs) (w :: ws)
  | remove {several : Bool} {v : Value} {vs ws : List Value} (h : removable v)
      (hkeys : settings.listKeys.truthy = true → several = true)
      (h' : NodesEdit several vs ws) : NodesEdit several (v :: vs) ws

end

end

variable {table : ComponentTable} {settings : Settings} {removable : Value → Prop}

theorem PropsEdit.refl (c : Component) (ps : Entries Value) :
    PropsEdit table settings removable c ps ps := by
  induction ps with
  | nil => exact .nil c
  | cons e ps ih => exact .keep e ih

mutual

theorem NodeEdit.symm {v w : Value} (h : NodeEdit table settings (fun _ => False) v w) :
    NodeEdit table settings (fun _ => False) w v :=
  match h with
  | .refl v => .refl v
  | .replace hv hw => .replace hw hv
  | .inside hv hw hps hqs h => .inside hw hv hqs hps h.symm

theorem PropsEdit.symm {c : Component} {ps qs : Entries Value}
    (h : PropsEdit table settings (fun _ => False) c ps qs) :
    PropsEdit table settings (fun _ => False) c qs ps :=
  match h with
  | .nil c => .nil c
  | .keep e h => .keep e h.symm
  | .slot hslot hkey hv hw hnodes h => .slot hslot hkey hw hv (hnodes.symm _) h.symm
  | .left v hhidden h => .right v hhidden h.symm
  | .right v hhidden h => .left v hhidden h.symm

/-- An edit of a sequence that removes nothing can be undone. -/
theorem NodesEdit.symm {several : Bool} {vs ws : List Value}
    (h : NodesEdit table settings (fun _ => False) several vs ws) (several' : Bool) :
    NodesEdit table settings (fun _ => False) several' ws vs :=
  match h with
  | .nil _ => .nil _
  | .cons h h' => .cons h.symm (h'.symm _)
  | .remove hfalse _ _ => hfalse.elim

end

/-- A sequence gets no longer, and if siblings get keys, then it keeps its length unless it has
several nodes afterwards. -/
theorem NodesEdit.length_le {several : Bool} {vs ws : List Value}
    (h : NodesEdit table settings removable several vs ws)
    (hkeys : settings.listKeys.truthy = true) :
    ws.length ≤ vs.length ∧ (several = false → vs.length = ws.length) := by
  induction vs generalizing ws with
  | nil =>
    cases h
    exact ⟨Nat.le_refl _, fun _ => rfl⟩
  | cons v vs ih =>
    cases h with
    | cons _ h' =>
      obtain ⟨hle, heq⟩ := ih h'
      exact ⟨Nat.succ_le_succ hle, fun hfalse => congrArg Nat.succ (heq hfalse)⟩
    | remove _ hseveral h' =>
      refine ⟨Nat.le_succ_of_le (ih h').1, fun hfalse => ?_⟩
      exact absurd (hfalse.symm.trans (hseveral hkeys)) Bool.false_ne_true

theorem NodesEdit.several_iff {vs ws : List Value}
    (h : NodesEdit table settings removable (decide (1 < ws.length)) vs ws)
    (hkeys : settings.listKeys.truthy = true) :
    decide (1 < vs.length) = decide (1 < ws.length) := by
  obtain ⟨hle, heq⟩ := h.length_le hkeys
  by_cases hmany : 1 < ws.length
  · rw [decide_eq_true hmany, decide_eq_true (Nat.lt_of_lt_of_le hmany hle)]
  · rw [heq (decide_eq_false hmany)]

/-! ### What a node reads of its properties -/

theorem Hidden.nameIn_slotNames {c : Component} {name : Value} (h : Hidden settings c name) :
    nameIn name c.slotNames = false := by
  rw [nameIn, List.any_eq_false]
  exact fun slot hslot => Bool.eq_false_iff.mp (h.noSlot slot hslot).1

namespace PropsEdit

private theorem plainProps_cons (c : Component) (stripped : List Value) (e : Value × Value)
    (ps : Entries Value) : plainProps c stripped (e :: ps) =
      if nameIn e.1 c.slotNames || nameIn e.1 stripped then plainProps c stripped ps
      else e :: plainProps c stripped ps := by
  unfold plainProps
  by_cases hslot : nameIn e.1 c.slotNames = true
  · simp [hslot]
  · by_cases hstripped : nameIn e.1 stripped = true <;> simp [hslot, hstripped]

/-- A hook is given the same properties. -/
theorem plainProps_eq {c : Component} {ps qs : Entries Value}
    (h : PropsEdit table settings removable c ps qs) :
    plainProps c (droppedNames c settings) ps = plainProps c (droppedNames c settings) qs := by
  match h with
  | .nil _ => rfl
  | .keep e h => rw [plainProps_cons, plainProps_cons, h.plainProps_eq]
  | .slot hslot _ _ _ _ h =>
    rw [plainProps_cons, plainProps_cons, hslot]
    exact h.plainProps_eq
  | .left v hhidden h =>
    rw [plainProps_cons, hhidden.dropped, Bool.or_true]
    exact h.plainProps_eq
  | .right v hhidden h =>
    rw [plainProps_cons, hhidden.dropped, Bool.or_true]
    exact h.plainProps_eq

private theorem exists_find?_of_nameIn {names : List Value} {slots : Entries (Option Markup)}
    (hslots : slots.keys = names) {name : Value} (hname : nameIn name names = true) :
    ∃ m, slots.find? name = some m := by
  rw [← Option.isSome_iff_exists, Entries.isSome_find?_eq_nameIn, hslots, hname]

private theorem unhookedProps_cons_hidden {c : Component} {name : Value}
    (hhidden : Hidden settings c name) (v : Value) (es : Entries Value)
    {slots : Entries (Option Markup)} (hslots : slots.keys = c.slotNames) :
    unhookedProps (droppedNames c settings) ((name, v) :: es) slots =
      unhookedProps (droppedNames c settings) es slots := by
  have hnone : slots.find? name = none := by
    rw [← Option.not_isSome_iff_eq_none, Entries.isSome_find?_eq_nameIn, hslots,
      hhidden.nameIn_slotNames]
    exact Bool.false_ne_true
  rw [unhookedProps_cons, hnone, hhidden.dropped]
  rfl

/-- A node without a hook writes the same. -/
theorem unhookedProps_eq {c : Component} {ps qs : Entries Value}
    (h : PropsEdit table settings removable c ps qs) {slots : Entries (Option Markup)}
    (hslots : slots.keys = c.slotNames) :
    unhookedProps (droppedNames c settings) ps slots =
      unhookedProps (droppedNames c settings) qs slots := by
  match h with
  | .nil _ => rfl
  | .keep e h =>
    rw [unhookedProps_cons, unhookedProps_cons, h.unhookedProps_eq hslots]
  | .slot hslot _ _ _ _ h =>
    -- a slot is written by its markup, whatever its nodes are
    obtain ⟨m, hm⟩ := exists_find?_of_nameIn hslots hslot
    rw [unhookedProps_cons, unhookedProps_cons, hm, h.unhookedProps_eq hslots]
  | .left v hhidden h =>
    rw [unhookedProps_cons_hidden hhidden v _ hslots]
    exact h.unhookedProps_eq hslots
  | .right v hhidden h =>
    rw [unhookedProps_cons_hidden hhidden v _ hslots]
    exact h.unhookedProps_eq hslots

/-- Under the name of a slot stands the same as before, or an edited sequence. -/
theorem find?_slot {c : Component} {ps qs : Entries Value}
    (h : PropsEdit table settings removable c ps qs) {slot : Value} (hslot : slot ∈ c.slotNames) :
    ps.find? slot = qs.find? slot ∨ ∃ v w xs ys, ps.find? slot = some v ∧ qs.find? slot = some w ∧
      v.items? = some xs ∧ w.items? = some ys ∧
      NodesEdit table settings removable (decide (1 < ys.length)) xs ys := by
  match h with
  | .nil _ => exact .inl rfl
  | .keep e h =>
    rw [Entries.find?_cons, Entries.find?_cons]
    split
    · exact .inl rfl
    · exact h.find?_slot hslot
  | .slot _ _ hv hw hnodes h =>
    rw [Entries.find?_cons, Entries.find?_cons]
    split
    · exact .inr ⟨_, _, _, _, rfl, rfl, hv, hw, hnodes⟩
    · exact h.find?_slot hslot
  | .left v hhidden h =>
    rw [Entries.find?_cons, (hhidden.noSlot slot hslot).2]
    exact h.find?_slot hslot
  | .right v hhidden h =>
    rw [Entries.find?_cons, (hhidden.noSlot slot hslot).2]
    exact h.find?_slot hslot

/-- The id is the same if siblings get keys. -/
theorem find?_id {c : Component} {ps qs : Entries Value}
    (h : PropsEdit table settings removable c ps qs) (hkeys : settings.listKeys.truthy = true) :
    ps.find? idName = qs.find? idName := by
  have hother : ∀ {name : Value}, (name = idName → settings.listKeys.truthy = false) →
      name.same idName = false := by
    intro name hname
    rw [← Bool.not_eq_true]
    exact fun hsame => Bool.false_ne_true ((hname (Value.same_str_iff.mp hsame)).symm.trans hkeys)
  match h with
  | .nil _ => rfl
  | .keep e h => rw [Entries.find?_cons, Entries.find?_cons, h.find?_id hkeys]
  | .slot _ hkey _ _ _ h =>
    rw [Entries.find?_cons, Entries.find?_cons, hother hkey, h.find?_id hkeys]
    rfl
  | .left v hhidden h =>
    rw [Entries.find?_cons, hother hhidden.noKey]
    exact h.find?_id hkeys
  | .right v hhidden h =>
    rw [Entries.find?_cons, hother hhidden.noKey]
    exact h.find?_id hkeys

end PropsEdit

/-! ### The element of an edited node -/

/-- Two places that a node does not tell apart: only if siblings get keys does it matter whether it
has any. -/
structure Place.Alike (settings : Settings) (place place' : Place) : Prop where
  counted : place.counted = place'.counted
  listItem : settings.listKeys.truthy = true → place.listItem = place'.listItem

/-- A level has the same markup for edited nodes. -/
def RefinesEdits (table : ComponentTable) (settings : Settings) (removable : Value → Prop)
    (level : LevelRenderer) : Prop :=
  ∀ v w, NodeEdit table settings removable v w → ∀ place place', place.Alike settings place' →
    Refines Eq (level v place) (level w place')

def IsSkipped (table : ComponentTable) (v : Value) : Prop :=
  ∃ type c, nodeComponent? table v = some (type, c) ∧ c.skip = true

theorem not_isSkipped {table : ComponentTable} {v type : Value} {c : Component}
    (hc : nodeComponent? table v = some (type, c)) (hskip : c.skip = false) :
    ¬ IsSkipped table v := by
  rintro ⟨type', c', hc', hskip'⟩
  obtain ⟨-, rfl⟩ := nodeComponent?_inj hc hc'
  exact Bool.false_ne_true (hskip.symm.trans hskip')

/-- A level has no markup for removable nodes, and leaves the state as it is. -/
def PassesOver (removable : Value → Prop) (level : LevelRenderer) : Prop :=
  ∀ v, removable v → ∀ place, Refines (fun m (_ : Unit) => m = none) (level v place) (pure ())

/-- What an edited node writes, and its properties afterwards: those of before and after the edit,
with the same values appended. -/
theorem refines_mapProps {c : Component} {stripped : List Value} (counted : Bool)
    {ps qs : Entries Value} {slots : Entries (Option Markup)}
    (hplain : plainProps c stripped ps = plainProps c stripped qs)
    (hunhooked : unhookedProps stripped ps slots = unhookedProps stripped qs slots) :
    Refines (fun a b => a.1 = b.1 ∧
        ∃ appended, a.2 = appendItems ps appended ∧ b.2 = appendItems qs appended)
      (mapProps c stripped counted ps slots) (mapProps c stripped counted qs slots) := by
  unfold mapProps
  cases c.hook with
  | none => exact .pure ⟨hunhooked, [], rfl, rfl⟩
  | some hook =>
    simp only [hplain]
    refine .bind_same _ fun outcome => ?_
    have hrest : ∀ written : Except Misuse (Entries Sourced), Refines (fun a b => a.1 = b.1 ∧
        ∃ appended, a.2 = appendItems ps appended ∧ b.2 = appendItems qs appended)
      (do return (← Render.ofMisuse written, appendItems ps outcome.appended))
      (do return (← Render.ofMisuse written, appendItems qs outcome.appended)) := fun _ =>
      .bind_same _ fun _ => .pure ⟨rfl, outcome.appended, rfl, rfl⟩
    split
    · exact .bind_same _ fun _ => hrest _
    · exact hrest _

section

variable {level : LevelRenderer} (hedits : RefinesEdits table settings removable level)
  (hpasses : PassesOver removable level)

include hedits hpasses

private theorem refines_mapM_nodes {several : Bool} {vs ws : List Value}
    (h : NodesEdit table settings removable several vs ws) {place place' : Place}
    (halike : place.Alike settings place') :
    Refines (fun rs ss => rs.filterMap id = ss.filterMap id)
      (vs.mapM fun v => level v place) (ws.mapM fun w => level w place') := by
  induction vs generalizing ws with
  | nil =>
    cases h
    exact .pure rfl
  | cons v vs ih =>
    rw [List.mapM_cons]
    cases h with
    | cons h h' =>
      rw [List.mapM_cons]
      refine (hedits _ _ h place place' halike).bind fun m m' hm => ?_
      refine (ih h').bind fun rs ss hrs => .pure ?_
      rw [List.filterMap_cons, List.filterMap_cons, hm, hrs]
    | remove hremovable _ h' =>
      refine (hpasses v hremovable place).drop_left fun m hm => ?_
      rw [← bind_pure (ws.mapM fun w => level w place')]
      refine (ih h').bind fun rs ss hrs => .pure ?_
      rw [hm]
      exact hrs

theorem refines_renderSiblings (counted : Bool) {vs ws : List Value}
    (h : NodesEdit table settings removable (decide (1 < ws.length)) vs ws) :
    Refines Eq (renderSiblings level counted vs) (renderSiblings level counted ws) := by
  have halike : Place.Alike settings ⟨1 < vs.length, counted⟩ ⟨1 < ws.length, counted⟩ :=
    ⟨rfl, h.several_iff⟩
  have hnodes := refines_mapM_nodes hedits hpasses h halike
  exact hnodes.bind fun rs ss hrs => .pure (congrArg Markup.group hrs)

end

section

variable {render : NodeRenderer} {depth : Int}
  (hedits : RefinesEdits table settings removable (render (depth + 1)))
  (hpasses : PassesOver removable (render (depth + 1)))

include hedits hpasses

theorem refines_renderSlots (counted : Bool) {c : Component} {ps qs : Entries Value}
    (h : PropsEdit table settings removable c ps qs) :
    Refines (fun slots slots' => slots = slots' ∧ slots.keys = c.slotNames)
      (renderSlots render depth counted c ps) (renderSlots render depth counted c qs) := by
  have hvalue : ∀ name ∈ c.slotNames, Refines Eq
      (renderSlotValue render depth counted ((ps.find? name).getD .null))
      (renderSlotValue render depth counted ((qs.find? name).getD .null)) := by
    intro name hname
    rcases h.find?_slot hname with heq | ⟨v, w, xs, ys, hv, hw, hxs, hys, hnodes⟩
    · rw [heq]
      exact .refl (fun _ => rfl) _
    · simp only [hv, hw, Option.getD_some, renderSlotValue, hxs, hys]
      exact refines_renderSiblings hedits hpasses counted hnodes
  unfold renderSlots
  generalize c.slotNames = names at hvalue
  induction names with
  | nil => exact .pure ⟨rfl, rfl⟩
  | cons name names ih =>
    rw [List.forall_mem_cons] at hvalue
    rw [List.mapM_cons, List.mapM_cons, bind_assoc, bind_assoc]
    refine hvalue.1.bind fun m m' hm => ?_
    rw [pure_bind, pure_bind]
    refine (ih hvalue.2).bind fun rest rest' hrest => .pure ?_
    exact ⟨by rw [hm, hrest.1], congrArg (name :: ·) hrest.2⟩

/-- The element of an edited node. -/
theorem refines_renderElement {c : Component} {ps qs : Entries Value} {v w : Value}
    (hps : ownProps v = .ok ps) (hqs : ownProps w = .ok qs)
    (h : PropsEdit table settings removable c ps qs) (type : Value) {place place' : Place}
    (halike : place.Alike settings place') :
    Refines Eq (renderElement settings render depth c type v place)
      (renderElement settings render depth c type w place') := by
  unfold renderElement
  rw [hps, hqs, Render.ofMisuse_ok, Render.ofMisuse_ok, pure_bind, pure_bind, halike.counted]
  refine (refines_renderSlots hedits hpasses _ h).bind ?_
  rintro slots _ ⟨rfl, hslots⟩
  cases hstripped : strippedNames c settings with
  | error how => exact .fail _ _
  | ok stripped =>
    obtain rfl := strippedNames_eq_ok hstripped
    rw [Render.ofMisuse_ok, pure_bind, pure_bind]
    refine (refines_mapProps _ h.plainProps_eq (h.unhookedProps_eq hslots)).bind ?_
    rintro ⟨written, ps'⟩ ⟨_, qs'⟩ ⟨rfl, appended, rfl, rfl⟩
    have hid : settings.listKeys.truthy = true →
        (appendItems ps appended).find? idName = (appendItems qs appended).find? idName :=
      fun hkeys => find?_appendItems_congr (h.find?_id hkeys) appended
    refine .bind_same _ fun r => .bind_same _ fun bound => .bind_same _ fun _ => ?_
    have hattributes : itemAttributes settings place.listItem r.1
          (((appendItems ps appended).find? idName).getD .null) =
        itemAttributes settings place'.listItem r.1
          (((appendItems qs appended).find? idName).getD .null) := by
      unfold itemAttributes
      cases hkeys : settings.listKeys.truthy with
      | true => rw [halike.listItem hkeys, hid hkeys]
      | false => rw [Bool.and_false, Bool.and_false, if_neg Bool.false_ne_true,
          if_neg Bool.false_ne_true]
    dsimp only
    rw [hattributes]
    exact .refl (fun _ => rfl) _

private theorem refines_renderTyped_inside {c : Component} {ps qs : Entries Value}
    {v w type : Value}
    (hv : nodeComponent? table v = some (type, c)) (hw : nodeComponent? table w = some (type, c))
    (hps : ownProps v = .ok ps) (hqs : ownProps w = .ok qs)
    (h : PropsEdit table settings removable c ps qs) {place place' : Place}
    (halike : place.Alike settings place') :
    Refines Eq (renderTyped table settings render depth v place)
      (renderTyped table settings render depth w place') := by
  rw [renderTyped_of_some hv, renderTyped_of_some hw]
  split
  · exact .pure rfl
  · exact (refines_renderElement hedits hpasses hps hqs h type halike).map
      fun _ _ heq => congrArg some heq

theorem refines_renderTyped (hskip : ∀ v, removable v → IsSkipped table v) :
    RefinesEdits table settings removable (renderTyped table settings render depth) := by
  intro v w h place place' halike
  cases h with
  | refl =>
    cases hc : nodeComponent? table v with
    | none =>
      obtain ⟨f, hf⟩ := renderTyped_of_none settings render depth hc place
      rw [hf]
      exact .fail f _
    | some found =>
      cases hprops : ownProps v with
      | ok ps =>
        exact refines_renderTyped_inside hedits hpasses hc hc hprops hprops (.refl _ ps) halike
      | error how =>
        rw [renderTyped_of_some hc, renderTyped_of_some hc]
        split
        · exact .pure rfl
        · rw [renderElement, hprops]
          exact .fail _ _
  | replace hv hw =>
    obtain ⟨_, _, hc, hskipped⟩ := hskip v hv
    obtain ⟨_, _, hc', hskipped'⟩ := hskip w hw
    rw [renderTyped_of_some hc, renderTyped_of_some hc', if_pos hskipped, if_pos hskipped']
    exact .pure rfl
  | inside hv hw hps hqs h =>
    exact refines_renderTyped_inside hedits hpasses hv hw hps hqs h halike

end

/-! ### One level after the other -/

theorem passesOver_renderTyped (settings : Settings) (render : NodeRenderer) (depth : Int)
    (hskip : ∀ v, removable v → IsSkipped table v) :
    PassesOver removable (renderTyped table settings render depth) := by
  intro v hv place
  obtain ⟨_, _, hc, hskipped⟩ := hskip v hv
  rw [renderTyped_of_some hc, if_pos hskipped]
  exact .pure rfl

/-- Edited nodes within some levels, and skipped ones. -/
theorem refines_renderWithin (hskip : ∀ v, removable v → IsSkipped table v) (n : Nat)
    (depth : Int) :
    RefinesEdits table settings removable (renderWithin table settings n depth) ∧
      PassesOver removable (renderWithin table settings n depth) := by
  have hfail : ∀ f, RefinesEdits table settings removable (fun _ _ => Render.fail f) ∧
      PassesOver removable fun _ _ => Render.fail f := fun f =>
    ⟨fun _ _ _ _ _ _ => .fail f _, fun _ _ _ => .fail f _⟩
  induction n generalizing depth with
  | zero => exact hfail _
  | succ n ih =>
    rw [renderWithin]
    cases hdepth : settings.isBeyond depth with
    | error how =>
      rw [renderNode_of_error hdepth]
      exact hfail _
    | ok beyond =>
      rw [renderNode_of_isBeyond hdepth]
      cases beyond with
      | true => exact hfail _
      | false =>
        obtain ⟨hedits, hpasses⟩ := ih (depth + 1)
        exact ⟨refines_renderTyped hedits hpasses hskip, passesOver_renderTyped settings _ _ hskip⟩

/-- An edited sequence of nodes at a depth. -/
theorem refines_renderer (hskip : ∀ v, removable v → IsSkipped table v) (depth : Int)
    (counted : Bool) {vs ws : List Value}
    (h : NodesEdit table settings removable (decide (1 < ws.length)) vs ws) :
    Refines Eq (renderSiblings (renderer table settings depth) counted vs)
      (renderSiblings (renderer table settings depth) counted ws) := by
  rw [renderer]
  exact refines_renderSiblings (refines_renderWithin hskip _ depth).1
    (refines_renderWithin hskip _ depth).2 counted h

end PageMarkup
