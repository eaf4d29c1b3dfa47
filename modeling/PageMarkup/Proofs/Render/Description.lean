import PageMarkup.Proofs.Render.Assembly
import PageMarkup.Proofs.Render.Leaves
import PageMarkup.Proofs.Render.Levels

/-!
# Relations between content and markup

A run that succeeds relates each value that it goes through to the markup that it leaves for it.
Which relation is asked for differs: that the markup has some shape, or that certain elements are in
it. But it is always shown along the same lines, by the ways in which a value becomes markup. So
these ways are listed here once, and relations that they keep hold of whatever is written. For
elements and nodes the ways are known outright, hooks included.

The induction is on values, and what is known of the nodes one level deeper is a hypothesis.

## Main definitions

* `Describes` : relations that the ways of writing a value keep.
* `SlotMarkup`, `EntryMarkup`, `MappedProps`, `ElementOf`, `NodeOf` : how slots, entries, elements
  and nodes are written.

## Main results

* `Describes.leaves_serialize` : what is written for a value.
* `Describes.leaves_renderElement`, `Describes.leaves_renderTyped` : the markup of a node.
* `Describes.leaves_renderRoot` : the markup of the top-level nodes.
-/

namespace PageMarkup

open Render (Leaves)

/-- The markup of a value as a slot, from how its nodes are written: as siblings if there are at
least two of them. -/
inductive SlotMarkup (node : Bool → Value → Option Markup → Prop) : Value → Option Markup → Prop
  | nodes {v : Value} {vs : List Value} {ms : List (Option Markup)} (hitems : v.items? = some vs)
      (hnodes : List.Forall₂ (node (1 < vs.length)) vs ms) :
      SlotMarkup node v (Markup.group (ms.filterMap id))
  | empty {v : Value} (hitems : v.items? = none) : SlotMarkup node v none

/-- Relations between values under fields, items of arrays and entries of objects on the one hand
and their markup on the other, which are kept by the ways in which these are written. -/
structure Describes (node : Bool → Value → Option Markup → Prop)
    (value : Option Field → Value → Option Markup → Prop)
    (items : Entries Field → List Value → List Markup → Prop)
    (entries : Entries Field → Entries Value → List (String × Markup) → Prop) : Prop where
  markup (field : Option Field) (m : Markup) : value field (.markup m) (some m)
  null (field : Option Field) : value field .null none
  slot {field : Option Field} {v : Value} {m : Option Markup} (hslot : slotField field = true)
    (hplain : ∀ x, v ≠ .markup x) (h : SlotMarkup node v m) : value field v m
  literal {field : Option Field} {v : Value} (hslot : slotField field = false)
    (hitems : v.items?.isSome = true → field.bind Field.itemFields? = none)
    (hentries : v.entries?.isSome = true → field.bind Field.entryFields? = none) :
    value field v (some v.asLiteral)
  array {field : Option Field} {fields : Entries Field} {v : Value} {vs : List Value}
    {ms : List Markup} (hslot : slotField field = false)
    (hfields : field.bind Field.itemFields? = some fields) (hitems : v.items? = some vs)
    (h : items fields vs ms) : value field v (some (.array ms))
  object {field : Option Field} {fields : Entries Field} {es : Entries Value}
    {os : List (String × Markup)} (hslot : slotField field = false)
    (hfields : field.bind Field.entryFields? = some fields) (h : entries fields es os) :
    value field (.map es) (some (.object os))
  nil (fields : Entries Field) : items fields [] []
  consNode {fields : Entries Field} {v : Value} {vs : List Value} {m : Option Markup}
    {ms : List Markup} (hshape : isNodeShaped v = true) (hnode : node true v m)
    (h : items fields vs ms) : items fields (v :: vs) (m.toList ++ ms)
  consMap {fields : Entries Field} {es : Entries Value} {vs : List Value}
    {os : List (String × Markup)} {ms : List Markup} (hshape : isNodeShaped (.map es) = false)
    (hentries : entries fields es os) (h : items fields vs ms) :
    items fields (.map es :: vs) (.object os :: ms)
  consOther {fields : Entries Field} {v : Value} {vs : List Value} {ms : List Markup}
    (hother : v.entries? = none) (h : items fields vs ms) :
    items fields (v :: vs) (v.asLiteral :: ms)
  entriesNil (fields : Entries Field) : entries fields [] []
  entriesCons {fields : Entries Field} {k v : Value} {es : Entries Value} {m : Option Markup}
    {os : List (String × Markup)} (hvalue : value (fields.find? k) v m) (h : entries fields es os) :
    entries fields ((k, v) :: es) ((m.map fun m => (k.text, m)).toList ++ os)

/-! ### Values -/

section

variable {node : Bool → Value → Option Markup → Prop}

theorem leaves_renderSiblings_group {level : LevelRenderer}
    (hnode : ∀ v place, (level v place).Leaves (node place.listItem v)) (counted : Bool)
    (vs : List Value) :
    (renderSiblings level counted vs).Leaves fun m => ∃ ms, m = Markup.group (ms.filterMap id) ∧
      List.Forall₂ (node (1 < vs.length)) vs ms :=
  (Leaves.mapM_forall₂ fun v _ => hnode v ⟨1 < vs.length, counted⟩).bind fun ms hms =>
    .pure ⟨ms, rfl, hms⟩

variable {render : NodeRenderer} {depth : Int}
  (hnode : ∀ v place, (render (depth + 1) v place).Leaves (node place.listItem v))

include hnode in
theorem leaves_renderSlotValue (counted : Bool) (v : Value) :
    (renderSlotValue render depth counted v).Leaves (SlotMarkup node v) := by
  unfold renderSlotValue
  cases hitems : v.items? with
  | none => exact .pure (.empty hitems)
  | some vs =>
    refine (leaves_renderSiblings_group hnode counted vs).mono ?_
    rintro _ ⟨ms, rfl, hms⟩
    exact .nodes hitems hms

variable {value : Option Field → Value → Option Markup → Prop}
  {items : Entries Field → List Value → List Markup → Prop}
  {entries : Entries Field → Entries Value → List (String × Markup) → Prop}
  (h : Describes node value items entries)

include hnode h

set_option linter.unusedSectionVars false

omit hnode h in
private theorem leaves_serializeLiteral_described {field : Option Field} {v : Value}
    (hliteral : value field v (some v.asLiteral)) :
    (serializeLiteral v).Leaves (value field v) :=
  Leaves.bind (Leaves.ofMisuse fun _ => Value.eq_asLiteral_of_literal?) fun _ hm =>
    .pure (hm ▸ hliteral)

private theorem leaves_sequence_described {counted : Bool} {field : Option Field} {v : Value}
    {xs : List Value} (hplain : ∀ x, v ≠ .markup x) (hv : v.items? = some xs)
    (hmap : v.entries? = none)
    (hitems : ∀ fields, (serializeItems render depth counted fields xs).Leaves (items fields xs)) :
    Leaves (value field v)
      (if slotField field then renderSlot render depth counted xs
      else match field.bind Field.itemFields? with
        | some fields => do return some (.array (← serializeItems render depth counted fields xs))
        | none => serializeLiteral v) := by
  cases hslot : slotField field with
  | true =>
    rw [if_pos rfl]
    refine (leaves_renderSiblings_group hnode counted xs).mono ?_
    rintro _ ⟨ms, rfl, hms⟩
    exact h.slot hslot hplain (.nodes hv hms)
  | false =>
    rw [if_neg Bool.false_ne_true]
    cases hfields : field.bind Field.itemFields? with
    | some fields => exact (hitems fields).bind fun ms hms => .pure (h.array hslot hfields hv hms)
    | none =>
      exact leaves_serializeLiteral_described (h.literal hslot (fun _ => hfields) (by simp [hmap]))

omit hnode in
private theorem leaves_atom_described {v : Value} (hplain : ∀ x, v ≠ .markup x)
    (hv : v.items? = none) (hmap : v.entries? = none) (field : Option Field) :
    Leaves (value field v) (if slotField field then pure none else serializeLiteral v) := by
  cases hslot : slotField field with
  | true => exact .pure (h.slot hslot hplain (.empty hv))
  | false =>
    exact leaves_serializeLiteral_described (h.literal hslot (by simp [hv]) (by simp [hmap]))

mutual

/-- What is written for a value under a field. -/
theorem Describes.leaves_serialize (counted : Bool) (field : Option Field) (v : Value) :
    (serialize render depth counted field v).Leaves (value field v) := by
  match v with
  | .markup m => exact .pure (h.markup field m)
  | .null => exact .pure (h.null field)
  | .list xs =>
    rw [serialize]
    exact leaves_sequence_described hnode h (by nofun) rfl rfl fun fields =>
      Describes.leaves_serializeItems counted fields xs
  | .tuple xs =>
    rw [serialize]
    exact leaves_sequence_described hnode h (by nofun) rfl rfl fun fields =>
      Describes.leaves_serializeItems counted fields xs
  | .map es =>
    rw [serialize]
    cases hslot : slotField field with
    | true => exact .pure (h.slot hslot (by nofun) (.empty rfl))
    | false =>
      rw [if_neg Bool.false_ne_true]
      cases hfields : field.bind Field.entryFields? with
      | some fields =>
        exact (Describes.leaves_serializeEntries fields es).bind fun os hos =>
          .pure (h.object hslot hfields hos)
      | none =>
        exact leaves_serializeLiteral_described
          (h.literal hslot (fun hsome => nomatch hsome) fun _ => hfields)
  | .bool _ | .int _ | .float _ | .str _ | .foreign _ _ =>
    exact leaves_atom_described h (by nofun) rfl rfl field

theorem Describes.leaves_serializeItems (counted : Bool) (fields : Entries Field)
    (xs : List Value) :
    (serializeItems render depth counted fields xs).Leaves (items fields xs) := by
  match xs with
  | [] => exact .pure (h.nil fields)
  | .map es :: xs =>
    have hrest := Describes.leaves_serializeItems counted fields xs
    rw [serializeItems]
    cases hshape : isNodeShaped (.map es) with
    | true =>
      exact (hnode _ ⟨true, counted⟩).bind fun m hm => hrest.bind fun ms hms =>
        .pure (h.consNode hshape hm hms)
    | false =>
      have hentries := Describes.leaves_serializeEntries fields es
      rw [if_neg Bool.false_ne_true]
      simp only [map_eq_pure_bind, bind_assoc, pure_bind]
      exact hentries.bind fun os hos => hrest.bind fun ms hms => .pure (h.consMap hshape hos hms)
  | .markup _ :: xs =>
    exact (Describes.leaves_serializeItems counted fields xs).bind fun ms hms =>
      .pure (h.consOther rfl hms)
  | .null :: xs | .bool _ :: xs | .int _ :: xs | .float _ :: xs | .str _ :: xs | .list _ :: xs
  | .tuple _ :: xs | .foreign _ _ :: xs =>
    have hrest := Describes.leaves_serializeItems counted fields xs
    exact Leaves.bind (Leaves.ofMisuse fun _ => Value.eq_asLiteral_of_literal?) fun m hm =>
      hrest.bind fun ms hms => .pure (hm ▸ h.consOther rfl hms)

theorem Describes.leaves_serializeEntries (fields : Entries Field) (es : Entries Value) :
    (serializeEntries render depth fields es).Leaves (entries fields es) := by
  match es with
  | [] => exact .pure (h.entriesNil fields)
  | (k, v) :: es =>
    have hvalue := Describes.leaves_serialize false (fields.find? k) v
    have hrest := Describes.leaves_serializeEntries fields es
    rw [serializeEntries]
    refine hvalue.bind fun m hm => ?_
    refine Leaves.bind (Leaves.ofMisuse fun _ => keyedEntry_eq_ok) fun entry hentry => ?_
    exact hrest.bind fun os hos => .pure (hentry ▸ h.entriesCons hm hos)

end

/-! ### Elements -/

/-- What an entry adds to an element: a text is the content as it stands, and everything else is
written by the field of its source. -/
inductive EntryMarkup (value : Option Field → Value → Option Markup → Prop) (c : Component) :
    Value × Sourced → Value × List Markup → Prop
  | text {name : Value} {s : String} {source : Option Value}
      (hname : name.same childrenName = true) :
      EntryMarkup value c (name, ⟨.str s, source⟩) (name, if s.isEmpty then [] else [.text s])
  | value {name : Value} {item : Sourced} {m : Option Markup}
      (h : value (c.field? (item.source.getD name)) item.value m) :
      EntryMarkup value c (name, item) (name, m.toList)

omit hnode h in
theorem keys_of_entryMarkup {c : Component} {written : Entries Sourced}
    {parts : Entries (List Markup)} (h : List.Forall₂ (EntryMarkup value c) written parts) :
    parts.keys = written.keys := by
  induction h with
  | nil => rfl
  | cons he _ ih =>
    cases he with
    | text | value => exact congrArg _ ih

omit hnode h in
private theorem leaves_renderEntry_described {counted : Bool} {c : Component}
    (hvalue : ∀ counted field v, (serialize render depth counted field v).Leaves (value field v))
    (e : Value × Sourced) :
    (renderEntry render depth counted c e).Leaves (EntryMarkup value c e) := by
  obtain ⟨name, item⟩ := e
  unfold renderEntry renderUnder
  have hwritten := hvalue (counted && item.source.isSome) (c.field? (item.source.getD name))
    item.value
  dsimp only
  cases hname : name.same childrenName with
  | false =>
    rw [if_neg Bool.false_ne_true]
    exact (hwritten.map (Q := fun ms => EntryMarkup value c (name, item) (name, ms))
      fun m hm => .value hm).bind fun ms hms => .pure hms
  | true =>
    rw [if_pos rfl]
    refine Leaves.bind (P := fun ms => EntryMarkup value c (name, item) (name, ms)) ?_
      fun ms hms => .pure hms
    unfold renderChildren
    split
    · rename_i s hs
      obtain ⟨v, source⟩ := item
      obtain rfl : v = .str s := hs
      exact .pure (.text hname)
    · exact hwritten.bind fun m hm => .pure (.value hm)

/-- What a node of a component is to write, and its properties afterwards: without a hook its own
properties and slots, and else what comes of its hook. -/
inductive MappedProps (c : Component) (stripped : List Value) (props : Entries Value)
    (slots : Entries (Option Markup)) : Entries Sourced → Entries Value → Prop
  | unhooked (hhook : c.hook = none) :
      MappedProps c stripped props slots (unhookedProps stripped props slots) props
  | hooked {hook : Hook} {outcome : HookOutcome} {written : Entries Sourced}
      (hhook : c.hook = some hook)
      (houtcome : hook.call (hook.given (plainProps c stripped props) slots) = .ok outcome)
      (hwritten : hookedProps (plainProps c stripped props)
        (hook.given (plainProps c stripped props) slots) outcome = .ok written) :
      MappedProps c stripped props slots written (appendItems props outcome.appended)

omit hnode h in
theorem leaves_mapProps (c : Component) (stripped : List Value) (counted : Bool)
    (props : Entries Value) (slots : Entries (Option Markup)) :
    (mapProps c stripped counted props slots).Leaves fun r =>
      MappedProps c stripped props slots r.1 r.2 := by
  unfold mapProps
  cases hhook : c.hook with
  | none => exact .pure (.unhooked hhook)
  | some hook =>
    refine (Leaves.ofExcept _).bind fun outcome houtcome => ?_
    have hrest : Leaves (fun r : Entries Sourced × Entries Value =>
        MappedProps c stripped props slots r.1 r.2)
        (do return (← Render.ofMisuse (hookedProps (plainProps c stripped props)
            (hook.given (plainProps c stripped props) slots) outcome),
          appendItems props outcome.appended)) := by
      refine Leaves.bind (Leaves.ofMisuse fun _ h => h) fun written hwritten => .pure ?_
      exact .hooked hhook houtcome hwritten
    split
    · exact (Leaves.trivial _).bind fun _ _ => hrest
    · exact hrest

/-- The element of a node of a component, from how nodes and values are written. -/
inductive ElementOf (settings : Settings) (node : Bool → Value → Option Markup → Prop)
    (value : Option Field → Value → Option Markup → Prop) (c : Component) (type : Value)
    (listItem : Bool) (v : Value) : Markup → Prop
  | mk {props props' : Entries Value} {stripped : List Value} {slots : Entries (Option Markup)}
      {written : Entries Sourced} {parts : Entries (List Markup)}
      {attributes : List (Value × Markup)} (hprops : ownProps v = .ok props)
      (hstripped : strippedNames c settings = .ok stripped)
      (hnames : slots.keys = c.slotNames)
      (hslots : ∀ e ∈ slots, SlotMarkup node ((props.find? e.1).getD .null) e.2)
      (hmapped : MappedProps c stripped props slots written props')
      (hparts : List.Forall₂ (EntryMarkup value c) written parts)
      (hattributes :
        itemAttributes settings listItem (attributesOf parts) (idOf props') = .ok attributes) :
      ElementOf settings node value c type listItem v
        (.element (c.tag type) attributes (contentOf parts))

omit h in
theorem leaves_renderSlots_described (counted : Bool) (c : Component) (props : Entries Value) :
    (renderSlots render depth counted c props).Leaves fun slots => slots.keys = c.slotNames ∧
      ∀ e ∈ slots, SlotMarkup node ((props.find? e.1).getD .null) e.2 := by
  refine (Leaves.mapM_forall₂ (P := fun name e => e.1 = name ∧
    SlotMarkup node ((props.find? name).getD .null) e.2) fun name _ => ?_).mono ?_
  · exact (leaves_renderSlotValue hnode counted _).bind fun m hm => .pure ⟨rfl, hm⟩
  · intro slots hslots
    generalize c.slotNames = names at hslots
    induction hslots with
    | nil => exact ⟨rfl, List.forall_mem_nil _⟩
    | cons he _ ih =>
      obtain ⟨rfl, hslot⟩ := he
      exact ⟨congrArg _ ih.1, List.forall_mem_cons.mpr ⟨hslot, ih.2⟩⟩

/-- What is written for a node that has a component. -/
theorem Describes.leaves_renderElement (settings : Settings) (c : Component) (type v : Value)
    (place : Place) : (renderElement settings render depth c type v place).Leaves
      (ElementOf settings node value c type place.listItem v) := by
  unfold renderElement
  refine Leaves.bind (Leaves.ofMisuse fun _ hprops => hprops) fun props hprops => ?_
  refine (leaves_renderSlots_described hnode place.counted c props).bind fun slots hslots => ?_
  refine Leaves.bind (Leaves.ofMisuse fun _ hstripped => hstripped) fun stripped hstripped => ?_
  refine (leaves_mapProps c stripped place.counted props slots).bind fun mapped hmapped => ?_
  obtain ⟨written, props'⟩ := mapped
  dsimp only at hmapped ⊢
  rw [assemble_eq_mapM]
  simp only [bind_assoc, pure_bind]
  refine (Leaves.mapM_forall₂ fun e _ => leaves_renderEntry_described
    (fun counted field v => h.leaves_serialize hnode counted field v) e).bind fun parts hparts => ?_
  refine (Leaves.trivial _).bind fun specs _ => (Leaves.trivial _).bind fun _ _ => ?_
  refine Leaves.bind (Leaves.ofMisuse fun _ hattributes => hattributes)
    fun _ hattributes => .pure ?_
  exact .mk hprops hstripped hslots.1 hslots.2 hmapped hparts hattributes

/-- The markup of a node: none if its component is skipped, and its element otherwise. -/
inductive NodeOf (table : ComponentTable) (settings : Settings)
    (node : Bool → Value → Option Markup → Prop)
    (value : Option Field → Value → Option Markup → Prop) (listItem : Bool) (v : Value) :
    Option Markup → Prop
  | skipped {type : Value} {c : Component} (hc : nodeComponent? table v = some (type, c))
      (hskip : c.skip = true) : NodeOf table settings node value listItem v none
  | element {type : Value} {c : Component} {m : Markup}
      (hc : nodeComponent? table v = some (type, c)) (hskip : c.skip = false)
      (helement : ElementOf settings node value c type listItem v m) :
      NodeOf table settings node value listItem v (some m)

/-- What is written for a node, from what is written for the nodes below it. -/
theorem Describes.leaves_renderTyped (table : ComponentTable) (settings : Settings) (v : Value)
    (place : Place) : (renderTyped table settings render depth v place).Leaves
      (NodeOf table settings node value place.listItem v) := by
  cases hc : nodeComponent? table v with
  | none =>
    obtain ⟨f, hf⟩ := renderTyped_of_none settings render depth hc place
    rw [hf]
    exact .fail f
  | some found =>
    obtain ⟨type, c⟩ := found
    rw [renderTyped_of_some hc]
    cases hskip : c.skip with
    | true => exact .pure (.skipped hc hskip)
    | false =>
      rw [if_neg Bool.false_ne_true]
      exact (h.leaves_renderElement hnode settings c type v place).map fun m hm =>
        .element hc hskip hm

end

/-! ### Levels -/

/-- What is written for nodes at a depth, calls carried out up to a number of levels, if each level
that is rendered follows from the one below it. -/
theorem Describes.leaves_renderWithin {table : ComponentTable} {settings : Settings}
    {node : Nat → Bool → Value → Option Markup → Prop}
    {value : Nat → Option Field → Value → Option Markup → Prop}
    {items : Nat → Entries Field → List Value → List Markup → Prop}
    {entries : Nat → Entries Field → Entries Value → List (String × Markup) → Prop}
    (h : ∀ n, Describes (node n) (value n) (items n) (entries n))
    (hstep : ∀ n listItem v m, NodeOf table settings (node n) (value n) listItem v m →
      node (n + 1) listItem v m) (n : Nat) (depth : Int) (v : Value) (place : Place) :
    (renderWithin table settings n depth v place).Leaves
      (node (settings.reach n depth) place.listItem v) := by
  induction n generalizing depth v place with
  | zero => exact .fail _
  | succ n ih =>
    rw [renderWithin, Settings.reach]
    cases hdepth : settings.isBeyond depth with
    | error how =>
      rw [renderNode_of_error hdepth]
      exact .fail _
    | ok beyond =>
      rw [renderNode_of_isBeyond hdepth]
      cases beyond with
      | true => exact .fail _
      | false =>
        exact ((h _).leaves_renderTyped (ih (depth + 1)) table settings v place).mono
          (hstep _ place.listItem v)

/-- What is written for the top-level nodes: one of them, or several in a fragment. -/
theorem Describes.leaves_renderRoot {table : ComponentTable} {settings : Settings}
    {node : Nat → Bool → Value → Option Markup → Prop}
    {value : Nat → Option Field → Value → Option Markup → Prop}
    {items : Nat → Entries Field → List Value → List Markup → Prop}
    {entries : Nat → Entries Field → Entries Value → List (String × Markup) → Prop}
    (h : ∀ n, Describes (node n) (value n) (items n) (entries n))
    (hstep : ∀ n listItem v m, NodeOf table settings (node n) (value n) listItem v m →
      node (n + 1) listItem v m) (nodes : List Value) :
    (renderRoot table settings nodes).Leaves fun root =>
      ∃ ms, root = (Markup.group (ms.filterMap id)).getD (.fragment []) ∧
        List.Forall₂ (node (topLevels settings) (1 < nodes.length)) nodes ms := by
  refine (Leaves.trivial _).bind fun _ _ => ?_
  refine (leaves_renderSiblings_group
    (Describes.leaves_renderWithin h hstep _ 0) true nodes).bind ?_
  rintro _ ⟨ms, rfl, hms⟩
  exact .pure ⟨ms, rfl, hms⟩

end PageMarkup
