import PageMarkup.Proofs.Render.Description
import PageMarkup.Proofs.Render.Editing
import PageMarkup.Proofs.Schema.HookMarkup

/-!
# The shape of markup

Elements have their attributes under distinct names, none of which is that of the content, and at
most one piece of content. Fragments hold at least two pieces, which are elements. A run writes
markup of this shape and hands it to hooks, and hooks that make no markup of their own can only put
it elsewhere. So the shape is kept wherever a value becomes markup, and so it holds at every depth.

## Main definitions

* `Markup.WellShaped` : elements and fragments have this shape, wherever they are in the markup.
* `Component.KeepsShape` : components whose hooks make no markup of their own.

## Main results

* `WellShaped.asLiteral` : values that no field describes.
* `describes_wellShaped` : the shape is kept by the ways of writing a value.
* `nodeShaped_of_nodeOf` : nodes, from those one level deeper.
-/

namespace PageMarkup

def Value.isAtom : Value → Bool
  | .list _ | .tuple _ | .map _ | .markup _ => false
  | _ => true

def Markup.isElement : Markup → Bool
  | .element .. => true
  | _ => false

/-- All elements in markup have attributes under distinct names, none of them the name of the
content, and at most one piece of content, and all fragments in it are of at least two elements. -/
inductive Markup.WellShaped : Markup → Prop
  | literal {v : Value} (h : v.isAtom = true) : WellShaped (.literal v)
  | raw (code : String) : WellShaped (.raw code)
  | text (content : String) : WellShaped (.text content)
  | array {ms : List Markup} (h : ∀ m ∈ ms, WellShaped m) : WellShaped (.array ms)
  | object {os : List (String × Markup)} (h : ∀ o ∈ os, WellShaped o.2) : WellShaped (.object os)
  | element {tag : Value} {attributes : List (Value × Markup)} {content : List Markup}
      (hdistinct : Entries.Distinct attributes)
      (hnames : ∀ a ∈ attributes, a.1.same childrenName = false) (hcontent : content.length ≤ 1)
      (hvalues : ∀ a ∈ attributes, WellShaped a.2) (hinside : ∀ m ∈ content, WellShaped m) :
      WellShaped (.element tag attributes content)
  | fragment {ms : List Markup} (hlength : 2 ≤ ms.length)
      (helements : ∀ m ∈ ms, m.isElement = true) (h : ∀ m ∈ ms, WellShaped m) :
      WellShaped (.fragment ms)

namespace Markup.WellShaped

/-- Values that no field describes are written without elements of their own. -/
theorem asLiteral {v : Value} (h : v.MadeOf WellShaped) : v.asLiteral.WellShaped := by
  induction h with
  | null | bool | int | float | str | foreign => exact .literal rfl
  | markup h => exact h
  | list _ ih | tuple _ ih =>
    rw [Value.asLiteral, itemLiterals_eq]
    exact .array (List.forall_mem_map.mpr ih)
  | map _ _ _ _ ih =>
    refine .object fun o ho => ?_
    obtain ⟨e, he, rfl⟩ := mem_entryLiterals ho
    exact ih e he

theorem group {ms : List Markup} (h : ∀ m ∈ ms, m.isElement = true ∧ m.WellShaped) :
    ∀ x ∈ Markup.group ms, x.WellShaped := by
  rintro x hx
  match ms, hx with
  | [m], rfl => exact (h m List.mem_cons_self).2
  | m :: n :: ms, rfl =>
    exact .fragment (Nat.le_add_left 2 ms.length) (fun x hx => (h x hx).1) fun x hx => (h x hx).2

end Markup.WellShaped

open Markup (WellShaped)

/-! ### What a value becomes -/

/-- The markup of a node: an element of the right shape, or none if the node is skipped. -/
def NodeShaped (table : ComponentTable) (v : Value) (m : Option Markup) : Prop :=
  v.MadeOf WellShaped →
    (∀ x ∈ m, x.isElement = true ∧ x.WellShaped) ∧ (m = none ↔ IsSkipped table v)

/-- The markup of a value has the right shape, if there is any. -/
def ValueShaped (v : Value) (m : Option Markup) : Prop :=
  v.MadeOf WellShaped → ∀ x ∈ m, x.WellShaped

/-- The markup of items has the right shape. -/
def ItemsShaped (vs : List Value) (ms : List Markup) : Prop :=
  (∀ v ∈ vs, v.MadeOf WellShaped) → ∀ m ∈ ms, m.WellShaped

/-- The markup of entries has the right shape. -/
def EntriesShaped (es : Entries Value) (os : List (String × Markup)) : Prop :=
  (∀ e ∈ es, e.2.MadeOf WellShaped) → ∀ o ∈ os, o.2.WellShaped

section

variable {table : ComponentTable}

theorem shaped_of_nodes {vs : List Value} {ms : List (Option Markup)}
    (h : List.Forall₂ (NodeShaped table) vs ms) (hvs : ∀ v ∈ vs, v.MadeOf WellShaped) :
    (∀ m ∈ ms.filterMap id, m.isElement = true ∧ m.WellShaped) ∧
      (ms.filterMap id = [] ↔ ∀ v ∈ vs, IsSkipped table v) := by
  induction h with
  | nil => simp
  | @cons v m vs ms hnode _ ih =>
    rw [List.forall_mem_cons] at hvs
    obtain ⟨helement, hskipped⟩ := hnode hvs.1
    obtain ⟨helements, hall⟩ := ih hvs.2
    cases m with
    | none =>
      rw [List.filterMap_cons_none rfl, List.forall_mem_cons, hall]
      exact ⟨helements, (and_iff_right (hskipped.mp rfl)).symm⟩
    | some m =>
      have hcons : (some m :: ms).filterMap id = m :: ms.filterMap id := rfl
      rw [hcons, List.forall_mem_cons, List.forall_mem_cons]
      refine ⟨⟨helement m rfl, helements⟩, iff_of_false (List.cons_ne_nil _ _) fun h => ?_⟩
      cases hskipped.mpr h.1

theorem shaped_of_slot {v : Value} {m : Option Markup}
    (h : SlotMarkup (fun _ => NodeShaped table) v m) : ValueShaped v m := by
  intro hv
  cases h with
  | empty => exact fun x hx => nomatch hx
  | nodes hitems hnodes =>
    have hvs := (Value.MadeOf.handedDown _).items? hv hitems
    exact WellShaped.group (shaped_of_nodes hnodes hvs).1

/-- **Each way of writing a value keeps the shape.** -/
theorem describes_wellShaped (table : ComponentTable) :
    Describes (fun _ => NodeShaped table) (fun _ => ValueShaped) (fun _ => ItemsShaped)
      (fun _ => EntriesShaped) where
  markup _ _ hv := by
    rintro x ⟨⟩
    cases hv
    assumption
  null _ _ x hx := nomatch hx
  slot _ _ h := shaped_of_slot h
  literal _ _ _ hv := by
    rintro x ⟨⟩
    exact WellShaped.asLiteral hv
  array _ _ hitems h hv := by
    rintro x ⟨⟩
    exact .array (h ((Value.MadeOf.handedDown _).items? hv hitems))
  object _ _ h hv := by
    rintro x ⟨⟩
    exact .object (h ((Value.MadeOf.handedDown _).values hv))
  nil _ _ := List.forall_mem_nil _
  consNode _ hnode h hvs := by
    rw [List.forall_mem_cons] at hvs
    refine List.forall_mem_append.mpr ⟨fun x hx => ?_, h hvs.2⟩
    exact ((hnode hvs.1).1 x (Option.mem_toList.mp hx)).2
  consMap _ hentries h hvs := by
    rw [List.forall_mem_cons] at hvs ⊢
    exact ⟨.object (hentries ((Value.MadeOf.handedDown _).values hvs.1)), h hvs.2⟩
  consOther _ h hvs := by
    rw [List.forall_mem_cons] at hvs ⊢
    exact ⟨WellShaped.asLiteral hvs.1, h hvs.2⟩
  entriesNil _ _ := List.forall_mem_nil _
  entriesCons hvalue h hes := by
    rw [List.forall_mem_cons] at hes
    refine List.forall_mem_append.mpr ⟨fun o ho => ?_, h hes.2⟩
    obtain ⟨m, hm, rfl⟩ := Option.map_eq_some_iff.mp (Option.mem_toList.mp ho)
    exact hvalue hes.1 m hm

end

/-! ### Attributes and content -/

/-- What the entries of an element add: pieces of the right shape, at most one for each entry. -/
theorem parts_wellShaped {c : Component} {written : Entries Sourced}
    {parts : Entries (List Markup)}
    (h : List.Forall₂ (EntryMarkup (fun _ => ValueShaped) c) written parts)
    (hwritten : ∀ e ∈ written, e.2.value.MadeOf WellShaped) :
    ∀ p ∈ parts, p.2.length ≤ 1 ∧ ∀ m ∈ p.2, m.WellShaped := by
  induction h with
  | nil => exact List.forall_mem_nil _
  | @cons e p written parts hentry _ ih =>
    rw [List.forall_mem_cons] at hwritten ⊢
    refine ⟨?_, ih hwritten.2⟩
    cases hentry with
    | text =>
      dsimp only
      split
      · exact ⟨Nat.zero_le 1, List.forall_mem_nil _⟩
      · exact ⟨Nat.le_refl 1, List.forall_mem_singleton.mpr (.text _)⟩
    | @value _ _ m hvalue =>
      refine ⟨?_, fun x hx => ?_⟩
      · cases m <;> simp
      · exact hvalue hwritten.1 x (Option.mem_toList.mp hx)

section

variable {parts : Entries (List Markup)}

theorem distinct_attributesOf (hdistinct : parts.Distinct) (hparts : ∀ p ∈ parts, p.2.length ≤ 1) :
    Entries.Distinct (attributesOf parts) := by
  induction parts with
  | nil => exact List.Pairwise.nil
  | cons p parts ih =>
    obtain ⟨hfirst, hrest⟩ := List.pairwise_cons.mp hdistinct
    rw [List.forall_mem_cons] at hparts
    have hlater : ∀ a ∈ attributesOf parts, p.1.same a.1 = false := fun a ha => by
      obtain ⟨q, hq, -, hqa, -⟩ := exists_of_mem_attributesOf ha
      exact hqa ▸ hfirst q hq
    rw [attributesOf_cons]
    split
    · exact ih hrest hparts.2
    · obtain ⟨name, ms⟩ := p
      match ms, hparts.1 with
      | [], _ => exact ih hrest hparts.2
      | [m], _ => exact List.pairwise_cons.mpr ⟨hlater, ih hrest hparts.2⟩

/-- No attribute of an element has the name of the content, and their values have the right shape.
-/
theorem attributesOf_wellShaped (hparts : ∀ p ∈ parts, ∀ m ∈ p.2, m.WellShaped) :
    ∀ a ∈ attributesOf parts, a.1.same childrenName = false ∧ a.2.WellShaped := by
  intro a ha
  obtain ⟨p, hp, hother, hname, hm⟩ := exists_of_mem_attributesOf ha
  exact ⟨hname ▸ hother, hparts p hp _ hm⟩

theorem contentOf_wellShaped (hparts : ∀ p ∈ parts, p.2.length ≤ 1 ∧ ∀ m ∈ p.2, m.WellShaped) :
    (contentOf parts).length ≤ 1 ∧ ∀ m ∈ contentOf parts, m.WellShaped := by
  rcases contentOf_eq_nil_or parts with hnil | ⟨p, hp, heq⟩
  · rw [hnil]
    exact ⟨Nat.zero_le 1, List.forall_mem_nil _⟩
  · rw [heq]
    exact hparts p hp

end

theorem itemAttributes_wellShaped {settings : Settings} {listItem : Bool}
    {attributes attributes' : List (Value × Markup)} {id : Value}
    (hdistinct : Entries.Distinct attributes)
    (hattributes : ∀ a ∈ attributes, a.1.same childrenName = false ∧ a.2.WellShaped)
    (h : itemAttributes settings listItem attributes id = .ok attributes') :
    Entries.Distinct attributes' ∧
      ∀ a ∈ attributes', a.1.same childrenName = false ∧ a.2.WellShaped := by
  rcases itemAttributes_eq_ok h with rfl | ⟨key, hliteral, hnone, rfl⟩
  · exact ⟨hdistinct, hattributes⟩
  · refine ⟨List.pairwise_cons.mpr ⟨fun a ha => ?_, hdistinct⟩,
      List.forall_mem_cons.mpr ⟨⟨rfl, ?_⟩, hattributes⟩⟩
    · refine Bool.eq_false_iff.mpr fun hsame => ?_
      have hkey := List.any_eq_false.mp hnone a ha
      rw [Value.str_same_iff.mp hsame, keyName, Value.same_str_iff.mpr rfl] at hkey
      exact hkey rfl
    · unfold keyLiteral at hliteral
      split at hliteral
      · exact Except.ok.inj hliteral ▸ .literal rfl
      · exact Except.ok.inj hliteral ▸ .literal rfl
      · obtain ⟨s, -, hs⟩ := bind_eq_ok_iff.mp hliteral
        exact Except.ok.inj hs ▸ .literal rfl

/-! ### Nodes -/

/-- A component whose fields have distinct texts as names and whose hook, if it has one, makes no
markup of its own. -/
structure Component.KeepsShape (c : Component) : Prop where
  fields : c.fields.HasTextKeys
  distinct : c.fields.keys.Nodup
  hook : ∀ hook ∈ c.hook, hook.KeepsMarkup

section

variable {table : ComponentTable} {c : Component} (hc : c.KeepsShape) {stripped : List Value}
  {props : Entries Value} {slots : Entries (Option Markup)}

include hc in
theorem slots_wellShaped (hprops : ∀ e ∈ props, e.2.MadeOf WellShaped)
    (hnames : slots.keys = c.slotNames)
    (hslots : ∀ e ∈ slots, SlotMarkup (fun _ => NodeShaped table)
      ((props.find? e.1).getD .null) e.2) :
    slots.Distinct ∧ ∀ e ∈ slots, e.1.isStr = true ∧ ∀ m ∈ e.2, m.WellShaped := by
  have hdistinct := hc.fields.distinct hc.distinct
  refine ⟨hdistinct.of_keys (hnames ▸ List.filter_sublist.map _), fun e he => ?_⟩
  have htext := Component.isStr_slotNames hc.fields e.1 (hnames ▸ Entries.mem_keys_of_mem he)
  exact ⟨htext, shaped_of_slot (hslots e he) (Entries.getD_find?_of_forall hprops .null e.1)⟩

/-- Without a hook the properties of a node are written under their own names, slots by their
markup. -/
theorem unhookedProps_wellShaped (hdistinct : props.Distinct)
    (hprops : ∀ e ∈ props, e.2.MadeOf WellShaped)
    (hslots : ∀ e ∈ slots, e.1.isStr = true ∧ ∀ m ∈ e.2, m.WellShaped) :
    (unhookedProps stripped props slots).Distinct ∧
      ∀ e ∈ unhookedProps stripped props slots, e.2.value.MadeOf WellShaped := by
  refine ⟨hdistinct.of_keys (sublist_keys_unhookedProps stripped props slots), fun e he => ?_⟩
  obtain ⟨p, hp, ⟨⟨name, m⟩, hs, rfl⟩ | ⟨-, -, rfl⟩⟩ := mem_unhookedProps he
  · cases m with
    | none => exact .null
    | some m => exact .markup ((hslots _ hs).2 m rfl)
  · exact hprops p hp

include hc in
/-- What is to be written for a node has distinct names, and no markup but of the right shape. -/
theorem mappedProps_wellShaped (hdistinct : props.Distinct)
    (hprops : ∀ e ∈ props, e.1.MadeOf WellShaped ∧ e.2.MadeOf WellShaped)
    (hslots : slots.Distinct) (hmarkup : ∀ e ∈ slots, e.1.isStr = true ∧ ∀ m ∈ e.2, m.WellShaped)
    {written : Entries Sourced} {props' : Entries Value}
    (h : MappedProps c stripped props slots written props') :
    written.Distinct ∧ ∀ e ∈ written, e.2.value.MadeOf WellShaped := by
  cases h with
  | unhooked => exact unhookedProps_wellShaped hdistinct (fun e he => (hprops e he).2) hmarkup
  | hooked hhook houtcome hwritten =>
    have hplain : (plainProps c stripped props).Distinct := hdistinct.sublist List.filter_sublist
    have hvalues : ∀ e ∈ plainProps c stripped props,
        e.1.MadeOf WellShaped ∧ e.2.MadeOf WellShaped :=
      fun e he => hprops e (List.mem_of_mem_filter he)
    have hnames : ∀ e ∈ slots, e.1.MadeOf WellShaped := fun e he => by
      obtain ⟨s, hs⟩ := Value.isStr_iff.mp (hmarkup e he).1
      exact hs ▸ .str s
    have hgiven := Hook.given_madeOf ‹Hook› hplain hvalues hslots hnames
      fun e he => (hmarkup e he).2
    exact (hc.hook _ hhook _ _ _ hgiven houtcome).hookedProps hplain
      (fun e he => (hvalues e he).2) hwritten

include hc in
theorem wellShaped_of_elementOf {settings : Settings} {type v : Value} {listItem : Bool}
    (hv : v.MadeOf WellShaped) {m : Markup}
    (h : ElementOf settings (fun _ => NodeShaped table) (fun _ => ValueShaped) c type listItem v
      m) :
    m.isElement = true ∧ m.WellShaped := by
  obtain ⟨hprops, -, hnames, hslots, hmapped, hparts, hitem⟩ := h
  refine ⟨rfl, ?_⟩
  obtain ⟨hdistinct, hown⟩ := hv.ownProps hprops
  obtain ⟨hapart, hmarkup⟩ := slots_wellShaped hc (fun e he => (hown e he).2) hnames hslots
  obtain ⟨hwritten, hvalues⟩ := mappedProps_wellShaped hc hdistinct hown hapart hmarkup hmapped
  have hpieces := parts_wellShaped hparts hvalues
  have hattributes := distinct_attributesOf
    (hwritten.of_keys (by rw [keys_of_entryMarkup hparts])) fun p hp => (hpieces p hp).1
  have hmem := attributesOf_wellShaped fun p hp => (hpieces p hp).2
  obtain ⟨hcontent, hinside⟩ := contentOf_wellShaped hpieces
  obtain ⟨hkeyed, hinner⟩ := itemAttributes_wellShaped hattributes hmem hitem
  exact .element hkeyed (fun a ha => (hinner a ha).1) hcontent (fun a ha => (hinner a ha).2) hinside

/-- **A node has an element of the right shape, or is skipped**, if this is so one level deeper. -/
theorem nodeShaped_of_nodeOf (htable : ∀ e ∈ table, e.2.KeepsShape) {settings : Settings}
    {listItem : Bool} {v : Value} {m : Option Markup}
    (h : NodeOf table settings (fun _ => NodeShaped table) (fun _ => ValueShaped) listItem v m) :
    NodeShaped table v m := by
  intro hv
  cases h with
  | skipped hc hskip => exact ⟨fun _ hx => (nomatch hx), iff_of_true rfl ⟨_, _, hc, hskip⟩⟩
  | element hc hskip helement =>
    refine ⟨?_, iff_of_false (Option.some_ne_none _) (not_isSkipped hc hskip)⟩
    rintro x ⟨⟩
    exact wellShaped_of_elementOf (htable _ (mem_of_nodeComponent? hc).2) hv helement

end

end PageMarkup
