import PageMarkup.Proofs.Markup.NeatLines
import PageMarkup.Proofs.Render.Description

/-!
# Rendered trees are well named

Nothing but content and hooks brings code or names into a tree. So if no component has a hook and
the content is plain data, there is no raw code in what is rendered; its attributes and keys are the
names in the content, and its tags those of the components. What holds of all these names holds of
those of the tree.

## Main definitions

* `Value.WellNamed` : plain data whose keys and names of properties are single lines.

## Main results

* `describes_wellNamed` : each way of writing a value leaves well-named markup.
* `nodeNamed_of_nodeOf` : nodes, from those one level deeper.
* `leaves_renderRoot` : the markup of the top-level nodes is well named.
-/

namespace PageMarkup

open Text (IsSolid)

/-! ### Content with single lines as names -/

/-- Plain data in which the keys of maps are single lines, as are the names of the properties of a
map that has a type, which may be taken for a node. -/
inductive Value.WellNamed : Value → Prop
  | null : WellNamed .null
  | bool (b : Bool) : WellNamed (.bool b)
  | int (n : Int) : WellNamed (.int n)
  | float (x : Float) : WellNamed (.float x)
  | str (s : String) : WellNamed (.str s)
  | foreign (kind text : String) : WellNamed (.foreign kind text)
  | list {xs : List Value} (h : ∀ x ∈ xs, WellNamed x) : WellNamed (.list xs)
  | tuple {xs : List Value} (h : ∀ x ∈ xs, WellNamed x) : WellNamed (.tuple xs)
  | map {es : Entries Value} (hlines : ∀ e ∈ es, '\n' ∉ e.1.text.toList)
      (hnames : ∀ type props, (map es).get? "type" = some type → ownProps (.map es) = .ok props →
        ∀ e ∈ props, '\n' ∉ e.1.text.toList)
      (hkeys : ∀ e ∈ es, WellNamed e.1) (hvalues : ∀ e ∈ es, WellNamed e.2) : WellNamed (.map es)

namespace Value.WellNamed

variable {v : Value}

theorem handedDown : HandedDown WellNamed where
  list h := by
    cases h
    assumption
  tuple h := by
    cases h
    assumption
  keys h := by
    cases h
    assumption
  values h := by
    cases h
    assumption
  character c := .str _

theorem newline_not_mem_keys {es : Entries Value} (h : (Value.map es).WellNamed) :
    ∀ e ∈ es, '\n' ∉ e.1.text.toList := by
  cases h
  assumption

theorem ownProps (h : v.WellNamed) {type : Value} (htype : v.get? "type" = some type)
    {props : Entries Value} (hprops : PageMarkup.ownProps v = .ok props) :
    ∀ e ∈ props, '\n' ∉ e.1.text.toList ∧ e.2.WellNamed := by
  intro e he
  refine ⟨?_, ((handedDown.ownProps h hprops).2 e he).2⟩
  cases h with
  | map _ hnames _ _ => exact hnames type props htype hprops e he
  | null | bool | int | float | str | foreign | list | tuple =>
    cases htype

theorem asLiteral (h : v.WellNamed) : v.asLiteral.WellNamed := by
  induction h with
  | null | bool | int | float | str | foreign => exact .literal _
  | list _ ih | tuple _ ih =>
    rw [Value.asLiteral, itemLiterals_eq]
    exact .array (List.forall_mem_map.mpr ih)
  | map hlines _ _ _ _ ih =>
    refine .object (fun p hp => ?_) (fun p hp => ?_)
    · obtain ⟨e, he, rfl⟩ := mem_entryLiterals hp
      exact hlines e he
    · obtain ⟨e, he, rfl⟩ := mem_entryLiterals hp
      exact ih e he

end Value.WellNamed

open Render (Leaves)

/-! ### Values under fields -/

/-- Markup is well named if there is any. -/
def WellNamed? (m : Option Markup) : Prop :=
  ∀ x ∈ m, x.WellNamed

theorem wellNamed?_some {m : Markup} (h : m.WellNamed) : WellNamed? (some m) := by
  rintro x ⟨⟩
  exact h

theorem wellNamed?_none : WellNamed? none :=
  fun _ hx => nomatch hx

private theorem wellNamed?_group {ms : List (Option Markup)} (h : ∀ m ∈ ms, WellNamed? m) :
    WellNamed? (Markup.group (ms.filterMap id)) := by
  have hall : ∀ m ∈ ms.filterMap id, m.WellNamed := fun m hm => by
    obtain ⟨x, hx, hxm⟩ := List.mem_filterMap.mp hm
    exact h x hx m hxm
  generalize ms.filterMap id = ns at hall
  match ns with
  | [] => exact wellNamed?_none
  | [m] => exact wellNamed?_some (hall m List.mem_cons_self)
  | m :: n :: ms => exact wellNamed?_some (.fragment hall)

/-- A value that an element is to write is well-named data, or the markup of a slot. -/
def Writable (v : Value) : Prop :=
  v.WellNamed ∨ ∃ m : Markup, m.WellNamed ∧ v = .markup m

theorem Writable.wellNamed {v : Value} (h : Writable v) (hplain : ∀ m, v ≠ .markup m) :
    v.WellNamed :=
  h.resolve_right fun ⟨m, _, hm⟩ => hplain m hm

/-- A node of well-named data has well-named markup. -/
def NodeNamed (v : Value) (m : Option Markup) : Prop :=
  v.WellNamed → WellNamed? m

theorem wellNamed?_of_nodes {vs : List Value} {ms : List (Option Markup)}
    (h : List.Forall₂ NodeNamed vs ms) (hvs : ∀ v ∈ vs, v.WellNamed) :
    WellNamed? (Markup.group (ms.filterMap id)) := by
  refine wellNamed?_group ?_
  induction h with
  | nil => exact List.forall_mem_nil _
  | cons hnode _ ih =>
    rw [List.forall_mem_cons] at hvs ⊢
    exact ⟨hnode hvs.1, ih hvs.2⟩

theorem wellNamed?_of_slot {v : Value} {m : Option Markup}
    (h : SlotMarkup (fun _ => NodeNamed) v m) (hv : v.WellNamed) : WellNamed? m := by
  cases h with
  | empty => exact wellNamed?_none
  | nodes hitems hnodes =>
    exact wellNamed?_of_nodes hnodes (Value.WellNamed.handedDown.items? hv hitems)

/-- **Each way of writing a value leaves well-named markup.** -/
theorem describes_wellNamed :
    Describes (fun _ => NodeNamed) (fun _ v m => Writable v → WellNamed? m)
      (fun _ vs ms => (∀ v ∈ vs, v.WellNamed) → ∀ m ∈ ms, m.WellNamed)
      (fun _ es os => (∀ e ∈ es, '\n' ∉ e.1.text.toList ∧ e.2.WellNamed) →
        ∀ o ∈ os, '\n' ∉ o.1.toList ∧ o.2.WellNamed) where
  markup _ m h := by
    rcases h with h | ⟨x, hx, heq⟩
    · cases h
    · cases heq
      exact wellNamed?_some hx
  null _ _ := wellNamed?_none
  slot _ hplain h hv := wellNamed?_of_slot h (hv.wellNamed hplain)
  literal _ _ _ hv := by
    rcases hv with hv | ⟨m, hm, rfl⟩
    · exact wellNamed?_some hv.asLiteral
    · exact wellNamed?_some hm
  array {field fields v vs ms} _ _ hitems h hv := by
    have hplain : ∀ m, v ≠ .markup m := fun m heq => by
      rw [heq] at hitems
      cases hitems
    have hvs := Value.WellNamed.handedDown.items? (hv.wellNamed hplain) hitems
    exact wellNamed?_some (.array (h hvs))
  object _ _ h hv := by
    have hmap := hv.wellNamed fun _ => nofun
    have hos := h fun e he =>
      ⟨hmap.newline_not_mem_keys e he, Value.WellNamed.handedDown.values hmap e he⟩
    exact wellNamed?_some (.object (fun o ho => (hos o ho).1) fun o ho => (hos o ho).2)
  nil _ _ := List.forall_mem_nil _
  consNode _ hnode h hvs := by
    rw [List.forall_mem_cons] at hvs
    refine List.forall_mem_append.mpr ⟨fun m hm => ?_, h hvs.2⟩
    exact hnode hvs.1 m (Option.mem_toList.mp hm)
  consMap _ hentries h hvs := by
    rw [List.forall_mem_cons] at hvs ⊢
    have hos := hentries fun e he =>
      ⟨hvs.1.newline_not_mem_keys e he, Value.WellNamed.handedDown.values hvs.1 e he⟩
    exact ⟨.object (fun o ho => (hos o ho).1) fun o ho => (hos o ho).2, h hvs.2⟩
  consOther _ h hvs := by
    rw [List.forall_mem_cons] at hvs ⊢
    exact ⟨hvs.1.asLiteral, h hvs.2⟩
  entriesNil _ _ := List.forall_mem_nil _
  entriesCons hvalue h hes := by
    rw [List.forall_mem_cons] at hes
    refine List.forall_mem_append.mpr ⟨fun o ho => ?_, h hes.2⟩
    obtain ⟨m, hm, rfl⟩ := Option.map_eq_some_iff.mp (Option.mem_toList.mp ho)
    exact ⟨hes.1.1, hvalue (.inl hes.1.2) m hm⟩

/-! ### Nodes -/

private theorem writable_unhookedProps (stripped : List Value) {props : Entries Value}
    {slots : Entries (Option Markup)}
    (h : ∀ e ∈ props, '\n' ∉ e.1.text.toList ∧ e.2.WellNamed)
    (hslots : ∀ e ∈ slots, WellNamed? e.2) :
    ∀ e ∈ unhookedProps stripped props slots, '\n' ∉ e.1.text.toList ∧ Writable e.2.value := by
  intro e he
  obtain ⟨p, hp, ⟨⟨name, m⟩, hs, rfl⟩ | ⟨-, -, rfl⟩⟩ := mem_unhookedProps he
  · refine ⟨(h p hp).1, ?_⟩
    cases m with
    | none => exact .inl .null
    | some m => exact .inr ⟨m, hslots _ hs m rfl, rfl⟩
  · exact ⟨(h p hp).1, .inl (h p hp).2⟩

private theorem parts_wellNamed {c : Component} {written : Entries Sourced}
    {parts : Entries (List Markup)}
    (h : List.Forall₂ (EntryMarkup (fun _ v m => Writable v → WellNamed? m) c) written parts)
    (hwritten : ∀ e ∈ written, '\n' ∉ e.1.text.toList ∧ Writable e.2.value) :
    ∀ p ∈ parts, '\n' ∉ p.1.text.toList ∧ ∀ m ∈ p.2, m.WellNamed := by
  induction h with
  | nil => exact List.forall_mem_nil _
  | cons hentry _ ih =>
    rw [List.forall_mem_cons] at hwritten ⊢
    refine ⟨?_, ih hwritten.2⟩
    cases hentry with
    | text =>
      refine ⟨hwritten.1.1, ?_⟩
      dsimp only
      split
      · exact List.forall_mem_nil _
      · exact List.forall_mem_singleton.mpr (.text _)
    | value h => exact ⟨hwritten.1.1, fun m hm => h hwritten.1.2 m (Option.mem_toList.mp hm)⟩

private theorem wellNamed_itemAttributes {settings : Settings} {listItem : Bool}
    {attributes attributes' : List (Value × Markup)} {id : Value}
    (h : ∀ a ∈ attributes, '\n' ∉ a.1.text.toList ∧ a.2.WellNamed)
    (hitem : itemAttributes settings listItem attributes id = .ok attributes') :
    ∀ a ∈ attributes', '\n' ∉ a.1.text.toList ∧ a.2.WellNamed := by
  have hkey : '\n' ∉ keyName.text.toList := by decide
  rcases itemAttributes_eq_ok hitem with rfl | ⟨key, hliteral, -, rfl⟩
  · exact h
  · refine List.forall_mem_cons.mpr ⟨⟨hkey, ?_⟩, h⟩
    unfold keyLiteral at hliteral
    split at hliteral
    · exact Except.ok.inj hliteral ▸ .literal _
    · exact Except.ok.inj hliteral ▸ .literal _
    · obtain ⟨s, -, hs⟩ := bind_eq_ok_iff.mp hliteral
      exact Except.ok.inj hs ▸ .literal _

/-- The element of a node of a component without a hook is well named if its tag is solid. -/
theorem wellNamed_of_elementOf {settings : Settings} {c : Component} (hhook : c.hook = none)
    {type : Value} (htag : IsSolid (c.tag type).text.toList) {node : Value} (hnode : node.WellNamed)
    (htype : node.get? "type" = some type) {listItem : Bool} {m : Markup}
    (h : ElementOf settings (fun _ => NodeNamed) (fun _ v m => Writable v → WellNamed? m) c type
      listItem node m) : m.WellNamed := by
  cases h with
  | @mk props props' stripped slots written parts _ hprops _ _ hslots hmapped hparts hitem =>
    have hown := hnode.ownProps htype hprops
    have hnamed : ∀ e ∈ slots, WellNamed? e.2 := fun e he =>
      wellNamed?_of_slot (hslots e he)
        (Entries.getD_find?_of_forall (fun f hf => (hown f hf).2) .null e.1)
    cases hmapped with
    | hooked hsome => cases hhook.symm.trans hsome
    | unhooked =>
      have hpieces := parts_wellNamed hparts (writable_unhookedProps stripped hown hnamed)
      have hattributes : ∀ a ∈ attributesOf parts, '\n' ∉ a.1.text.toList ∧ a.2.WellNamed := by
        intro a ha
        obtain ⟨p, hp, -, hname, hm⟩ := exists_of_mem_attributesOf ha
        exact ⟨hname ▸ (hpieces p hp).1, (hpieces p hp).2 _ hm⟩
      have hcontent : ∀ m ∈ contentOf parts, m.WellNamed := by
        rcases contentOf_eq_nil_or parts with hnil | ⟨p, hp, heq⟩
        · exact hnil ▸ List.forall_mem_nil _
        · exact heq ▸ (hpieces p hp).2
      have hkeyed := wellNamed_itemAttributes hattributes hitem
      exact .element htag (fun a ha => (hkeyed a ha).1) (fun a ha => (hkeyed a ha).2) hcontent

/-! ### Pages -/

/-- The components of a table have no hooks, and the nodes of each type have solid tags. -/
structure ComponentTable.WellNamed (table : ComponentTable) : Prop where
  hook : ∀ e ∈ table, e.2.hook = none
  tag : ∀ type c, table.component? type = some c → IsSolid (c.tag type).text.toList

variable {table : ComponentTable}

/-- **A node of well-named data has well-named markup**, if this is so one level deeper. -/
theorem nodeNamed_of_nodeOf (htable : table.WellNamed) {settings : Settings} {listItem : Bool}
    {v : Value} {m : Option Markup}
    (h : NodeOf table settings (fun _ => NodeNamed) (fun _ v m => Writable v → WellNamed? m)
      listItem v m) : NodeNamed v m := by
  intro hv
  cases h with
  | skipped => exact wellNamed?_none
  | element hc _ helement =>
    obtain ⟨htype, hcomponent⟩ := nodeComponent?_eq_some_iff.mp hc
    exact wellNamed?_some (wellNamed_of_elementOf (htable.hook _ (mem_of_nodeComponent? hc).2)
      (htable.tag _ _ hcomponent) hv htype helement)

/-- **Rendered trees are well named.** Without hooks, plain data whose names are single lines is
written as a tree without raw code, whose names are single lines, too. -/
theorem leaves_renderRoot (settings : Settings) (htable : table.WellNamed) {nodes : List Value}
    (h : ∀ v ∈ nodes, v.WellNamed) :
    (renderRoot table settings nodes).Leaves Markup.WellNamed := by
  refine (Describes.leaves_renderRoot (fun _ => describes_wellNamed)
    (fun _ _ _ _ => nodeNamed_of_nodeOf htable) nodes).mono ?_
  rintro _ ⟨ms, rfl, hms⟩
  have hgroup := wellNamed?_of_nodes hms h
  cases hroot : Markup.group (ms.filterMap id) with
  | none => exact .fragment (List.forall_mem_nil _)
  | some root => exact hgroup root hroot

end PageMarkup
