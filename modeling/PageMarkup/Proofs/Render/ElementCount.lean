import PageMarkup.Proofs.Page.Counting
import PageMarkup.Proofs.Render.Keys

/-!
# Elements and counted nodes

The nodes of a document are counted through all lists among their properties, whatever the schema
says, and they are rendered by the schema. The two meet where every list is a slot and no field
leads to a node in any other way. There, without hooks and skipped components, each way of writing a
value leaves just as many elements as nodes are counted.

The count is that of a walk which may also fail. So the relations say what the elements are if there
is a count.

## Main definitions

* `Markup.elementCount`, `countElements` : the elements in one or more pieces of markup.
* `NestsInSlots` : nodes that hold lists in slots alone, and nodes in lists alone.
* `NodeCounted`, `ValueCounted` : the markup of a node has as many elements as are counted, and that
  of a value without nodes has none.

## Main results

* `describes_counted` : each way of writing a value keeps this.
* `nodeCounted_of_nodeOf` : nodes, from those one level deeper.
-/

namespace PageMarkup

open Relation (ReflTransGen)

/-! ### Elements -/

/-- The number of elements in a piece of markup, in its attributes and its content, too. -/
def Markup.elementCount (m : Markup) : Nat :=
  (Outline.labelsAll m.outline).length

/-- The number of elements in several pieces of markup. -/
def countElements : List Markup → Nat
  | [] => 0
  | m :: ms => m.elementCount + countElements ms

@[simp] theorem countElements_nil : countElements [] = 0 := rfl

theorem countElements_cons (m : Markup) (ms : List Markup) :
    countElements (m :: ms) = m.elementCount + countElements ms := rfl

@[simp] theorem countElements_singleton (m : Markup) : countElements [m] = m.elementCount := rfl

theorem countElements_append (ms ns : List Markup) :
    countElements (ms ++ ns) = countElements ms + countElements ns := by
  induction ms with
  | nil => exact (Nat.zero_add _).symm
  | cons m ms ih => rw [List.cons_append, countElements_cons, ih, countElements_cons, Nat.add_assoc]

theorem length_labelsAll_outlines (ms : List Markup) :
    (Outline.labelsAll (ms.flatMap Markup.outline)).length = countElements ms := by
  induction ms with
  | nil => rfl
  | cons m ms ih =>
    rw [List.flatMap_cons, Outline.labelsAll_append, List.length_append, ih, countElements_cons]
    rfl

namespace Markup

theorem elementCount_array (ms : List Markup) : (array ms).elementCount = countElements ms := by
  rw [elementCount, outline_array, length_labelsAll_outlines]

theorem elementCount_object (os : List (String × Markup)) :
    (object os).elementCount = countElements (os.map Prod.snd) := by
  rw [elementCount, outline_object, length_labelsAll_outlines]

theorem elementCount_fragment (ms : List Markup) :
    (fragment ms).elementCount = countElements ms := by
  rw [elementCount, outline_fragment, length_labelsAll_outlines]

theorem elementCount_element (tag : Value) (attributes : List (Value × Markup))
    (content : List Markup) : (element tag attributes content).elementCount =
      1 + (countElements (attributes.map Prod.snd) + countElements content) := by
  rw [elementCount, outline_element, Outline.labelsAll_element, List.length_cons,
    length_labelsAll_outlines, countElements_append, Nat.add_comm]

theorem countElements_group (ms : List Markup) :
    countElements (Markup.group ms).toList = countElements ms := by
  match ms with
  | [] => rfl
  | [m] => rfl
  | m :: n :: ms =>
    exact (countElements_singleton _).trans (elementCount_fragment _)

theorem elementCount_asLiteral {v : Value} (h : v.IsData) : v.asLiteral.elementCount = 0 := by
  have hwritten : Written [] {} [] [v.asLiteral] := written_asLiteral h
  obtain ⟨os, hos, houtline⟩ := hwritten.outline
  cases hos
  rw [List.flatMap_singleton] at houtline
  rw [elementCount, houtline]
  rfl

end Markup

/-! ### Nodes in slots alone -/

/-- Among the properties of a node only slots are lists, and no other one leads to nodes by its
field. -/
def NestsInSlots (table : ComponentTable) (v : Value) : Prop :=
  ∀ type c props, nodeComponent? table v = some (type, c) → ownProps v = .ok props →
    ∀ e ∈ props, nameIn e.1 c.slotNames = false →
      e.2.items? = none ∧ nestedNodes (c.field? e.1) e.2 = []

/-- A node is plain data, and all that is listed below it holds its nodes in slots alone. -/
def NestsBelow (table : ComponentTable) (v : Value) : Prop :=
  v.IsData ∧ ∀ w, ReflTransGen ListedBelow v w → NestsInSlots table w

/-- The markup of a node has as many elements as nodes are counted for it. -/
def NodeCounted (table : ComponentTable) (v : Value) (m : Option Markup) : Prop :=
  NestsBelow table v → ∀ k, countNode v = .ok k → countElements m.toList = k

/-- The markup of a value without nodes has no elements. Markup is written as it stands. -/
def ValueCounted (field : Option Field) (v : Value) (m : Option Markup) : Prop :=
  (∀ x, v = .markup x → m = some x) ∧
    (v.IsData → nestedNodes field v = [] → countElements m.toList = 0)

/-- The markup of items without nodes has no elements. -/
def ItemsCounted (fields : Entries Field) (vs : List Value) (ms : List Markup) : Prop :=
  (∀ v ∈ vs, v.IsData) → nestedInItems fields vs = [] → countElements ms = 0

/-- The markup of entries without nodes has no elements. -/
def EntriesCounted (fields : Entries Field) (es : Entries Value) (os : List (String × Markup)) :
    Prop :=
  (∀ e ∈ es, e.2.IsData) → nestedInEntries fields es = [] → countElements (os.map Prod.snd) = 0

section

variable {table : ComponentTable} {v : Value}

theorem counted_of_nodes {vs : List Value} {ms : List (Option Markup)}
    (h : List.Forall₂ (NodeCounted table) vs ms) (hvs : ∀ v ∈ vs, NestsBelow table v) {n : Nat}
    (hn : countAll vs = .ok n) : countElements (ms.filterMap id) = n := by
  induction h generalizing n with
  | nil =>
    cases hn
    rfl
  | @cons v m vs ms hnode _ ih =>
    rw [List.forall_mem_cons] at hvs
    obtain ⟨a, b, ha, hb, rfl⟩ := count_add_eq_ok_iff.mp hn
    have hcons : (m :: ms).filterMap id = m.toList ++ ms.filterMap id := by
      cases m <;> rfl
    rw [hcons, countElements_append, hnode hvs.1 a ha, ih hvs.2 hb]

theorem counted_of_slot {m : Option Markup} (h : SlotMarkup (fun _ => NodeCounted table) v m)
    (hv : ∀ w ∈ v.items?.getD [], NestsBelow table w) {n : Nat}
    (hn : countAll (v.items?.getD []) = .ok n) : countElements m.toList = n := by
  cases h with
  | empty hitems =>
    rw [hitems] at hn
    cases hn
    rfl
  | nodes hitems hnodes =>
    rw [hitems] at hv hn
    rw [Markup.countElements_group]
    exact counted_of_nodes hnodes hv hn

/-- **Each way of writing a value leaves no elements without nodes.** -/
theorem describes_counted (table : ComponentTable) :
    Describes (fun _ => NodeCounted table) ValueCounted ItemsCounted EntriesCounted where
  markup field m := by
    refine ⟨fun x hx => congrArg some (Value.markup.inj hx), fun hdata => ?_⟩
    cases hdata
  null field := ⟨fun x hx => (nomatch hx), fun _ _ => rfl⟩
  slot {field v m} hslot hplain h := by
    refine ⟨fun x hx => absurd hx (hplain x), fun hdata hnone => ?_⟩
    rw [nestedNodes_of_slot hslot] at hnone
    refine counted_of_slot h ?_ ?_
    · rw [hnone]
      exact List.forall_mem_nil _
    · rw [hnone]
      rfl
  literal _ _ _ := by
    refine ⟨fun x hx => by rw [hx]; rfl, fun hdata _ => ?_⟩
    rw [Option.toList_some, countElements_singleton, Markup.elementCount_asLiteral hdata]
  array {field fields v vs ms} hslot hfields hitems h := by
    refine ⟨fun x hx => ?_, fun hdata hnone => ?_⟩
    · rw [hx] at hitems
      cases hitems
    · rw [(nested_of_items hslot hfields hitems).2] at hnone
      rw [Option.toList_some, countElements_singleton, Markup.elementCount_array]
      exact h (Value.IsData.handedDown.items? hdata hitems) hnone
  object {field fields es os} hslot hfields h := by
    refine ⟨fun x hx => (nomatch hx), fun hdata hnone => ?_⟩
    rw [nestedNodes, hslot, if_neg Bool.false_ne_true, hfields] at hnone
    rw [Option.toList_some, countElements_singleton, Markup.elementCount_object]
    exact h (Value.IsData.handedDown.values hdata) hnone
  nil _ _ _ := rfl
  consNode {fields v vs m ms} hshape _ _ _ hnone := by
    obtain ⟨es, rfl⟩ := exists_map_of_isNodeShaped hshape
    rw [nestedInItems, if_pos hshape] at hnone
    cases hnone
  consMap {fields es vs os ms} hshape hentries h hvs hnone := by
    rw [List.forall_mem_cons] at hvs
    rw [nestedInItems, hshape, if_neg Bool.false_ne_true, List.append_eq_nil_iff] at hnone
    rw [countElements_cons, Markup.elementCount_object,
      hentries (Value.IsData.handedDown.values hvs.1) hnone.1, h hvs.2 hnone.2]
  consOther {fields v vs ms} hother h hvs hnone := by
    rw [List.forall_mem_cons] at hvs
    have hmap : ∀ es, v ≠ .map es := by
      rintro es rfl
      cases hother
    rw [nestedInItems_cons_of_ne hmap] at hnone
    rw [countElements_cons, Markup.elementCount_asLiteral hvs.1, h hvs.2 hnone]
  entriesNil _ _ _ := rfl
  entriesCons {fields k v es m os} hvalue h hes hnone := by
    rw [List.forall_mem_cons] at hes
    rw [nestedInEntries, List.append_eq_nil_iff] at hnone
    have hfirst := hvalue.2 hes.1 hnone.1
    rw [List.map_append, countElements_append, h hes.2 hnone.2]
    cases m with
    | none => rfl
    | some m => exact hfirst

/-! ### Attributes and content -/

private theorem contentOf_eq_nil {p : Value × List Markup} {parts : Entries (List Markup)}
    (hfirst : ∀ q ∈ parts, p.1.isStr = true → p.1 ≠ q.1) (hname : p.1.same childrenName = true) :
    contentOf parts = [] := by
  have hchildren : p.1 = childrenName := Value.same_str_iff.mp hname
  have hnone : parts.find? childrenName = none := by
    refine Entries.find?_eq_none_iff.mpr fun hmem => ?_
    obtain ⟨q, hq, hqname⟩ := List.mem_map.mp hmem
    exact hfirst q hq (hchildren ▸ rfl) (hchildren.trans hqname.symm)
  rw [contentOf, hnone, Option.getD_none]

/-- The attributes and the content of an element have the elements of all that its entries add. -/
theorem countElements_parts {parts : Entries (List Markup)} (h : parts.DistinctTexts) :
    countElements ((attributesOf parts).map Prod.snd) + countElements (contentOf parts) =
      countElements (parts.flatMap Prod.snd) := by
  induction parts with
  | nil => rfl
  | cons p parts ih =>
    obtain ⟨hfirst, hrest⟩ := List.pairwise_cons.mp h
    rw [attributesOf_cons, contentOf_cons, List.flatMap_cons, countElements_append, ← ih hrest]
    cases hname : p.1.same childrenName with
    | true =>
      rw [if_pos rfl, if_pos rfl, contentOf_eq_nil hfirst hname, List.nil_append,
        countElements_nil]
      omega
    | false =>
      have hpiece : (p.2.map fun m => (p.1, m)).map Prod.snd = p.2 := by
        rw [List.map_map]
        exact List.map_id _
      rw [if_neg Bool.false_ne_true, if_neg Bool.false_ne_true, List.map_append,
        countElements_append, hpiece, Nat.add_assoc]

variable {c : Component} {stripped : List Value} {props : Entries Value}
  {slots : Entries (Option Markup)}

/-- A property that is written by its field and leads to no nodes adds no elements. -/
private theorem counted_plain {e : Value × Value} {p : Value × List Markup} (hdata : e.2.IsData)
    (hnone : nestedNodes (c.field? e.1) e.2 = [])
    (h : EntryMarkup ValueCounted c (e.1, ⟨e.2, some e.1⟩) p) : countElements p.2 = 0 := by
  generalize hitem : (⟨e.2, some e.1⟩ : Sourced) = item at h
  cases h with
  | @text _ s =>
    dsimp only
    split <;> rfl
  | value hvalue =>
    subst hitem
    exact hvalue.2 hdata hnone

private theorem counted_slot {name : Value} {m : Option Markup} {p : Value × List Markup}
    (h : EntryMarkup ValueCounted c (name, ⟨(m.map Value.markup).getD .null, some name⟩) p) :
    countElements p.2 = countElements m.toList := by
  generalize hvalue : (m.map Value.markup).getD .null = value at h
  cases h with
  | text => cases m <;> cases hvalue
  | value h =>
    cases m with
    | some m => rw [h.1 m hvalue.symm]
    | none =>
      subst hvalue
      exact h.2 .null rfl

/-- What the properties of a node add has as many elements as nodes are counted in their lists. -/
theorem counted_unhookedProps (hdata : ∀ e ∈ props, e.2.IsData) (hnames : slots.keys = c.slotNames)
    (hslots : ∀ e ∈ props, ∀ m, slots.find? e.1 = some m →
      SlotMarkup (fun _ => NodeCounted table) e.2 m)
    (hbelow : ∀ e ∈ props, ∀ w ∈ e.2.items?.getD [], NestsBelow table w)
    (hnests : ∀ e ∈ props, nameIn e.1 c.slotNames = false →
      e.2.items? = none ∧ nestedNodes (c.field? e.1) e.2 = [])
    {parts : Entries (List Markup)} (hparts : List.Forall₂ (EntryMarkup ValueCounted c)
      (unhookedProps stripped props slots) parts) {n : Nat} (hn : countInLists props = .ok n) :
    countElements (parts.flatMap Prod.snd) = n := by
  induction props generalizing parts n with
  | nil =>
    cases hparts
    cases hn
    rfl
  | cons e es ih =>
    rw [List.forall_mem_cons] at hdata hslots hbelow hnests
    rw [countInLists_cons] at hn
    obtain ⟨a, b, ha, hb, rfl⟩ := count_add_eq_ok_iff.mp hn
    have hslot := Entries.isSome_find?_eq_nameIn slots e.1
    rw [hnames] at hslot
    rw [unhookedProps_cons] at hparts
    cases hfind : slots.find? e.1 with
    | some m =>
      rw [hfind] at hparts
      obtain ⟨p, parts, hp, hes, rfl⟩ := List.forall₂_cons_left_iff.mp hparts
      rw [List.flatMap_cons, countElements_append, counted_slot hp,
        counted_of_slot (hslots.1 m hfind) hbelow.1 ha,
        ih hdata.2 hslots.2 hbelow.2 hnests.2 hes hb]
    | none =>
      rw [hfind, Option.isSome_none] at hslot
      obtain ⟨hitems, hnone⟩ := hnests.1 hslot.symm
      rw [hitems] at ha
      obtain rfl : 0 = a := Except.ok.inj ha
      rw [hfind] at hparts
      dsimp only at hparts
      split at hparts
      · rw [ih hdata.2 hslots.2 hbelow.2 hnests.2 hparts hb, Nat.zero_add]
      · obtain ⟨p, parts, hp, hes, rfl⟩ := List.forall₂_cons_left_iff.mp hparts
        rw [List.flatMap_cons, countElements_append, counted_plain hdata.1 hnone hp,
          ih hdata.2 hslots.2 hbelow.2 hnests.2 hes hb]

theorem countElements_itemAttributes {settings : Settings} {listItem : Bool}
    {attributes attributes' : List (Value × Markup)} {id : Value}
    (h : itemAttributes settings listItem attributes id = .ok attributes') :
    countElements (attributes'.map Prod.snd) = countElements (attributes.map Prod.snd) := by
  rcases itemAttributes_eq_ok h with rfl | ⟨key, hliteral, -, rfl⟩
  · rfl
  · have hkey : key.elementCount = 0 := by
      unfold keyLiteral at hliteral
      split at hliteral
      · exact Except.ok.inj hliteral ▸ rfl
      · exact Except.ok.inj hliteral ▸ rfl
      · obtain ⟨s, -, hs⟩ := bind_eq_ok_iff.mp hliteral
        exact Except.ok.inj hs ▸ rfl
    rw [List.map_cons, countElements_cons, hkey, Nat.zero_add]

/-! ### Nodes -/

theorem NestsBelow.below {w : Value} (h : NestsBelow table v) (hw : ListedBelow v w) :
    NestsBelow table w := by
  refine ⟨?_, fun x hx => h.2 x (.head hw hx)⟩
  obtain ⟨-, ps, hps, e, he, hw⟩ := hw
  have hprops := Value.IsData.handedDown.get? h.1 hps
  have hlist : e.2.IsData := Value.IsData.handedDown.values hprops e he
  cases hitems : e.2.items? with
  | none =>
    rw [hitems] at hw
    cases hw
  | some xs =>
    rw [hitems] at hw
    exact Value.IsData.handedDown.items? hlist hitems w hw

/-- A computation on the properties of a node is one on those that the node is rendered from, unless
they are given in another way than as a map. -/
theorem throughProps_ownProps {α : Type} {inside : Entries Value → Except Misuse α} {nothing : α}
    (hempty : inside [] = .ok nothing) (hmap : v.HoldsMap) (hprops : ownProps v = .ok props) :
    throughProps inside nothing v = inside props ∧
      (props = [] ∨ v.get? "props" = some (.map props)) := by
  unfold ownProps at hprops
  unfold throughProps
  cases hp : v.get? "props" with
  | none =>
    rw [hp] at hprops
    obtain rfl : [] = props := Except.ok.inj hprops
    exact ⟨hempty.symm, .inl rfl⟩
  | some p =>
    rw [hp] at hprops
    dsimp only at hprops
    cases htruthy : p.truthy with
    | true =>
      obtain ⟨ps, rfl⟩ := hmap p hp htruthy
      rw [if_pos htruthy] at hprops
      obtain rfl : ps = props := Except.ok.inj hprops
      exact ⟨rfl, .inr rfl⟩
    | false =>
      rw [if_neg (Bool.eq_false_iff.mp htruthy)] at hprops
      obtain rfl : [] = props := Except.ok.inj hprops
      refine ⟨?_, .inl rfl⟩
      cases p with
      | map ps =>
        obtain rfl : ps = [] := by simpa [Value.truthy] using htruthy
        rfl
      | null | bool | int | float | str | list | tuple | foreign | markup =>
        simp [onEntries, Value.entries?, htruthy, hempty]

/-- A node that is counted counts as one, together with the nodes in the lists among its properties,
which are all listed below it. -/
theorem countNode_of_ownProps (htype : (v.get? "type").isSome = true)
    (hprops : ownProps v = .ok props) {k : Nat} (hk : countNode v = .ok k) :
    (∃ n, countInLists props = .ok n ∧ 1 + n = k) ∧
      ∀ e ∈ props, ∀ w ∈ e.2.items?.getD [], ListedBelow v w := by
  have hmap : v.HoldsMap := (counts_countNode_iff v).mp ⟨k, hk, trivial⟩ v .refl htype
  have hempty : countInLists [] = .ok 0 := rfl
  obtain ⟨hthrough, hlists⟩ := throughProps_ownProps hempty hmap hprops
  rw [countNode_eq, if_pos htype, hthrough] at hk
  obtain ⟨n, hn, hsum⟩ := bind_eq_ok_iff.mp hk
  refine ⟨⟨n, hn, Except.ok.inj hsum⟩, fun e he w hw => ?_⟩
  rcases hlists with rfl | hget
  · cases he
  · exact ⟨htype, props, hget, e, he, hw⟩

theorem elementCount_of_elementOf {settings : Settings} (hhook : c.hook = none)
    (hfields : c.fields.HasTextKeys) {type : Value} (hc : nodeComponent? table v = some (type, c))
    (hv : NestsBelow table v) {listItem : Bool} {m : Markup}
    (h : ElementOf settings (fun _ => NodeCounted table) ValueCounted c type listItem v m) {k : Nat}
    (hk : countNode v = .ok k) : m.elementCount = k := by
  cases h with
  | @mk props _ stripped slots _ parts _ hprops _ hnames hslots hmapped hparts hattributes =>
    cases hmapped with
    | hooked hsome => cases hhook.symm.trans hsome
    | unhooked =>
      obtain ⟨hdistinct, hdata⟩ := hv.1.ownProps hprops
      have htype : (v.get? "type").isSome = true := by
        rw [(nodeComponent?_eq_some_iff.mp hc).1, Option.isSome_some]
      obtain ⟨⟨n, hn, rfl⟩, hlisted⟩ := countNode_of_ownProps htype hprops hk
      have hcounted := counted_unhookedProps hdata hnames
        (fun e he m hfind => slotMarkup_of_find? hfields hdistinct hnames hslots he hfind)
        (fun e he w hw => hv.below (hlisted e he w hw))
        (hv.2 v .refl type c props hc hprops) hparts hn
      have hnamed : parts.DistinctTexts := hdistinct.of_keys
        (keys_of_entryMarkup hparts ▸ sublist_keys_unhookedProps stripped props slots)
      rw [Markup.elementCount_element, ← hcounted, ← countElements_parts hnamed,
        countElements_itemAttributes hattributes]

/-- **A node has as many elements as are counted for it**, if this is so one level deeper. -/
theorem nodeCounted_of_nodeOf (hhook : ∀ e ∈ table, e.2.hook = none)
    (hskip : ∀ e ∈ table, e.2.skip = false) (hfields : ∀ e ∈ table, e.2.fields.HasTextKeys)
    {settings : Settings} {listItem : Bool} {m : Option Markup}
    (h : NodeOf table settings (fun _ => NodeCounted table) ValueCounted listItem v m) :
    NodeCounted table v m := by
  intro hv k hk
  cases h with
  | skipped hc hskipped => cases (hskip _ (mem_of_nodeComponent? hc).2).symm.trans hskipped
  | element hc _ helement =>
    have hmem := (mem_of_nodeComponent? hc).2
    rw [Option.toList_some, countElements_singleton]
    exact elementCount_of_elementOf (hhook _ hmem) (hfields _ hmem) hc hv helement hk

end

end PageMarkup
