import PageMarkup.Proofs.Render.Traversal

/-!
# The properties of a node

The slots of a node come first, then its other properties, of which one is its content. Together
they visit the entries below the node, and its attributes and its content show them.

## Main definitions

* `WrittenProps` : attributes and content that show what is below a node.
* `renderProps` : the attributes and the content of a node without a hook.

## Main results

* `visits_renderSlots` : the slots of a node.
* `visits_assemble` : its other properties.
* `visits_renderProps` : all properties of a node.
-/

namespace PageMarkup

open Render (Visits)

variable {table : ComponentTable} {settings : Settings} {render : NodeRenderer} {depth : Int}
  {clean : Prop} {fine : Value → Prop} {asks : Value → ImportSpec → Prop}

/-! ### Slots -/

/-- The entries of a property as a slot. -/
def slotNodes (props : Entries Value) (name : Value) : List Value :=
  ((props.find? name).getD .null).items?.getD []

theorem Entries.isSome_find?_eq_nameIn {α : Type} (es : Entries α) (key : Value) :
    (es.find? key).isSome = nameIn key es.keys := by
  induction es with
  | nil => rfl
  | cons e es ih =>
    rw [find?_cons]
    cases hsame : e.1.same key with
    | true => simp [nameIn, keys, hsame]
    | false => simpa [nameIn, keys, hsame] using ih

theorem nameIn_iff {names : List Value} (htext : ∀ name ∈ names, name.isStr = true) {key : Value} :
    nameIn key names = true ↔ key ∈ names := by
  rw [nameIn, List.any_eq_true]
  constructor
  · rintro ⟨name, hname, hsame⟩
    obtain ⟨s, rfl⟩ := Value.isStr_iff.mp (htext name hname)
    exact Value.str_same_iff.mp hsame ▸ hname
  · intro hkey
    obtain ⟨s, hs⟩ := Value.isStr_iff.mp (htext key hkey)
    exact ⟨key, hkey, hs ▸ Value.str_same_iff.mpr rfl⟩

theorem slotNodes_eq {c : Component} (stripped : List Value) {props : Entries Value}
    (htext : ∀ name ∈ c.slotNames, name.isStr = true) (hdistinct : props.DistinctTexts)
    {e : Value × Value} (he : e ∈ props) (hslot : nameIn e.1 c.slotNames = true) :
    slotNodes props e.1 = entryNodes c stripped e := by
  obtain ⟨s, hs⟩ := Value.isStr_iff.mp (htext e.1 ((nameIn_iff htext).mp hslot))
  have hmem : (.str s, e.2) ∈ props := hs ▸ he
  rw [slotNodes, entryNodes, if_pos hslot, hs, hdistinct.find?_eq hmem, Option.getD_some]

theorem exists_entryNodes_of_slotNodes {c : Component} (stripped : List Value)
    {props : Entries Value} (htext : ∀ name ∈ c.slotNames, name.isStr = true) {name : Value}
    (hname : name ∈ c.slotNames) {v : Value} (hv : v ∈ slotNodes props name) :
    ∃ e ∈ props, v ∈ entryNodes c stripped e := by
  obtain ⟨s, rfl⟩ := Value.isStr_iff.mp (htext name hname)
  unfold slotNodes at hv
  cases hfind : props.find? (.str s) with
  | none =>
    rw [hfind] at hv
    cases hv
  | some value =>
    have hslot : nameIn (.str s) c.slotNames = true := (nameIn_iff htext).mpr hname
    rw [hfind] at hv
    refine ⟨_, Entries.mem_of_find?_eq_some hfind, ?_⟩
    rw [entryNodes, if_pos hslot]
    exact hv

theorem visits_renderSlotValue {counted : Bool} {v : Value}
    (h : VisitsEach clean table settings (render (depth + 1)) fine asks (v.items?.getD [])) :
    Visits clean fine asks (renderSlotValue render depth counted v) (v.items?.getD []) fun m =>
      Written table settings (v.items?.getD []) m.toList := by
  unfold renderSlotValue
  cases hitems : v.items? with
  | none => exact .pure .nil
  | some nodes =>
    rw [hitems] at h
    exact visits_renderSiblings _ h

/-- The slots of a node, one after the other. -/
theorem visits_renderSlots (counted : Bool) (c : Component) (props : Entries Value)
    (h : VisitsEach clean table settings (render (depth + 1)) fine asks
      (c.slotNames.flatMap (slotNodes props))) :
    Visits clean fine asks (renderSlots render depth counted c props)
      (c.slotNames.flatMap (slotNodes props))
      (List.Forall₂ (fun name e => e.1 = name ∧
        Written table settings (slotNodes props name) (Option.toList e.2)) c.slotNames) := by
  refine Visits.mapM fun name hname => ?_
  have hslot : VisitsEach clean table settings (render (depth + 1)) fine asks
      (slotNodes props name) := fun v hv => h v (List.mem_flatMap.mpr ⟨name, hname, hv⟩)
  exact (visits_renderSlotValue hslot).map fun m hm => ⟨rfl, hm⟩

theorem find?_of_renderedSlots {names : List Value} {props : Entries Value}
    {slots : Entries (Option Markup)} (htext : ∀ name ∈ names, name.isStr = true)
    (h : List.Forall₂ (fun name e => e.1 = name ∧
      Written table settings (slotNodes props name) (Option.toList e.2)) names slots)
    (key : Value) :
    if nameIn key names then
      ∃ m, slots.find? key = some m ∧ Written table settings (slotNodes props key) m.toList
    else slots.find? key = none := by
  induction h with
  | nil => rfl
  | @cons name e names slots he hrest ih =>
    rw [List.forall_mem_cons] at htext
    obtain ⟨s, rfl⟩ := Value.isStr_iff.mp htext.1
    by_cases hsame : (Value.str s).same key = true
    · obtain rfl := Value.str_same_iff.mp hsame
      have hin : nameIn (.str s) (.str s :: names) = true := by simp [nameIn, hsame]
      rw [if_pos hin]
      exact ⟨e.2, by simp [Entries.find?, he.1, hsame], he.2⟩
    · have hin : nameIn key (.str s :: names) = nameIn key names := by simp [nameIn, hsame]
      have hfind : Entries.find? (e :: slots) key = Entries.find? slots key := by
        simp [Entries.find?, he.1, hsame]
      rw [hin, hfind]
      exact ih htext.2

theorem visits_renderChildren {counted : Bool} {field : Option Field} {v : Value}
    {vs ws : List Value} (hstr : v.isStr = true → vs = [] ∧ ws = [])
    (h : Visits clean fine asks (serialize render depth counted field v) vs fun m =>
      Written table settings ws m.toList) :
    Visits clean fine asks (renderChildren render depth counted field v) vs
      (Written table settings ws) := by
  by_cases hv : ∃ s, v = .str s
  · obtain ⟨s, rfl⟩ := hv
    obtain ⟨rfl, rfl⟩ := hstr rfl
    refine .pure ?_
    split
    · exact .nil
    · exact ⟨by simp [Markup.hasTextTags], [], .nil, rfl⟩
  · rw [renderChildren]
    · exact h.map fun m hm => hm
    · exact fun s heq => hv ⟨s, heq⟩

/-! ### Properties -/

/-- The entries below a node in the properties that are no slots. -/
def plainNodes (c : Component) (stripped : List Value) (es : Entries Value) : List Value :=
  (es.filter fun e => !nameIn e.1 c.slotNames).flatMap (entryNodes c stripped)

theorem plainNodes_cons (c : Component) (stripped : List Value) (e : Value × Value)
    (es : Entries Value) : plainNodes c stripped (e :: es) =
      (if nameIn e.1 c.slotNames then [] else entryNodes c stripped e) ++
        plainNodes c stripped es := by
  cases hslot : nameIn e.1 c.slotNames <;> simp [plainNodes, hslot]

/-- Attributes and content show the entries below a node that its properties hold. -/
structure WrittenProps (table : ComponentTable) (settings : Settings) (c : Component)
    (stripped : List Value) (es : Entries Value) (r : List (Value × Markup) × List Markup) :
    Prop where
  attributes : Written table settings
    ((es.filter fun e => !e.1.same childrenName).flatMap (entryNodes c stripped)) (r.1.map Prod.snd)
  content : Written table settings
    ((es.filter fun e => e.1.same childrenName).flatMap (entryNodes c stripped)) r.2

namespace WrittenProps

variable {c : Component} {stripped : List Value} {e : Value × Value} {es : Entries Value}
  {r : List (Value × Markup) × List Markup}

theorem cons_of_empty (h : WrittenProps table settings c stripped es r)
    (hempty : entryNodes c stripped e = []) :
    WrittenProps table settings c stripped (e :: es) r := by
  have hfilter : ∀ p : Value × Value → Bool, ((e :: es).filter p).flatMap (entryNodes c stripped) =
      (es.filter p).flatMap (entryNodes c stripped) := by
    intro p
    rw [List.filter_cons]
    split
    · rw [List.flatMap_cons, hempty, List.nil_append]
    · rfl
  constructor
  · rw [hfilter]
    exact h.attributes
  · rw [hfilter]
    exact h.content

theorem cons_attribute (h : WrittenProps table settings c stripped es r)
    (hname : e.1.same childrenName = false) {m : Option Markup}
    (hm : Written table settings (entryNodes c stripped e) m.toList) :
    WrittenProps table settings c stripped (e :: es)
      ((m.map fun m => (e.1, m)).toList ++ r.1, r.2) where
  attributes := by
    have hboth := hm.append h.attributes
    rw [List.filter_cons, hname, Bool.not_false, if_pos rfl, List.flatMap_cons, List.map_append]
    cases m with
    | none => exact hboth
    | some m => exact hboth
  content := by
    rw [List.filter_cons, hname, if_neg Bool.false_ne_true]
    exact h.content

theorem cons_content (h : WrittenProps table settings c stripped es r)
    (hname : e.1.same childrenName = true) (hfirst : ∀ f ∈ es, e.1.isStr = true → e.1 ≠ f.1)
    {ms : List Markup} (hms : Written table settings (entryNodes c stripped e) ms) :
    WrittenProps table settings c stripped (e :: es) (r.1, ms) where
  attributes := by
    rw [List.filter_cons, hname, Bool.not_true, if_neg Bool.false_ne_true]
    exact h.attributes
  content := by
    have hkey : e.1 = childrenName := Value.same_str_iff.mp hname
    have hnone : (es.filter fun e => e.1.same childrenName) = [] := by
      refine List.filter_eq_nil_iff.mpr fun f hf hsame => ?_
      exact hfirst f hf (by rw [hkey]; rfl) (hkey.trans (Value.same_str_iff.mp hsame).symm)
    rw [List.filter_cons, if_pos hname, hnone, List.flatMap_singleton]
    exact hms

end WrittenProps

private theorem visits_assemble_cons {counted : Bool} {c : Component} {stripped : List Value}
    {e : Value × Value} {es : Entries Value} {value : Value} {rest : Entries Sourced}
    {vs ws : List Value} (hfirst : ∀ f ∈ es, e.1.isStr = true → e.1 ≠ f.1)
    (hstr : value.isStr = true → vs = [] ∧ entryNodes c stripped e = [])
    (hvalue : ∀ counted,
      Visits clean fine asks (serialize render depth counted (c.field? e.1) value) vs fun m =>
        Written table settings (entryNodes c stripped e) m.toList)
    (hrest : Visits clean fine asks (assemble render depth counted c rest) ws
      (WrittenProps table settings c stripped es)) :
    Visits clean fine asks (assemble render depth counted c ((e.1, ⟨value, some e.1⟩) :: rest))
      (vs ++ ws) (WrittenProps table settings c stripped (e :: es)) := by
  rw [assemble]
  cases hname : e.1.same childrenName with
  | true =>
    exact (visits_renderChildren hstr (hvalue _)).bind fun content hcontent =>
      hrest.map fun r hr => hr.cons_content hname hfirst hcontent
  | false =>
    exact (hvalue _).bind fun m hm => hrest.map fun r hr => hr.cons_attribute hname hm

private theorem visits_rendered {field : Option Field} {m : Option Markup} {vs : List Value}
    (hm : Written table settings vs m.toList) (counted : Bool) :
    Visits clean fine asks (serialize render depth counted field (slotValue m)) [] fun m =>
      Written table settings vs m.toList := by
  cases m with
  | none => exact .pure hm
  | some m => exact .pure hm

/-- What a first property adds to those of a node: the markup of a slot, nothing if it is dropped,
and otherwise its value. -/
theorem unhookedProps_cons (stripped : List Value) (e : Value × Value) (es : Entries Value)
    (slots : Entries (Option Markup)) :
    unhookedProps stripped (e :: es) slots =
      (match slots.find? e.1 with
        | some m => [(e.1, ⟨slotValue m, some e.1⟩)]
        | none => if nameIn e.1 stripped then [] else [(e.1, ⟨e.2, some e.1⟩)]) ++
      unhookedProps stripped es slots := by
  rw [unhookedProps, List.filterMap_cons]
  cases slots.find? e.1 with
  | some m => rfl
  | none =>
    by_cases hstripped : nameIn e.1 stripped = true
    · simp only [hstripped, if_true]
      rfl
    · simp only [hstripped]
      rfl

theorem sublist_keys_unhookedProps (stripped : List Value) (props : Entries Value)
    (slots : Entries (Option Markup)) :
    (unhookedProps stripped props slots).keys.Sublist props.keys := by
  induction props with
  | nil => exact .slnil
  | cons e es ih =>
    rw [unhookedProps_cons]
    split
    · exact ih.cons_cons e.1
    · split
      · exact ih.cons e.1
      · exact ih.cons_cons e.1

/-- What a node without a hook writes stands under the name of a property: it is the markup of a
slot, or a property that is neither a slot nor dropped. -/
theorem mem_unhookedProps {stripped : List Value} {props : Entries Value}
    {slots : Entries (Option Markup)} {e : Value × Sourced}
    (h : e ∈ unhookedProps stripped props slots) :
    ∃ p ∈ props,
      (∃ s ∈ slots, e = (p.1, ⟨slotValue s.2, some p.1⟩)) ∨
      (slots.find? p.1 = none ∧ nameIn p.1 stripped = false ∧ e = (p.1, ⟨p.2, some p.1⟩)) := by
  obtain ⟨p, hp, hwritten⟩ := List.mem_filterMap.mp h
  refine ⟨p, hp, ?_⟩
  cases hslot : slots.find? p.1 with
  | some m =>
    rw [hslot] at hwritten
    obtain ⟨s, hs, rfl⟩ := Option.map_eq_some_iff.mp hslot
    exact .inl ⟨s, List.mem_of_find?_eq_some hs, (Option.some.inj hwritten).symm⟩
  | none =>
    rw [hslot] at hwritten
    cases hstripped : nameIn p.1 stripped with
    | true => simp [hstripped] at hwritten
    | false => exact .inr ⟨rfl, rfl, by simpa [hstripped] using hwritten.symm⟩

/-- The properties of a node, given the markup of its slots: only the others are visited, and all
are written. -/
theorem visits_assemble (counted : Bool) {c : Component} {stripped : List Value}
    {slots : Entries (Option Markup)} {es : Entries Value} (hdata : ∀ e ∈ es, e.2.IsData)
    (hshow : ∀ e ∈ es, clean → e.2.isShowable = true)
    (hdistinct : es.DistinctTexts)
    (hslots : ∀ e ∈ es, if nameIn e.1 c.slotNames then
      ∃ m, slots.find? e.1 = some m ∧
        Written table settings (entryNodes c stripped e) (Option.toList m)
      else slots.find? e.1 = none)
    (h : VisitsEach clean table settings (render (depth + 1)) fine asks
      (plainNodes c stripped es)) :
    Visits clean fine asks (assemble render depth counted c (unhookedProps stripped es slots))
      (plainNodes c stripped es) (WrittenProps table settings c stripped es) := by
  induction es with
  | nil => exact .pure ⟨.nil, .nil⟩
  | cons e es ih =>
    rw [List.forall_mem_cons] at hdata hshow hslots
    obtain ⟨hfirst, hdistinct⟩ := List.pairwise_cons.mp hdistinct
    have hrest := ih hdata.2 hshow.2 hdistinct hslots.2
    obtain ⟨hfound, -⟩ := hslots
    rw [plainNodes_cons] at h ⊢
    rw [unhookedProps_cons]
    have hrest := hrest fun v hv => h v (List.mem_append_right _ hv)
    by_cases hslot : nameIn e.1 c.slotNames = true
    · rw [if_pos hslot] at hfound ⊢
      obtain ⟨m, hfind, hm⟩ := hfound
      have hstr : (slotValue m).isStr ≠ true := by
        cases m <;> exact Bool.false_ne_true
      rw [hfind]
      exact visits_assemble_cons hfirst (fun htrue => absurd htrue hstr) (visits_rendered hm) hrest
    · rw [if_neg hslot] at h hfound ⊢
      rw [hfound]
      by_cases hstripped : nameIn e.1 stripped = true
      · have hempty : entryNodes c stripped e = [] := by
          rw [entryNodes, if_neg hslot, if_pos hstripped]
        rw [if_pos hstripped, hempty]
        exact hrest.mono fun r hr => hr.cons_of_empty hempty
      · have hentry : entryNodes c stripped e = nestedNodes (c.field? e.1) e.2 := by
          rw [entryNodes, if_neg hslot, if_neg hstripped]
        have hstr : e.2.isStr = true →
            entryNodes c stripped e = [] ∧ entryNodes c stripped e = [] := by
          intro htrue
          obtain ⟨s, hs⟩ := Value.isStr_iff.mp htrue
          rw [hentry, hs]
          exact ⟨rfl, rfl⟩
        rw [if_neg hstripped]
        refine visits_assemble_cons hfirst hstr (fun counted => ?_) hrest
        rw [hentry]
        exact visits_serialize counted hdata.1 hshow.1 fun v hv =>
          h v (List.mem_append_left _ (hentry ▸ hv))

/-- Entries that hang below a node stand in its slots or are reached in its other properties. -/
private theorem mem_slotNodes_append_plainNodes_iff {c : Component} (stripped : List Value)
    {props : Entries Value} (htext : ∀ name ∈ c.slotNames, name.isStr = true)
    (hdistinct : props.DistinctTexts) {v : Value} :
    v ∈ c.slotNames.flatMap (slotNodes props) ++ plainNodes c stripped props ↔
      v ∈ nodesBelow c stripped props := by
  simp only [mem_nodesBelow_iff, List.mem_append, List.mem_flatMap, plainNodes, List.mem_filter,
    Bool.not_eq_true']
  constructor
  · rintro (⟨name, hname, hv⟩ | ⟨e, ⟨he, -⟩, hv⟩)
    · exact exists_entryNodes_of_slotNodes stripped htext hname hv
    · exact ⟨e, he, hv⟩
  · rintro ⟨e, he, hv⟩
    cases hslot : nameIn e.1 c.slotNames with
    | false => exact .inr ⟨e, ⟨he, hslot⟩, hv⟩
    | true =>
      refine .inl ⟨e.1, (nameIn_iff htext).mp hslot, ?_⟩
      rw [slotNodes_eq stripped htext hdistinct he hslot]
      exact hv

/-- The attributes and the content of a node without a hook. -/
def renderProps (render : NodeRenderer) (depth : Int) (counted : Bool) (c : Component)
    (stripped : List Value) (props : Entries Value) :
    Render (List (Value × Markup) × List Markup) := do
  let slots ← renderSlots render depth counted c props
  assemble render depth counted c (unhookedProps stripped props slots)

/-- The properties of a node: all that is below the node is visited and written. -/
theorem visits_renderProps (counted : Bool) {c : Component} {stripped : List Value}
    {props : Entries Value} (htext : ∀ name ∈ c.slotNames, name.isStr = true)
    (hdistinct : props.DistinctTexts) (hdata : ∀ e ∈ props, e.2.IsData)
    (hshow : ∀ e ∈ props, clean → e.2.isShowable = true)
    (h : VisitsEach clean table settings (render (depth + 1)) fine asks
      (nodesBelow c stripped props)) :
    Visits clean fine asks (renderProps render depth counted c stripped props)
      (nodesBelow c stripped props) fun r =>
        Written table settings (nodesBelow c stripped props) (r.1.map Prod.snd ++ r.2) := by
  have hmem := fun v => mem_slotNodes_append_plainNodes_iff stripped htext hdistinct (v := v)
  have hslots := visits_renderSlots counted c props
    fun v hv => h v ((hmem v).mp (List.mem_append_left _ hv))
  refine (hslots.bind fun slots hrendered => ?_).congr hmem
  have hfound : ∀ e ∈ props, if nameIn e.1 c.slotNames then
      ∃ m, slots.find? e.1 = some m ∧
        Written table settings (entryNodes c stripped e) (Option.toList m)
      else slots.find? e.1 = none := by
    intro e he
    have hfind := find?_of_renderedSlots htext hrendered e.1
    cases hslot : nameIn e.1 c.slotNames with
    | false => simpa [hslot] using hfind
    | true =>
      rw [hslot, slotNodes_eq stripped htext hdistinct he hslot] at hfind
      exact hfind
  have hplain := visits_assemble counted hdata hshow hdistinct hfound
    fun v hv => h v ((hmem v).mp (List.mem_append_right _ hv))
  exact hplain.mono fun r hr => hr.attributes.append hr.content

end PageMarkup
