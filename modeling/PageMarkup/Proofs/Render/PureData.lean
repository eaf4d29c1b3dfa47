import PageMarkup.Render.Node

/-!
# Data under fields

Fields tell slots and nodes apart from data, and say nothing about data itself. Where no slot is
declared and no array that is read by fields holds an item of the shape of a node, a value becomes
its literal, whatever else its fields declare, and is refused just where its literal is. The
induction is on the value, since the fields are followed only as far as the value goes along with
them.

## Main definitions

* `Field.HoldsNoSlot` : fields without slots in them.
* `WalksThrough` : the sequences that are read item by item under a field.

## Main results

* `serialize_eq_asLiteral` : a value without nodes, under a field without slots.
-/

namespace PageMarkup

/-- A field that is no slot and declares none, neither for items nor for entries. -/
inductive Field.HoldsNoSlot : Field → Prop
  | mk {kind : FieldKind} {arrayFields objectFields : Option (Entries Field)}
      (hkind : kind ≠ .slot)
      (harray : ∀ fields, arrayFields = some fields → ∀ e ∈ fields, HoldsNoSlot e.2)
      (hobject : ∀ fields, objectFields = some fields → ∀ e ∈ fields, HoldsNoSlot e.2) :
      HoldsNoSlot (.mk kind arrayFields objectFields)

/-- The sequences that are read item by item under a field: those that it declares item fields for,
in the value itself, in the maps among the items of such a sequence, and in the entries of maps with
declared fields. An item of the shape of a node is not looked into. -/
inductive WalksThrough : Field → Value → List Value → Prop
  | here {f : Field} {fields : Entries Field} {v : Value} {xs : List Value}
      (hf : f.itemFields? = some fields) (hv : v.items? = some xs) : WalksThrough f v xs
  | item {f g : Field} {fields : Entries Field} {v k w : Value} {xs ys : List Value}
      {es : Entries Value} (hf : f.itemFields? = some fields) (hv : v.items? = some xs)
      (hes : .map es ∈ xs) (hshape : isNodeShaped (.map es) = false) (he : (k, w) ∈ es)
      (hg : fields.find? k = some g) (h : WalksThrough g w ys) : WalksThrough f v ys
  | entry {f g : Field} {fields : Entries Field} {k w : Value} {ys : List Value}
      {es : Entries Value} (hf : f.entryFields? = some fields) (he : (k, w) ∈ es)
      (hg : fields.find? k = some g) (h : WalksThrough g w ys) : WalksThrough f (.map es) ys

/-- A value whose field, if it has one, holds no slot and reads no item of the shape of a node. -/
private def IsDataUnder (field : Option Field) (v : Value) : Prop :=
  ∀ f, field = some f →
    f.HoldsNoSlot ∧ ∀ xs, WalksThrough f v xs → ∀ x ∈ xs, isNodeShaped x = false

namespace Field

variable {f g : Field} {fields : Entries Field} {k : Value}

private theorem HoldsNoSlot.isSlot_eq (h : f.HoldsNoSlot) : f.isSlot = false := by
  cases h with
  | mk hkind => exact beq_false_of_ne hkind

private theorem exists_mem_of_find? (h : fields.find? k = some g) : ∃ e ∈ fields, e.2 = g := by
  obtain ⟨e, he, rfl⟩ := Option.map_eq_some_iff.mp h
  exact ⟨e, List.mem_of_find?_eq_some he, rfl⟩

private theorem HoldsNoSlot.of_itemFields? (h : f.HoldsNoSlot) (hf : f.itemFields? = some fields)
    (hg : fields.find? k = some g) : g.HoldsNoSlot := by
  obtain ⟨e, he, rfl⟩ := exists_mem_of_find? hg
  cases h with
  | mk _ harray _ =>
    rw [itemFields?] at hf
    split at hf
    · exact harray fields hf e he
    · cases hf

private theorem HoldsNoSlot.of_entryFields? (h : f.HoldsNoSlot) (hf : f.entryFields? = some fields)
    (hg : fields.find? k = some g) : g.HoldsNoSlot := by
  obtain ⟨e, he, rfl⟩ := exists_mem_of_find? hg
  cases h with
  | mk _ _ hobject =>
    rw [entryFields?] at hf
    split at hf
    · exact hobject fields hf e he
    · cases hf

end Field

namespace IsDataUnder

variable {field : Option Field} {f : Field} {fields : Entries Field} {v : Value}

private theorem slotField_eq (h : IsDataUnder field v) : slotField field = false := by
  cases field with
  | none => rfl
  | some f => exact (h f rfl).1.isSlot_eq

/-- Where the items of a sequence are read by fields, none of them is a node, and the entries of the
maps among them are data again. -/
private theorem items (h : IsDataUnder (some f) v) (hf : f.itemFields? = some fields)
    {xs : List Value} (hv : v.items? = some xs) :
    ∀ x ∈ xs, isNodeShaped x = false ∧
      ∀ es, x = .map es → ∀ e ∈ es, IsDataUnder (fields.find? e.1) e.2 := by
  obtain ⟨hfree, hwalk⟩ := h f rfl
  have hshape := hwalk xs (.here hf hv)
  rintro x hx
  refine ⟨hshape x hx, ?_⟩
  rintro es rfl ⟨k, w⟩ he g hg
  exact ⟨hfree.of_itemFields? hf hg, fun ys hys =>
    hwalk ys (.item hf hv hx (hshape _ hx) he hg hys)⟩

private theorem entries {es : Entries Value} (h : IsDataUnder (some f) (.map es))
    (hf : f.entryFields? = some fields) : ∀ e ∈ es, IsDataUnder (fields.find? e.1) e.2 := by
  obtain ⟨hfree, hwalk⟩ := h f rfl
  rintro ⟨k, w⟩ he g hg
  exact ⟨hfree.of_entryFields? hf hg, fun ys hys => hwalk ys (.entry hf he hg hys)⟩

end IsDataUnder

/-! ### Literals and their refusal -/

/-- A result that is refused where a key has no text. -/
private def refusedUnless {α : Type} (hasTexts : Bool) (a : α) : Render α :=
  if hasTexts then pure a else Render.fail (.misuse .tooManyDigits)

private theorem refusedUnless_bind {α β : Type} (b : Bool) (a : α) (k : α → Render β) :
    (refusedUnless b a >>= k) = if b then k a else Render.fail (.misuse .tooManyDigits) := by
  cases b <;> rfl

private theorem ofMisuse_literal? (v : Value) :
    Render.ofMisuse v.literal? = refusedUnless v.hasKeyTexts v.asLiteral := by
  unfold Value.literal? refusedUnless
  cases v.hasKeyTexts <;> rfl

private theorem serializeLiteral_eq (v : Value) :
    serializeLiteral v = refusedUnless v.hasKeyTexts (some v.asLiteral) := by
  rw [serializeLiteral, ofMisuse_literal?, refusedUnless_bind]
  rfl

private theorem ofMisuse_keyedEntry (key : Value) (m : Markup) :
    Render.ofMisuse (keyedEntry key (some m)) = refusedUnless key.isShowable [(key.text, m)] := by
  unfold keyedEntry Value.text? refusedUnless
  cases key.isShowable <;> rfl

variable {render : NodeRenderer} {depth : Int}

private theorem sequence_of_isDataUnder {counted : Bool} {field : Option Field} {v : Value}
    {xs : List Value} (h : IsDataUnder field v) (hv : v.items? = some xs)
    (hliteral : serializeLiteral v =
      refusedUnless (Value.allKeyTexts xs) (some (.array (Value.itemLiterals xs))))
    (hitems : ∀ fields, (∀ x ∈ xs, isNodeShaped x = false ∧
        ∀ es, x = .map es → ∀ e ∈ es, IsDataUnder (Entries.find? fields e.1) e.2) →
      serializeItems render depth counted fields xs =
        refusedUnless (Value.allKeyTexts xs) (Value.itemLiterals xs)) :
    (if slotField field then renderSlot render depth counted xs
      else match field.bind Field.itemFields? with
        | some fields => do return some (.array (← serializeItems render depth counted fields xs))
        | none => serializeLiteral v) = serializeLiteral v := by
  rw [if_neg (by simp [h.slotField_eq])]
  cases field with
  | none => rfl
  | some f =>
    rw [Option.bind_some]
    cases hf : f.itemFields? with
    | none => rfl
    | some fields =>
      dsimp only
      rw [hitems fields (h.items hf hv), hliteral, refusedUnless_bind]
      rfl

mutual

private theorem serialize_of_isDataUnder (counted : Bool) {field : Option Field} {v : Value}
    (h : IsDataUnder field v) :
    serialize render depth counted field v =
      if v.isNull then pure none else serializeLiteral v := by
  match v with
  | .list xs =>
    rw [serialize]
    exact sequence_of_isDataUnder h rfl (serializeLiteral_eq _) fun fields =>
      serializeItems_of_isDataUnder counted
  | .tuple xs =>
    rw [serialize]
    exact sequence_of_isDataUnder h rfl (serializeLiteral_eq _) fun fields =>
      serializeItems_of_isDataUnder counted
  | .map es =>
    rw [serialize, if_neg (by simp [h.slotField_eq])]
    cases field with
    | none => rfl
    | some f =>
      rw [Option.bind_some]
      cases hf : f.entryFields? with
      | none => rfl
      | some fields =>
        dsimp only
        rw [serializeEntries_of_isDataUnder (h.entries hf), refusedUnless_bind]
        change _ = serializeLiteral _
        rw [serializeLiteral_eq]
        rfl
  | .null | .markup _ => rfl
  | .bool _ | .int _ | .float _ | .str _ | .foreign _ _ =>
    change (if slotField field then pure none else serializeLiteral _) = _
    rw [if_neg (by simp [h.slotField_eq])]
    rfl

private theorem serializeItems_of_isDataUnder (counted : Bool) {fields : Entries Field}
    {xs : List Value} (h : ∀ x ∈ xs, isNodeShaped x = false ∧
      ∀ es, x = .map es → ∀ e ∈ es, IsDataUnder (fields.find? e.1) e.2) :
    serializeItems render depth counted fields xs =
      refusedUnless (Value.allKeyTexts xs) (Value.itemLiterals xs) := by
  match xs with
  | [] => rfl
  | .map es :: xs =>
    obtain ⟨⟨hshape, hentries⟩, hrest⟩ := List.forall_mem_cons.mp h
    rw [serializeItems, if_neg (by simp [hshape]),
      serializeEntries_of_isDataUnder (hentries es rfl),
      serializeItems_of_isDataUnder counted hrest,
      Value.allKeyTexts, Value.hasKeyTexts]
    cases Value.entriesKeyTexts es <;> cases Value.allKeyTexts xs <;> rfl
  | .markup m :: xs =>
    have hrest := serializeItems_of_isDataUnder counted (List.forall_mem_cons.mp h).2
    rw [serializeItems, hrest, refusedUnless_bind]
    change _ = refusedUnless (Value.allKeyTexts xs) _
    cases Value.allKeyTexts xs <;> rfl
  | .null :: xs | .bool _ :: xs | .int _ :: xs | .float _ :: xs | .str _ :: xs | .list _ :: xs
  | .tuple _ :: xs | .foreign _ _ :: xs =>
    have hrest := serializeItems_of_isDataUnder counted (List.forall_mem_cons.mp h).2
    simp only [serializeItems, hrest, ofMisuse_literal?, refusedUnless_bind, Value.allKeyTexts]
    cases Value.allKeyTexts xs <;> simp [refusedUnless, Value.itemLiterals]

private theorem serializeEntries_of_isDataUnder {fields : Entries Field} {es : Entries Value}
    (h : ∀ e ∈ es, IsDataUnder (fields.find? e.1) e.2) :
    serializeEntries render depth fields es =
      refusedUnless (Value.entriesKeyTexts es) (Value.entryLiterals es) := by
  match es with
  | [] => rfl
  | (k, v) :: es =>
    obtain ⟨hvalue, hrest⟩ := List.forall_mem_cons.mp h
    rw [serializeEntries, serialize_of_isDataUnder false hvalue,
      serializeEntries_of_isDataUnder hrest, Value.entryLiterals, Value.entriesKeyTexts]
    cases v.isNull with
    | true =>
      cases Value.entriesKeyTexts es <;> rfl
    | false =>
      rw [if_neg Bool.false_ne_true, serializeLiteral_eq, refusedUnless_bind, ofMisuse_keyedEntry,
        refusedUnless_bind]
      cases k.isShowable <;> cases v.hasKeyTexts <;> cases Value.entriesKeyTexts es <;> rfl

end

/-- **A value without nodes, under a field without slots, becomes its literal.** This holds whatever
the field and the fields in it declare, however they fit the value, and whatever finished markup
stands in the value; and where the literal is refused, so is the value. How nodes are rendered and
at which depth plays no part, since none is, and the run stays as it is. -/
theorem serialize_eq_asLiteral {f : Field} (hslot : f.HoldsNoSlot) {v : Value} (hv : v ≠ .null)
    (hnodes : ∀ xs, WalksThrough f v xs → ∀ x ∈ xs, isNodeShaped x = false)
    (render : NodeRenderer) (depth : Int) (counted : Bool) :
    serialize render depth counted (some f) v = serializeLiteral v ∧
      ∀ st, (serialize render depth counted (some f) v).outcome st =
        (if v.hasKeyTexts then .ok (some v.asLiteral) else .error (.misuse .tooManyDigits),
          st) := by
  have hdata : IsDataUnder (some f) v := by
    rintro _ ⟨⟩
    exact ⟨hslot, hnodes⟩
  have hnull : v.isNull = false := by
    cases v with
    | null => exact absurd rfl hv
    | bool | int | float | str | list | tuple | map | foreign | markup => rfl
  have hliteral : serialize render depth counted (some f) v =
      if v.isNull then pure none else serializeLiteral v := serialize_of_isDataUnder counted hdata
  rw [hnull, if_neg Bool.false_ne_true] at hliteral
  refine ⟨hliteral, fun st => ?_⟩
  rw [hliteral, serializeLiteral_eq, refusedUnless]
  cases v.hasKeyTexts <;> rfl

/-- Items with a label and a list of points. -/
private def lineField : Field :=
  .mk .array (some [(.str "label", .mk .text none none),
    (.str "points", .mk .array (some [(.str "x", .mk .number none none)]) none)]) none

/-- A line that has a type but no properties, nothing, and code in the place of an item. -/
private def lineItems : List Value :=
  [.map [(.str "type", .str "dotted"), (.str "label", .markup (.raw "t")),
    (.str "points", .tuple [.map [(.str "x", .int 1), (.str "y", .null)], .null])], .null,
    .markup (.raw "more")]

private theorem lineField_holdsNoSlot : lineField.HoldsNoSlot := by
  have hplain : ∀ kind, kind ≠ .slot → (Field.mk kind none none).HoldsNoSlot := fun kind hkind =>
    .mk hkind (fun _ h => nomatch h) fun _ h => nomatch h
  refine .mk (by decide) ?_ fun _ h => nomatch h
  rintro _ ⟨⟩
  refine List.forall_mem_cons.mpr ⟨hplain _ (by decide), List.forall_mem_singleton.mpr ?_⟩
  refine .mk (by decide) ?_ fun _ h => nomatch h
  rintro _ ⟨⟩
  exact List.forall_mem_singleton.mpr (hplain _ (by decide))

private theorem not_walksThrough_plain {kind : FieldKind} {v : Value} {xs : List Value} :
    ¬ WalksThrough (.mk kind none none) v xs := by
  have hnone : ∀ {b : Prop} [Decidable b] {fields : Entries Field},
      ¬ (if b then none else none) = some fields := by
    intro b _ fields h
    split at h <;> cases h
  rintro (⟨hf, -⟩ | ⟨hf, -⟩ | ⟨hf, -⟩) <;> exact hnone hf

private theorem walksThrough_lineItems {xs : List Value}
    (h : WalksThrough lineField (.list lineItems) xs) : ∀ x ∈ xs, isNodeShaped x = false := by
  cases h with
  | here hf hv =>
    cases hv
    decide
  | item hf hv hes hshape he hg h =>
    cases hf
    cases hv
    obtain rfl : _ = _ := by simpa [lineItems] using hes
    simp only [List.mem_cons, Prod.mk.injEq, List.not_mem_nil, or_false] at he
    rcases he with ⟨rfl, rfl⟩ | ⟨rfl, rfl⟩ | ⟨rfl, rfl⟩
    · cases hg
    · cases hg
      exact absurd h not_walksThrough_plain
    · cases hg
      cases h with
      | here hf hv =>
        cases hf
        cases hv
        decide
      | item hf hv hes hshape he hg h =>
        cases hf
        cases hv
        obtain rfl : _ = _ := by simpa using hes
        simp only [List.mem_cons, Prod.mk.injEq, List.not_mem_nil, or_false] at he
        rcases he with ⟨rfl, rfl⟩ | ⟨rfl, rfl⟩
        · cases hg
          exact absurd h not_walksThrough_plain
        · cases hg

/-- The items are read two levels deep, and become their literal also where no node can be
rendered. -/
theorem serialize_eq_asLiteral_lineItems :
    lineField.HoldsNoSlot ∧ Value.list lineItems ≠ .null ∧
      (∀ xs, WalksThrough lineField (.list lineItems) xs → ∀ x ∈ xs, isNodeShaped x = false) ∧
      (serialize (fun _ node _ => Render.fail (.content (.invalidNode node))) 0 true
        (some lineField) (.list lineItems)).outcome .initial =
          (.ok (some (Value.list lineItems).asLiteral), .initial) :=
  ⟨lineField_holdsNoSlot, by simp, fun _ => walksThrough_lineItems,
    (serialize_eq_asLiteral lineField_holdsNoSlot (by simp) (fun _ => walksThrough_lineItems)
      _ 0 true).2 .initial⟩

end PageMarkup
