import PageMarkup.Proofs.Content.TextKeys
import PageMarkup.Proofs.Schema.Bisimulation
import PageMarkup.Schema.Component

/-!
# Schemas in another order

The components of a table, the fields of a component, and the fields that arrays and objects declare
are maps, whose entries stand in some order. Entries may change places if no key finds both of them.
So what is found under a key stays the same, up to a new order inside of it. The requests of a
component and the properties that it leaves out are lists and may be permuted at will.

## Main definitions

* `Value.Apart` : no key equals both of two keys.
* `Entries.Reordered` : entries in another order, with related values.
* `Field.Reordered`, `Component.Reordered` : fields and components in another order, at any depth.

## Main results

* `Entries.Reordered.of_perm` : entries with distinct texts as keys may be permuted.
* `Entries.Reordered.find?` : look-ups in another order.
-/

namespace PageMarkup

/-! ### Entries in another order -/

/-- No key equals both of two keys. -/
def Value.Apart (a b : Value) : Prop :=
  ∀ key, ¬ (a.same key = true ∧ b.same key = true)

theorem Value.Apart.symm {a b : Value} (h : a.Apart b) : b.Apart a :=
  fun key hboth => h key hboth.symm

theorem Value.apart_str {s t : String} (h : s ≠ t) : (Value.str s).Apart (.str t) := by
  rintro key ⟨hs, ht⟩
  rw [Value.str_same_iff.mp hs] at ht
  exact h (Value.str.inj (Value.str_same_iff.mp ht))

namespace Entries

variable {α β : Type} {R : α → α → Prop}

/-- Entries in another order, in which the value of each key is a related one. Entries change places
only if no key finds both. -/
inductive Reordered (R : α → α → Prop) : Entries α → Entries α → Prop
  | nil : Reordered R [] []
  | cons (key : Value) {x y : α} (h : R x y) {es fs : Entries α} (hrest : Reordered R es fs) :
    Reordered R ((key, x) :: es) ((key, y) :: fs)
  | swap {a b : Value} (h : a.Apart b) (x y : α) (es : Entries α) :
    Reordered R ((a, x) :: (b, y) :: es) ((b, y) :: (a, x) :: es)
  | trans {es fs gs : Entries α} (h : Reordered R es fs) (h' : Reordered R fs gs) :
    Reordered R es gs

namespace Reordered

theorem refl (hrefl : ∀ x, R x x) (es : Entries α) : Reordered R es es := by
  induction es with
  | nil => exact .nil
  | cons e es ih => exact .cons e.1 (hrefl e.2) ih

/-- Entries whose keys are pairwise apart may be permuted. -/
theorem of_perm (hrefl : ∀ x, R x x) {es fs : Entries α} (h : es.Perm fs)
    (hapart : es.Pairwise fun a b => a.1.Apart b.1) : Reordered R es fs := by
  induction h with
  | nil => exact .nil
  | cons e _ ih => exact .cons e.1 (hrefl e.2) (ih (List.pairwise_cons.mp hapart).2)
  | swap a b es =>
    have hfirst := (List.pairwise_cons.mp hapart).1 a List.mem_cons_self
    exact .swap hfirst b.2 a.2 es
  | trans h _ ih ih' =>
    exact .trans (ih hapart) (ih' ((h.pairwise_iff Value.Apart.symm).mp hapart))

theorem pairwise_apart {es : Entries α} (htext : es.HasTextKeys) (hdistinct : es.keys.Nodup) :
    es.Pairwise fun a b => a.1.Apart b.1 := by
  refine (List.pairwise_map.mp hdistinct).imp_of_mem fun {a b} ha hb hne => ?_
  obtain ⟨s, hs⟩ := Value.isStr_iff.mp (htext a ha)
  obtain ⟨t, ht⟩ := Value.isStr_iff.mp (htext b hb)
  rw [hs, ht] at hne ⊢
  exact Value.apart_str fun heq => hne (congrArg Value.str heq)

/-- A key finds related values, or none in either order. -/
theorem find? (hrefl : ∀ x, R x x) (htrans : ∀ x y z, R x y → R y z → R x z)
    {es fs : Entries α} (h : Reordered R es fs) (key : Value) :
    Option.Rel R (es.find? key) (fs.find? key) := by
  induction h with
  | nil => exact .none
  | cons k h _ ih =>
    rw [find?_cons, find?_cons]
    split
    · exact .some h
    · exact ih
  | @swap a b h x y es =>
    have hrest : Option.Rel R (es.find? key) (es.find? key) := optionRel_refl hrefl _
    simp only [find?_cons]
    by_cases ha : a.same key = true
    · have hb : ¬ b.same key = true := fun hb => h key ⟨ha, hb⟩
      rw [if_pos ha, if_neg hb, if_pos ha]
      exact .some (hrefl x)
    · rw [if_neg ha, if_neg ha]
      split
      · exact .some (hrefl y)
      · exact hrest
  | trans _ _ ih ih' => exact optionRel_trans htrans ih ih'

theorem filter (hrefl : ∀ x, R x x) {p : α → Bool} (hp : ∀ {x y}, R x y → p x = p y)
    {es fs : Entries α} (h : Reordered R es fs) :
    Reordered R (List.filter (fun e => p e.2) es) (List.filter (fun e => p e.2) fs) := by
  induction h with
  | nil => exact .nil
  | cons k h _ ih =>
    rw [List.filter_cons, List.filter_cons, hp h]
    split
    · exact .cons k h ih
    · exact ih
  | swap h x y es =>
    simp only [List.filter_cons]
    cases p x <;> cases p y <;> first | exact .swap h x y _ | exact refl hrefl _
  | trans _ _ ih ih' => exact ih.trans ih'

theorem perm_keys {es fs : Entries α} (h : Reordered R es fs) : es.keys.Perm fs.keys := by
  induction h with
  | nil => exact .nil
  | cons k _ _ ih => exact ih.cons k
  | swap _ _ _ es => exact .swap _ _ _
  | trans _ _ ih ih' => exact ih.trans ih'

theorem map_keys {es fs : Entries α} (h : Reordered R es fs) (g : Value → β) :
    Reordered Eq (es.keys.map fun k => (k, g k)) (fs.keys.map fun k => (k, g k)) := by
  induction h with
  | nil => exact .nil
  | cons k _ _ ih => exact .cons k rfl ih
  | swap h _ _ es => exact .swap h _ _ _
  | trans _ _ ih ih' => exact ih.trans ih'

end Reordered

end Entries

/-! ### Fields and components -/

/-- Fields of one kind, with the declared fields of items and entries in another order. -/
inductive Field.Reordered : Field → Field → Prop
  | mk (kind : FieldKind) {array array' object object' : Option (Entries Field)}
    (harray : Option.Rel (Entries.Reordered Field.Reordered) array array')
    (hobject : Option.Rel (Entries.Reordered Field.Reordered) object object') :
    Field.Reordered (.mk kind array object) (.mk kind array' object')

mutual

theorem Field.Reordered.refl (f : Field) : f.Reordered f := by
  match f with
  | .mk kind array object =>
    exact .mk kind (Field.reordered_declared array) (Field.reordered_declared object)

theorem Field.reordered_declared (es : Option (List (Value × Field))) :
    Option.Rel (Entries.Reordered Field.Reordered) es es := by
  match es with
  | none => exact .none
  | some es => exact .some (Field.reordered_entries es)

theorem Field.reordered_entries (es : List (Value × Field)) :
    Entries.Reordered Field.Reordered es es := by
  match es with
  | [] => exact .nil
  | (name, f) :: es => exact .cons name (Field.Reordered.refl f) (Field.reordered_entries es)

end

namespace Field.Reordered

variable {f g : Field}

theorem trans (h : f.Reordered g) {k : Field} (h' : g.Reordered k) : f.Reordered k := by
  cases h with
  | mk kind harray hobject =>
    cases h' with
    | mk _ harray' hobject' =>
      exact .mk kind (optionRel_trans (fun _ _ _ => .trans) harray harray')
        (optionRel_trans (fun _ _ _ => .trans) hobject hobject')

theorem isSlot_eq (h : f.Reordered g) : f.isSlot = g.isSlot := by
  cases h
  rfl

theorem itemFields? (h : f.Reordered g) :
    Option.Rel (Entries.Reordered Field.Reordered) f.itemFields? g.itemFields? := by
  cases h with
  | mk kind harray hobject =>
    by_cases hkind : kind = .array
    · subst hkind
      exact harray
    · rw [Field.itemFields?, Field.itemFields?, Field.kind, Field.kind, if_neg hkind, if_neg hkind]
      exact .none

theorem entryFields? (h : f.Reordered g) :
    Option.Rel (Entries.Reordered Field.Reordered) f.entryFields? g.entryFields? := by
  cases h with
  | mk kind harray hobject =>
    by_cases hkind : kind = .object
    · subst hkind
      exact hobject
    · rw [Field.entryFields?, Field.entryFields?, Field.kind, Field.kind, if_neg hkind,
        if_neg hkind]
      exact .none

theorem findsAlike {fields fields' : Entries Field}
    (h : Entries.Reordered Field.Reordered fields fields') :
    Entries.FindsAlike Field.Reordered fields fields' :=
  h.find? refl fun _ _ _ h h' => h.trans h'

/-- Fields in another order read values alike, since what they declare is looked up by name. -/
theorem isBisimulation : Field.IsBisimulation Field.Reordered where
  isSlot_eq := isSlot_eq
  itemFields? h := optionRel_mono (fun _ _ => findsAlike) h.itemFields?
  entryFields? h := optionRel_mono (fun _ _ => findsAlike) h.entryFields?

end Field.Reordered

/-- Components that differ in the order of their fields, their requests and the properties that they
leave out. -/
structure Component.Reordered (c c' : Component) : Prop where
  fields : Entries.Reordered Field.Reordered c.fields c'.fields
  outputName : c.outputName = c'.outputName
  imports : c.imports.Perm c'.imports
  hook : c.hook = c'.hook
  skip : c.skip = c'.skip
  omitted : c.omitted.Perm c'.omitted

namespace Component.Reordered

variable {c c' : Component}

theorem refl (c : Component) : c.Reordered c :=
  ⟨.refl .refl c.fields, rfl, .refl _, rfl, rfl, .refl _⟩

theorem trans (h : c.Reordered c') {c'' : Component} (h' : c'.Reordered c'') : c.Reordered c'' where
  fields := h.fields.trans h'.fields
  outputName := h.outputName.trans h'.outputName
  imports := h.imports.trans h'.imports
  hook := h.hook.trans h'.hook
  skip := h.skip.trans h'.skip
  omitted := h.omitted.trans h'.omitted

theorem field? (h : c.Reordered c') (name : Value) :
    Option.Rel Field.Reordered (c.field? name) (c'.field? name) :=
  Field.Reordered.findsAlike h.fields name

end Component.Reordered

end PageMarkup
