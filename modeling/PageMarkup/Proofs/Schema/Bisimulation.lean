import PageMarkup.Schema.Field

/-!
# Fields that no value tells apart

A field reads a value as a slot or not, and it may declare fields for the items of an array or for
the entries of an object, which are looked up by name. That is all that a value can tell of it. So
two fields read every value alike if they are related by a relation that keeps these three.

## Main definitions

* `Entries.FindsAlike` : maps in which each key finds related values.
* `Field.IsBisimulation` : a relation between fields that read values alike.

## Main results

* `Field.IsBisimulation.eq` : equality is one.
-/

namespace PageMarkup

section

variable {α : Type} {R S : α → α → Prop} {a b c : Option α}

theorem optionRel_refl (hrefl : ∀ x, R x x) (a : Option α) : Option.Rel R a a := by
  cases a with
  | none => exact .none
  | some x => exact .some (hrefl x)

theorem optionRel_trans (htrans : ∀ x y z, R x y → R y z → R x z) (h : Option.Rel R a b)
    (h' : Option.Rel R b c) : Option.Rel R a c := by
  cases h with
  | none => exact h'
  | some h =>
    cases h' with
    | some h' => exact .some (htrans _ _ _ h h')

theorem optionRel_mono (himp : ∀ x y, R x y → S x y) (h : Option.Rel R a b) :
    Option.Rel S a b := by
  cases h with
  | none => exact .none
  | some h => exact .some (himp _ _ h)

theorem optionRel_bind {β : Type} {T : β → β → Prop} {f : α → Option β}
    (h : Option.Rel R a b) (hf : ∀ x y, R x y → Option.Rel T (f x) (f y)) :
    Option.Rel T (a.bind f) (b.bind f) := by
  cases h with
  | none => exact .none
  | some h => exact hf _ _ h

end

/-- Each key finds related values in two maps, or none in either. -/
def Entries.FindsAlike {α : Type} (R : α → α → Prop) (es fs : Entries α) : Prop :=
  ∀ key, Option.Rel R (es.find? key) (fs.find? key)

/-- A relation between fields that read values alike: they are slots together, and the fields that
they declare for items and for entries are found alike. -/
structure Field.IsBisimulation (F : Field → Field → Prop) : Prop where
  isSlot_eq {f g : Field} (h : F f g) : f.isSlot = g.isSlot
  itemFields? {f g : Field} (h : F f g) :
    Option.Rel (Entries.FindsAlike F) f.itemFields? g.itemFields?
  entryFields? {f g : Field} (h : F f g) :
    Option.Rel (Entries.FindsAlike F) f.entryFields? g.entryFields?

/-- A field reads values like itself. -/
theorem Field.IsBisimulation.eq : Field.IsBisimulation Eq where
  isSlot_eq h := h ▸ rfl
  itemFields? h := h ▸ optionRel_refl (fun _ _ => optionRel_refl (fun _ => rfl) _) _
  entryFields? h := h ▸ optionRel_refl (fun _ _ => optionRel_refl (fun _ => rfl) _) _

end PageMarkup
