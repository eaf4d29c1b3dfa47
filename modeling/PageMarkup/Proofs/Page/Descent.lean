import Mathlib.Logic.Relation
import PageMarkup.Content.Entries
import PageMarkup.Proofs.Content.Outcomes
import PageMarkup.Proofs.Content.TextKeys

/-!
# Descents into the properties of nodes

The count of the nodes of a document and the check of its content go down from a node to entries in
lists among its properties. They read these properties as a map without being tolerant: what is
neither a map nor counts as nothing ends them.

## Main definitions

* `Value.HoldsMap` : the properties of an entry are a map, or count as none.
* `onEntries`, `throughProps` : computations on the entries of a value, and on the properties of an
  entry.

## Main results

* `gives_throughProps_iff` : when a computation on the properties of an entry succeeds.
* `forall_reached_iff` : what holds of an entry because of the entries below it holds because of
  all entries that are reached.
-/

namespace PageMarkup

open Relation (ReflTransGen)

/-- The properties of an entry are a map, or count as none. -/
def Value.HoldsMap (v : Value) : Prop :=
  ∀ p, v.get? "props" = some p → p.truthy = true → ∃ ps, p = .map ps

/-- A computation on the entries of a value; what counts as false has none. -/
def onEntries {α : Type} (inside : Entries Value → Except Misuse α) (nothing : α) (p : Value) :
    Except Misuse α :=
  match p.entries? with
  | some ps => inside ps
  | none => if p.truthy then .error .noEntries else .ok nothing

/-- A computation on the properties of an entry. -/
def throughProps {α : Type} (inside : Entries Value → Except Misuse α) (nothing : α) (v : Value) :
    Except Misuse α :=
  ((v.get? "props").map (onEntries inside nothing)).getD (.ok nothing)

variable {α : Type} {inside : Entries Value → Except Misuse α} {nothing : α}

theorem throughProps_cons (k v : Value) (es : Entries Value) :
    throughProps inside nothing (.map ((k, v) :: es)) =
      if k.same (.str "props") then onEntries inside nothing v
      else throughProps inside nothing (.map es) := by
  simp only [throughProps, Value.get?, Entries.find?_cons]
  cases k.same (.str "props") <;> rfl

/-- A computation on the entries of a value succeeds if there is a map, on which it succeeds, or
nothing. -/
private theorem gives_onEntries_iff {P : α → Prop} (hnothing : P nothing) {p : Value} :
    Gives P (onEntries inside nothing p) ↔ (p.truthy = true → ∃ ps, p = .map ps) ∧
      ∀ ps, p = .map ps → Gives P (inside ps) := by
  cases hentries : p.entries? with
  | some ps =>
    obtain rfl : p = .map ps := by
      cases p <;> simp_all [Value.entries?]
    simp [onEntries, Value.entries?]
  | none =>
    have hne : ∀ ps, p ≠ .map ps := fun ps hp => by simp [hp, Value.entries?] at hentries
    cases htruthy : p.truthy with
    | true => simp [onEntries, hentries, htruthy, hne, Gives]
    | false => simp [onEntries, hentries, htruthy, hne, Gives, hnothing]

/-- A computation on the properties of an entry succeeds if it can be started and succeeds on the
map. -/
theorem gives_throughProps_iff {P : α → Prop} (hnothing : P nothing) {v : Value} :
    Gives P (throughProps inside nothing v) ↔ v.HoldsMap ∧
      ∀ ps, v.get? "props" = some (.map ps) → Gives P (inside ps) := by
  unfold throughProps Value.HoldsMap
  cases v.get? "props" with
  | none => simp [Gives, hnothing]
  | some p => simpa using gives_onEntries_iff hnothing

private theorem sizeOf_lt_of_mem_items? {v w : Value} (h : w ∈ v.items?.getD []) :
    sizeOf w < sizeOf v := by
  cases v with
  | list xs =>
    have := List.sizeOf_lt_of_mem (show w ∈ xs from h)
    simp only [Value.list.sizeOf_spec]
    omega
  | tuple xs =>
    have := List.sizeOf_lt_of_mem (show w ∈ xs from h)
    simp only [Value.tuple.sizeOf_spec]
    omega
  | _ => cases h

theorem sizeOf_lt_of_mem_props {v w : Value} {ps : Entries Value} {e : Value × Value}
    (hps : v.get? "props" = some (.map ps)) (he : e ∈ ps) (hw : w ∈ e.2.items?.getD []) :
    sizeOf w < sizeOf v := by
  cases v with
  | map es =>
    have hentry := List.sizeOf_lt_of_mem (Entries.mem_of_find?_eq_some hps)
    have hprop := List.sizeOf_lt_of_mem he
    have hitem := sizeOf_lt_of_mem_items? hw
    cases e
    simp only [Value.map.sizeOf_spec, Prod.mk.sizeOf_spec] at hentry hprop hitem ⊢
    omega
  | _ => cases hps

/-- A property that an entry has together with all entries directly below it is a property of all
entries that are reached, if a descent comes to an end. -/
theorem forall_reached_iff {below : α → α → Prop} {whole here : α → Prop}
    (size : α → Nat) (hsize : ∀ {v w}, below v w → size w < size v)
    (hstep : ∀ v, whole v ↔ here v ∧ ∀ w, below v w → whole w) (v : α) :
    whole v ↔ ∀ w, ReflTransGen below v w → here w := by
  constructor
  · intro hv w hreach
    induction hreach using ReflTransGen.head_induction_on with
    | refl => exact ((hstep w).mp hv).1
    | head hbelow _ ih => exact ih (((hstep _).mp hv).2 _ hbelow)
  · induction hn : size v using Nat.strong_induction_on generalizing v with
    | _ n ih =>
      intro hall
      refine (hstep v).mpr ⟨hall v .refl, fun w hw => ?_⟩
      exact ih _ (hn ▸ hsize hw) w rfl fun x hx => hall x (.head hw hx)

end PageMarkup
