import PageMarkup.Proofs.Render.Refinement

/-!
# What a step leaves

Of the results of a run some facts are known whatever the run has met before, such as the shape of
the markup. Such a fact says what a step leaves: it holds of the result wherever the step succeeds,
and nothing is said where it fails.

## Main definitions

* `Render.Leaves` : whatever a step leaves has a property.

## Main results

* `Render.Leaves.bind`, `Render.Leaves.mapM_forall₂` : steps one after the other.
-/

namespace PageMarkup.Render

variable {α β γ : Type} {P : α → Prop} {Q : β → Prop} {r : Render α}

/-- Wherever a step succeeds, its result has a property. -/
def Leaves (P : α → Prop) (r : Render α) : Prop :=
  ∀ st a st', r.outcome st = (.ok a, st') → P a

namespace Leaves

theorem pure {a : α} (h : P a) : Leaves P (Pure.pure a : Render α) := by
  intro st b st' hb
  cases hb
  exact h

theorem fail (f : Fault) : Leaves P (Render.fail f : Render α) := by
  intro st a st' h
  cases h

theorem trivial (r : Render α) : Leaves (fun _ => True) r :=
  fun _ _ _ _ => True.intro

theorem ofExcept (r : Except Fault α) : Leaves (fun a => r = .ok a) (Render.ofExcept r) := by
  cases r with
  | ok a => exact pure rfl
  | error f => exact fail f

theorem ofMisuse {r : Except Misuse α} (h : ∀ a, r = .ok a → P a) :
    Leaves P (Render.ofMisuse r) := by
  cases r with
  | ok a => exact pure (h a rfl)
  | error how => exact fail (.misuse how)

theorem bind (h : r.Leaves P) {k : α → Render β} (h' : ∀ a, P a → (k a).Leaves Q) :
    (r >>= k).Leaves Q := by
  intro st b st' hrun
  obtain ⟨a, mid, hr, hk⟩ := outcome_bind_ok hrun
  exact h' a (h st a mid hr) mid b st' hk

theorem map (h : r.Leaves P) {g : α → β} (hg : ∀ a, P a → Q (g a)) :
    (g <$> r).Leaves Q := by
  rw [map_eq_pure_bind]
  exact h.bind fun a ha => pure (hg a ha)

theorem mono (h : Leaves P r) {P' : α → Prop} (himp : ∀ a, P a → P' a) : Leaves P' r :=
  fun st a st' hrun => himp a (h st a st' hrun)

/-- The results for the members of a list, each with the property for its member. -/
theorem mapM_forall₂ {P : γ → α → Prop} {f : γ → Render α} {xs : List γ}
    (h : ∀ x ∈ xs, (f x).Leaves (P x)) : (xs.mapM f).Leaves (List.Forall₂ P xs) := by
  induction xs with
  | nil => exact pure .nil
  | cons x xs ih =>
    rw [List.forall_mem_cons] at h
    rw [List.mapM_cons]
    exact h.1.bind fun a ha => (ih h.2).bind fun as has => pure (.cons ha has)

theorem mapM {f : γ → Render α} {xs : List γ} (h : ∀ x ∈ xs, (f x).Leaves P) :
    (xs.mapM f).Leaves fun as => ∀ a ∈ as, P a := by
  refine (mapM_forall₂ h).mono fun as has => ?_
  induction has with
  | nil => exact List.forall_mem_nil _
  | cons ha _ ih =>
    exact List.forall_mem_cons.mpr ⟨ha, ih fun x hx => h x (List.mem_cons_of_mem _ hx)⟩

end Leaves

end PageMarkup.Render
