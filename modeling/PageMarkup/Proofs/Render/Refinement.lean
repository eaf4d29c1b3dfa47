import PageMarkup.Proofs.Render.Meeting

/-!
# Runs that refine each other

Two runs are compared step by step. A step is refined by another one if the other succeeds wherever
the first does, with a related result and the same state. Nothing is said where the first step
fails, so a step that always fails is refined by every other one.

## Main definitions

* `Render.Refines` : a step succeeds wherever another one does, with a related result.

## Main results

* `Render.outcome_bind_ok` : where a step and what follows it succeed.
* `Render.Refines.bind`, `Render.Refines.map` : steps one after the other.
* `Render.Refines.drop_left` : a step that leaves the state as it is can be left out.
-/

namespace PageMarkup.Render

variable {α β γ δ : Type}

/-- Wherever the first step succeeds, so does the second, with a related result and the same
state. -/
def Refines (P : α → β → Prop) (r : Render α) (r' : Render β) : Prop :=
  ∀ st a st', r.outcome st = (.ok a, st') → ∃ b, r'.outcome st = (.ok b, st') ∧ P a b

/-- Where a step and what follows it succeed, both succeed. -/
theorem outcome_bind_ok {r : Render α} {k : α → Render β} {st st' : RunState} {b : β}
    (h : (r >>= k).outcome st = (.ok b, st')) :
    ∃ a mid, r.outcome st = (.ok a, mid) ∧ (k a).outcome mid = (.ok b, st') := by
  rw [outcome_bind] at h
  cases hr : r.outcome st with
  | mk result mid =>
    rw [hr] at h
    cases result with
    | ok a => exact ⟨a, mid, rfl, h⟩
    | error f => cases h

namespace Refines

variable {P : α → β → Prop} {Q : γ → δ → Prop} {r : Render α} {r' : Render β}

theorem pure {a : α} {b : β} (h : P a b) : Refines P (Pure.pure a) (Pure.pure b) := by
  intro st x st' hx
  cases hx
  exact ⟨b, rfl, h⟩

theorem fail (f : Fault) (r' : Render β) : Refines P (Render.fail f) r' := by
  intro st a st' h
  cases h

theorem refl {P : α → α → Prop} (h : ∀ a, P a a) (r : Render α) : Refines P r r :=
  fun _ a _ hr => ⟨a, hr, h a⟩

/-- Steps one after the other. -/
theorem bind (h : Refines P r r') {k : α → Render γ} {k' : β → Render δ}
    (h' : ∀ a b, P a b → Refines Q (k a) (k' b)) : Refines Q (r >>= k) (r' >>= k') := by
  intro st c st' hrun
  obtain ⟨a, mid, hr, hk⟩ := outcome_bind_ok hrun
  obtain ⟨b, hb, hP⟩ := h st a mid hr
  obtain ⟨d, hd, hQ⟩ := h' a b hP mid c st' hk
  refine ⟨d, ?_, hQ⟩
  rw [outcome_bind, hb]
  exact hd

theorem bind_same (r : Render α) {k : α → Render γ} {k' : α → Render δ}
    (h : ∀ a, Refines Q (k a) (k' a)) : Refines Q (r >>= k) (r >>= k') :=
  (refl (P := Eq) (fun _ => rfl) r).bind fun a _ hab => hab ▸ h a

/-- Results that are computed from those of two steps. -/
theorem map (h : Refines P r r') {g : α → γ} {g' : β → δ} (himp : ∀ a b, P a b → Q (g a) (g' b)) :
    Refines Q (g <$> r) (g' <$> r') := by
  rw [map_eq_pure_bind, map_eq_pure_bind]
  exact h.bind fun a b hab => pure (himp a b hab)

/-- A step that leaves the state as it is can be left out. -/
theorem drop_left {post : α → Prop} (h : Refines (fun a (_ : Unit) => post a) r (Pure.pure ()))
    {k : α → Render γ} {r' : Render δ} (h' : ∀ a, post a → Refines Q (k a) r') :
    Refines Q (r >>= k) r' := by
  have hbind : Refines Q (r >>= k) (Pure.pure () >>= fun _ => r') := h.bind fun a _ ha => h' a ha
  rwa [pure_bind] at hbind

end Refines

end PageMarkup.Render
