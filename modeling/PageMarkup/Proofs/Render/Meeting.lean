import PageMarkup.Proofs.Imports.Requests
import PageMarkup.Render.Run

/-!
# Runs that meet requests

A step without hooks does one thing to the state of a run: it meets some import requests in order.
Which ones, and what comes of the step if they are met, does not depend on the state. Steps are
compared with the entries of the content that they visit: either all of these are fine and the step
meets just what they ask for, or the step fails. Where the content is clean, so that nothing in it
lacks a text, a step only fails because one of the entries is not fine.

## Main definitions

* `Render.Meets` : a step meets requests and then has a result.
* `Render.Visits` : a step visits entries of the content.

## Main results

* `Render.Meets.bind` : one step after the other.
* `Render.Visits.bind`, `Render.Visits.mapM` : visits one after the other.
-/

namespace PageMarkup.Render

variable {α β : Type}

/-- A step meets the given requests in order, whatever state it starts from, and then has the given
result. If a request fails, so does the step. -/
def Meets (r : Render α) (specs : List ImportSpec) (result : Except Fault α) : Prop :=
  ∀ st, r.outcome st =
    match st.imports.registerAll specs with
    | (.ok (), t) => (result, { st with imports := t })
    | (.error f, t) => (.error f, { st with imports := t })

theorem ofMisuse_ok (a : α) : Render.ofMisuse (.ok a) = pure a := rfl

theorem outcome_ofMisuse (r : Except Misuse α) (st : RunState) :
    (Render.ofMisuse r).outcome st = (liftMisuse r, st) := by
  cases r <;> rfl

theorem outcome_bind (r : Render α) (k : α → Render β) (st : RunState) :
    (r >>= k).outcome st =
      match r.outcome st with
      | (.ok a, st) => (k a).outcome st
      | (.error f, st) => (.error f, st) := by
  unfold outcome ExceptT.run StateT.run
  simp only [bind, ExceptT.bind, ExceptT.mk, StateT.bind]
  cases r st with
  | mk result st' => cases result <;> rfl

namespace Meets

theorem pure (a : α) : Meets (Pure.pure a) [] (.ok a) := fun _ => rfl

theorem fail (f : Fault) : Meets (Render.fail f : Render α) [] (.error f) := fun _ => rfl

theorem register (specs : List ImportSpec) : Meets (Render.register specs) specs (.ok ()) := by
  intro st
  unfold Render.register
  rw [outcome_bind]
  change (((set _ : Render Unit) >>= fun _ => Render.ofExcept _).outcome st) = _
  rw [outcome_bind]
  cases st.imports.registerAll specs with
  | mk result t =>
    cases result with
    | ok u => rfl
    | error f => rfl

/-- A step after one that has a result. -/
theorem bind {r : Render α} {specs specs' : List ImportSpec} {a : α} (h : r.Meets specs (.ok a))
    {k : α → Render β} {result : Except Fault β} (h' : (k a).Meets specs' result) :
    (r >>= k).Meets (specs ++ specs') result := by
  intro st
  rw [outcome_bind, h st, ImportTable.registerAll_append]
  cases st.imports.registerAll specs with
  | mk first t =>
    cases first with
    | ok u => exact h' _
    | error f => rfl

theorem bind_error {r : Render α} {specs : List ImportSpec} {f : Fault}
    (h : r.Meets specs (.error f)) (k : α → Render β) : (r >>= k).Meets specs (.error f) := by
  intro st
  rw [outcome_bind, h st]
  cases st.imports.registerAll specs with
  | mk first t =>
    cases first with
    | ok u => rfl
    | error f => rfl

end Meets

/-! ### Visits -/

/-- A step visits some entries of the content. Either all of them are fine, and it meets just the
requests that they ask for and has a result of which `post` holds; or it fails, in clean content
because one of them is not fine. -/
def Visits (clean : Prop) (fine : Value → Prop) (asks : Value → ImportSpec → Prop) (r : Render α)
    (vs : List Value) (post : α → Prop) : Prop :=
  (∃ specs a, r.Meets specs (.ok a) ∧ (∀ v ∈ vs, fine v) ∧
    (∀ spec, spec ∈ specs ↔ ∃ v ∈ vs, asks v spec) ∧ post a) ∨
  ∃ specs f, r.Meets specs (.error f) ∧ (clean → ∃ v ∈ vs, ¬ fine v)

namespace Visits

variable {clean : Prop} {fine : Value → Prop} {asks : Value → ImportSpec → Prop} {r : Render α}
  {vs ws : List Value} {post : α → Prop}

theorem pure {a : α} (h : post a) : Visits clean fine asks (Pure.pure a) [] post :=
  .inl ⟨[], a, .pure a, by simp, by simp, h⟩

theorem ofMisuse {result : Except Misuse α} (h : ∀ a, result = .ok a → post a)
    (hclean : clean → ∃ a, result = .ok a) :
    Visits clean fine asks (Render.ofMisuse result) [] post := by
  cases result with
  | ok a => exact pure (h a rfl)
  | error how =>
    refine .inr ⟨[], .misuse how, .fail _, fun hc => ?_⟩
    obtain ⟨a, ha⟩ := hclean hc
    cases ha

theorem mono (h : Visits clean fine asks r vs post) {post' : α → Prop}
    (himp : ∀ a, post a → post' a) :
    Visits clean fine asks r vs post' := by
  rcases h with ⟨specs, a, hmeets, hfine, hasks, hpost⟩ | herror
  · exact .inl ⟨specs, a, hmeets, hfine, hasks, himp a hpost⟩
  · exact .inr herror

theorem congr (h : Visits clean fine asks r vs post) (hmem : ∀ v, v ∈ vs ↔ v ∈ ws) :
    Visits clean fine asks r ws post := by
  rcases h with ⟨specs, a, hmeets, hfine, hasks, hpost⟩ | ⟨specs, f, hmeets, hnot⟩
  · refine .inl ⟨specs, a, hmeets, fun v hv => hfine v ((hmem v).mpr hv), fun spec => ?_, hpost⟩
    rw [hasks]
    exact exists_congr fun v => and_congr_left fun _ => hmem v
  · refine .inr ⟨specs, f, hmeets, fun hc => ?_⟩
    obtain ⟨v, hv, hbad⟩ := hnot hc
    exact ⟨v, (hmem v).mp hv, hbad⟩

/-- Visits one after the other. -/
theorem bind (h : Visits clean fine asks r vs post) {k : α → Render β} {post' : β → Prop}
    (h' : ∀ a, post a → Visits clean fine asks (k a) ws post') :
    Visits clean fine asks (r >>= k) (vs ++ ws) post' := by
  rcases h with ⟨specs, a, hmeets, hfine, hasks, hpost⟩ | ⟨specs, f, hmeets, hnot⟩
  · rcases h' a hpost with ⟨specs', b, hmeets', hfine', hasks', hpost'⟩ |
      ⟨specs', f, hmeets', hnot⟩
    · refine .inl ⟨specs ++ specs', b, hmeets.bind hmeets', ?_, fun spec => ?_, hpost'⟩
      · exact List.forall_mem_append.mpr ⟨hfine, hfine'⟩
      · rw [List.mem_append, hasks, hasks']
        simp only [List.mem_append, or_and_right, exists_or]
    · refine .inr ⟨specs ++ specs', f, hmeets.bind hmeets', fun hc => ?_⟩
      obtain ⟨v, hv, hbad⟩ := hnot hc
      exact ⟨v, List.mem_append_right _ hv, hbad⟩
  · refine .inr ⟨specs, f, hmeets.bind_error k, fun hc => ?_⟩
    obtain ⟨v, hv, hbad⟩ := hnot hc
    exact ⟨v, List.mem_append_left _ hv, hbad⟩

theorem map (h : Visits clean fine asks r vs post) {g : α → β} {post' : β → Prop}
    (himp : ∀ a, post a → post' (g a)) :
    Visits clean fine asks (r >>= fun a => Pure.pure (g a)) vs post' := by
  have hbind : Visits clean fine asks (r >>= fun a => Pure.pure (g a)) (vs ++ []) post' :=
    h.bind fun a ha => pure (himp a ha)
  rwa [List.append_nil] at hbind

/-- Visits for each member of a list. -/
theorem mapM {γ : Type} {f : γ → Render α} {visited : γ → List Value} {post : γ → α → Prop}
    {xs : List γ} (h : ∀ x ∈ xs, Visits clean fine asks (f x) (visited x) (post x)) :
    Visits clean fine asks (xs.mapM f) (xs.flatMap visited) (List.Forall₂ post xs) := by
  induction xs with
  | nil => exact pure .nil
  | cons x xs ih =>
    rw [List.forall_mem_cons] at h
    rw [List.mapM_cons, List.flatMap_cons]
    exact h.1.bind fun a ha => (ih h.2).map fun as has => .cons ha has

end Visits

end PageMarkup.Render
