import PageMarkup.Page.Tree
import PageMarkup.Proofs.Render.Components
import PageMarkup.Proofs.Render.Congruence

/-!
# What a run needs

Hooks may fail, make up nodes and append to lists, but neither they nor anything else in a run looks
at the import table. So a run needs the same requests whatever has been registered before it. It
makes them in order, up to the first that is refused, and comes to the same if none is.

## Main definitions

* `Render.Needs` : the requests that a step makes whatever state it starts from, and what it comes
  to.
* `Render.NeedsOnly` : a step needs requests of a kind.

## Main results

* `Render.Needs.bind`, `Render.Needs.mapM` : one step after the other.
* `Render.NeedsOnly.isCongruence` : the steps of a rendering keep to the requests of components.
* `needsOnly_renderRoot` : what the top-level nodes need.
-/

namespace PageMarkup

namespace Render

variable {α β : Type}

/-- A step makes the given requests in order, whatever state it starts from. The first that is
refused ends the step; if all are met, it comes to the given result. -/
def Needs (r : Render α) (specs : List ImportSpec) (result : Except Fault α) : Prop :=
  ∀ st, (r.outcome st).2.imports = (st.imports.registerAll specs).2 ∧
    (r.outcome st).1 = (st.imports.registerAll specs).1 >>= fun _ => result

theorem Meets.needs {r : Render α} {specs : List ImportSpec} {result : Except Fault α}
    (h : r.Meets specs result) : r.Needs specs result := by
  intro st
  rw [h st]
  cases st.imports.registerAll specs with
  | mk first t => cases first <;> exact ⟨rfl, rfl⟩

namespace Needs

variable {r : Render α} {specs specs' : List ImportSpec}

theorem noteAppended (items : List Value) : Needs (Render.noteAppended items) [] (.ok ()) :=
  fun _ => ⟨rfl, rfl⟩

private theorem outcome_eq {result : Except Fault α} (h : r.Needs specs result) (st : RunState) :
    ∃ mid, r.outcome st = ((st.imports.registerAll specs).1 >>= fun _ => result, mid) ∧
      mid.imports = (st.imports.registerAll specs).2 :=
  ⟨(r.outcome st).2, Prod.ext (h st).2 rfl, (h st).1⟩

/-- A step after one that has a result. -/
theorem bind {a : α} (h : r.Needs specs (.ok a)) {k : α → Render β} {result : Except Fault β}
    (h' : (k a).Needs specs' result) : (r >>= k).Needs (specs ++ specs') result := by
  intro st
  obtain ⟨mid, hrun, himports⟩ := h.outcome_eq st
  rw [outcome_bind, hrun, ImportTable.registerAll_append]
  cases hmet : st.imports.registerAll specs with
  | mk met t =>
    rw [hmet] at himports
    cases met with
    | error f => exact ⟨himports, rfl⟩
    | ok u =>
      obtain rfl : mid.imports = t := himports
      exact h' mid

theorem bind_error {f : Fault} (h : r.Needs specs (.error f)) (k : α → Render β) :
    (r >>= k).Needs specs (.error f) := by
  intro st
  obtain ⟨mid, hrun, himports⟩ := h.outcome_eq st
  rw [outcome_bind, hrun]
  cases hmet : st.imports.registerAll specs with
  | mk met t =>
    rw [hmet] at himports
    cases met with
    | error g => exact ⟨himports, rfl⟩
    | ok u => exact ⟨himports, rfl⟩

theorem exists_outcome_error {f : Fault} (h : r.Needs specs (.error f)) (st : RunState) :
    ∃ f' run, r.outcome st = (.error f', run) := by
  obtain ⟨mid, hrun, -⟩ := h.outcome_eq st
  rw [hrun]
  cases (st.imports.registerAll specs).1 with
  | error g => exact ⟨g, mid, rfl⟩
  | ok _ => exact ⟨f, mid, rfl⟩

theorem pure (a : α) : Needs (Pure.pure a) [] (.ok a) :=
  (Meets.pure a).needs

theorem map {result : Except Fault α} (h : r.Needs specs result) (g : α → β) :
    (g <$> r).Needs specs (g <$> result) := by
  rw [map_eq_pure_bind]
  cases result with
  | error f => exact h.bind_error _
  | ok a =>
    have hbind := h.bind (k := fun a => Pure.pure (g a)) (pure (g a))
    rwa [List.append_nil] at hbind

section

variable {γ : Type} {f : γ → Render α} {specs : γ → List ImportSpec} {xs : List γ}

/-- Steps for the members of a list that all have a result. -/
theorem mapM {value : γ → α} (h : ∀ x ∈ xs, (f x).Needs (specs x) (.ok (value x))) :
    (xs.mapM f).Needs (xs.flatMap specs) (.ok (xs.map value)) := by
  induction xs with
  | nil => exact pure []
  | cons x xs ih =>
    rw [List.forall_mem_cons] at h
    have hrest := (ih h.2).bind (k := fun as => Pure.pure (value x :: as)) (pure _)
    rw [List.append_nil] at hrest
    rw [List.mapM_cons, List.flatMap_cons]
    exact h.1.bind hrest

theorem mapM_error {result : γ → Except Fault α} (h : ∀ x ∈ xs, (f x).Needs (specs x) (result x))
    {x : γ} (hx : x ∈ xs) {fault : Fault} (hfault : result x = .error fault) :
    ∃ specs' fault', (xs.mapM f).Needs specs' (.error fault') := by
  induction xs with
  | nil => cases hx
  | cons y ys ih =>
    rw [List.forall_mem_cons] at h
    rw [List.mapM_cons]
    cases hy : result y with
    | error fault' => exact ⟨_, _, (hy ▸ h.1).bind_error _⟩
    | ok a =>
      have hmem : x ∈ ys := by
        rcases List.mem_cons.mp hx with rfl | hmem
        · cases hfault.symm.trans hy
        · exact hmem
      obtain ⟨specs', fault', hrest⟩ := ih h.2 hmem
      exact ⟨_, fault', (hy ▸ h.1).bind (hrest.bind_error _)⟩

end

end Needs

/-- A step needs some requests, each of a kind. -/
def NeedsOnly (fine : ImportSpec → Prop) (r : Render α) : Prop :=
  ∃ specs result, r.Needs specs result ∧ ∀ spec ∈ specs, fine spec

/-- To be the same step, one that needs requests of a kind only, is kept by the steps of a rendering
that makes requests of this kind. -/
theorem NeedsOnly.isCongruence (fine : ImportSpec → Prop) :
    IsCongruence (fun specs => ∀ spec ∈ specs, fine spec)
      fun _ r r' => r = r' ∧ r.NeedsOnly fine where
  ofExcept result := by
    refine ⟨rfl, [], result, ?_, List.forall_mem_nil _⟩
    cases result with
    | ok a => exact (Meets.pure a).needs
    | error f => exact (Meets.fail f).needs
  register {specs} h := ⟨rfl, specs, .ok (), (Meets.register specs).needs, h⟩
  noteAppended items := ⟨rfl, [], .ok (), .noteAppended items, List.forall_mem_nil _⟩
  bind {_ _ r _ k _} h h' := by
    obtain ⟨rfl, specs, result, hneeds, hfine⟩ := h
    refine ⟨congrArg (r >>= ·) (funext fun a => (h' a).1), ?_⟩
    cases result with
    | error f => exact ⟨specs, .error f, hneeds.bind_error k, hfine⟩
    | ok a =>
      obtain ⟨-, specs', result', hneeds', hfine'⟩ := h' a
      exact ⟨specs ++ specs', result', hneeds.bind hneeds',
        List.forall_mem_append.mpr ⟨hfine, hfine'⟩⟩

end Render

/-! ### The requests of components -/

open Render (NeedsOnly)

section

variable {table : ComponentTable} {settings : Settings}

theorem ImportSpec.isTextual_of_bind {spec bound : ImportSpec} {tag : Value}
    (h : spec.isTextual = true) (hbound : spec.bind tag = .ok bound) : bound.isTextual = true := by
  by_cases htag : tag.isStr = true
  · obtain ⟨s, rfl⟩ := Value.isStr_iff.mp htag
    obtain ⟨_, hbind, htext⟩ := ImportSpec.bind_str h s
    exact Except.ok.inj (hbind.symm.trans hbound) ▸ htext
  · -- without a text for a tag, a request is bound only if it has a name already
    have hnone : bindingName tag = .error .noParts := by
      unfold bindingName
      split
      · exact absurd rfl htag
      · rfl
    cases spec <;> rw [bind, hnone] at hbound <;> split at hbound <;> cases hbound <;> exact h

theorem RequestsOf.isTextual (h : ∀ e ∈ table, ∀ spec ∈ e.2.imports, spec.isTextual = true)
    {specs : List ImportSpec} (hspecs : RequestsOf table specs) :
    ∀ spec ∈ specs, spec.isTextual = true := by
  obtain ⟨type, c, hc, hbound⟩ := hspecs
  intro spec hspec
  obtain ⟨unbound, hunbound, hbind⟩ := mem_of_mapM_eq_ok hbound spec hspec
  exact ImportSpec.isTextual_of_bind (h _ (mem_of_component? hc).2 unbound hunbound) hbind

theorem needsOnly_renderWithin {fine : ImportSpec → Prop}
    (hfine : ∀ specs, RequestsOf table specs → ∀ spec ∈ specs, fine spec) (levels : Nat)
    (depth : Int) (node : Value) (place : Place) :
    (renderWithin table settings levels depth node place).NeedsOnly fine := by
  have hR := NeedsOnly.isCongruence fine
  induction levels generalizing depth node place with
  | zero => exact (hR.fail _).2
  | succ n ih =>
    exact (renderNode_congr hR (fun v p => ⟨rfl, ih (depth + 1) v p⟩) hfine rfl node place).2

/-- The top-level nodes need requests of the kind that components make, and perhaps that for the
framework. -/
theorem needsOnly_renderRoot {fine : ImportSpec → Prop}
    (hfine : ∀ specs, RequestsOf table specs → ∀ spec ∈ specs, fine spec)
    (hframework : settings.includeFrameworkImport.truthy = true → fine (frameworkSpec settings))
    (nodes : List Value) : (renderRoot table settings nodes).NeedsOnly fine := by
  have hR := NeedsOnly.isCongruence fine
  have hnode : ∀ node place, (renderer table settings 0 node place).NeedsOnly fine :=
    needsOnly_renderWithin hfine _ 0
  have hrequest : (requestFramework settings).NeedsOnly fine := by
    unfold requestFramework
    by_cases henabled : settings.includeFrameworkImport.truthy = true
    · rw [if_pos henabled]
      exact (hR.register (List.forall_mem_singleton.mpr (hframework henabled))).2
    · rw [if_neg henabled]
      exact (hR.pure ()).2
  have htop := related_renderSiblings hR.isSequential true fun v (_ : v ∈ nodes) p =>
    ⟨rfl, hnode v p⟩
  exact (hR.bind ⟨rfl, hrequest⟩ fun _ => hR.bind htop fun root =>
    hR.pure (root.getD (.fragment []))).2

end

end PageMarkup
