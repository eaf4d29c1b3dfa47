import PageMarkup.Proofs.Page.Checking
import PageMarkup.Proofs.Render.UnknownTypes

/-!
# Unknown types that are reported

The check of content reports the entries of unknown type that it reaches, and it goes down through
slots alone. A run without hooks ends with an unknown type because of an entry that it visits, and
it also visits what is reached inside arrays and objects with declared fields. So an unknown type
that ends a run is reported, or it is that of an entry which is not reached through slots.

## Main results

* `unknownType_reported_or_missed` : an unknown type that ends a run.
* `exists_missed_gridPage`, `not_forall_unknownType_reported` : one that is not reported.
-/

namespace PageMarkup

open Relation (ReflTransGen)
open Render (RejectsOnly)

/-- An entry is reached from the top level through slots alone. -/
def ReachedThroughSlots (table : ComponentTable) (nodes : List Value) (w : Value) : Prop :=
  ∃ v ∈ nodes, ReflTransGen (SlotBelow table) v w

variable {settings : Settings} {document : Value} {schema : Definition} {nodes : List Value}
  {table : ComponentTable}

theorem rejectsOnly_renderRoot (hfree : ∀ e ∈ table, e.2.IsHookFree) (settings : Settings)
    (nodes : List Value) :
    RejectsOnly (fun type => ∃ d w, Visited table settings nodes d w ∧
        w.get? "type" = some type ∧ table.component? type = none)
      (renderRoot table settings nodes) := by
  have hnodes : RejectsOnlyFor (fun type => ∃ d w, Visited table settings nodes d w ∧
      w.get? "type" = some type ∧ table.component? type = none)
      (renderer table settings 0) nodes := fun v hv place =>
    (rejectsOnly_renderer hfree 0 v place).mono fun _ h => exists_visited_iff.mpr ⟨v, hv, h⟩
  unfold renderRoot requestFramework
  refine RejectsOnly.bind ?_ fun _ => (rejectsOnly_renderSiblings true hnodes).bind fun _ => .pure _
  split
  · exact .register _
  · exact .pure ()

/-- A tree that is not made for an unknown type is not made because the run on the nodes fails. -/
theorem outcome_of_unknownType (hnodes : contentNodes document = .ok nodes)
    (htable : schema.asTable = .ok table) {depth : Int} {type : Value}
    (h : pageTree settings document schema depth = .error (.unknownType type)) :
    ∃ run, (renderRoot table settings nodes).outcome .initial =
      (.error (.unknownType type), run) := by
  unfold pageTree at h
  rw [hnodes, htable] at h
  cases hrun : (renderRoot table settings nodes).outcome .initial with
  | mk outcome run =>
    simp only [hrun, bind_eq_error_iff, liftMisuse_eq_error_iff, reduceCtorEq, false_or, and_false,
      exists_false, Except.ok.injEq, exists_eq_left'] at h
    rcases h with rfl | ⟨root, -, text, -, declarations, -, hpure⟩
    · exact ⟨run, rfl⟩
    · cases hpure

/-- What a check of a document reports beside the settings is what it reports of the nodes. -/
theorem unknownType_mem_checkContent_iff (hnodes : contentNodes document = .ok nodes)
    (htable : schema.asTable = .ok table) {ws : List ContentWarning}
    (hcheck : checkContent settings document schema = .ok ws) {type : Value} :
    .unknownType type ∈ ws ↔ ∃ w, ReachedThroughSlots table nodes w ∧
      ReportedOn table w (.unknownType type) := by
  simp only [checkContent, hnodes, htable, bind_eq_ok_iff, liftMisuse_eq_ok_iff, Except.ok.injEq,
    exists_eq_left'] at hcheck
  obtain ⟨found, hfound, hws⟩ := hcheck
  cases hws
  have hother : .unknownType type ∉ (if nodes.isEmpty then [ContentWarning.empty] else []) ++
      settings.warnings.map .settings := by
    split <;> simp
  rw [List.mem_append, or_iff_right hother, mem_checkNodes_iff hfound]
  constructor
  · rintro ⟨v, hv, w, hw, hreported⟩
    exact ⟨w, ⟨v, hv, hw⟩, hreported⟩
  · rintro ⟨w, ⟨v, hv, hw⟩, hreported⟩
    exact ⟨v, hv, w, hw, hreported⟩

theorem ReportedOn.of_unknown {w type : Value} (htype : w.get? "type" = some type)
    (hunknown : table.component? type = none) : ReportedOn table w (.unknownType type) := by
  have hnone : nodeComponent? table w = none := by
    rw [Option.eq_none_iff_forall_ne_some]
    rintro ⟨type', c⟩ hc
    obtain ⟨htype', hc⟩ := nodeComponent?_eq_some_iff.mp hc
    obtain rfl := Option.some.inj (htype.symm.trans htype')
    rw [hunknown] at hc
    cases hc
  cases w with
  | map es =>
    have hreported := ReportedOn.unknownType rfl hnone
    rwa [htype] at hreported
  | _ => cases htype

/-- **Unknown types and their reports.** Take components without hooks. If a document has been
checked and its tree is not made because of an unknown type, then this type is reported, or it is
the type of a visited entry that is not reached through slots alone. -/
theorem unknownType_reported_or_missed (hnodes : contentNodes document = .ok nodes)
    (htable : schema.asTable = .ok table) (hfree : ∀ e ∈ table, e.2.IsHookFree)
    {ws : List ContentWarning} (hcheck : checkContent settings document schema = .ok ws)
    {depth : Int} {type : Value}
    (h : pageTree settings document schema depth = .error (.unknownType type)) :
    .unknownType type ∈ ws ∨ ∃ d w, Visited table settings nodes d w ∧
      w.get? "type" = some type ∧ table.component? type = none ∧
        ¬ ReachedThroughSlots table nodes w := by
  obtain ⟨run, hrun⟩ := outcome_of_unknownType hnodes htable h
  obtain ⟨d, w, hvisited, htype, hunknown⟩ :=
    rejectsOnly_renderRoot hfree settings nodes _ type run hrun
  by_cases hreach : ReachedThroughSlots table nodes w
  · have hreported := ReportedOn.of_unknown htype hunknown
    exact .inl ((unknownType_mem_checkContent_iff hnodes htable hcheck).mpr ⟨w, hreach, hreported⟩)
  · exact .inr ⟨d, w, hvisited, htype, hunknown, hreach⟩

/-! ### A grid with a cell -/

/-- A component whose nodes hold an array of cells. -/
def gridComponent : Component :=
  { Component.plain with
    fields := [(.str "cells", .mk .array (some [(.str "text", .mk .text none none)]) none)] }

/-- A cell of a type that no component has. -/
def mysteryNode : Value :=
  .map [(.str "type", .str "Mystery"), (.str "props", .map [])]

def gridNode : Value :=
  .map [(.str "type", .str "Grid"), (.str "props", .map [(.str "cells", .list [mysteryNode])])]

def gridSchema : Definition :=
  .map [(.str "Grid", .component gridComponent)]

theorem checkContent_gridPage : checkContent {} (.list [gridNode]) gridSchema = .ok [] := rfl

theorem pageTree_gridPage :
    pageTree {} (.list [gridNode]) gridSchema 0 = .error (.unknownType (.str "Mystery")) := rfl

/-- The cell of a grid is visited, but not reached through slots. -/
theorem exists_missed_gridPage :
    ∃ d w, Visited [(.str "Grid", gridComponent)] {} [gridNode] d w ∧
      w.get? "type" = some (.str "Mystery") ∧
        ¬ ReachedThroughSlots [(.str "Grid", gridComponent)] [gridNode] w := by
  have hfields : Entries.HasTextKeys gridComponent.fields := by
    simp [Entries.HasTextKeys, gridComponent, Value.isStr]
  have hfree : ∀ e ∈ [(Value.str "Grid", gridComponent)], e.2.IsHookFree :=
    List.forall_mem_singleton.mpr ⟨rfl, hfields, rfl⟩
  have hcases := unknownType_reported_or_missed rfl rfl hfree checkContent_gridPage
    pageTree_gridPage
  rcases hcases with hmem | ⟨d, w, hvisited, htype, -, hmissed⟩
  · cases hmem
  · exact ⟨d, w, hvisited, htype, hmissed⟩

theorem isData_gridNode : gridNode.IsData := by
  have hnone : (Value.map []).IsData := .ofTexts [] (by decide) nofun
  have hcell : mysteryNode.IsData := by
    refine .ofTexts [("type", .str "Mystery"), ("props", .map [])] (by decide) ?_
    exact List.forall_mem_cons.mpr ⟨.str _, List.forall_mem_singleton.mpr hnone⟩
  have hprops := Value.IsData.ofTexts [("cells", .list [mysteryNode])] (by decide)
    (List.forall_mem_singleton.mpr (.list (List.forall_mem_singleton.mpr hcell)))
  refine .ofTexts [("type", .str "Grid"), ("props", _)] (by decide) ?_
  exact List.forall_mem_cons.mpr ⟨.str _, List.forall_mem_singleton.mpr hprops⟩

/-- It is not so that the check reports every unknown type that ends a run, even without hooks and
on plain data. -/
theorem not_forall_unknownType_reported :
    ¬ ∀ settings document schema nodes table ws, contentNodes document = .ok nodes →
      schema.asTable = .ok table → (∀ e ∈ table, e.2.hook = none) → (∀ v ∈ nodes, v.IsData) →
      checkContent settings document schema = .ok ws → (∀ type, .unknownType type ∉ ws) →
        ∀ type, pageTree settings document schema 0 ≠ .error (.unknownType type) := by
  intro hall
  exact hall {} (.list [gridNode]) gridSchema _ _ _ rfl rfl (List.forall_mem_singleton.mpr rfl)
    (List.forall_mem_singleton.mpr isData_gridNode) checkContent_gridPage
    (fun _ => List.not_mem_nil) _ pageTree_gridPage

end PageMarkup
