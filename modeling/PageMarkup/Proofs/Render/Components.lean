import Mathlib.Tactic.Choose
import PageMarkup.Proofs.Imports.Requests
import PageMarkup.Proofs.Render.Visiting

/-!
# Components without hooks

A component without a hook is all data. If its names are texts, then a node of its type has a text
as tag, its requests are bound to this tag, and a run can go on from the node as soon as the
properties of the node can be read.

## Main definitions

* `Component.IsStatic`, `ComponentTable.IsStatic` : components that are all data.
* `Renderable` : a node with a component, whose properties can be read.

## Main results

* `Component.IsStatic.bindImports` : the requests of a component, bound to the tag of a node.
* `Requested.isTextual` : the requests of a document name texts.
-/

namespace PageMarkup

/-- A component that is all data: it has no hook, and its names are texts or missing. -/
structure Component.IsStatic (c : Component) : Prop where
  hook : c.hook = none
  fields : c.fields.HasTextKeys
  outputName : (c.outputName.isStr || c.outputName.isNull) = true
  imports : ∀ spec ∈ c.imports, spec.isTextual = true
  omitted : c.omitted.all Value.hashable = true

/-- A table of components that are all data. -/
def ComponentTable.IsStatic (table : ComponentTable) : Prop :=
  ∀ e ∈ table, e.2.IsStatic

theorem ImportSpec.bind_str {spec : ImportSpec} (h : spec.isTextual = true) (s : String) :
    ∃ bound, spec.bind (.str s) = .ok bound ∧ bound.isTextual = true := by
  have hstr : ∀ t, (Value.str t).isStr = true := fun _ => rfl
  unfold ImportSpec.bind
  cases spec with
  | named path name rename =>
    by_cases hname : name.truthy = true
    · exact ⟨_, if_pos hname, h⟩
    · simp only [isTextual, Bool.and_eq_true] at h
      exact ⟨_, if_neg hname, by simpa [isTextual, hstr] using And.intro h.1.1 h.2⟩
  | default path name =>
    by_cases hname : name.truthy = true
    · exact ⟨_, if_pos hname, h⟩
    · simp only [isTextual, Bool.and_eq_true] at h
      exact ⟨_, if_neg hname, by simpa [isTextual, hstr] using h.1⟩

theorem Component.isStr_slotNames {c : Component} (h : c.fields.HasTextKeys) :
    ∀ name ∈ c.slotNames, name.isStr = true := by
  intro name hname
  obtain ⟨e, he, rfl⟩ := List.mem_map.mp hname
  exact h e (List.mem_of_mem_filter he)

namespace Component.IsStatic

variable {c : Component} {type : Value}

theorem isStr_tag (h : c.IsStatic) (htype : type.isStr = true) : (c.tag type).isStr = true := by
  unfold Component.tag
  split
  · rename_i hname
    have houtput := h.outputName
    cases hn : c.outputName <;> simp_all [Value.isStr, Value.isNull, Value.truthy]
  · exact htype

theorem strippedNames_eq (h : c.IsStatic) (settings : Settings) :
    ∃ stripped, strippedNames c settings = .ok stripped :=
  ⟨_, if_pos h.omitted⟩

/-- The requests of a component can be bound to the tag of a node. -/
theorem bindImports (h : c.IsStatic) (htype : type.isStr = true) :
    ∃ bound, (c.imports.mapM fun spec => spec.bind (c.tag type)) = .ok bound ∧
      ∀ spec, spec ∈ bound ↔ ∃ unbound ∈ c.imports, unbound.bind (c.tag type) = .ok spec := by
  obtain ⟨s, hs⟩ := Value.isStr_iff.mp (h.isStr_tag htype)
  have hbind : ∀ spec ∈ c.imports, ∃ bound, spec.bind (c.tag type) = .ok bound := by
    intro spec hspec
    obtain ⟨bound, hbound, -⟩ := ImportSpec.bind_str (h.imports spec hspec) s
    exact ⟨bound, hs ▸ hbound⟩
  have hne : Nonempty ImportSpec := ⟨.default .null .null⟩
  choose! bind hbind using hbind
  have hall := mapM_eq_ok_map hbind
  refine ⟨_, hall, fun spec => ⟨mem_of_mapM_eq_ok hall spec, ?_⟩⟩
  rintro ⟨unbound, hunbound, hspec⟩
  have heq : bind unbound = spec := Except.ok.inj ((hbind unbound hunbound).symm.trans hspec)
  exact heq ▸ List.mem_map_of_mem hunbound

end Component.IsStatic

variable {table : ComponentTable} {settings : Settings} {node type : Value} {c : Component}

theorem nodeComponent?_eq_some_iff : nodeComponent? table node = some (type, c) ↔
    node.get? "type" = some type ∧ table.component? type = some c := by
  unfold nodeComponent?
  cases node.get? "type" with
  | none => simp
  | some found =>
    cases hc : table.component? found with
    | none =>
      simp only [bind, Option.bind, hc, reduceCtorEq, Option.some.injEq, false_iff, not_and]
      rintro rfl
      simp [hc]
    | some c' =>
      simp only [bind, Option.bind, hc, Option.some.injEq, pure, Prod.mk.injEq]
      constructor
      · rintro ⟨rfl, rfl⟩
        exact ⟨rfl, hc⟩
      · rintro ⟨rfl, h⟩
        exact ⟨rfl, Option.some.inj (hc.symm.trans h)⟩

theorem mem_of_component? (hc : table.component? type = some c) :
    type.isStr = true ∧ (type, c) ∈ table := by
  unfold ComponentTable.component? at hc
  split at hc
  · rename_i htype
    obtain ⟨s, rfl⟩ := Value.isStr_iff.mp htype
    exact ⟨htype, Entries.mem_of_find?_eq_some hc⟩
  · cases hc

theorem mem_of_nodeComponent? (hc : nodeComponent? table node = some (type, c)) :
    type.isStr = true ∧ (type, c) ∈ table :=
  mem_of_component? (nodeComponent?_eq_some_iff.mp hc).2

theorem ComponentTable.IsStatic.nodeComponent (h : table.IsStatic)
    (hc : nodeComponent? table node = some (type, c)) : type.isStr = true ∧ c.IsStatic :=
  (mem_of_nodeComponent? hc).imp_right (h _)

/-- A node that a run can go on from: it has a component, and its properties can be read unless it
is skipped. -/
def Renderable (table : ComponentTable) (node : Value) : Prop :=
  ∃ type c, nodeComponent? table node = some (type, c) ∧
    (c.skip = false → ∃ props, ownProps node = .ok props)

/-- The requests of a document have texts as paths, and names that are texts or missing. -/
theorem Requested.isTextual (h : table.IsStatic)
    (hframework : (frameworkSpec settings).isTextual = true) {nodes : List Value}
    {spec : ImportSpec} (hspec : Requested table settings nodes spec) : spec.isTextual = true := by
  rcases hspec with ⟨-, rfl⟩ | ⟨d, v, -, type, c, hc, -, unbound, hunbound, hbound⟩
  · exact hframework
  · obtain ⟨htype, hstatic⟩ := h.nodeComponent hc
    obtain ⟨s, hs⟩ := Value.isStr_iff.mp (hstatic.isStr_tag htype)
    obtain ⟨bound, hbind, htext⟩ := ImportSpec.bind_str (hstatic.imports unbound hunbound) s
    rw [hs, hbind] at hbound
    exact Except.ok.inj hbound ▸ htext

end PageMarkup
