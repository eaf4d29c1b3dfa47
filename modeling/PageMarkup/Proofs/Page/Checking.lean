import PageMarkup.Page.Check
import PageMarkup.Proofs.Page.Descent
import PageMarkup.Proofs.Render.Components

/-!
# What the check of content reports

The check goes down through the slots of the nodes that it knows. What it reports of a document is
what there is to report of each entry that it reaches, and it comes to an end unless one of the
known ones among these holds something other than a map as properties.

## Main definitions

* `SlotBelow` : an entry of a slot of a node.
* `ReportedOn` : what is reported of an entry itself.
* `ReportsOnly` : a check comes to an end with reports of some kind.

## Main results

* `reportsOnly_checkNodes_iff` : when a check comes to an end with reports of some kind.
* `mem_checkNodes_iff` : what a check reports.
-/

namespace PageMarkup

open Relation (ReflTransGen)

section

variable (table : ComponentTable)

/-- An entry stands in a slot of a node whose component is known. -/
def SlotBelow (v w : Value) : Prop :=
  ∃ type c ps, nodeComponent? table v = some (type, c) ∧ v.get? "props" = some (.map ps) ∧
    ∃ e ∈ ps, (∃ field, c.field? e.1 = some field ∧ field.isSlot = true) ∧ w ∈ e.2.items?.getD []

/-- The component of an entry is known. -/
def IsKnown (v : Value) : Prop :=
  ∃ type c, nodeComponent? table v = some (type, c)

/-- What is reported of an entry itself: its type if that is not known, and otherwise the properties
that no field describes. -/
inductive ReportedOn (v : Value) : ContentWarning → Prop
  | unknownType {es : Entries Value} (hmap : v = .map es) (h : nodeComponent? table v = none) :
      ReportedOn v (.unknownType ((v.get? "type").getD .null))
  | undescribed {type : Value} {c : Component} {ps : Entries Value} {e : Value × Value}
      (h : nodeComponent? table v = some (type, c)) (hps : v.get? "props" = some (.map ps))
      (he : e ∈ ps) (hfield : c.field? e.1 = none) (hname : nameIn e.1 undescribedNames = false) :
      ReportedOn v (.undescribed type e.1)

end

/-- A check comes to an end, with reports of some kind only. -/
def ReportsOnly (Q : ContentWarning → Prop) (r : Except Misuse (List ContentWarning)) : Prop :=
  Gives (fun rs => ∀ r ∈ rs, Q r) r

variable {table : ComponentTable} {Q : ContentWarning → Prop}

theorem SlotBelow.sizeOf_lt {v w : Value} (h : SlotBelow table v w) : sizeOf w < sizeOf v := by
  obtain ⟨_, _, ps, -, hps, e, he, -, hw⟩ := h
  exact sizeOf_lt_of_mem_props hps he hw

private theorem reportsOnly_append_iff {x y : Except Misuse (List ContentWarning)} :
    ReportsOnly Q (do return (← x) ++ (← y)) ↔
      ReportsOnly Q x ∧ ReportsOnly Q y :=
  gives_pair_iff fun _ _ => List.forall_mem_append

private theorem reportsOnly_nil : ReportsOnly Q (.ok []) :=
  ⟨[], rfl, fun _ hr => nomatch hr⟩

private theorem reportsOnly_singleton_iff {r : ContentWarning} :
    ReportsOnly Q (.ok [r]) ↔ Q r := by
  simp [ReportsOnly, Gives]

private theorem reportsOnly_checkNodes_step {vs : List Value} :
    ReportsOnly Q (checkNodes table vs) ↔ ∀ v ∈ vs, ReportsOnly Q (checkNode table v) := by
  induction vs with
  | nil => exact iff_of_true reportsOnly_nil fun v hv => nomatch hv
  | cons v vs ih => rw [checkNodes, reportsOnly_append_iff, ih, List.forall_mem_cons]

private theorem checkInProps_eq (c : Component) (type : Value) (es : Entries Value) :
    checkInProps table c type es = throughProps (checkProps table c type) [] (.map es) := by
  induction es with
  | nil => rfl
  | cons e es ih =>
    obtain ⟨k, v⟩ := e
    rw [throughProps_cons, ← ih]
    cases v <;> rfl

/-- The reports on one property. -/
def checkProp (table : ComponentTable) (c : Component) (type : Value) (e : Value × Value) :
    Except Misuse (List ContentWarning) :=
  match c.field? e.1 with
  | none => .ok (if nameIn e.1 undescribedNames then [] else [.undescribed type e.1])
  | some field => if field.isSlot then checkNodes table (e.2.items?.getD []) else .ok []

private theorem checkProps_cons (c : Component) (type : Value) (e : Value × Value)
    (ps : Entries Value) : checkProps table c type (e :: ps) =
      (do return (← checkProp table c type e) ++ (← checkProps table c type ps)) := by
  obtain ⟨name, v⟩ := e
  cases hfield : c.field? name with
  | none => cases v <;> simp only [checkProps, checkProp, hfield] <;> rfl
  | some field =>
    cases hslot : field.isSlot <;> cases v <;>
      simp only [checkProps, checkProp, hfield, hslot] <;> rfl

/-- One property is reported if no field describes it; if it is a slot, so is what is in it. -/
private theorem reportsOnly_checkProp_iff {c : Component} {type : Value} {e : Value × Value} :
    ReportsOnly Q (checkProp table c type e) ↔
      (c.field? e.1 = none → nameIn e.1 undescribedNames = false → Q (.undescribed type e.1)) ∧
      ((∃ field, c.field? e.1 = some field ∧ field.isSlot = true) →
        ∀ w ∈ e.2.items?.getD [], ReportsOnly Q (checkNode table w)) := by
  unfold checkProp
  cases c.field? e.1 with
  | none => cases nameIn e.1 undescribedNames <;> simp [reportsOnly_nil, reportsOnly_singleton_iff]
  | some field =>
    cases hslot : field.isSlot <;> simp [hslot, reportsOnly_nil, reportsOnly_checkNodes_step]

private theorem reportsOnly_checkProps_iff {c : Component} {type : Value} {ps : Entries Value} :
    ReportsOnly Q (checkProps table c type ps) ↔
      ∀ e ∈ ps, ReportsOnly Q (checkProp table c type e) := by
  induction ps with
  | nil => exact iff_of_true reportsOnly_nil fun e he => nomatch he
  | cons e ps ih => rw [checkProps_cons, reportsOnly_append_iff, ih, List.forall_mem_cons]

private theorem nodeComponent?_map (es : Entries Value) :
    nodeComponent? table (.map es) =
      (table.component? ((es.find? (.str "type")).getD .null)).map
        fun c => ((es.find? (.str "type")).getD .null, c) := by
  have hget : (Value.map es).get? "type" = es.find? (.str "type") := rfl
  unfold nodeComponent?
  rw [hget]
  cases es.find? (.str "type") with
  | none => rfl
  | some type => cases hc : table.component? type <;> simp [hc]

private theorem checkNode_eq (v : Value) : checkNode table v =
    match nodeComponent? table v with
    | some (type, c) => throughProps (checkProps table c type) [] v
    | none =>
      .ok (if v.entries?.isSome then [.unknownType ((v.get? "type").getD .null)] else []) := by
  cases v with
  | map es =>
    rw [checkNode, nodeComponent?_map]
    cases table.component? ((Entries.find? es (.str "type")).getD .null) with
    | none => rfl
    | some c => exact checkInProps_eq c _ es
  | _ => rfl

private theorem reportsOnly_checkNode_of_none {v : Value} (hc : nodeComponent? table v = none) :
    ReportsOnly Q (checkNode table v) ↔ ∀ r, ReportedOn table v r → Q r := by
  rw [checkNode_eq, hc]
  cases v with
  | map es =>
    refine reportsOnly_singleton_iff.trans ⟨?_, fun h => h _ (.unknownType rfl hc)⟩
    intro hQ r hr
    cases hr with
    | unknownType => exact hQ
    | undescribed h => simp [hc] at h
  | _ =>
    refine iff_of_true reportsOnly_nil fun r hr => ?_
    cases hr with
    | unknownType hmap => cases hmap
    | undescribed h => simp [hc] at h

/-- A check of an entry comes to an end if its properties can be read, with what is reported of it
and of the entries in its slots. -/
private theorem reportsOnly_checkNode_step (v : Value) :
    ReportsOnly Q (checkNode table v) ↔
      ((IsKnown table v → v.HoldsMap) ∧ ∀ r, ReportedOn table v r → Q r) ∧
        ∀ w, SlotBelow table v w → ReportsOnly Q (checkNode table w) := by
  cases hc : nodeComponent? table v with
  | none =>
    have hunknown : ¬ IsKnown table v := fun ⟨_, _, h⟩ => by simp [hc] at h
    have hbelow : ∀ w, ¬ SlotBelow table v w := fun w ⟨_, _, _, h, _⟩ => by simp [hc] at h
    simp [reportsOnly_checkNode_of_none hc, hunknown, hbelow]
  | some found =>
    obtain ⟨type, c⟩ := found
    have hknown : IsKnown table v := ⟨type, c, hc⟩
    have hreads : ReportsOnly Q (checkNode table v) ↔ v.HoldsMap ∧
        ∀ ps, v.get? "props" = some (.map ps) →
          ReportsOnly Q (checkProps table c type ps) := by
      rw [checkNode_eq, hc]
      exact gives_throughProps_iff fun _ hr => nomatch hr
    simp only [hreads, reportsOnly_checkProps_iff, reportsOnly_checkProp_iff]
    constructor
    · rintro ⟨hmap, hprops⟩
      refine ⟨⟨fun _ => hmap, fun r hr => ?_⟩, ?_⟩
      · cases hr with
        | unknownType _ h => simp [hc] at h
        | undescribed h hps he hfield hname =>
          obtain ⟨rfl, rfl⟩ := nodeComponent?_inj hc h
          exact (hprops _ hps _ he).1 hfield hname
      · rintro w ⟨type', c', ps, h, hps, e, he, hslot, hw⟩
        obtain ⟨rfl, rfl⟩ := nodeComponent?_inj hc h
        exact (hprops ps hps e he).2 hslot w hw
    · rintro ⟨⟨hmap, hreports⟩, hslots⟩
      refine ⟨hmap hknown, fun ps hps e he => ⟨fun hfield hname => ?_, fun hslot w hw => ?_⟩⟩
      · exact hreports _ (.undescribed hc hps he hfield hname)
      · exact hslots w ⟨type, c, ps, hc, hps, e, he, hslot, hw⟩

/-- When a check comes to an end with reports of some kind. -/
theorem reportsOnly_checkNodes_iff {vs : List Value} :
    ReportsOnly Q (checkNodes table vs) ↔
      ∀ v ∈ vs, ∀ w, ReflTransGen (SlotBelow table) v w →
        (IsKnown table w → w.HoldsMap) ∧ ∀ r, ReportedOn table w r → Q r := by
  rw [reportsOnly_checkNodes_step]
  exact forall₂_congr fun v _ =>
    forall_reached_iff sizeOf SlotBelow.sizeOf_lt reportsOnly_checkNode_step v

/-- What a check reports is what is reported of the entries that are reached through slots. -/
theorem mem_checkNodes_iff {vs : List Value} {rs : List ContentWarning}
    (h : checkNodes table vs = .ok rs) {r : ContentWarning} :
    r ∈ rs ↔ ∃ v ∈ vs, ∃ w, ReflTransGen (SlotBelow table) v w ∧ ReportedOn table w r := by
  constructor
  · intro hr
    by_contra hnone
    have hends : ReportsOnly (fun _ => True) (checkNodes table vs) := ⟨rs, h, fun _ _ => trivial⟩
    have hothers : ReportsOnly (· ≠ r) (checkNodes table vs) := by
      refine reportsOnly_checkNodes_iff.mpr fun v hv w hw => ?_
      refine ⟨(reportsOnly_checkNodes_iff.mp hends v hv w hw).1, fun r' hr' heq => ?_⟩
      exact hnone ⟨v, hv, w, hw, heq ▸ hr'⟩
    obtain ⟨rs', h', hne⟩ := hothers
    obtain rfl := Except.ok.inj (h.symm.trans h')
    exact hne r hr rfl
  · rintro ⟨v, hv, w, hw, hr⟩
    have hown : ReportsOnly (· ∈ rs) (checkNodes table vs) := ⟨rs, h, fun _ hmem => hmem⟩
    exact (reportsOnly_checkNodes_iff.mp hown v hv w hw).2 r hr

end PageMarkup
