import PageMarkup.Proofs.Content.PlainData

/-!
# The entries that a run visits

A run starts at the top-level entries of a document, and from an entry whose component is not
skipped it goes on to the entries below it: those in the lists of its slots, and those that are
reached inside its other properties by the declared fields. Dropped properties are not entered.

## Main definitions

* `nestedNodes` : the entries that are reached inside a value by its field.
* `nodesBelow`, `HangsBelow` : the entries directly below a node.
* `Visited` : the entries that are visited at a depth.
* `Requested` : the import requests of a document.

## Main results

* `visited_iff_reaches` : visited entries are those that are reached from the top level.
* `hangsBelow_iff`, `exists_reaches_iff` : one step downwards, and the first of several.
* `Value.HandedDown.hangsBelow` : what hangs below a node has what is handed down to it.
-/

namespace PageMarkup

/-! ### Entries below a node -/

mutual

/-- The entries that are reached inside a value by its field: those of a slot list, and in arrays
and objects with declared fields the nodes among the items and what is reached by these fields. -/
def nestedNodes (field : Option Field) : Value → List Value
  | .list xs =>
    if slotField field then xs
    else match field.bind Field.itemFields? with
      | some fields => nestedInItems fields xs
      | none => []
  | .tuple xs =>
    if slotField field then xs
    else match field.bind Field.itemFields? with
      | some fields => nestedInItems fields xs
      | none => []
  | .map es =>
    if slotField field then []
    else match field.bind Field.entryFields? with
      | some fields => nestedInEntries fields es
      | none => []
  | _ => []
termination_by structural v => v

/-- The entries that are reached inside the items of an array; a node among them is one itself. -/
def nestedInItems (fields : Entries Field) : List Value → List Value
  | [] => []
  | .map es :: xs =>
    (if isNodeShaped (.map es) then [.map es] else nestedInEntries fields es) ++
      nestedInItems fields xs
  | _ :: xs => nestedInItems fields xs
termination_by structural xs => xs

/-- The entries that are reached inside the entries of an object. -/
def nestedInEntries (fields : Entries Field) : List (Value × Value) → List Value
  | [] => []
  | (k, v) :: es => nestedNodes (fields.find? k) v ++ nestedInEntries fields es
termination_by structural es => es

end

/-- The entries below a node that one of its properties holds: the items of a slot, none in a
dropped property, and what is reached by the field of any other property. -/
def entryNodes (c : Component) (stripped : List Value) (e : Value × Value) : List Value :=
  if nameIn e.1 c.slotNames then e.2.items?.getD []
  else if nameIn e.1 stripped then []
  else nestedNodes (c.field? e.1) e.2

/-- The entries directly below a node with the given properties, in the order in which its element
shows them: the content comes last. -/
def nodesBelow (c : Component) (stripped : List Value) (props : Entries Value) : List Value :=
  (props.filter fun e => !e.1.same childrenName).flatMap (entryNodes c stripped) ++
    (props.filter fun e => e.1.same childrenName).flatMap (entryNodes c stripped)

theorem mem_nodesBelow_iff {c : Component} {stripped : List Value} {props : Entries Value}
    {v : Value} : v ∈ nodesBelow c stripped props ↔ ∃ e ∈ props, v ∈ entryNodes c stripped e := by
  simp only [nodesBelow, List.mem_append, List.mem_flatMap, List.mem_filter, Bool.not_eq_true']
  constructor
  · rintro (⟨e, ⟨he, -⟩, hv⟩ | ⟨e, ⟨he, -⟩, hv⟩)
    · exact ⟨e, he, hv⟩
    · exact ⟨e, he, hv⟩
  · rintro ⟨e, he, hv⟩
    cases hsame : e.1.same childrenName with
    | true => exact .inr ⟨e, ⟨he, hsame⟩, hv⟩
    | false => exact .inl ⟨e, ⟨he, hsame⟩, hv⟩

/-- The component of a node, with the type that it is found under. -/
def nodeComponent? (table : ComponentTable) (node : Value) : Option (Value × Component) := do
  let type ← node.get? "type"
  return (type, ← table.component? type)

section

variable (table : ComponentTable) (settings : Settings)

/-- An entry hangs directly below a node whose component is not skipped. -/
def HangsBelow (node child : Value) : Prop :=
  ∃ type c props stripped, nodeComponent? table node = some (type, c) ∧ c.skip = false ∧
    ownProps node = .ok props ∧ strippedNames c settings = .ok stripped ∧
    child ∈ nodesBelow c stripped props

/-- The entries of a document that are visited, each at its depth. -/
inductive Visited (nodes : List Value) : Nat → Value → Prop
  | top {v : Value} (h : v ∈ nodes) : Visited nodes 0 v
  | step {d : Nat} {v w : Value} (h : Visited nodes d v) (hw : HangsBelow table settings v w) :
      Visited nodes (d + 1) w

/-- A node asks for an import: one of the requests of its component, with the tag of the node for a
missing name. -/
def AsksFor (node : Value) (spec : ImportSpec) : Prop :=
  ∃ type c, nodeComponent? table node = some (type, c) ∧ c.skip = false ∧
    ∃ unbound ∈ c.imports, unbound.bind (c.tag type) = .ok spec

/-- The import of the framework. -/
def frameworkSpec : ImportSpec :=
  .default settings.frameworkImportPath settings.frameworkImportName

/-- A document asks for an import: it is that of the framework and enabled, or a visited node asks
for it. -/
def Requested (nodes : List Value) (spec : ImportSpec) : Prop :=
  (settings.includeFrameworkImport.truthy = true ∧ spec = frameworkSpec settings) ∨
    ∃ d v, Visited table settings nodes d v ∧ AsksFor table v spec

/-- An entry is reached from another one in a number of steps downwards. -/
inductive Reaches : Nat → Value → Value → Prop
  | refl (v : Value) : Reaches 0 v v
  | step {d : Nat} {v w x : Value} (hw : HangsBelow table settings v w) (h : Reaches d w x) :
      Reaches (d + 1) v x

end

variable {table : ComponentTable} {settings : Settings}

theorem Reaches.tail {d : Nat} {v w x : Value} (h : Reaches table settings d v w)
    (hx : HangsBelow table settings w x) : Reaches table settings (d + 1) v x := by
  induction h with
  | refl v => exact .step hx (.refl x)
  | step hw _ ih => exact .step hw (ih hx)

/-- The visited entries are those that are reached from the top level. -/
theorem visited_iff_reaches {nodes : List Value} {d : Nat} {w : Value} :
    Visited table settings nodes d w ↔ ∃ v ∈ nodes, Reaches table settings d v w := by
  constructor
  · intro h
    induction h with
    | top h => exact ⟨_, h, .refl _⟩
    | step _ hw ih =>
      obtain ⟨v, hv, hreach⟩ := ih
      exact ⟨v, hv, hreach.tail hw⟩
  · rintro ⟨v, hv, hreach⟩
    have hgeneral : ∀ {d e : Nat} {v w : Value}, Visited table settings nodes e v →
        Reaches table settings d v w → Visited table settings nodes (e + d) w := by
      intro d e v w hvisited hreach
      induction hreach generalizing e with
      | refl v => exact hvisited
      | @step d v w x hw _ ih =>
        have := ih (hvisited.step hw)
        rwa [Nat.add_assoc, Nat.add_comm 1 d] at this
    have := hgeneral (.top hv) hreach
    rwa [Nat.zero_add] at this

theorem nodeComponent?_inj {node type type' : Value} {c c' : Component}
    (hc : nodeComponent? table node = some (type, c))
    (hc' : nodeComponent? table node = some (type', c')) : type = type' ∧ c = c' :=
  Prod.mk.inj (Option.some.inj (hc.symm.trans hc'))

theorem exists_nodeComponent_iff {node type : Value} {c : Component}
    (hc : nodeComponent? table node = some (type, c)) {P : Value → Component → Prop} :
    (∃ type c, nodeComponent? table node = some (type, c) ∧ P type c) ↔ P type c := by
  constructor
  · rintro ⟨type', c', hc', hP⟩
    obtain ⟨rfl, rfl⟩ := nodeComponent?_inj hc hc'
    exact hP
  · exact fun hP => ⟨type, c, hc, hP⟩

/-- What hangs below a node, if its component and its properties are known. -/
theorem hangsBelow_iff {node type : Value} {c : Component} {props : Entries Value}
    {stripped : List Value} (hc : nodeComponent? table node = some (type, c))
    (hskip : c.skip = false) (hprops : ownProps node = .ok props)
    (hstripped : strippedNames c settings = .ok stripped) {w : Value} :
    HangsBelow table settings node w ↔ w ∈ nodesBelow c stripped props := by
  constructor
  · rintro ⟨type', c', props', stripped', hc', -, hprops', hstripped', hw⟩
    obtain ⟨rfl, rfl⟩ := nodeComponent?_inj hc hc'
    obtain rfl := Except.ok.inj (hprops.symm.trans hprops')
    obtain rfl := Except.ok.inj (hstripped.symm.trans hstripped')
    exact hw
  · exact fun hw => ⟨type, c, props, stripped, hc, hskip, hprops, hstripped, hw⟩

theorem not_hangsBelow_of_skip (settings : Settings) {node type : Value} {c : Component}
    (hc : nodeComponent? table node = some (type, c)) (hskip : c.skip = true) (w : Value) :
    ¬ HangsBelow table settings node w := by
  rintro ⟨type', c', -, -, hc', hfalse, -⟩
  obtain ⟨rfl, rfl⟩ := nodeComponent?_inj hc hc'
  exact Bool.false_ne_true (hfalse.symm.trans hskip)

theorem asksFor_iff {node type : Value} {c : Component} {spec : ImportSpec}
    (hc : nodeComponent? table node = some (type, c)) : AsksFor table node spec ↔
      c.skip = false ∧ ∃ unbound ∈ c.imports, unbound.bind (c.tag type) = .ok spec :=
  exists_nodeComponent_iff hc

/-- What is reached from a node is the node itself or reached from a node below it. -/
theorem exists_reaches_iff {v : Value} {P : Value → Prop} :
    (∃ d w, Reaches table settings d v w ∧ P w) ↔
      P v ∨ ∃ w, HangsBelow table settings v w ∧ ∃ d x, Reaches table settings d w x ∧ P x := by
  constructor
  · rintro ⟨d, x, hx, hP⟩
    cases hx with
    | refl => exact .inl hP
    | step hw hx => exact .inr ⟨_, hw, _, x, hx, hP⟩
  · rintro (hP | ⟨w, hw, d, x, hx, hP⟩)
    · exact ⟨0, v, .refl v, hP⟩
    · exact ⟨d + 1, x, .step hw hx, hP⟩

theorem exists_visited_iff {nodes : List Value} {P : Value → Prop} :
    (∃ d w, Visited table settings nodes d w ∧ P w) ↔
      ∃ v ∈ nodes, ∃ d w, Reaches table settings d v w ∧ P w := by
  simp only [visited_iff_reaches]
  constructor
  · rintro ⟨d, w, ⟨v, hv, hreach⟩, hP⟩
    exact ⟨v, hv, d, w, hreach, hP⟩
  · rintro ⟨v, hv, d, w, hreach, hP⟩
    exact ⟨d, w, ⟨v, hv, hreach⟩, hP⟩

/-! ### What is handed down -/

theorem nestedInItems_cons_of_ne {fields : Entries Field} {x : Value} (h : ∀ es, x ≠ .map es)
    (xs : List Value) : nestedInItems fields (x :: xs) = nestedInItems fields xs := by
  rw [nestedInItems]
  exact h

namespace Value.HandedDown

variable {P : Value → Prop} (hP : HandedDown P)

include hP

set_option linter.unusedSectionVars false

mutual

/-- What is handed down to the parts of a value is handed down to what is reached inside it. -/
theorem nestedNodes {v : Value} (h : P v) (field : Option Field) :
    ∀ w ∈ PageMarkup.nestedNodes field v, P w := by
  match v with
  | .list xs =>
    rw [PageMarkup.nestedNodes]
    split
    · exact hP.list h
    · split
      · exact nestedInItems (hP.list h) _
      · exact List.forall_mem_nil _
  | .tuple xs =>
    rw [PageMarkup.nestedNodes]
    split
    · exact hP.tuple h
    · split
      · exact nestedInItems (hP.tuple h) _
      · exact List.forall_mem_nil _
  | .map es =>
    rw [PageMarkup.nestedNodes]
    split
    · exact List.forall_mem_nil _
    · split
      · exact nestedInEntries (hP.values h) _
      · exact List.forall_mem_nil _
  | .null | .bool _ | .int _ | .float _ | .str _ | .foreign _ _ | .markup _ =>
    exact List.forall_mem_nil _

private theorem nestedInItems {xs : List Value} (h : ∀ x ∈ xs, P x) (fields : Entries Field) :
    ∀ w ∈ PageMarkup.nestedInItems fields xs, P w := by
  match xs with
  | [] => exact List.forall_mem_nil _
  | .map es :: xs =>
    rw [List.forall_mem_cons] at h
    rw [PageMarkup.nestedInItems]
    refine List.forall_mem_append.mpr ⟨?_, nestedInItems h.2 fields⟩
    split
    · exact List.forall_mem_singleton.mpr h.1
    · exact nestedInEntries (hP.values h.1) fields
  | .null :: xs | .bool _ :: xs | .int _ :: xs | .float _ :: xs | .str _ :: xs | .list _ :: xs
  | .tuple _ :: xs | .foreign _ _ :: xs | .markup _ :: xs =>
    exact nestedInItems (List.forall_mem_cons.mp h).2 fields

private theorem nestedInEntries {es : Entries Value} (h : ∀ e ∈ es, P e.2)
    (fields : Entries Field) : ∀ w ∈ PageMarkup.nestedInEntries fields es, P w := by
  match es with
  | [] => exact List.forall_mem_nil _
  | (k, v) :: es =>
    rw [List.forall_mem_cons] at h
    rw [PageMarkup.nestedInEntries]
    exact List.forall_mem_append.mpr ⟨nestedNodes h.1 _, nestedInEntries h.2 fields⟩

end

/-- It is handed down to what hangs below a node. -/
theorem hangsBelow {v w : Value} (h : P v) (hw : HangsBelow table settings v w) : P w := by
  obtain ⟨_, c, props, stripped, -, -, hprops, -, hmem⟩ := hw
  obtain ⟨e, he, hmem⟩ := mem_nodesBelow_iff.mp hmem
  have hvalue := ((hP.ownProps h hprops).2 e he).2
  unfold entryNodes at hmem
  split at hmem
  · cases hitems : e.2.items? with
    | none =>
      rw [hitems] at hmem
      cases hmem
    | some xs =>
      rw [hitems] at hmem
      exact hP.items? hvalue hitems w hmem
  · split at hmem
    · cases hmem
    · exact hP.nestedNodes hvalue _ w hmem

end Value.HandedDown

end PageMarkup
