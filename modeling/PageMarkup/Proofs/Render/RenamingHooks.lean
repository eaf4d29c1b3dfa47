import PageMarkup.Proofs.Imports.Merge
import PageMarkup.Proofs.Page.Unseen
import PageMarkup.Proofs.Render.HookObjects
import PageMarkup.Proofs.Render.Needs
import PageMarkup.Schema.HookScript

/-!
# Hooks that rename

A hook may give each property and each slot of a node a new name, and write them in another order.
Where no object is given to it under two names, each is read by the field of the name that it was
given under, also where two fields swap their names. What is nothing may be given under many names,
but nothing adds nothing to an element, whatever it is read by. So nothing but the names of the
attributes changes.

The two runs make the same requests, though not in the same order, so they are compared by what
their entries need.

## Main definitions

* `Entries.rename` : entries under other names.
* `Hook.Renames` : a hook that gives back all that it is given, under other names.
* `RenamedBy` : the outcomes of two runs that differ in the names of attributes.

## Main results

* `renderEntry_returnedEntry` : an object that comes back under a new name.
* `renderElement_of_renames` : the element of a node whose hook renames.
-/

namespace PageMarkup

open ImportSpec (Clashing)
open Render (Needs)

/-- Entries under other names. -/
def Entries.rename {α : Type} (ρ : Value → Value) (es : Entries α) : Entries α :=
  es.map fun e => (ρ e.1, e.2)

/-- A hook gives back each object that it is given once, under the new name for its name, in some
order, provided that it is given no two under the same text. -/
def Hook.Renames (ρ : Value → Value) (hook : Hook) : Prop :=
  ∀ given, given.entries.DistinctTexts → ∃ es : Entries Object, es.Perm given.entries ∧
    ∃ left, hook.call given = .ok ⟨.entries (.ok (es.rename ρ)), left, []⟩

/-- An element with other names for its attributes, in some order, but with the same values, tag,
content and imports; or no element in either run. -/
inductive RenamedBy (ρ : Value → Value) :
    Except Fault Markup × RunState → Except Fault Markup × RunState → Prop
  | element {tag : Value} {attributes attributes' : List (Value × Markup)} {content : List Markup}
      {run run' : RunState} (hattributes : attributes'.Perm (Entries.rename ρ attributes))
      (himports : run.imports.SameRequests run'.imports) :
      RenamedBy ρ (.ok (.element tag attributes content), run)
        (.ok (.element tag attributes' content), run')
  | failure (f f' : Fault) (run run' : RunState) : RenamedBy ρ (.error f, run) (.error f', run')

/-! ### Elements from the same entries -/

variable {c : Component} {ρ : Value → Value} (hρ : ∀ k, ρ k = childrenName ↔ k = childrenName)

private theorem same_childrenName_iff
    (hρ : ∀ k, ρ k = childrenName ↔ k = childrenName) (name : Value) :
    (ρ name).same childrenName = name.same childrenName := by
  rw [Bool.eq_iff_iff, childrenName, Value.same_str_iff, Value.same_str_iff]
  exact hρ name

include hρ in
/-- Under other names the entries of an element add the same attributes under these names, and the
same content. -/
theorem attributesOf_rename (parts : Entries (List Markup)) :
    attributesOf (parts.rename ρ) = Entries.rename ρ (attributesOf parts) ∧
      contentOf (parts.rename ρ) = contentOf parts := by
  induction parts with
  | nil => exact ⟨rfl, rfl⟩
  | cons p parts ih =>
    have hname := same_childrenName_iff hρ p.1
    rw [Entries.rename, List.map_cons, attributesOf_cons, attributesOf_cons, contentOf_cons,
      contentOf_cons, hname]
    refine ⟨?_, by rw [← Entries.rename, ih.2]⟩
    rw [← Entries.rename, ih.1, Entries.rename, Entries.rename, List.map_append]
    split
    · rfl
    · rw [List.map_map]
      rfl

/-- What the entries of an element add does not depend on their order, but for the order of the
attributes, and entries without markup add nothing. -/
theorem attributesOf_perm {parts parts' absent : Entries (List Markup)}
    (hdistinct : Entries.DistinctTexts parts') (hperm : (parts ++ absent).Perm parts')
    (habsent : ∀ p ∈ absent, p.2 = []) :
    (attributesOf parts').Perm (attributesOf parts) ∧ contentOf parts' = contentOf parts := by
  have hattributes : attributesOf absent = [] := by
    refine List.flatMap_eq_nil_iff.mpr fun p hp => ?_
    rw [habsent p hp]
    split <;> rfl
  have hcontent : (Entries.find? absent childrenName).getD [] = [] := by
    cases hfind : Entries.find? absent childrenName with
    | none => rfl
    | some ms => exact habsent _ (Entries.mem_of_find?_eq_some hfind)
  constructor
  · have hboth := hperm.flatMap_right fun p : Value × List Markup =>
      if p.1.same childrenName then [] else p.2.map fun m => (p.1, m)
    rw [List.flatMap_append] at hboth
    change (attributesOf parts ++ attributesOf absent).Perm (attributesOf parts') at hboth
    rw [hattributes, List.append_nil] at hboth
    exact hboth.symm
  · have hfind := (hdistinct.perm hperm.symm).find?_perm hperm "children"
    rw [contentOf, childrenName, ← hfind, Entries.find?_append]
    rw [contentOf, childrenName]
    cases Entries.find? parts (.str "children") with
    | some ms => rfl
    | none => exact hcontent

variable {settings : Settings} {render : NodeRenderer} {depth : Int} {counted : Bool}

private theorem renderUnder_null (counted : Bool) (field : Option Field) (name : Value) :
    renderUnder render depth counted field name .null = pure [] := by
  rw [renderUnder]
  split <;> rfl

/-- What is written for an object that comes back under a name. -/
def returnedEntry (given : HookInput) (e : Value × Object) : Value × Sourced :=
  (e.1, ⟨e.2.value, given.sourceOf e.1 e.2⟩)

include hρ in
/-- An object that comes back under a new name adds what it adds under its own. -/
theorem renderEntry_returnedEntry (hfields : c.fields.HasTextKeys) {given : HookInput}
    (hdistinct : given.Distinct) {e : Value × Object} (he : e ∈ given.entries) :
    renderEntry render depth counted c (returnedEntry given (ρ e.1, e.2)) =
      (fun p => (ρ p.1, p.2)) <$> renderEntry render depth counted c (ownEntry e) := by
  obtain ⟨name, object⟩ := e
  simp only [renderEntry, returnedEntry, ownEntry, map_bind, map_pure, Option.getD_some,
    Option.isSome_some, Bool.and_true]
  cases hvalue : object.value.isNull with
  | true =>
    have hnull : object.value = .null := by
      revert hvalue
      cases object.value <;> simp [Value.isNull]
    rw [hnull, renderUnder_null, renderUnder_null, pure_bind]
  | false =>
    obtain ⟨source, hsource, hfield⟩ :=
      HookInput.exists_sourceOf hfields hdistinct he hvalue (ρ name)
    rw [hsource, Option.getD_some, Option.isSome_some, Bool.and_true, hfield, renderUnder,
      renderUnder, same_childrenName_iff hρ]

include hρ in
theorem mapM_rename (hfields : c.fields.HasTextKeys) {given : HookInput}
    (hdistinct : given.Distinct) {es : Entries Object} (hes : ∀ e ∈ es, e ∈ given.entries) :
    ((es.rename ρ).map (returnedEntry given)).mapM (renderEntry render depth counted c) =
      Entries.rename ρ <$> (es.map ownEntry).mapM (renderEntry render depth counted c) := by
  induction es with
  | nil => rfl
  | cons e es ih =>
    rw [List.forall_mem_cons] at hes
    have hrest := ih hes.2
    rw [Entries.rename] at hrest ⊢
    rw [List.map_cons, List.map_cons, List.map_cons, List.mapM_cons, List.mapM_cons, hrest,
      renderEntry_returnedEntry hρ hfields hdistinct hes.1]
    simp only [map_eq_pure_bind, bind_assoc, pure_bind]
    rfl

/-! ### What the entries need -/

/-- A request for texts. -/
private abbrev Textual (spec : ImportSpec) : Prop :=
  spec.isTextual = true

/-- An entry needs requests for texts if the nodes below do, and an entry without a value needs none
and adds nothing. -/
private theorem exists_needs_renderEntry
    (hdeeper : ∀ v place, (render (depth + 1) v place).NeedsOnly Textual) (counted : Bool)
    (c : Component) (e : Value × Sourced) :
    ∃ specs result, (renderEntry render depth counted c e).Needs specs (Prod.mk e.1 <$> result) ∧
      (∀ spec ∈ specs, Textual spec) ∧ (e.2.value = .null → specs = [] ∧ result = .ok []) := by
  obtain ⟨name, value, source⟩ := e
  have hentry : renderEntry render depth counted c (name, ⟨value, source⟩) = Prod.mk name <$>
      renderUnder render depth (counted && source.isSome) (c.field? (source.getD name)) name
        value := by
    rw [map_eq_pure_bind]
    rfl
  rw [hentry]
  by_cases hnull : value = .null
  · rw [hnull, renderUnder_null]
    exact ⟨[], .ok [], (Needs.pure []).map _, List.forall_mem_nil _, fun _ => ⟨rfl, rfl⟩⟩
  · have hR := Render.NeedsOnly.isCongruence Textual
    have hvalue := fun counted field =>
      serialize_congr hR (fun v place => ⟨rfl, hdeeper v place⟩) counted field value
    have hunder : ∀ counted field, (renderUnder render depth counted field name value).NeedsOnly
        Textual := by
      intro counted field
      rw [renderUnder]
      split
      · unfold renderChildren
        split
        · exact (hR.pure _).2
        · exact (hR.bind (hvalue counted field) fun m => hR.pure m.toList).2
      · exact (hR.isSequential.map (hvalue counted field) _).2
    obtain ⟨specs, result, hneeds, htext⟩ := hunder _ _
    exact ⟨specs, result, hneeds.map _, htext, fun h => absurd h hnull⟩

private theorem exists_needs_closeElement (settings : Settings) {c : Component}
    (himports : ∀ spec ∈ c.imports, Textual spec) (type id : Value) (counted : Bool) :
    (∃ bound, (∀ spec ∈ bound, Textual spec) ∧ ∀ parts,
      (closeElement settings c type id ⟨false, counted⟩ parts).Needs bound
        (.ok (.element (c.tag type) (attributesOf parts) (contentOf parts)))) ∨
    ∃ f, ∀ parts, (closeElement settings c type id ⟨false, counted⟩ parts).Needs [] (.error f) := by
  cases hbound : c.imports.mapM fun spec => spec.bind (c.tag type) with
  | error how =>
    refine .inr ⟨.misuse how, fun parts => ?_⟩
    rw [closeElement, hbound]
    exact (Render.Meets.fail _).needs.bind_error _
  | ok bound =>
    refine .inl ⟨bound, fun spec hspec => ?_, fun parts => ?_⟩
    · obtain ⟨unbound, hunbound, hbind⟩ := mem_of_mapM_eq_ok hbound spec hspec
      exact ImportSpec.isTextual_of_bind (himports unbound hunbound) hbind
    · rw [closeElement, hbound, Render.ofMisuse_ok, pure_bind]
      have hneeds := (Render.Meets.register bound).needs.bind (k := fun _ => pure
        (Markup.element (c.tag type) (attributesOf parts) (contentOf parts))) (.pure _)
      rwa [List.append_nil] at hneeds

/-- Steps that need the same requests in some order come to their results in tables that hold the
same requests, or both fail. -/
private theorem outcome_of_needs_perm {α β : Type} {r : Render α} {r' : Render β}
    {specs specs' : List ImportSpec} {a : α} {b : β} (h : r.Needs specs (.ok a))
    (h' : r'.Needs specs' (.ok b)) (hperm : specs'.Perm specs)
    (htext : ∀ spec ∈ specs, Textual spec)
    {st : RunState} {asked : List ImportSpec} (hholds : st.imports.Holds asked)
    (hfree : ¬ Clashing asked) :
    (∃ run run', r.outcome st = (.ok a, run) ∧ r'.outcome st = (.ok b, run') ∧
      run.imports.SameRequests run'.imports) ∨
    ∃ f f' run run', r.outcome st = (.error f, run) ∧ r'.outcome st = (.error f', run') := by
  have hmade : ∀ {others : List ImportSpec}, others.Perm specs → _ := fun hothers =>
    ImportTable.registerAll_holds_of_perm hholds hfree hothers htext
  obtain ⟨himports, hresult⟩ := h st
  obtain ⟨himports', hresult'⟩ := h' st
  rcases hmade (.refl specs) with ⟨t, hrun, ht, hok⟩ | ⟨f, t, hrun, hbad⟩
  · rcases hmade hperm with ⟨t', hrun', ht', -⟩ | ⟨-, -, -, hbad⟩
    · rw [hrun] at himports hresult
      rw [hrun'] at himports' hresult'
      refine .inl ⟨_, _, Prod.ext hresult rfl, Prod.ext hresult' rfl, _, ?_, ?_, hok⟩
      · exact himports ▸ ht
      · exact himports' ▸ ht'
    · exact absurd hbad hok
  · rcases hmade hperm with ⟨-, -, -, hok⟩ | ⟨f', t', hrun', -⟩
    · exact absurd hbad hok
    · rw [hrun] at hresult
      rw [hrun'] at hresult'
      exact .inr ⟨f, f', _, _, Prod.ext hresult rfl, Prod.ext hresult' rfl⟩

/-- A table that holds requests holds them still after a step for texts that has a result. -/
private theorem exists_holds_of_needsOnly {α : Type} {r : Render α} (h : r.NeedsOnly Textual)
    {st mid : RunState} {a : α} (hrun : r.outcome st = (.ok a, mid)) {asked : List ImportSpec}
    (hholds : st.imports.Holds asked) (hfree : ¬ Clashing asked) :
    ∃ specs, mid.imports.Holds (specs ++ asked) ∧ ¬ Clashing (specs ++ asked) := by
  obtain ⟨specs, result, hneeds, htext⟩ := h
  obtain ⟨himports, hresult⟩ := hneeds st
  rw [hrun] at himports hresult
  rcases ImportTable.registerAll_holds hholds hfree htext with
    ⟨t, hmet, ht, hok⟩ | ⟨f, t, hmet, -⟩
  · rw [hmet] at himports
    obtain rfl : mid.imports = t := himports
    exact ⟨specs, ht, hok⟩
  · rw [hmet] at hresult
    cases hresult

/-- Parts of all entries, in some order and under other names, and those of the entries with a
value, make the same element but for the names and the order of its attributes. -/
private theorem element_of_perm (hρ : ∀ k, ρ k = childrenName ↔ k = childrenName)
    {given plain absent es : Entries Sourced} (hdistinct : given.DistinctTexts)
    (hplain : (plain ++ absent).Perm given) (hes : es.Perm given)
    {ms : Value × Sourced → List Markup} (hempty : ∀ e ∈ absent, ms e = []) :
    (attributesOf (Entries.rename ρ (es.map fun e => (e.1, ms e)))).Perm
        (Entries.rename ρ (attributesOf (plain.map fun e => (e.1, ms e)))) ∧
      contentOf (Entries.rename ρ (es.map fun e => (e.1, ms e))) =
        contentOf (plain.map fun e => (e.1, ms e)) := by
  have hparts : ((plain.map fun e => (e.1, ms e)) ++ absent.map fun e => (e.1, ms e)).Perm
      (es.map fun e => (e.1, ms e)) := by
    rw [← List.map_append]
    exact (hplain.trans hes.symm).map _
  have hnames : Entries.DistinctTexts (es.map fun e => (e.1, ms e)) :=
    List.pairwise_map.mpr (hdistinct.perm hes.symm)
  obtain ⟨hattributes, hcontent⟩ :=
    attributesOf_perm hnames hparts (List.forall_mem_map.mpr hempty)
  obtain ⟨hrenamed, hsame⟩ := attributesOf_rename hρ (es.map fun e => (e.1, ms e))
  rw [hrenamed, hsame]
  exact ⟨hattributes.map _, hcontent⟩

private theorem renamedBy_of_errors {r r' : Render Markup} {specs specs' : List ImportSpec}
    {f f' : Fault} (h : r.Needs specs (.error f)) (h' : r'.Needs specs' (.error f'))
    (st : RunState) : RenamedBy ρ (r.outcome st) (r'.outcome st) := by
  obtain ⟨g, run, hrun⟩ := h.exists_outcome_error st
  obtain ⟨g', run', hrun'⟩ := h'.exists_outcome_error st
  rw [hrun, hrun']
  exact .failure g g' run run'

/-- Elements of entries that all have their markup: one run has them all, in some order and under
other names, and the other one leaves out those that add nothing. -/
private theorem renamedBy_of_results (hρ : ∀ k, ρ k = childrenName ↔ k = childrenName)
    (himports : ∀ spec ∈ c.imports, Textual spec) (settings : Settings) (type id : Value)
    {given plain absent es : Entries Sourced} (hdistinct : given.DistinctTexts)
    (hplain : (plain ++ absent).Perm given) (hes : es.Perm given)
    {specs : Value × Sourced → List ImportSpec} {ms : Value × Sourced → List Markup}
    (hneeds : ∀ e ∈ given, (renderEntry render depth counted c e).Needs (specs e) (.ok (e.1, ms e)))
    (htext : ∀ e, ∀ spec ∈ specs e, Textual spec)
    (habsent : ∀ e ∈ absent, specs e = [] ∧ ms e = []) {st : RunState}
    {asked : List ImportSpec} (hholds : st.imports.Holds asked) (hfree : ¬ Clashing asked) :
    RenamedBy ρ
      ((plain.mapM (renderEntry render depth counted c) >>=
        closeElement settings c type id ⟨false, counted⟩).outcome st)
      ((Entries.rename ρ <$> es.mapM (renderEntry render depth counted c) >>=
        closeElement settings c type id ⟨false, counted⟩).outcome st) := by
  have hfirst : (plain.mapM (renderEntry render depth counted c)).Needs (plain.flatMap specs)
      (.ok (plain.map fun e => (e.1, ms e))) :=
    Needs.mapM fun e he => hneeds e (hplain.mem_iff.mp (List.mem_append_left _ he))
  have hsecond : (Entries.rename ρ <$> es.mapM (renderEntry render depth counted c)).Needs
      (es.flatMap specs) (.ok (Entries.rename ρ (es.map fun e => (e.1, ms e)))) :=
    (Needs.mapM fun e he => hneeds e (hes.mem_iff.mp he)).map _
  rcases exists_needs_closeElement settings himports type id counted with
    ⟨bound, hbound, hclose⟩ | ⟨f, hclose⟩
  · have hspecs : (es.flatMap specs).Perm (plain.flatMap specs) := by
      have hnone : absent.flatMap specs = [] :=
        List.flatMap_eq_nil_iff.mpr fun e he => (habsent e he).1
      have hboth := (hplain.trans hes.symm).flatMap_right specs
      rw [List.flatMap_append, hnone, List.append_nil] at hboth
      exact hboth.symm
    have hfine : ∀ spec ∈ plain.flatMap specs ++ bound, Textual spec := by
      refine List.forall_mem_append.mpr ⟨fun spec hspec => ?_, hbound⟩
      obtain ⟨e, -, he⟩ := List.mem_flatMap.mp hspec
      exact htext e spec he
    obtain ⟨hattributes, hcontent⟩ :=
      element_of_perm hρ hdistinct hplain hes fun e he => (habsent e he).2
    rcases outcome_of_needs_perm (hfirst.bind (hclose _)) (hsecond.bind (hclose _))
      (hspecs.append_right bound) hfine hholds hfree with
      ⟨run, run', hrun, hrun', htables⟩ | ⟨f, f', run, run', hrun, hrun'⟩
    · rw [hrun, hrun', hcontent]
      exact .element hattributes htables
    · rw [hrun, hrun']
      exact .failure f f' run run'
  · exact renamedBy_of_errors (hfirst.bind (hclose _)) (hsecond.bind (hclose _)) st

/-- Elements of the same entries, of which one run has them all, in some order and under other
names, and the other has those with a value. -/
private theorem renamedBy_of_entries (hρ : ∀ k, ρ k = childrenName ↔ k = childrenName)
    (hdeeper : ∀ v place, (render (depth + 1) v place).NeedsOnly Textual)
    (himports : ∀ spec ∈ c.imports, Textual spec) (settings : Settings) (type id : Value)
    (counted : Bool) {given plain absent es : Entries Sourced} (hdistinct : given.DistinctTexts)
    (hplain : (plain ++ absent).Perm given) (habsent : ∀ e ∈ absent, e.2.value = .null)
    (hes : es.Perm given) {st : RunState} {asked : List ImportSpec}
    (hholds : st.imports.Holds asked) (hfree : ¬ Clashing asked) :
    RenamedBy ρ
      ((plain.mapM (renderEntry render depth counted c) >>=
        closeElement settings c type id ⟨false, counted⟩).outcome st)
      ((Entries.rename ρ <$> es.mapM (renderEntry render depth counted c) >>=
        closeElement settings c type id ⟨false, counted⟩).outcome st) := by
  choose specs result hneeds htext hnull using exists_needs_renderEntry hdeeper counted c
  by_cases hall : ∀ e ∈ given, ∃ ms, result e = .ok ms
  · choose! ms hms using hall
    have hgiven : ∀ e ∈ given,
        (renderEntry render depth counted c e).Needs (specs e) (.ok (e.1, ms e)) := by
      intro e he
      have hentry := hneeds e
      rw [hms e he] at hentry
      exact hentry
    have hempty : ∀ e ∈ absent, specs e = [] ∧ ms e = [] := by
      intro e he
      obtain ⟨hspecs, hresult⟩ := hnull e (habsent e he)
      have hmarkup := hms e (hplain.mem_iff.mp (List.mem_append_right _ he))
      exact ⟨hspecs, Except.ok.inj (hmarkup.symm.trans hresult)⟩
    exact renamedBy_of_results hρ himports settings type id hdistinct hplain hes hgiven htext
      hempty hholds hfree
  · -- an entry that comes to a fault is in both runs, since one without a value does not
    simp only [not_forall, not_exists] at hall
    obtain ⟨e, he, hnone⟩ := hall
    have hmem : e ∈ plain := by
      refine (List.mem_append.mp (hplain.mem_iff.mpr he)).resolve_right fun habs => ?_
      exact hnone [] (hnull e (habsent e habs)).2
    obtain ⟨f, hfault⟩ : ∃ f, Prod.mk e.1 <$> result e = .error f := by
      cases hresult : result e with
      | ok ms => exact absurd hresult (hnone ms)
      | error f => exact ⟨f, rfl⟩
    obtain ⟨_, _, hfirst⟩ := Needs.mapM_error (fun e _ => hneeds e) hmem hfault
    obtain ⟨_, _, hsecond⟩ := Needs.mapM_error (fun e _ => hneeds e) (hes.mem_iff.mpr he) hfault
    exact renamedBy_of_errors (hfirst.bind_error _)
      ((hsecond.map (Entries.rename ρ)).bind_error _) st

/-- **A renaming hook keeps every value.** Take a component whose hook gives back each property and
each slot that it is given once, under a new name and in some order, and does not take the content
away from its name or give this name to anything else. Let no object be given to it under two names
for the node, but for what is nothing. Then the element of the node, if it stands alone, is the one
that it has without the hook, but for the names and the order of its attributes: it has the same
tag, the same content, and each value under its new name, read by the field of the old one, also
where the new name is that of another field. The same imports are registered. Where there is no
element without the hook, there is none with it. -/
theorem renderElement_of_renames {table : ComponentTable}
    (htable : ∀ e ∈ table, ∀ spec ∈ e.2.imports, spec.isTextual = true) (settings : Settings)
    (levels : Nat) (depth : Int) {c : Component} (hfields : c.fields.HasTextKeys)
    (hnodup : c.fields.keys.Nodup) (himports : ∀ spec ∈ c.imports, spec.isTextual = true)
    {ρ : Value → Value} (hρ : ∀ k, ρ k = childrenName ↔ k = childrenName) {hook : Hook}
    (hhook : hook.Renames ρ) (type : Value) {node : Value}
    (hdistinct : ∀ props, ownProps node = .ok props → props.DistinctTexts)
    (hobjects : ∀ props stripped slots, ownProps node = .ok props →
      strippedNames c settings = .ok stripped → slots.keys = c.slotNames →
      (hook.given (plainProps c stripped props) slots).Distinct)
    (counted : Bool) {st : RunState} {asked : List ImportSpec} (hholds : st.imports.Holds asked)
    (hfree : ¬ Clashing asked) :
    RenamedBy ρ
      ((renderElement settings (renderWithin table settings levels) depth { c with hook := none }
        type node ⟨false, counted⟩).outcome st)
      ((renderElement settings (renderWithin table settings levels) depth
        { c with hook := some hook } type node ⟨false, counted⟩).outcome st) := by
  have hdeeper : ∀ v place,
      (renderWithin table settings levels (depth + 1) v place).NeedsOnly Textual :=
    needsOnly_renderWithin (fun specs => RequestsOf.isTextual htable) levels (depth + 1)
  rcases exists_slots_or_error settings (renderWithin table settings levels) depth c type node
    ⟨false, counted⟩ st with
    ⟨props, stripped, slots, mid, hprops, hstripped, hslots⟩ | ⟨f, run, hnone⟩
  · obtain ⟨hkeys, habsent⟩ := leaves_renderSlots_keys _ depth counted c props st slots mid hslots
    obtain ⟨htext, hnames⟩ := Component.nodup_slotNames hfields hnodup
    have hown := hdistinct props hprops
    let plain := plainProps c stripped props
    have hgiven : (hook.given plain slots).Distinct :=
      hobjects props stripped slots hprops hstripped hkeys
    obtain ⟨absent, hnull, hperm⟩ :=
      exists_unhookedProps_perm hfields hnodup stripped hown hkeys habsent
    have howned : (ownEntries plain slots).DistinctTexts :=
      distinctTexts_ownEntries htext hnames stripped hown hkeys
    have hnamed : Entries.DistinctTexts ((hook.given plain slots).entries.map ownEntry) :=
      map_ownEntry_given hook plain slots ▸ howned
    obtain ⟨es, hes, left, hreturned⟩ :=
      hhook (hook.given plain slots) (List.pairwise_map.mp hnamed)
    have hplain := outcome_renderElement { c with hook := none } type ⟨false, counted⟩ hprops
      hstripped hslots rfl
    have hhooked : (renderElement settings (renderWithin table settings levels) depth
          { c with hook := some hook } type node ⟨false, counted⟩).outcome st =
        (do
          let parts ← ((es.rename ρ).map (returnedEntry (hook.given plain slots))).mapM
            (renderEntry (renderWithin table settings levels) depth counted c)
          closeElement settings c type (idOf props) ⟨false, counted⟩ parts :
            Render Markup).outcome mid :=
      outcome_renderElement { c with hook := some hook } type ⟨false, counted⟩ hprops hstripped
        hslots (outcome_mapProps { c with hook := some hook } rfl hreturned rfl rfl counted mid)
    have hrenamed : ((es.rename ρ).map (returnedEntry (hook.given plain slots))).mapM
          (renderEntry (renderWithin table settings levels) depth counted c) =
        Entries.rename ρ <$> (es.map ownEntry).mapM
          (renderEntry (renderWithin table settings levels) depth counted c) :=
      mapM_rename hρ hfields hgiven fun e he => hes.mem_iff.mp he
    have hentries : (es.map ownEntry).Perm (ownEntries plain slots) :=
      map_ownEntry_given hook plain slots ▸ hes.map ownEntry
    have hR := Render.NeedsOnly.isCongruence Textual
    have hneeds := (renderSlots_congr hR (fun v place => ⟨rfl, hdeeper v place⟩) counted c props).2
    obtain ⟨more, hholds', hfree'⟩ := exists_holds_of_needsOnly hneeds hslots hholds hfree
    rw [hplain, hhooked, hrenamed]
    exact renamedBy_of_entries hρ hdeeper himports settings type (idOf props) counted howned
      hperm hnull hentries hholds' hfree'
  · rw [hnone, hnone]
    exact .failure f f run run

/-! ### Items and style with their names swapped -/

/-- A component with items that have icons, a style with a note, and a body. -/
def tileComponent : Component :=
  { Component.plain with
    fields := [(.str "items", .mk .array (some [(.str "icon", .mk .slot none none)]) none),
      (.str "style", .mk .object none (some [(.str "note", .mk .slot none none)])),
      (.str "body", .mk .slot none none)] }

/-- Swaps the names of the items and the style. -/
def swapNames : Value → Value
  | .str "items" => .str "style"
  | .str "style" => .str "items"
  | v => v

/-- Returns everything with the names of the items and the style swapped, the last first. -/
def swapHook : Hook where
  identity := Identity.ofGiven
  call given := .ok ⟨.entries (.ok (Entries.rename swapNames given.entries.reverse)), given, []⟩

/-- A tile with nodes in all of its fields, and a text as its content. -/
def tileNode : Value :=
  typedNode "Tile" [(.str "items", .list [.map [(.str "icon", .list [textNode []])]]),
    (.str "children", .str "Tile"), (.str "style", .map [(.str "note", .list [textNode []])]),
    (.str "body", .list [textNode [], textNode []])]

/-- How the nodes in a tile are rendered. -/
def tileTable : ComponentTable := [(.str "Text", .plain)]

/-- The items and the style of a tile are read by their own fields under each other's name. -/
theorem renderElement_of_renames_tile :
    ((renderElement {} (renderWithin tileTable {} 1) 0 { tileComponent with hook := none }
      (.str "Tile") tileNode ⟨false, true⟩).outcome .initial).1.isOk = true ∧
    RenamedBy swapNames
      ((renderElement {} (renderWithin tileTable {} 1) 0 { tileComponent with hook := none }
        (.str "Tile") tileNode ⟨false, true⟩).outcome .initial)
      ((renderElement {} (renderWithin tileTable {} 1) 0
        { tileComponent with hook := some swapHook } (.str "Tile") tileNode
        ⟨false, true⟩).outcome .initial) := by
  have hchildren : ∀ k, swapNames k = childrenName ↔ k = childrenName := by
    intro k
    unfold swapNames
    split <;> simp [childrenName]
  have hswap : swapHook.Renames swapNames := fun given _ =>
    ⟨given.entries.reverse, given.entries.reverse_perm, given, rfl⟩
  have hprops : ∀ props, ownProps tileNode = .ok props → props.DistinctTexts := by
    intro props h
    cases h
    simp [Entries.DistinctTexts]
  have htext : tileComponent.fields.HasTextKeys := by
    simp [Entries.HasTextKeys, tileComponent, Value.isStr]
  have hnodup : tileComponent.fields.keys.Nodup := by
    simp [Entries.keys, tileComponent]
  have hobjects : ∀ props stripped slots, ownProps tileNode = .ok props →
      strippedNames tileComponent {} = .ok stripped → slots.keys = tileComponent.slotNames →
      (swapHook.given (plainProps tileComponent stripped props) slots).Distinct := by
    intro props stripped slots hown hstripped hkeys
    cases hown
    cases hstripped
    obtain ⟨⟨name, m⟩, rfl, hname⟩ := List.map_eq_singleton_iff.mp hkeys
    obtain rfl : name = .str "body" := hname
    have hids : ∀ id : Identity, (∀ n < 3, id ≠ .place n) →
        [.place 0, .place 1, .place 2, id].Nodup := by
      intro id hid
      simp [hid, Ne.symm]
    refine .of_nodup_ids ?_
    cases m with
    | none => exact hids .nothing (by simp)
    | some m => exact hids (.place 3) (by simp; omega)
  exact ⟨by decide, renderElement_of_renames (by decide) {} 1 0 htext hnodup (by decide)
    hchildren hswap (.str "Tile") hprops hobjects true ImportTable.Holds.empty
    ImportSpec.not_clashing_nil⟩

end PageMarkup
