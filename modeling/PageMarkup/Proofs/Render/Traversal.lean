import PageMarkup.Proofs.Content.Showing
import PageMarkup.Proofs.Render.Meeting
import PageMarkup.Proofs.Render.Outline

/-!
# Traversal of the content

A run without hooks visits the entries of a document and no others, meets what they ask for, and
writes markup of their outline. This is shown here for slots and for values under fields, given that
it holds of the renderer one level deeper for the entries that are reached there.

## Main definitions

* `VisitsEach` : a level visits some entries and writes them.

## Main results

* `visits_renderSiblings` : siblings, as in slots.
* `visits_serialize` : values under fields.
-/

namespace PageMarkup

open Render (Visits)

variable {table : ComponentTable} {settings : Settings} {render : NodeRenderer} {depth : Int}
  {clean : Prop} {fine : Value → Prop} {asks : Value → ImportSpec → Prop}

/-- A level visits each of some entries and writes it. -/
def VisitsEach (clean : Prop) (table : ComponentTable) (settings : Settings)
    (level : LevelRenderer) (fine : Value → Prop) (asks : Value → ImportSpec → Prop)
    (vs : List Value) : Prop :=
  ∀ v ∈ vs, ∀ place, Visits clean fine asks (level v place) [v] fun m =>
    Written table settings [v] m.toList

/-! ### Slots -/

/-- Siblings, one after the other. -/
theorem visits_renderSiblings {level : LevelRenderer} (counted : Bool) {vs : List Value}
    (h : VisitsEach clean table settings level fine asks vs) :
    Visits clean fine asks (renderSiblings level counted vs) vs fun m =>
      Written table settings vs m.toList := by
  have hall := Visits.mapM fun v hv => h v hv ⟨1 < vs.length, counted⟩
  rw [List.flatMap_singleton'] at hall
  refine hall.map fun rendered hrendered => Written.group ?_
  have hwritten : ∀ {ws : List Value} {ms : List (Option Markup)},
      List.Forall₂ (fun v m => Written table settings [v] (Option.toList m)) ws ms →
        Written table settings ws (ms.filterMap id) := by
    intro ws ms hws
    induction hws with
    | nil => exact .nil
    | @cons v m ws ms hv _ ih =>
      have := hv.append ih
      cases m with
      | none => exact this
      | some m => exact this
  exact hwritten hrendered

/-! ### Values under fields -/

private theorem visits_literal? {v : Value} (hdata : v.IsData)
    (hshow : clean → v.isShowable = true) :
    Visits clean fine asks (Render.ofMisuse v.literal?) [] fun m =>
      Written table settings [] [m] := by
  refine .ofMisuse (fun m hm => ?_) fun hc => ⟨_, Value.literal?_of_isShowable (hshow hc)⟩
  rw [Value.eq_asLiteral_of_literal? hm]
  exact written_asLiteral hdata

theorem visits_serializeLiteral {v : Value} (hdata : v.IsData)
    (hshow : clean → v.isShowable = true) :
    Visits clean fine asks (serializeLiteral v) [] fun m => Written table settings [] m.toList :=
  (visits_literal? hdata hshow).map fun _ hm => hm

private theorem visits_keyedEntry {key : Value} (hshow : clean → key.isShowable = true)
    {vs : List Value} {value : Option Markup} (hvalue : Written table settings vs value.toList) :
    Visits clean fine asks (Render.ofMisuse (keyedEntry key value)) [] fun es =>
      Written table settings vs (es.map Prod.snd) := by
  refine .ofMisuse (fun es hes => ?_) fun hc => ?_
  · rw [keyedEntry_eq_ok hes]
    cases value with
    | none => exact hvalue
    | some m => exact hvalue
  · exact ⟨_, keyedEntry_of_isShowable (hshow hc) value⟩

/-- A value that is neither a collection nor nothing: under a slot it is not written. -/
private theorem visits_atom {v : Value} (hdata : v.IsData) (hshow : clean → v.isShowable = true)
    (field : Option Field) :
    Visits clean fine asks (if slotField field then pure none else serializeLiteral v) [] fun m =>
      Written table settings [] m.toList := by
  split
  · exact .pure .nil
  · exact visits_serializeLiteral hdata hshow

/-- A sequence: its entries if it is a slot, the items by their fields if these are declared, and no
entry otherwise. -/
private theorem visits_sequence {counted : Bool} {field : Option Field} {xs : List Value}
    {literal : Value} (hliteral : Visits clean fine asks (serializeLiteral literal) [] fun m =>
      Written table settings [] m.toList)
    (hitems : ∀ fields,
      VisitsEach clean table settings (render (depth + 1)) fine asks (nestedInItems fields xs) →
      Visits clean fine asks (serializeItems render depth counted fields xs)
        (nestedInItems fields xs)
        (Written table settings (nestedInItems fields xs)))
    (h : VisitsEach clean table settings (render (depth + 1)) fine asks
      (nestedNodes field (.list xs))) :
    Visits clean fine asks
      (if slotField field then renderSlot render depth counted xs
      else match field.bind Field.itemFields? with
        | some fields => do return some (.array (← serializeItems render depth counted fields xs))
        | none => serializeLiteral literal)
      (nestedNodes field (.list xs)) fun m =>
        Written table settings (nestedNodes field (.list xs)) m.toList := by
  rw [nestedNodes] at h ⊢
  by_cases hslot : slotField field = true
  · rw [if_pos hslot] at h ⊢
    rw [if_pos hslot]
    exact visits_renderSiblings counted h
  · rw [if_neg hslot] at h ⊢
    rw [if_neg hslot]
    cases hdeclared : field.bind Field.itemFields? with
    | none => exact hliteral
    | some fields =>
      rw [hdeclared] at h
      exact (hitems fields h).map fun items hitems => hitems.array

mutual

/-- A value under a field: what is reached inside it is visited. -/
theorem visits_serialize (counted : Bool) {field : Option Field} {v : Value} (hdata : v.IsData)
    (hshow : clean → v.isShowable = true)
    (h : VisitsEach clean table settings (render (depth + 1)) fine asks (nestedNodes field v)) :
    Visits clean fine asks (serialize render depth counted field v) (nestedNodes field v) fun m =>
      Written table settings (nestedNodes field v) m.toList := by
  match v, hdata with
  | .list xs, .list hxs =>
    rw [serialize]
    exact visits_sequence (visits_serializeLiteral (.list hxs) hshow)
      (fun fields => visits_serializeItems counted hxs hshow) h
  | .tuple xs, .tuple hxs =>
    rw [serialize]
    exact visits_sequence (visits_serializeLiteral (.tuple hxs) hshow)
      (fun fields => visits_serializeItems counted hxs hshow) h
  | .map es, .map hdistinct hkeys hvalues =>
    rw [nestedNodes] at h ⊢
    rw [serialize]
    by_cases hslot : slotField field = true
    · rw [if_pos hslot, if_pos hslot]
      exact .pure .nil
    · rw [if_neg hslot] at h ⊢
      rw [if_neg hslot]
      cases hdeclared : field.bind Field.entryFields? with
      | none => exact visits_serializeLiteral (.map hdistinct hkeys hvalues) hshow
      | some fields =>
        rw [hdeclared] at h
        exact (visits_serializeEntries hvalues hshow h).map fun ms hms => hms.object
  | .null, _ => exact .pure .nil
  | .bool _, hdata | .int _, hdata | .float _, hdata | .str _, hdata | .foreign _ _, hdata =>
    exact visits_atom hdata hshow field

theorem visits_serializeItems (counted : Bool) {fields : Entries Field} {xs : List Value}
    (hdata : ∀ x ∈ xs, x.IsData) (hshow : clean → Value.allShowable xs = true)
    (h : VisitsEach clean table settings (render (depth + 1)) fine asks
      (nestedInItems fields xs)) :
    Visits clean fine asks (serializeItems render depth counted fields xs)
      (nestedInItems fields xs) (Written table settings (nestedInItems fields xs)) := by
  match xs with
  | [] => exact .pure .nil
  | .map es :: xs =>
    rw [List.forall_mem_cons] at hdata
    rw [Value.allShowable, Bool.and_eq_true] at hshow
    rw [nestedInItems] at h ⊢
    have hfirst := fun v hv => h v (List.mem_append_left _ hv)
    have hrest := visits_serializeItems counted hdata.2 (fun hc => (hshow hc).2)
      fun v hv => h v (List.mem_append_right _ hv)
    rw [serializeItems]
    by_cases hshape : isNodeShaped (.map es) = true
    · rw [if_pos hshape] at hfirst ⊢
      rw [if_pos hshape]
      exact (hfirst _ (List.mem_singleton_self _) _).bind fun item hitem =>
        hrest.map fun items hitems => hitem.append hitems
    · rw [if_neg hshape] at hfirst ⊢
      rw [if_neg hshape]
      simp only [map_eq_pure_bind, bind_assoc, pure_bind]
      cases hdata.1 with
      | map _ _ hvalues =>
        exact (visits_serializeEntries hvalues (fun hc => (hshow hc).1) hfirst).bind fun ms hms =>
          hrest.map fun items hitems => hms.object.append hitems
  | .markup _ :: _ => cases hdata _ List.mem_cons_self
  | .null :: xs | .bool _ :: xs | .int _ :: xs | .float _ :: xs | .str _ :: xs | .list _ :: xs
  | .tuple _ :: xs | .foreign _ _ :: xs =>
    rw [List.forall_mem_cons] at hdata
    rw [Value.allShowable, Bool.and_eq_true] at hshow
    have hrest := visits_serializeItems counted hdata.2 (fun hc => (hshow hc).2) h
    exact (visits_literal? hdata.1 fun hc => (hshow hc).1).bind fun item hitem =>
      hrest.map fun items hitems => hitem.append hitems

theorem visits_serializeEntries {fields : Entries Field} {es : Entries Value}
    (hdata : ∀ e ∈ es, e.2.IsData) (hshow : clean → Value.entriesShowable es = true)
    (h : VisitsEach clean table settings (render (depth + 1)) fine asks
      (nestedInEntries fields es)) :
    Visits clean fine asks (serializeEntries render depth fields es) (nestedInEntries fields es)
      fun ms => Written table settings (nestedInEntries fields es) (ms.map Prod.snd) := by
  match es with
  | [] => exact .pure .nil
  | (k, v) :: es =>
    rw [List.forall_mem_cons] at hdata
    simp only [Value.entriesShowable, Bool.and_eq_true] at hshow
    rw [nestedInEntries] at h ⊢
    have hvalue := visits_serialize false hdata.1 (fun hc => (hshow hc).1.2)
      fun w hw => h w (List.mem_append_left _ hw)
    have hrest := visits_serializeEntries hdata.2 (fun hc => (hshow hc).2)
      fun w hw => h w (List.mem_append_right _ hw)
    rw [serializeEntries]
    refine hvalue.bind fun value hvalue => ?_
    refine (visits_keyedEntry (fun hc => (hshow hc).1.1) hvalue).bind fun entry hentry => ?_
    refine hrest.map fun entries hentries => ?_
    rw [List.map_append]
    exact hentry.append hentries

end

end PageMarkup
