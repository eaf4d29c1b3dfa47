import PageMarkup.Proofs.Markup.Tags
import PageMarkup.Proofs.Render.Description
import PageMarkup.Proofs.Render.Literals

/-!
# Markup whose integers have texts

The integers in the markup of a page without hooks are those of its document. So where these have
texts, the page can be printed.

## Main results

* `describes_isShowable` : values that can be shown have markup that can.
* `isShowable_renderRoot` : so have the top-level nodes.
-/

namespace PageMarkup

open Render (Leaves)

/-! ### Values -/

mutual

theorem Value.isShowable_asLiteral {v : Value} (h : v.isShowable = true) :
    v.asLiteral.isShowable = true := by
  match v with
  | .list _ | .tuple _ => exact Value.allShowable_itemLiterals h
  | .map _ => exact Value.entriesShowable_entryLiterals h
  | .markup _ | .int _ => exact h
  | .null | .bool _ | .float _ | .str _ | .foreign _ _ => rfl

private theorem Value.allShowable_itemLiterals {xs : List Value} (h : allShowable xs = true) :
    Markup.allShowable (itemLiterals xs) = true := by
  match xs with
  | [] => rfl
  | x :: xs =>
    obtain ⟨hx, hxs⟩ := (Bool.and_eq_true _ _).mp h
    rw [itemLiterals, Markup.allShowable, isShowable_asLiteral hx, allShowable_itemLiterals hxs]
    rfl

private theorem Value.entriesShowable_entryLiterals {es : Entries Value}
    (h : entriesShowable es = true) : Markup.entriesShowable (entryLiterals es) = true := by
  match es with
  | [] => rfl
  | (k, v) :: es =>
    simp only [entriesShowable, Bool.and_eq_true] at h
    rw [entryLiterals]
    split
    · exact entriesShowable_entryLiterals h.2
    · rw [Markup.entriesShowable, isShowable_asLiteral h.1.2, entriesShowable_entryLiterals h.2]
      rfl

end

/-- A value that can be shown has markup that can. -/
private def ShownBy (v : Value) (m : Option Markup) : Prop :=
  v.isShowable = true → ∀ x ∈ m, x.isShowable = true

private theorem isShowable_group {ms : List Markup} (h : ∀ m ∈ ms, m.isShowable = true) :
    ∀ x ∈ Markup.group ms, x.isShowable = true := by
  match ms with
  | [] => nofun
  | [m] =>
    rintro _ ⟨⟩
    exact h m (List.mem_singleton_self m)
  | m :: n :: ms =>
    rintro _ ⟨⟩
    exact Markup.allShowable_iff.mpr h

private theorem isShowable_of_forall₂ {vs : List Value} {ms : List (Option Markup)}
    (h : List.Forall₂ ShownBy vs ms) (hshow : ∀ v ∈ vs, v.isShowable = true) :
    ∀ m ∈ ms.filterMap id, m.isShowable = true := by
  induction h with
  | nil => exact List.forall_mem_nil _
  | cons hm _ ih =>
    rw [List.forall_mem_cons] at hshow
    intro x hx
    rcases List.mem_filterMap.mp hx with ⟨y, hy, rfl⟩
    rcases List.mem_cons.mp hy with rfl | hy
    · exact hm hshow.1 x rfl
    · exact ih hshow.2 x (List.mem_filterMap.mpr ⟨_, hy, rfl⟩)

private theorem isShowable_slotMarkup {v : Value} {m : Option Markup}
    (h : SlotMarkup (fun _ => ShownBy) v m) : ShownBy v m := by
  cases h with
  | empty => nofun
  | nodes hitems hnodes =>
    exact fun hshow => isShowable_group
      (isShowable_of_forall₂ hnodes (Value.handedDown_isShowable.items? hshow hitems))

theorem describes_isShowable : Describes (fun _ => ShownBy) (fun _ => ShownBy)
    (fun _ vs ms => Value.allShowable vs = true → Markup.allShowable ms = true)
    (fun _ es os => Value.entriesShowable es = true → Markup.entriesShowable os = true) where
  markup _ m hshow := by
    rintro _ ⟨⟩
    exact hshow
  null _ _ := nofun
  slot _ _ h := isShowable_slotMarkup h
  literal _ _ _ hshow := by
    rintro _ ⟨⟩
    exact Value.isShowable_asLiteral hshow
  array {_ _ v _ _} _ _ hitems h hshow := by
    rintro _ ⟨⟩
    exact h (Value.allShowable_iff.mpr (Value.handedDown_isShowable.items? hshow hitems))
  object _ _ h hshow := by
    rintro _ ⟨⟩
    exact h hshow
  nil _ _ := rfl
  consNode {_ _ _ m _} _ hnode h hshow := by
    obtain ⟨hv, hvs⟩ := (Bool.and_eq_true _ _).mp hshow
    cases m with
    | none => exact h hvs
    | some m => exact (Bool.and_eq_true _ _).mpr ⟨hnode hv m rfl, h hvs⟩
  consMap _ hentries h hshow := by
    obtain ⟨hv, hvs⟩ := (Bool.and_eq_true _ _).mp hshow
    exact (Bool.and_eq_true _ _).mpr ⟨hentries hv, h hvs⟩
  consOther _ h hshow := by
    obtain ⟨hv, hvs⟩ := (Bool.and_eq_true _ _).mp hshow
    exact (Bool.and_eq_true _ _).mpr ⟨Value.isShowable_asLiteral hv, h hvs⟩
  entriesNil _ _ := rfl
  entriesCons {_ _ _ _ m _} hvalue h hshow := by
    simp only [Value.entriesShowable, Bool.and_eq_true] at hshow
    cases m with
    | none => exact h hshow.2
    | some m => exact (Bool.and_eq_true _ _).mpr ⟨hvalue hshow.1.2 m rfl, h hshow.2⟩

/-! ### Nodes -/

section

variable {table : ComponentTable} {settings : Settings} {c : Component}

private theorem isShowable_entryMarkup {e : Value × Sourced} {part : Value × List Markup}
    (h : EntryMarkup (fun _ => ShownBy) c e part)
    (hshow : e.1.isShowable = true ∧ e.2.value.isShowable = true) :
    part.1.isShowable = true ∧ ∀ m ∈ part.2, m.isShowable = true := by
  cases h with
  | text hname =>
    refine ⟨hshow.1, ?_⟩
    split
    · exact List.forall_mem_nil _
    · exact List.forall_mem_singleton.mpr rfl
  | value h => exact ⟨hshow.1, fun m hm => h hshow.2 m (Option.mem_toList.mp hm)⟩

private theorem isShowable_parts {written : Entries Sourced} {parts : Entries (List Markup)}
    (h : List.Forall₂ (EntryMarkup (fun _ => ShownBy) c) written parts)
    (hshow : ∀ e ∈ written, e.1.isShowable = true ∧ e.2.value.isShowable = true) :
    ∀ p ∈ parts, p.1.isShowable = true ∧ ∀ m ∈ p.2, m.isShowable = true := by
  induction h with
  | nil => exact List.forall_mem_nil _
  | cons he _ ih =>
    rw [List.forall_mem_cons] at hshow
    exact List.forall_mem_cons.mpr ⟨isShowable_entryMarkup he hshow.1, ih hshow.2⟩

private theorem isShowable_find? {props : Entries Value}
    (h : ∀ e ∈ props, e.1.isShowable = true ∧ e.2.isShowable = true) (name : Value) :
    ((props.find? name).getD .null).isShowable = true := by
  cases hfind : props.find? name with
  | none => rfl
  | some v =>
    obtain ⟨e, he, rfl⟩ := Option.map_eq_some_iff.mp hfind
    exact (h e (List.mem_of_find?_eq_some he)).2

private theorem isShowable_key {id : Value} (h : id.isShowable = true) {key : Markup}
    (hkey : keyLiteral id = .ok key) : key.isShowable = true := by
  unfold keyLiteral at hkey
  split at hkey
  · exact Except.ok.inj hkey ▸ rfl
  · exact Except.ok.inj hkey ▸ h
  · obtain ⟨s, -, hs⟩ := bind_eq_ok_iff.mp hkey
    exact Except.ok.inj hs ▸ rfl

private theorem isShowable_elementOf (hc : c.IsStatic) {type v : Value} (htype : type.isStr = true)
    {listItem : Bool} {m : Markup}
    (h : ElementOf settings (fun _ => ShownBy) (fun _ => ShownBy) c type listItem v m)
    (hshow : v.isShowable = true) : m.isShowable = true := by
  obtain ⟨hprops, hstripped, hnames, hslots, hmapped, hparts, hattributes⟩ := h
  have hown := (Value.handedDown_isShowable.ownProps hshow hprops).2
  cases hmapped with
  | hooked hhook => exact absurd (hc.hook.symm.trans hhook) (by simp)
  | unhooked =>
    have hwritten := isShowable_parts hparts fun e he => by
      obtain ⟨p, hp, ⟨s, hs, rfl⟩ | ⟨-, -, rfl⟩⟩ := mem_unhookedProps he
      · refine ⟨(hown p hp).1, ?_⟩
        have hslot := isShowable_slotMarkup (hslots s hs) (isShowable_find? hown s.1)
        cases hm : s.2 with
        | none => rfl
        | some m => exact hslot m hm
      · exact hown p hp
    have hnamed : Markup.attributesShowable (attributesOf _) = true :=
      Markup.attributesShowable_iff.mpr fun a ha => by
        obtain ⟨p, hp, -, hname, hm⟩ := exists_of_mem_attributesOf ha
        exact ⟨hname ▸ (hwritten p hp).1, (hwritten p hp).2 _ hm⟩
    have hcontent : Markup.allShowable (contentOf _) = true := Markup.allShowable_iff.mpr <| by
      rcases contentOf_eq_nil_or _ with hnil | ⟨p, hp, heq⟩
      · exact hnil ▸ List.forall_mem_nil _
      · exact heq ▸ (hwritten p hp).2
    obtain ⟨s, hs⟩ := Value.isStr_iff.mp (hc.isStr_tag htype)
    rw [Markup.isShowable, hs, hcontent]
    rcases itemAttributes_eq_ok hattributes with rfl | ⟨key, hkey, -, rfl⟩
    · rw [hnamed]
      rfl
    · rw [Markup.attributesShowable, hnamed, isShowable_key (isShowable_find? hown idName) hkey]
      rfl

private theorem shownBy_of_nodeOf (htable : table.IsStatic) {listItem : Bool} {v : Value}
    {m : Option Markup}
    (h : NodeOf table settings (fun _ => ShownBy) (fun _ => ShownBy) listItem v m) :
    ShownBy v m := by
  cases h with
  | skipped => nofun
  | element hc _ helement =>
    obtain ⟨htype, hstatic⟩ := htable.nodeComponent hc
    intro hshow x hx
    cases hx
    exact isShowable_elementOf hstatic htype helement hshow

/-- The markup of the top-level nodes can be shown if these can. -/
theorem isShowable_renderRoot (htable : table.IsStatic) {nodes : List Value}
    (hshow : ∀ v ∈ nodes, v.isShowable = true) :
    (renderRoot table settings nodes).Leaves fun root => root.isShowable = true := by
  have hnode : ∀ (_ : Nat) listItem v m,
      NodeOf table settings (fun _ => ShownBy) (fun _ => ShownBy) listItem v m → ShownBy v m :=
    fun _ _ _ _ h => shownBy_of_nodeOf htable h
  have hroot := Describes.leaves_renderRoot (fun _ => describes_isShowable) hnode nodes
  refine hroot.mono ?_
  rintro _ ⟨ms, rfl, hms⟩
  have hgroup := isShowable_group (isShowable_of_forall₂ hms hshow)
  cases hone : Markup.group (ms.filterMap id) with
  | none => rfl
  | some m => exact hgroup m hone

end

end PageMarkup
