import PageMarkup.Proofs.Render.Description
import PageMarkup.Proofs.Render.Properties

/-!
# The objects that a hook is given

What a hook gives back is an object under a name. The name that the object was given under is found
by what tells objects apart. Where no object is given under two names, it is found: also if the
object comes back under the name of another one, and if it comes back under its own. Nothing is
never looked for, and a slot without markup is nothing.

What a node without a hook writes is just what its hook is given, but for the slots that the node
does not have, and these have no markup.

## Main definitions

* `HookInput.Distinct` : no object is given under two names.
* `ownEntries` : the plain properties and the slots of a node, each under its own name.

## Main results

* `HookInput.namesOf_of_mem` : an object is found under its name alone.
* `HookInput.exists_sourceOf` : an object is read by the field of its name.
* `exists_unhookedProps_perm` : what is written without a hook, and what a hook is given.
-/

namespace PageMarkup

open Render (Leaves)

/-- All that a hook is given, in order. -/
def HookInput.entries (given : HookInput) : Entries Object :=
  given.props ++ given.slots

/-- No object is given under two names, unless it is nothing. -/
def HookInput.Distinct (given : HookInput) : Prop :=
  given.entries.Pairwise fun a b =>
    a.2.id = b.2.id → a.2.value.isNull = true ∧ b.2.value.isNull = true

/-! ### The names of objects -/

theorem HookInput.Distinct.of_nodup_ids {given : HookInput}
    (h : (given.entries.map fun e => e.2.id).Nodup) : given.Distinct :=
  (List.pairwise_map.mp h).imp fun hne heq => absurd heq hne

/-- Where no object is given under two names, each is found under its own name alone. -/
theorem HookInput.namesOf_of_mem {given : HookInput} (hdistinct : given.Distinct)
    {e : Value × Object} (he : e ∈ given.entries) (hvalue : e.2.value.isNull = false) :
    given.namesOf e.2.id = [e.1] := by
  have hmem : e ∈ given.entries.filter fun a => a.2.id = e.2.id :=
    List.mem_filter.mpr ⟨he, by simp⟩
  have hid : ∀ a ∈ given.entries.filter fun a => a.2.id = e.2.id, a.2.id = e.2.id :=
    fun a ha => by simpa using (List.mem_filter.mp ha).2
  have hsub : (given.entries.filter fun a => a.2.id = e.2.id).Sublist given.entries :=
    List.filter_sublist
  have hnull := hdistinct.sublist hsub
  change Entries.keys (given.entries.filter fun a => a.2.id = e.2.id) = [e.1]
  generalize given.entries.filter (fun a => a.2.id = e.2.id) = found at hmem hid hnull
  -- of two objects that are found, the one looked for would be nothing
  match found with
  | [a] =>
    obtain rfl := List.mem_singleton.mp hmem
    rfl
  | a :: b :: rest =>
    obtain ⟨hfirst, hrest⟩ := List.pairwise_cons.mp hnull
    have hnothing : ∀ x ∈ a :: b :: rest, x.2.value.isNull = true := by
      refine List.forall_mem_cons.mpr ⟨?_, fun x hx => ?_⟩
      · have hb := List.mem_cons_self (a := b) (l := rest)
        exact (hfirst b hb ((hid a (by simp)).trans (hid b (by simp)).symm)).1
      · exact (hfirst x hx ((hid a (by simp)).trans (hid x (by simp [hx])).symm)).2
    cases hvalue.symm.trans (hnothing e hmem)

theorem Entries.HasTextKeys.find?_of_same {α : Type} {es : Entries α} (h : es.HasTextKeys)
    {k name : Value} (hsame : k.same name = true) : es.find? name = es.find? k := by
  have hnone : ∀ key : Value, key.isStr = false → es.find? key = none := by
    intro key hkey
    simp only [Entries.find?, Option.map_eq_none_iff, List.find?_eq_none]
    intro e he hequal
    obtain ⟨s, hs⟩ := Value.isStr_iff.mp (h e he)
    rw [hs, Value.str_same_iff] at hequal
    rw [hequal] at hkey
    cases hkey
  cases hk : k.isStr with
  | true =>
    obtain ⟨s, rfl⟩ := Value.isStr_iff.mp hk
    rw [Value.str_same_iff.mp hsame]
  | false =>
    cases hname : name.isStr with
    | true =>
      obtain ⟨s, rfl⟩ := Value.isStr_iff.mp hname
      rw [Value.same_str_iff.mp hsame]
    | false => rw [hnone k hk, hnone name hname]

/-- Whatever name an object comes back under, it is read by the field of the name that it was given
under. -/
theorem HookInput.exists_sourceOf {c : Component} (hfields : c.fields.HasTextKeys)
    {given : HookInput} (hdistinct : given.Distinct) {e : Value × Object} (he : e ∈ given.entries)
    (hvalue : e.2.value.isNull = false) (name : Value) :
    ∃ source, given.sourceOf name e.2 = some source ∧ c.field? source = c.field? e.1 := by
  rw [sourceOf, hvalue, if_neg Bool.false_ne_true]
  dsimp only
  rw [namesOf_of_mem hdistinct he hvalue]
  split
  · rename_i hname
    have hsame : e.1.same name = true := by simpa [nameIn] using hname
    exact ⟨name, rfl, hfields.find?_of_same hsame⟩
  · exact ⟨e.1, rfl, rfl⟩

/-! ### What a hook is given -/

/-- The markup of a slot as an entry of its own name; a slot that is not there has none. -/
private def slotEntry (slots : Entries (Option Markup)) (name : Value) : Value × Sourced :=
  (name, ⟨slotValue ((slots.find? name).getD none), some name⟩)

/-- The plain properties and the slots of a node, each under its own name. -/
def ownEntries (plain : Entries Value) (slots : Entries (Option Markup)) : Entries Sourced :=
  ownSourced plain ++ slots.map fun e => (e.1, ⟨slotValue e.2, some e.1⟩)

/-- An object that a hook is given, as an entry under its own name. -/
def ownEntry (e : Value × Object) : Value × Sourced :=
  (e.1, ⟨e.2.value, some e.1⟩)

theorem map_ownEntry_given (hook : Hook) (plain : Entries Value)
    (slots : Entries (Option Markup)) :
    (hook.given plain slots).entries.map ownEntry = ownEntries plain slots := by
  rw [HookInput.entries, Hook.given, List.map_append, List.map_map, List.map_map]
  rfl

variable {c : Component} {stripped : List Value} {props : Entries Value}
  {slots : Entries (Option Markup)}

theorem Component.nodup_slotNames (hfields : c.fields.HasTextKeys) (hnodup : c.fields.keys.Nodup) :
    (∀ name ∈ c.slotNames, name.isStr = true) ∧ c.slotNames.Nodup :=
  ⟨Component.isStr_slotNames hfields, hnodup.sublist (List.filter_sublist.map _)⟩

private theorem map_slotEntry (htext : ∀ name ∈ c.slotNames, name.isStr = true)
    (hnodup : c.slotNames.Nodup) (hkeys : slots.keys = c.slotNames) :
    slots.map (fun e => (e.1, Sourced.mk (slotValue e.2) (some e.1))) =
      c.slotNames.map (slotEntry slots) := by
  rw [← hkeys, Entries.keys, List.map_map]
  refine List.map_congr_left fun e he => ?_
  have hmem : e.1 ∈ c.slotNames := hkeys ▸ Entries.mem_keys_of_mem he
  obtain ⟨s, hs⟩ := Value.isStr_iff.mp (htext e.1 hmem)
  have hfind : slots.find? (.str s) = some e.2 :=
    (Entries.find?_eq_some_iff (hkeys ▸ hnodup)).mpr (hs ▸ he)
  rw [Function.comp_apply, slotEntry, hs, hfind, Option.getD_some]

private theorem filterMap_plain (hkeys : slots.keys = c.slotNames) :
    unhookedProps stripped (props.filter fun e => !nameIn e.1 c.slotNames) slots =
      ownSourced (plainProps c stripped props) := by
  unfold plainProps
  induction props with
  | nil => rfl
  | cons e props ih =>
    have hfound := Entries.isSome_find?_eq_nameIn slots e.1
    rw [hkeys] at hfound
    cases hslot : nameIn e.1 c.slotNames with
    | true => simpa [hslot] using ih
    | false =>
      rw [hslot, Option.isSome_eq_false_iff, Option.isNone_iff_eq_none] at hfound
      cases hstripped : nameIn e.1 stripped <;>
        simpa [hslot, hstripped, unhookedProps_cons, hfound, ownSourced] using ih

private theorem filterMap_slots (hkeys : slots.keys = c.slotNames) :
    unhookedProps stripped (props.filter fun e => nameIn e.1 c.slotNames) slots =
      (Entries.keys (props.filter fun e => nameIn e.1 c.slotNames)).map (slotEntry slots) := by
  induction props with
  | nil => rfl
  | cons e props ih =>
    have hfound := Entries.isSome_find?_eq_nameIn slots e.1
    rw [hkeys] at hfound
    cases hslot : nameIn e.1 c.slotNames with
    | false => simpa [hslot] using ih
    | true =>
      rw [hslot] at hfound
      obtain ⟨m, hm⟩ := Option.isSome_iff_exists.mp hfound
      simpa [hslot, unhookedProps_cons, hm, slotEntry, Entries.keys] using ih

/-- The properties that are slots, and the slots that are properties, have the same names. -/
private theorem perm_slotNames (htext : ∀ name ∈ c.slotNames, name.isStr = true)
    (hnodup : c.slotNames.Nodup) (hdistinct : props.DistinctTexts) :
    (Entries.keys (props.filter fun e => nameIn e.1 c.slotNames)).Perm
      (c.slotNames.filter fun name => (props.find? name).isSome) := by
  have hsome : ∀ name ∈ c.slotNames, (props.find? name).isSome = true ↔ name ∈ props.keys := by
    intro name hname
    obtain ⟨s, rfl⟩ := Value.isStr_iff.mp (htext name hname)
    rw [Option.isSome_iff_ne_none, ne_eq, Entries.find?_eq_none_iff, not_not]
  have hkeys : (Entries.keys (props.filter fun e => nameIn e.1 c.slotNames)).Nodup := by
    refine List.pairwise_map.mpr ((hdistinct.sublist List.filter_sublist).imp_of_mem ?_)
    intro a b ha _ hne
    exact hne (htext a.1 ((nameIn_iff htext).mp (List.mem_filter.mp ha).2))
  refine (List.perm_ext_iff_of_nodup hkeys (hnodup.sublist List.filter_sublist)).mpr fun name => ?_
  simp only [Entries.keys, List.mem_map, List.mem_filter, nameIn_iff htext]
  constructor
  · rintro ⟨e, ⟨he, hslot⟩, rfl⟩
    exact ⟨hslot, (hsome e.1 hslot).mpr (Entries.mem_keys_of_mem he)⟩
  · rintro ⟨hslot, hfound⟩
    obtain ⟨e, he, rfl⟩ := List.mem_map.mp ((hsome name hslot).mp hfound)
    exact ⟨e, ⟨he, hslot⟩, rfl⟩

/-- What is written without a hook is what a hook is given, but for slots that the node does not
have. These hold nothing. -/
theorem exists_unhookedProps_perm (hfields : c.fields.HasTextKeys) (hnodup : c.fields.keys.Nodup)
    (stripped : List Value) (hdistinct : props.DistinctTexts) (hkeys : slots.keys = c.slotNames)
    (habsent : ∀ e ∈ slots, props.find? e.1 = none → e.2 = none) :
    ∃ absent : Entries Sourced, (∀ e ∈ absent, e.2.value = .null) ∧
      (unhookedProps stripped props slots ++ absent).Perm
        (ownEntries (plainProps c stripped props) slots) := by
  obtain ⟨htext, hnames⟩ := Component.nodup_slotNames hfields hnodup
  let present : Value → Bool := fun name => (props.find? name).isSome
  refine ⟨(c.slotNames.filter fun name => !present name).map (slotEntry slots),
    List.forall_mem_map.mpr fun name hname => ?_, ?_⟩
  · obtain ⟨hname, hnone⟩ := List.mem_filter.mp hname
    obtain ⟨s, rfl⟩ := Value.isStr_iff.mp (htext name hname)
    rw [slotEntry]
    cases hfind : slots.find? (.str s) with
    | none => rfl
    | some m =>
      have hmissing : props.find? (.str s) = none := by simpa [present] using hnone
      obtain rfl : m = none := habsent _ (Entries.mem_of_find?_eq_some hfind) hmissing
      rfl
  · have hsplit : (unhookedProps stripped props slots).Perm
        ((c.slotNames.filter present).map (slotEntry slots) ++
          ownSourced (plainProps c stripped props)) := by
      have hparts := (List.filter_append_perm (fun e => nameIn e.1 c.slotNames) props).symm
      refine (hparts.filterMap _).trans ?_
      rw [List.filterMap_append]
      refine .append ?_ (.of_eq (filterMap_plain hkeys))
      refine (List.Perm.of_eq (filterMap_slots hkeys)).trans ?_
      exact (perm_slotNames htext hnames hdistinct).map _
    have hslots : ((c.slotNames.filter present).map (slotEntry slots) ++
        (c.slotNames.filter fun name => !present name).map (slotEntry slots)).Perm
          (c.slotNames.map (slotEntry slots)) := by
      rw [← List.map_append]
      exact (List.filter_append_perm present c.slotNames).map _
    rw [ownEntries, map_slotEntry htext hnames hkeys]
    refine (hsplit.append_right _).trans ?_
    rw [List.append_assoc]
    refine (List.perm_append_comm_assoc _ _ _).trans (hslots.append_left _)

theorem distinctTexts_ownEntries (htext : ∀ name ∈ c.slotNames, name.isStr = true)
    (hnodup : c.slotNames.Nodup) (stripped : List Value) (hdistinct : props.DistinctTexts)
    (hkeys : slots.keys = c.slotNames) :
    (ownEntries (plainProps c stripped props) slots).DistinctTexts := by
  refine List.pairwise_append.mpr ⟨?_, ?_, fun a ha b hb _ heq => ?_⟩
  · exact List.pairwise_map.mpr (hdistinct.sublist List.filter_sublist)
  · rw [← hkeys] at hnodup
    refine List.pairwise_map.mpr ((List.pairwise_map.mp hnodup).imp ?_)
    exact fun hne _ => hne
  · obtain ⟨p, hp, rfl⟩ := List.mem_map.mp ha
    obtain ⟨e, he, rfl⟩ := List.mem_map.mp hb
    have hplain := (List.mem_filter.mp hp).2
    have hslot : nameIn p.1 c.slotNames = true :=
      (nameIn_iff htext).mpr (heq ▸ hkeys ▸ Entries.mem_keys_of_mem he)
    simp [hslot] at hplain

/-- Each slot of a component is given to a hook, and has no markup if the node does not have it. -/
theorem leaves_renderSlots_keys (render : NodeRenderer) (depth : Int) (counted : Bool)
    (c : Component) (props : Entries Value) :
    (renderSlots render depth counted c props).Leaves fun slots =>
      slots.keys = c.slotNames ∧ ∀ e ∈ slots, props.find? e.1 = none → e.2 = none := by
  -- whatever is written for the nodes, a slot without a sequence has no markup
  let anything : Bool → Value → Option Markup → Prop := fun _ _ _ => True
  have hnode : ∀ v place, (render (depth + 1) v place).Leaves (anything place.listItem v) :=
    fun v place => Leaves.trivial _
  refine (leaves_renderSlots_described hnode counted c props).mono fun slots hslots =>
    ⟨hslots.1, fun e he habsent => ?_⟩
  have hslot := hslots.2 e he
  obtain ⟨name, m⟩ := e
  rw [habsent] at hslot
  cases hslot with
  | nodes hitems => cases hitems
  | empty => rfl

end PageMarkup
