import Mathlib.Data.List.Pairwise
import PageMarkup.Proofs.Content.Outcomes
import PageMarkup.Proofs.Content.TextKeys
import PageMarkup.Render.Node

/-!
# Plain data

A document holds plain data: no finished markup anywhere in it, and no text under which a map has
two entries. What a node of such a document holds as properties is plain data again, whether the
properties are given as a map or as pairs.

## Main definitions

* `Entries.Distinct`, `Entries.DistinctTexts` : no two entries of a map stand under equal keys, or
  under the same text.
* `Value.HandedDown` : a property of values that their parts have, too.
* `Value.IsData` : plain data.

## Main results

* `Entries.DistinctTexts.find?_eq`, `Entries.DistinctTexts.find?_perm` : the look-up of a text.
* `Value.HandedDown.readEntries`, `Value.HandedDown.ownProps` : what is read out of a value has the
  properties that are handed down to it.
* `Value.IsData.ownProps` : the properties of a node of plain data.
-/

namespace PageMarkup

/-! ### Distinct texts -/

namespace Entries

variable {α : Type} {es : Entries α}

/-- No two entries of a map stand under the same text. -/
def DistinctTexts (es : Entries α) : Prop :=
  es.Pairwise fun a b => a.1.isStr = true → a.1 ≠ b.1

/-- No two entries of a map stand under equal keys. -/
def Distinct (es : Entries α) : Prop :=
  es.Pairwise fun a b => a.1.same b.1 = false

theorem Distinct.distinctTexts (h : es.Distinct) : es.DistinctTexts := by
  refine h.imp fun {a b} hne hstr heq => ?_
  obtain ⟨s, hs⟩ := Value.isStr_iff.mp hstr
  rw [← heq, hs, Value.str_same_iff.mpr rfl] at hne
  cases hne

/-- A relation between keys holds of entries whose keys are among those of others, in order. -/
private theorem pairwise_of_keys {β : Type} (R : Value → Value → Prop) {fs : Entries β}
    (h : es.Pairwise fun a b => R a.1 b.1) (hkeys : fs.keys.Sublist es.keys) :
    fs.Pairwise fun a b => R a.1 b.1 := by
  have hpairwise : es.keys.Pairwise R := List.pairwise_map.mpr h
  exact List.pairwise_map.mp (hpairwise.sublist hkeys)

theorem Distinct.of_keys {β : Type} {fs : Entries β} (h : es.Distinct)
    (hkeys : fs.keys.Sublist es.keys) : fs.Distinct :=
  pairwise_of_keys (fun a b => a.same b = false) h hkeys

theorem DistinctTexts.of_keys {β : Type} {fs : Entries β} (h : es.DistinctTexts)
    (hkeys : fs.keys.Sublist es.keys) : fs.DistinctTexts :=
  pairwise_of_keys (fun a b => a.isStr = true → a ≠ b) h hkeys

theorem HasTextKeys.distinct (htexts : es.HasTextKeys) (hnodup : es.keys.Nodup) : es.Distinct := by
  refine (List.pairwise_map.mp hnodup).imp_of_mem fun {a b} ha _ hne => ?_
  obtain ⟨s, hs⟩ := Value.isStr_iff.mp (htexts a ha)
  rw [hs] at hne ⊢
  exact Bool.eq_false_iff.mpr fun hsame => hne (Value.str_same_iff.mp hsame).symm

/-- A text that is a key is looked up in its only entry. -/
theorem DistinctTexts.find?_eq (h : es.DistinctTexts) {s : String} {v : α}
    (hmem : (.str s, v) ∈ es) : es.find? (.str s) = some v := by
  induction es with
  | nil => cases hmem
  | cons e es ih =>
    obtain ⟨hfirst, hrest⟩ := List.pairwise_cons.mp h
    rcases List.mem_cons.mp hmem with rfl | hmem
    · simp [find?, Value.same_str_iff.mpr rfl]
    · have hne : ¬ e.1.same (.str s) = true := fun hsame => by
        have hkey := Value.same_str_iff.mp hsame
        exact hfirst _ hmem (by rw [hkey]; rfl) hkey
      have hfind := ih hrest hmem
      simpa [find?, hne] using hfind

theorem DistinctTexts.perm {fs : Entries α} (h : es.DistinctTexts) (hperm : es.Perm fs) :
    fs.DistinctTexts := by
  refine (hperm.pairwise_iff fun {a b} hne hstr heq => ?_).mp h
  exact hne (heq ▸ hstr) heq.symm

/-- A text is looked up in the same entry whatever the order of the entries. -/
theorem DistinctTexts.find?_perm {fs : Entries α} (h : es.DistinctTexts) (hperm : es.Perm fs)
    (s : String) : es.find? (.str s) = fs.find? (.str s) := by
  cases hfind : fs.find? (.str s) with
  | some v => exact h.find?_eq (hperm.mem_iff.mpr (mem_of_find?_eq_some hfind))
  | none =>
    rw [find?_eq_none_iff] at hfind ⊢
    exact fun hmem => hfind ((hperm.map Prod.fst).mem_iff.mp hmem)

theorem mem_put {key : Value} {v : α} {e : Value × α} (h : e ∈ es.put key v) :
    (e.1 ∈ es.keys ∨ e.1 = key) ∧ (e ∈ es ∨ e.2 = v) := by
  induction es with
  | nil =>
    rw [put_nil, List.mem_singleton] at h
    subst h
    exact ⟨.inr rfl, .inr rfl⟩
  | cons f es ih =>
    by_cases hsame : f.1.same key = true
    · rw [put_cons_of_same hsame] at h
      rcases List.mem_cons.mp h with rfl | h
      · exact ⟨.inl List.mem_cons_self, .inr rfl⟩
      · exact ⟨.inl (List.mem_cons_of_mem _ (mem_keys_of_mem h)), .inl (List.mem_cons_of_mem _ h)⟩
    · rw [put_cons_of_not_same hsame] at h
      rcases List.mem_cons.mp h with rfl | h
      · exact ⟨.inl List.mem_cons_self, .inl List.mem_cons_self⟩
      · obtain ⟨hkey, hentry⟩ := ih h
        exact ⟨hkey.imp_left (List.mem_cons_of_mem _), hentry.imp_left (List.mem_cons_of_mem _)⟩

theorem Distinct.put (h : es.Distinct) (key : Value) (v : α) : (es.put key v).Distinct := by
  induction es with
  | nil => exact List.pairwise_singleton _ _
  | cons e es ih =>
    obtain ⟨hfirst, hrest⟩ := List.pairwise_cons.mp h
    by_cases hsame : e.1.same key = true
    · rw [put_cons_of_same hsame]
      exact List.pairwise_cons.mpr ⟨hfirst, hrest⟩
    · rw [put_cons_of_not_same hsame]
      refine List.pairwise_cons.mpr ⟨fun f hf => ?_, ih hrest⟩
      rcases (mem_put hf).1 with hkey | hkey
      · obtain ⟨g, hg, hgf⟩ := List.mem_map.mp hkey
        exact hgf ▸ hfirst g hg
      · exact hkey ▸ Bool.eq_false_iff.mpr hsame

/-- Entries put one after the other: no two of them are under equal keys, and their keys and values
are those that were there or have been put. -/
theorem distinct_putAll (h : es.Distinct) (more : List (Value × α)) :
    (es.putAll more).Distinct ∧ ∀ e ∈ es.putAll more,
      (e.1 ∈ es.keys ∨ ∃ f ∈ more, f.1 = e.1) ∧ (e ∈ es ∨ ∃ f ∈ more, f.2 = e.2) := by
  induction more generalizing es with
  | nil => exact ⟨h, fun e he => ⟨.inl (mem_keys_of_mem he), .inl he⟩⟩
  | cons f more ih =>
    obtain ⟨hdistinct, hmem⟩ := ih (h.put f.1 f.2)
    refine ⟨hdistinct, fun e he => ?_⟩
    obtain ⟨hkey, hvalue⟩ := hmem e he
    refine ⟨?_, ?_⟩
    · rcases hkey with hkey | ⟨g, hg, hge⟩
      · obtain ⟨g, hg, hge⟩ := List.mem_map.mp hkey
        rw [← hge]
        exact (mem_put hg).1.imp_right fun heq => ⟨f, List.mem_cons_self, heq.symm⟩
      · exact .inr ⟨g, List.mem_cons_of_mem _ hg, hge⟩
    · rcases hvalue with hvalue | ⟨g, hg, hge⟩
      · exact (mem_put hvalue).2.imp_right fun heq => ⟨f, List.mem_cons_self, heq.symm⟩
      · exact .inr ⟨g, List.mem_cons_of_mem _ hg, hge⟩

theorem putAll_nil (more : List (Value × α)) :
    Distinct (putAll [] more) ∧
      ∀ e ∈ putAll [] more, (∃ f ∈ more, f.1 = e.1) ∧ ∃ f ∈ more, f.2 = e.2 := by
  have hnil : Distinct ([] : Entries α) := List.Pairwise.nil
  obtain ⟨hdistinct, hmem⟩ := distinct_putAll hnil more
  exact ⟨hdistinct, fun e he => (hmem e he).imp (·.resolve_left List.not_mem_nil)
    (·.resolve_left List.not_mem_nil)⟩

end Entries

/-! ### What is handed down to parts -/

/-- A property of values that is handed down to their parts: the items of sequences, the keys and
values of maps and the characters of texts. -/
structure Value.HandedDown (P : Value → Prop) : Prop where
  list {xs : List Value} (h : P (.list xs)) : ∀ x ∈ xs, P x
  tuple {xs : List Value} (h : P (.tuple xs)) : ∀ x ∈ xs, P x
  keys {es : Entries Value} (h : P (.map es)) : ∀ e ∈ es, P e.1
  values {es : Entries Value} (h : P (.map es)) : ∀ e ∈ es, P e.2
  character (c : Char) : P (.str (String.singleton c))

namespace Value.HandedDown

variable {P : Value → Prop} (hP : HandedDown P) {v : Value}

include hP

theorem items (h : P v) {xs : List Value} (hxs : v.items = .ok xs) : ∀ x ∈ xs, P x := by
  cases v with
  | list =>
    cases hxs
    exact hP.list h
  | tuple =>
    cases hxs
    exact hP.tuple h
  | map es =>
    cases hxs
    exact List.forall_mem_map.mpr (hP.keys h)
  | str s =>
    cases hxs
    exact List.forall_mem_map.mpr fun c _ => hP.character c
  | null | bool | int | float | foreign | markup => cases hxs

theorem items? (h : P v) {xs : List Value} (hxs : v.items? = some xs) : ∀ x ∈ xs, P x := by
  cases v with
  | list =>
    cases hxs
    exact hP.list h
  | tuple =>
    cases hxs
    exact hP.tuple h
  | null | bool | int | float | str | map | foreign | markup => cases hxs

theorem get? (h : P v) {key : String} {w : Value} (hw : v.get? key = some w) : P w := by
  cases v with
  | map es => exact hP.values h _ (Entries.mem_of_find?_eq_some hw)
  | null | bool | int | float | str | list | tuple | foreign | markup => cases hw

theorem readEntry (h : P v) {e : Value × Value} (he : v.readEntry = .ok e) : P e.1 ∧ P e.2 := by
  unfold Value.readEntry at he
  cases hxs : v.items with
  | error f =>
    rw [hxs] at he
    cases he
  | ok xs =>
    have hitems := hP.items h hxs
    rw [hxs] at he
    simp only [bind, Except.bind] at he
    split at he
    · split at he
      · cases he
        exact ⟨hitems _ (by simp), hitems _ (by simp)⟩
      · cases he
    · cases he

/-- It holds of the keys and the values of the entries that are read out of a value; no two of them
are under equal keys unless they are those of a map. -/
theorem readEntries (h : P v) {es : Entries Value} (hes : v.readEntries = .ok es) :
    (v = .map es ∨ es.Distinct) ∧ ∀ e ∈ es, P e.1 ∧ P e.2 := by
  by_cases hmap : ∃ fs, v = .map fs
  · obtain ⟨fs, rfl⟩ := hmap
    cases hes
    exact ⟨.inl rfl, fun e he => ⟨hP.keys h e he, hP.values h e he⟩⟩
  · have hread : v.readEntries =
        (do return Entries.putAll [] (← (← v.items).mapM Value.readEntry)) := by
      rw [Value.readEntries]
      exact fun fs heq => hmap ⟨fs, heq⟩
    rw [hread] at hes
    obtain ⟨xs, hxs, hes⟩ := bind_eq_ok_iff.mp hes
    obtain ⟨pairs, hpairs, hes⟩ := bind_eq_ok_iff.mp hes
    obtain rfl := Except.ok.inj hes
    obtain ⟨hdistinct, hmem⟩ := Entries.putAll_nil pairs
    have hpair : ∀ f ∈ pairs, P f.1 ∧ P f.2 := fun f hf => by
      obtain ⟨x, hx, hxf⟩ := mem_of_mapM_eq_ok hpairs f hf
      exact hP.readEntry (hP.items h hxs x hx) hxf
    refine ⟨.inr hdistinct, fun e he => ?_⟩
    obtain ⟨⟨f, hf, hfe⟩, g, hg, hge⟩ := hmem e he
    exact ⟨hfe ▸ (hpair f hf).1, hge ▸ (hpair g hg).2⟩

/-- It holds of the properties of a node; no two of them are under equal names unless they are those
of a map in the node. -/
theorem ownProps (h : P v) {props : Entries Value} (hprops : PageMarkup.ownProps v = .ok props) :
    (v.get? "props" = some (.map props) ∨ props.Distinct) ∧ ∀ e ∈ props, P e.1 ∧ P e.2 := by
  unfold PageMarkup.ownProps at hprops
  split at hprops
  · cases hprops
    exact ⟨.inr List.Pairwise.nil, List.forall_mem_nil _⟩
  · rename_i p hp
    split at hprops
    · obtain ⟨hkeys, hvalues⟩ := hP.readEntries (hP.get? h hp) hprops
      refine ⟨hkeys.imp_left fun hmap => ?_, hvalues⟩
      rw [hp, hmap]
    · cases hprops
      exact ⟨.inr List.Pairwise.nil, List.forall_mem_nil _⟩

end Value.HandedDown

/-! ### Plain data -/

/-- Plain data: values without finished markup in them, and without two entries of a map under the
same text. -/
inductive Value.IsData : Value → Prop
  | null : IsData .null
  | bool (b : Bool) : IsData (.bool b)
  | int (n : Int) : IsData (.int n)
  | float (x : Float) : IsData (.float x)
  | str (s : String) : IsData (.str s)
  | foreign (kind text : String) : IsData (.foreign kind text)
  | list {xs : List Value} (h : ∀ x ∈ xs, IsData x) : IsData (.list xs)
  | tuple {xs : List Value} (h : ∀ x ∈ xs, IsData x) : IsData (.tuple xs)
  | map {es : Entries Value} (hdistinct : es.DistinctTexts) (hkeys : ∀ e ∈ es, IsData e.1)
      (hvalues : ∀ e ∈ es, IsData e.2) : IsData (.map es)

namespace Value.IsData

variable {v : Value}

theorem ofTexts (es : List (String × Value)) (hdistinct : (es.map Prod.fst).Nodup)
    (hvalues : ∀ e ∈ es, e.2.IsData) : (Value.map (es.map fun e => (.str e.1, e.2))).IsData := by
  refine .map ?_ (List.forall_mem_map.mpr fun e _ => .str e.1) (List.forall_mem_map.mpr hvalues)
  refine List.pairwise_map.mpr ((List.pairwise_map.mp hdistinct).imp ?_)
  intro a b hne _ heq
  exact hne (Value.str.inj heq)

theorem handedDown : HandedDown IsData where
  list h := by
    cases h
    assumption
  tuple h := by
    cases h
    assumption
  keys h := by
    cases h
    assumption
  values h := by
    cases h
    assumption
  character c := .str _

/-- The properties of a node of plain data are plain data under distinct texts. -/
theorem ownProps (h : v.IsData) {props : Entries Value}
    (hprops : PageMarkup.ownProps v = .ok props) :
    props.DistinctTexts ∧ ∀ e ∈ props, e.2.IsData := by
  obtain ⟨hkeys, hvalues⟩ := handedDown.ownProps h hprops
  refine ⟨?_, fun e he => (hvalues e he).2⟩
  rcases hkeys with hmap | hdistinct
  · cases handedDown.get? h hmap
    assumption
  · exact hdistinct.distinctTexts

end Value.IsData

end PageMarkup
