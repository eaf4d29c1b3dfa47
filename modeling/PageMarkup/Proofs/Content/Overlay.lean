import PageMarkup.Proofs.Content.PlainData

/-!
# Maps put over maps

Entries may be put into a map one by one, or be made a map of their own first that is then put over
the other one. A text that is put twice keeps its first place and takes its last value both ways. A
key that is no text is told from the others by an equality of which little is known, so such a key
is only put where no key equals it.

## Main definitions

* `Entries.OnlyTextsRepeat` : a key that equals an earlier one is a text.

## Main results

* `Entries.find?_putAll` : the look-up of a text in a map put over another.
* `Entries.putAll_putAll`, `Entries.putAll_putAll_nil` : entries made a map first.
-/

namespace PageMarkup.Entries

variable {α : Type} {es fs more : Entries α} {s : String}

theorem putAll_cons (es : Entries α) (e : Value × α) (more : List (Value × α)) :
    es.putAll (e :: more) = (es.put e.1 e.2).putAll more :=
  rfl

theorem putAll_append (es : Entries α) (more more' : List (Value × α)) :
    es.putAll (more ++ more') = (es.putAll more).putAll more' :=
  List.foldl_append

theorem HasTextKeys.putAll (h : es.HasTextKeys) (hdistinct : es.keys.Nodup)
    (hmore : more.HasTextKeys) : (es.putAll more).HasTextKeys ∧ (es.putAll more).keys.Nodup := by
  induction more generalizing es with
  | nil => exact ⟨h, hdistinct⟩
  | cons e more ih =>
    obtain ⟨k, v⟩ := e
    obtain ⟨hk, hks⟩ := List.forall_mem_cons.mp hmore
    obtain ⟨s, rfl⟩ : ∃ s, k = .str s := Value.isStr_iff.mp hk
    exact ih (h.put s v) (nodup_keys_put hdistinct s v) hks

/-! ### Look-ups -/

/-- A text finds what has been put over a map under it, or else what has been there before. -/
theorem find?_putAll (es : Entries α) (h : more.DistinctTexts) (s : String) :
    (es.putAll more).find? (.str s) = (more.find? (.str s)).or (es.find? (.str s)) := by
  induction more generalizing es with
  | nil => rfl
  | cons e more ih =>
    obtain ⟨hfirst, hrest⟩ := List.pairwise_cons.mp h
    rw [putAll_cons, ih _ hrest, find?_put, find?_cons]
    by_cases hkey : e.1.same (.str s) = true
    · have hnone : find? more (.str s) = none := by
        refine find?_eq_none_iff.mpr fun hmem => ?_
        obtain ⟨f, hf, hfs⟩ := List.mem_map.mp hmem
        have hes : e.1 = .str s := Value.same_str_iff.mp hkey
        exact hfirst f hf (by rw [hes]; rfl) (hes.trans hfs.symm)
      rw [if_pos hkey, if_pos hkey, hnone]
      rfl
    · rw [if_neg hkey, if_neg hkey]

theorem str_mem_keys_put_iff {key : Value} {v : α} :
    .str s ∈ (es.put key v).keys ↔ .str s ∈ es.keys ∨ key = .str s := by
  rw [← not_iff_not, not_or, ← find?_eq_none_iff, ← find?_eq_none_iff, find?_put]
  by_cases hkey : key.same (.str s) = true
  · simp [Value.same_str_iff.mp hkey]
  · simp [hkey, mt Value.same_str_iff.mpr hkey]

theorem str_mem_keys_putAll_iff :
    .str s ∈ (es.putAll more).keys ↔ .str s ∈ es.keys ∨ .str s ∈ more.keys := by
  induction more generalizing es with
  | nil => simp [putAll, keys]
  | cons e more ih =>
    have hcons : .str s ∈ keys (e :: more) ↔ e.1 = .str s ∨ .str s ∈ keys more :=
      List.mem_cons.trans (or_congr_left eq_comm)
    rw [putAll_cons, ih, str_mem_keys_put_iff, or_assoc, hcons]

/-! ### Puts in another order -/

/-- A put under another key and a put under a text that is there already may change places. -/
theorem put_put_comm (h : .str s ∈ es.keys) {key : Value} (hne : key ≠ .str s) (u v : α) :
    (es.put key u).put (.str s) v = (es.put (.str s) v).put key u := by
  induction es with
  | nil => cases h
  | cons e es ih =>
    by_cases htext : e.1 = .str s
    · have hkey : ¬ e.1.same key = true := fun hs => hne (Value.str_same_iff.mp (htext ▸ hs))
      have hsame : e.1.same (.str s) = true := Value.same_str_iff.mpr htext
      rw [put_cons_of_not_same hkey, put_cons_of_same hsame, put_cons_of_same hsame,
        put_cons_of_not_same hkey]
    · have hsame : ¬ e.1.same (.str s) = true := fun hs => htext (Value.same_str_iff.mp hs)
      have hmem : .str s ∈ keys es := (List.mem_cons.mp h).resolve_left fun heq => htext heq.symm
      by_cases hkey : e.1.same key = true
      · rw [put_cons_of_same hkey, put_cons_of_not_same hsame, put_cons_of_not_same hsame,
          put_cons_of_same hkey]
      · rw [put_cons_of_not_same hkey, put_cons_of_not_same hsame, ih hmem,
          put_cons_of_not_same hsame, put_cons_of_not_same hkey]

theorem putAll_put_comm (h : .str s ∈ es.keys) (hnew : .str s ∉ more.keys) (v : α) :
    (es.putAll more).put (.str s) v = (es.put (.str s) v).putAll more := by
  induction more generalizing es with
  | nil => rfl
  | cons e more ih =>
    obtain ⟨hne, hrest⟩ := not_or.mp (mt List.mem_cons.mpr hnew)
    have hmem : .str s ∈ keys (es.put e.1 e.2) := str_mem_keys_put_iff.mpr (.inl h)
    rw [putAll_cons, ih hmem hrest, put_put_comm h fun heq => hne heq.symm, putAll_cons]

theorem putAll_put (es : Entries α) (h : more.DistinctTexts) (s : String) (v : α) :
    es.putAll (more.put (.str s) v) = (es.putAll more).put (.str s) v := by
  induction more generalizing es with
  | nil => rfl
  | cons e more ih =>
    obtain ⟨hfirst, hrest⟩ := List.pairwise_cons.mp h
    by_cases hkey : e.1.same (.str s) = true
    · obtain ⟨k, u⟩ := e
      obtain rfl : k = .str s := Value.same_str_iff.mp hkey
      have hnew : .str s ∉ keys more := fun hmem => by
        obtain ⟨f, hf, hfs⟩ := List.mem_map.mp hmem
        exact hfirst f hf rfl hfs.symm
      have hmem : .str s ∈ (es.put (.str s) u).keys := mem_keys_put_iff.mpr (.inl rfl)
      rw [put_cons_of_same hkey, putAll_cons, putAll_cons, putAll_put_comm hmem hnew, put_put]
    · rw [put_cons_of_not_same hkey, putAll_cons, putAll_cons, ih _ hrest]

theorem put_of_new {key : Value} (h : ∀ e ∈ es, e.1.same key = false) (v : α) :
    es.put key v = es ++ [(key, v)] := by
  induction es with
  | nil => rfl
  | cons e es ih =>
    obtain ⟨hfirst, hrest⟩ := List.forall_mem_cons.mp h
    rw [put_cons_of_not_same (Bool.not_eq_true _ ▸ hfirst), ih hrest, List.cons_append]

/-! ### Maps over maps -/

/-- A key that equals an earlier one is a text. -/
def OnlyTextsRepeat (es : Entries α) : Prop :=
  es.Pairwise fun a b => b.1.isStr = true ∨ a.1.same b.1 = false

theorem HasTextKeys.onlyTextsRepeat (h : es.HasTextKeys) : es.OnlyTextsRepeat :=
  List.pairwise_of_forall_mem_list fun _ _ b hb => .inl (h b hb)

theorem Distinct.onlyTextsRepeat (h : es.Distinct) : es.OnlyTextsRepeat :=
  h.imp .inr

/-- Entries put into a map that is put over another one. -/
theorem putAll_putAll (es : Entries α) (h : fs.Distinct)
    (hrepeat : OnlyTextsRepeat (fs ++ more)) :
    es.putAll (fs.putAll more) = (es.putAll fs).putAll more := by
  induction more generalizing fs with
  | nil => rfl
  | cons e more ih =>
    obtain ⟨hfs, hmore, hacross⟩ := List.pairwise_append.mp hrepeat
    obtain ⟨hfirst, hrest⟩ := List.pairwise_cons.mp hmore
    have hput : es.putAll (fs.put e.1 e.2) = (es.putAll fs).put e.1 e.2 := by
      by_cases htext : e.1.isStr = true
      · obtain ⟨s, hs⟩ := Value.isStr_iff.mp htext
        rw [hs, putAll_put es h.distinctTexts]
      · have hnew : ∀ f ∈ fs, f.1.same e.1 = false := fun f hf =>
          (hacross f hf e List.mem_cons_self).resolve_left htext
        rw [put_of_new hnew, putAll_append]
        rfl
    have hnext : OnlyTextsRepeat (fs.put e.1 e.2 ++ more) := by
      refine List.pairwise_append.mpr ⟨(h.put e.1 e.2).onlyTextsRepeat, hrest, ?_⟩
      intro f hf g hg
      rcases (mem_put hf).1 with hkey | hkey
      · obtain ⟨f', hf', heq⟩ := List.mem_map.mp hkey
        exact heq ▸ hacross f' hf' g (List.mem_cons_of_mem e hg)
      · exact hkey ▸ hfirst g hg
    rw [putAll_cons, ih (h.put e.1 e.2) hnext, hput, putAll_cons]

/-- Entries may be made a map before they are put over another one. -/
theorem putAll_putAll_nil (es : Entries α) (h : more.OnlyTextsRepeat) :
    es.putAll (putAll [] more) = es.putAll more :=
  putAll_putAll es List.Pairwise.nil h

end PageMarkup.Entries
