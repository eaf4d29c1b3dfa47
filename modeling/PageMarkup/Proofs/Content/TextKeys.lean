import Mathlib.Data.List.Sort
import Mathlib.Data.String.Basic
import PageMarkup.Content.Ordering

/-!
# Maps with texts as keys

Equality of values is no equality of data: a truth value equals a number, and a number that is not
one does not equal itself. On texts it is, so a map whose keys are texts is a finite function. This
file gives the look-up and the update of such a map as statements about membership, and sorts it.

## Main definitions

* `Value.TextLt` : the strict order of texts among values.
* `Entries.HasTextKeys` : every key is a text.

## Main results

* `Value.same_str_iff`, `Value.str_same_iff` : a value that equals a text is this text.
* `Entries.find?_eq_some_iff` : the look-up of a text as membership.
* `Entries.mem_put_iff`, `Entries.mem_keys_put_iff` : what is in a map after a put.
* `sortByKey_of_textKeys`, `sortByKey_of_ascending` : a map with distinct text keys is sorted
  strictly, and stays as it is if it is so already.
-/

namespace PageMarkup

namespace Value

/-- A text and a value are equal only if the value is that text. -/
theorem str_same_iff {s : String} {v : Value} : (Value.str s).same v = true ↔ v = .str s := by
  cases v with
  | str t => rw [same_str, beq_iff_eq, Value.str.injEq, eq_comm]
  | _ => exact iff_of_false Bool.false_ne_true nofun

/-- A value and a text are equal only if the value is that text. -/
theorem same_str_iff {s : String} {v : Value} : v.same (.str s) = true ↔ v = .str s := by
  cases v with
  | str t => rw [same_str, beq_iff_eq, Value.str.injEq]
  | _ => exact iff_of_false Bool.false_ne_true nofun

theorem same_null_iff {v : Value} : v.same .null = true ↔ v = .null := by
  cases v with
  | null => exact iff_of_true rfl rfl
  | _ => exact iff_of_false Bool.false_ne_true nofun

theorem isStr_iff {v : Value} : v.isStr = true ↔ ∃ s, v = .str s := by
  cases v <;> simp [isStr]

/-- The strict order of texts; no other values are related. -/
def TextLt (a b : Value) : Prop :=
  ∃ s t : String, a = .str s ∧ b = .str t ∧ s < t

theorem TextLt.irrefl (a : Value) : ¬ a.TextLt a := by
  rintro ⟨s, t, rfl, hb, hlt⟩
  cases hb
  exact lt_irrefl s hlt

theorem TextLt.ne {a b : Value} (h : a.TextLt b) : a ≠ b := fun heq =>
  TextLt.irrefl b (heq ▸ h)

theorem TextLt.asymm {a b : Value} (h : a.TextLt b) : ¬ b.TextLt a := by
  obtain ⟨s, t, rfl, rfl, hlt⟩ := h
  rintro ⟨_, _, hb, ha, hgt⟩
  cases hb
  cases ha
  exact lt_asymm hlt hgt

end Value

namespace Entries

variable {α : Type}

theorem put_nil (key : Value) (v : α) : put [] key v = [(key, v)] :=
  rfl

theorem put_cons_of_same {k key : Value} (h : k.same key = true) (u v : α) (es : Entries α) :
    put ((k, u) :: es) key v = (k, v) :: es :=
  if_pos h

theorem put_cons_of_not_same {k key : Value} (h : ¬ k.same key = true) (u v : α)
    (es : Entries α) : put ((k, u) :: es) key v = (k, u) :: put es key v :=
  if_neg h

theorem find?_cons (e : Value × α) (es : Entries α) (key : Value) :
    find? (e :: es) key = if e.1.same key then some e.2 else es.find? key := by
  cases hsame : e.1.same key <;> simp [find?, hsame]

theorem find?_append (es fs : Entries α) (key : Value) :
    find? (es ++ fs) key = (es.find? key).or (fs.find? key) := by
  rw [find?, List.find?_append, Option.map_or]
  rfl

theorem has_eq_isSome (es : Entries α) (key : Value) : es.has key = (es.find? key).isSome := by
  induction es with
  | nil => rfl
  | cons e es ih => cases hsame : e.1.same key <;> simp_all [has, find?_cons]

/-- Every key of a map is a text. -/
def HasTextKeys (es : Entries α) : Prop :=
  ∀ e ∈ es, e.1.isStr = true

theorem mem_keys_of_mem {es : Entries α} {e : Value × α} (h : e ∈ es) : e.1 ∈ es.keys :=
  List.mem_map_of_mem h

theorem mem_of_find?_eq_some {es : Entries α} {s : String} {v : α}
    (h : es.find? (.str s) = some v) : (.str s, v) ∈ es := by
  obtain ⟨e, he, rfl⟩ := Option.map_eq_some_iff.mp h
  have hsame := List.find?_some he
  rw [← Value.same_str_iff.mp hsame]
  exact List.mem_of_find?_eq_some he

theorem getD_find?_of_forall {es : Entries α} {P : α → Prop} (h : ∀ e ∈ es, P e.2) {default : α}
    (hdefault : P default) (key : Value) : P ((es.find? key).getD default) := by
  cases hfind : es.find? key with
  | none => exact hdefault
  | some v =>
    obtain ⟨e, he, rfl⟩ := Option.map_eq_some_iff.mp hfind
    exact h e (List.mem_of_find?_eq_some he)

theorem find?_eq_none_iff {es : Entries α} {s : String} :
    es.find? (.str s) = none ↔ .str s ∉ es.keys := by
  simp only [find?, Option.map_eq_none_iff, List.find?_eq_none, Value.same_str_iff, keys,
    List.mem_map, not_exists, not_and]

/-- The look-up of a text in a map without equal keys is membership. -/
theorem find?_eq_some_iff {es : Entries α} (hn : es.keys.Nodup) {s : String} {v : α} :
    es.find? (.str s) = some v ↔ (.str s, v) ∈ es := by
  refine ⟨mem_of_find?_eq_some, fun h => ?_⟩
  cases hf : es.find? (.str s) with
  | none => exact absurd (mem_keys_of_mem h) (find?_eq_none_iff.mp hf)
  | some w =>
    have hw := mem_of_find?_eq_some hf
    have heq := List.inj_on_of_nodup_map hn hw h rfl
    exact congrArg some (Prod.ext_iff.mp heq).2

theorem keys_put_of_mem {es : Entries α} {s : String} (h : .str s ∈ es.keys) (v : α) :
    (es.put (.str s) v).keys = es.keys := by
  induction es with
  | nil => simp [keys] at h
  | cons e es ih =>
    by_cases hsame : e.1.same (.str s) = true
    · rw [put_cons_of_same hsame]
      rfl
    · have hrest : .str s ∈ keys es := by
        rcases List.mem_cons.mp h with heq | hrest
        · exact absurd (Value.same_str_iff.mpr heq.symm) hsame
        · exact hrest
      rw [put_cons_of_not_same hsame]
      exact congrArg (e.1 :: ·) (ih hrest)

theorem put_of_notMem {es : Entries α} {s : String} (h : .str s ∉ es.keys) (v : α) :
    es.put (.str s) v = es ++ [(.str s, v)] := by
  induction es with
  | nil => rfl
  | cons e es ih =>
    simp only [keys, List.map_cons, List.mem_cons, not_or] at h ih
    have hsame : ¬ e.1.same (.str s) = true := fun hs => h.1 (Value.same_str_iff.mp hs).symm
    rw [put_cons_of_not_same hsame, ih h.2, List.cons_append]

theorem putAll_of_new {es more : Entries α} (htexts : more.HasTextKeys)
    (hn : (es.keys ++ more.keys).Nodup) : es.putAll more = es ++ more := by
  induction more generalizing es with
  | nil => exact (List.append_nil es).symm
  | cons e more ih =>
    obtain ⟨⟨s, hs⟩, hrest⟩ := (List.forall_mem_cons.mp htexts).imp_left Value.isStr_iff.mp
    obtain ⟨k, v⟩ := e
    obtain rfl : k = .str s := hs
    have hnew : .str s ∉ es.keys := fun hmem =>
      (List.nodup_append.mp hn).2.2 _ hmem _ List.mem_cons_self rfl
    have hkeys :
        keys (es ++ [(.str s, v)]) ++ keys more = es.keys ++ keys ((.str s, v) :: more) := by
      simp [keys]
    change (es.put (.str s) v).putAll more = _
    rw [put_of_notMem hnew, ih hrest (hkeys ▸ hn), List.append_assoc]
    rfl

/-- The keys after a put are the key and those before. -/
theorem mem_keys_put_iff {es : Entries α} {s : String} {v : α} {k : Value} :
    k ∈ (es.put (.str s) v).keys ↔ k = .str s ∨ k ∈ es.keys := by
  by_cases h : .str s ∈ es.keys
  · rw [keys_put_of_mem h]
    constructor
    · exact Or.inr
    · rintro (rfl | hk)
      · exact h
      · exact hk
  · rw [put_of_notMem h]
    simp [keys, or_comm]

theorem nodup_keys_put {es : Entries α} (hn : es.keys.Nodup) (s : String) (v : α) :
    (es.put (.str s) v).keys.Nodup := by
  by_cases h : .str s ∈ es.keys
  · rw [keys_put_of_mem h]
    exact hn
  · have hkeys : (es.put (.str s) v).keys = es.keys ++ [.str s] := by
      rw [put_of_notMem h]
      simp [keys]
    rw [hkeys]
    exact List.nodup_append.mpr ⟨hn, List.nodup_singleton _, by
      rintro a ha b hb rfl
      exact h (List.mem_singleton.mp hb ▸ ha)⟩

/-- After a put, the entry of the key is the new one, and the others are as before. -/
theorem mem_put_iff {es : Entries α} (hn : es.keys.Nodup) {s : String} {v : α} {e : Value × α} :
    e ∈ es.put (.str s) v ↔ e = (.str s, v) ∨ e ∈ es ∧ e.1 ≠ .str s := by
  induction es with
  | nil => simp [put_nil]
  | cons f es ih =>
    simp only [keys, List.map_cons, List.nodup_cons] at hn ih
    by_cases hkey : f.1 = .str s
    · have hrest : ∀ x ∈ es, x.1 ≠ .str s := by
        intro x hx heq
        exact hn.1 (by rw [hkey, ← heq]; exact List.mem_map_of_mem hx)
      rw [put_cons_of_same (Value.same_str_iff.mpr hkey), hkey]
      constructor
      · intro he
        rcases List.mem_cons.mp he with rfl | he
        · exact Or.inl rfl
        · exact Or.inr ⟨List.mem_cons_of_mem _ he, hrest e he⟩
      · rintro (rfl | ⟨he, hne⟩)
        · exact List.mem_cons_self
        · rcases List.mem_cons.mp he with rfl | he
          · exact absurd hkey hne
          · exact List.mem_cons_of_mem _ he
    · rw [put_cons_of_not_same (mt Value.same_str_iff.mp hkey), List.mem_cons, ih hn.2,
        List.mem_cons]
      constructor
      · rintro (rfl | heq | ⟨he, hne⟩)
        · exact Or.inr ⟨Or.inl rfl, hkey⟩
        · exact Or.inl heq
        · exact Or.inr ⟨Or.inr he, hne⟩
      · rintro (heq | ⟨rfl | he, hne⟩)
        · exact Or.inr (Or.inl heq)
        · exact Or.inl rfl
        · exact Or.inr (Or.inr ⟨he, hne⟩)

theorem find?_put (es : Entries α) (key : Value) (v : α) (s : String) :
    (es.put key v).find? (.str s) = if key.same (.str s) then some v else es.find? (.str s) := by
  induction es with
  | nil => rw [put_nil, find?_cons]
  | cons e es ih =>
    by_cases hput : e.1.same key = true
    · rw [put_cons_of_same hput, find?_cons, find?_cons]
      by_cases hkey : key = .str s
      · subst hkey
        rw [if_pos hput, if_pos (Value.same_str_iff.mpr rfl)]
      · have hne : ¬ e.1.same (.str s) = true := fun hs =>
          hkey (Value.str_same_iff.mp (Value.same_str_iff.mp hs ▸ hput))
        rw [if_neg hne, if_neg hne, if_neg (mt Value.same_str_iff.mp hkey)]
    · rw [put_cons_of_not_same hput, find?_cons, ih, find?_cons]
      by_cases hkey : key.same (.str s) = true
      · obtain rfl := Value.same_str_iff.mp hkey
        rw [if_neg hput]
        simp only [if_pos hkey]
      · simp only [if_neg hkey]

theorem put_put (es : Entries α) (s : String) (v w : α) :
    (es.put (.str s) v).put (.str s) w = es.put (.str s) w := by
  induction es with
  | nil => exact put_cons_of_same (Value.same_str_iff.mpr rfl) v w []
  | cons e es ih =>
    by_cases hkey : e.1.same (.str s) = true
    · rw [put_cons_of_same hkey, put_cons_of_same hkey, put_cons_of_same hkey]
    · rw [put_cons_of_not_same hkey, put_cons_of_not_same hkey, put_cons_of_not_same hkey, ih]

theorem put_of_find? {es : Entries α} {s : String} {v : α} (h : es.find? (.str s) = some v) :
    es.put (.str s) v = es := by
  induction es with
  | nil => cases h
  | cons e es ih =>
    rw [find?_cons] at h
    by_cases hkey : e.1.same (.str s) = true
    · rw [if_pos hkey] at h
      rw [put_cons_of_same hkey, ← Option.some.inj h]
    · rw [if_neg hkey] at h
      rw [put_cons_of_not_same hkey, ih h]

theorem HasTextKeys.put {es : Entries α} (h : es.HasTextKeys) (s : String) (v : α) :
    (es.put (.str s) v).HasTextKeys := by
  intro e he
  have hk : e.1 ∈ (es.put (.str s) v).keys := mem_keys_of_mem he
  rcases mem_keys_put_iff.mp hk with heq | hk
  · rw [heq]
    rfl
  · obtain ⟨f, hf, hfe⟩ := List.mem_map.mp hk
    rw [← hfe]
    exact h f hf

end Entries

/-! ### Sorting -/

private theorem keyLe_eq_textLe {a b : Value} (ha : a.isStr = true) (hb : b.isStr = true) :
    keyLe a b = textLe (a.str?.getD "") (b.str?.getD "") := by
  obtain ⟨s, rfl⟩ := Value.isStr_iff.mp ha
  obtain ⟨t, rfl⟩ := Value.isStr_iff.mp hb
  rfl

theorem perm_of_sortByKey {α : Type} {es sorted : Entries α} (h : sortByKey es = .ok sorted) :
    sorted.Perm es := by
  unfold sortByKey at h
  split at h
  · cases h
    exact List.mergeSort_perm es _
  · cases h

/-- A map with distinct text keys is sorted into one with the same entries and strictly ascending
keys. -/
theorem sortByKey_of_textKeys {α : Type} {es : Entries α} (ht : es.HasTextKeys)
    (hn : es.keys.Nodup) :
    ∃ sorted, sortByKey es = .ok sorted ∧ sorted.Perm es ∧
      sorted.Pairwise fun a b => a.1.TextLt b.1 := by
  have hcomparable : comparable es.keys = true := by
    have hall : es.keys.all Value.isStr = true := by
      simpa [Entries.keys, List.all_eq_true] using fun a x hx => ht (a, x) hx
    simp [comparable, hall]
  let le : Value × α → Value × α → Bool := fun a b =>
    textLe (a.1.str?.getD "") (b.1.str?.getD "")
  have hsame : es.mergeSort (fun a b => keyLe a.1 b.1) = es.mergeSort le := by
    have := List.map_mergeSort (r := fun a b => keyLe a.1 b.1) (s := le) (f := id) (l := es)
      fun a ha b hb => keyLe_eq_textLe (ht a ha) (ht b hb)
    simpa using this
  have hsorted : (es.mergeSort le).Pairwise fun a b => le a b = true := by
    apply List.pairwise_mergeSort
    · intro a b c hab hbc
      simp only [le, textLe, decide_eq_true_eq] at hab hbc ⊢
      exact le_trans hab hbc
    · intro a b
      simp only [le, textLe, Bool.or_eq_true, decide_eq_true_eq]
      exact le_total _ _
  have hperm : (es.mergeSort le).Perm es := List.mergeSort_perm es le
  have hdistinct : (es.mergeSort le).Pairwise fun a b => a.1 ≠ b.1 :=
    List.pairwise_map.mp ((hperm.map Prod.fst).nodup_iff.mpr hn)
  refine ⟨es.mergeSort le, by simp [sortByKey, hcomparable, hsame], hperm, ?_⟩
  refine (hsorted.and hdistinct).imp_of_mem ?_
  rintro ⟨a, x⟩ ⟨b, y⟩ ha hb ⟨hle, hne⟩
  obtain ⟨s, rfl⟩ := Value.isStr_iff.mp (ht _ (hperm.mem_iff.mp ha))
  obtain ⟨t, rfl⟩ := Value.isStr_iff.mp (ht _ (hperm.mem_iff.mp hb))
  have hst : s ≤ t := of_decide_eq_true hle
  exact ⟨s, t, rfl, rfl, lt_of_le_of_ne hst fun h => hne (congrArg Value.str h)⟩

/-- A map with strictly ascending texts as keys is sorted already. -/
theorem sortByKey_of_ascending {α : Type} {es : Entries α} (ht : es.HasTextKeys)
    (h : es.Pairwise fun a b => a.1.TextLt b.1) : sortByKey es = .ok es := by
  have hdistinct : es.keys.Nodup := List.pairwise_map.mpr (h.imp Value.TextLt.ne)
  obtain ⟨sorted, hsort, hperm, hsorted⟩ := sortByKey_of_textKeys ht hdistinct
  rw [hsort, hperm.eq_of_pairwise (fun _ _ _ _ hab hba => absurd hba hab.asymm) hsorted h]

end PageMarkup
