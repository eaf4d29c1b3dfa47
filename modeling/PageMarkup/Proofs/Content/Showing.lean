import PageMarkup.Proofs.Content.PlainData
import PageMarkup.Proofs.Decimal.Digits

/-!
# Values whose integers have texts

What a value shows, its parts show. So where all integers of a document have texts, those of its
properties have them, and no key of a literal is refused.

## Main results

* `Value.handedDown_isShowable` : the parts of a value that can be shown.
* `Value.literal?_of_isShowable`, `Value.text?_of_isShowable` : its literal and its text.
* `keyedEntry_eq_ok` : what stands under a key in an object.
* `withListKey_eq_ok`, `itemAttributes_eq_ok` : the attributes of a sibling.
-/

namespace PageMarkup

namespace Value

theorem allShowable_iff {xs : List Value} :
    allShowable xs = true ↔ ∀ x ∈ xs, x.isShowable = true := by
  induction xs with
  | nil => simp [allShowable]
  | cons x xs ih => simp [allShowable, ih]

theorem entriesShowable_iff {es : Entries Value} :
    entriesShowable es = true ↔ ∀ e ∈ es, e.1.isShowable = true ∧ e.2.isShowable = true := by
  induction es with
  | nil => simp [entriesShowable]
  | cons e es ih => simp [entriesShowable, ih]

@[simp] theorem isShowable_list {xs : List Value} : (list xs).isShowable = allShowable xs := rfl

@[simp] theorem isShowable_tuple {xs : List Value} : (tuple xs).isShowable = allShowable xs := rfl

@[simp] theorem isShowable_map {es : Entries Value} :
    (map es).isShowable = entriesShowable es := rfl

/-- The parts of a value that can be shown can be shown. -/
theorem handedDown_isShowable : HandedDown fun v => v.isShowable = true where
  list h := allShowable_iff.mp h
  tuple h := allShowable_iff.mp h
  keys h e he := (entriesShowable_iff.mp h e he).1
  values h e he := (entriesShowable_iff.mp h e he).2
  character _ := rfl

theorem eq_text_of_text? {v : Value} {text : String} (h : v.text? = .ok text) : text = v.text := by
  unfold text? at h
  split at h
  · exact (Except.ok.inj h).symm
  · cases h

theorem text?_of_isShowable {v : Value} (h : v.isShowable = true) : v.text? = .ok v.text :=
  if_pos h

/-! ### Literals -/

mutual

theorem hasKeyTexts_of_isShowable {v : Value} (h : v.isShowable = true) :
    v.hasKeyTexts = true := by
  match v with
  | .list _ | .tuple _ => exact allKeyTexts_of_showable (allShowable_iff.mp h)
  | .map _ => exact entriesKeyTexts_of_showable (entriesShowable_iff.mp h)
  | .null | .bool _ | .int _ | .float _ | .str _ | .foreign _ _ | .markup _ => rfl

private theorem allKeyTexts_of_showable {xs : List Value} (h : ∀ x ∈ xs, x.isShowable = true) :
    allKeyTexts xs = true := by
  match xs with
  | [] => rfl
  | x :: xs =>
    rw [List.forall_mem_cons] at h
    rw [allKeyTexts, hasKeyTexts_of_isShowable h.1, allKeyTexts_of_showable h.2]
    rfl

private theorem entriesKeyTexts_of_showable {es : Entries Value}
    (h : ∀ e ∈ es, e.1.isShowable = true ∧ e.2.isShowable = true) :
    entriesKeyTexts es = true := by
  match es with
  | [] => rfl
  | (k, v) :: es =>
    rw [List.forall_mem_cons] at h
    rw [entriesKeyTexts, h.1.1, hasKeyTexts_of_isShowable h.1.2, entriesKeyTexts_of_showable h.2]
    simp

end

theorem eq_asLiteral_of_literal? {v : Value} {m : Markup} (h : v.literal? = .ok m) :
    m = v.asLiteral := by
  unfold literal? at h
  split at h
  · exact (Except.ok.inj h).symm
  · cases h

theorem literal?_of_isShowable {v : Value} (h : v.isShowable = true) :
    v.literal? = .ok v.asLiteral :=
  if_pos (hasKeyTexts_of_isShowable h)

end Value

/-! ### Entries of objects -/

theorem keyedEntry_eq_ok {key : Value} {value : Option Markup} {es : List (String × Markup)}
    (h : keyedEntry key value = .ok es) : es = (value.map fun m => (key.text, m)).toList := by
  cases value with
  | none => exact (Except.ok.inj h).symm
  | some m =>
    obtain ⟨text, htext, hes⟩ := bind_eq_ok_iff.mp h
    rw [← Except.ok.inj hes, Value.eq_text_of_text? htext]
    rfl

theorem keyedEntry_of_isShowable {key : Value} (h : key.isShowable = true)
    (value : Option Markup) :
    keyedEntry key value = .ok (value.map fun m => (key.text, m)).toList := by
  cases value with
  | none => rfl
  | some m =>
    rw [keyedEntry, Value.text?_of_isShowable h]
    rfl

/-! ### Keys of siblings -/

section

variable {settings : Settings} {listItem : Bool} {attributes attributes' : List (Value × Markup)}
  {id : Value}

/-- The key of a sibling comes before its attributes, where there is none yet. -/
theorem withListKey_eq_ok (h : withListKey attributes id = .ok attributes') :
    attributes' = attributes ∨ ∃ key, keyLiteral id = .ok key ∧
      attributes.any (fun a => a.1.same keyName) = false ∧
      attributes' = (keyName, key) :: attributes := by
  unfold withListKey at h
  split at h
  · exact .inl (Except.ok.inj h).symm
  · rename_i hnew
    obtain ⟨key, hkey, h⟩ := bind_eq_ok_iff.mp h
    simp only [Bool.or_eq_true, not_or, Bool.not_eq_true] at hnew
    exact .inr ⟨key, hkey, hnew.2, (Except.ok.inj h).symm⟩

theorem itemAttributes_eq_ok
    (h : itemAttributes settings listItem attributes id = .ok attributes') :
    attributes' = attributes ∨ ∃ key, keyLiteral id = .ok key ∧
      attributes.any (fun a => a.1.same keyName) = false ∧
      attributes' = (keyName, key) :: attributes := by
  unfold itemAttributes at h
  split at h
  · exact withListKey_eq_ok h
  · exact .inl (Except.ok.inj h).symm

theorem exists_itemAttributes (settings : Settings) (listItem : Bool)
    (attributes : List (Value × Markup)) (h : id.isShowable = true) :
    ∃ attributes', itemAttributes settings listItem attributes id = .ok attributes' := by
  have hkey : ∃ key, keyLiteral id = .ok key := by
    unfold keyLiteral
    split
    · exact ⟨_, rfl⟩
    · exact ⟨_, rfl⟩
    · rw [Value.text?_of_isShowable h]
      exact ⟨_, rfl⟩
  obtain ⟨key, hkey⟩ := hkey
  unfold itemAttributes withListKey
  split
  · split
    · exact ⟨_, rfl⟩
    · rw [hkey]
      exact ⟨_, rfl⟩
  · exact ⟨_, rfl⟩

end

end PageMarkup
