import PageMarkup.Json.Reader
import PageMarkup.Proofs.Content.Overlay

/-!
# Objects that are read

Whatever an object of a JSON text repeats, it is read as a map under distinct texts: its keys are
quoted texts, and a field under a key that has been there before takes the place of the earlier one.

## Main results

* `Json.hasTextKeys_of_read` : a text that is read as a map is read as one under distinct texts.
-/

namespace PageMarkup.Json

variable {s rest : List Char} {es : Entries Value}

private theorem hasTextKeys_of_readFields {n : Nat} (h : readFields n s = .ok (es, rest)) :
    es.HasTextKeys := by
  induction n generalizing s rest es with
  | zero => cases h
  | succ n ih =>
    rw [readFields] at h
    obtain ⟨⟨key, t⟩, -, h⟩ := bind_eq_ok_iff.mp h
    dsimp only at h
    split at h
    · obtain ⟨⟨value, u⟩, -, h⟩ := bind_eq_ok_iff.mp h
      dsimp only at h
      split at h
      · obtain ⟨rfl, -⟩ := Prod.mk.inj (Except.ok.inj h)
        exact List.forall_mem_singleton.mpr rfl
      · obtain ⟨⟨more, _⟩, hmore, h⟩ := bind_eq_ok_iff.mp h
        obtain ⟨rfl, -⟩ := Prod.mk.inj (Except.ok.inj h)
        exact List.forall_mem_cons.mpr ⟨rfl, ih hmore⟩
      · cases h
    · cases h

private theorem readMagnitude_ne_map (negative : Bool) :
    readMagnitude negative s ≠ .ok (.map es, rest) := by
  intro h
  obtain ⟨⟨whole, t⟩, -, h⟩ := bind_eq_ok_iff.mp h
  dsimp only at h
  split at h
  · split at h <;> cases h
  · cases h

private theorem readPlain_ne_map : readPlain s ≠ .ok (.map es, rest) := by
  intro h
  rw [readPlain.eq_def] at h
  split at h
  · rename_i r hr
    obtain ⟨word, hword, hw⟩ := List.exists_of_findSome?_eq_some hr
    obtain ⟨t, -, rfl⟩ := Option.map_eq_some_iff.mp hw
    have hvalue : word.2 = .map es := (Prod.mk.inj (Except.ok.inj h)).1
    have hnone : ∀ w ∈ words, w.2.entries? = none := by
      simp [words, Value.entries?]
    have hword := hnone word hword
    rw [hvalue] at hword
    cases hword
  · split at h
    · exact readMagnitude_ne_map _ h
    · exact readMagnitude_ne_map _ h

private theorem hasTextKeys_of_readValue {n : Nat} (h : readValue n s = .ok (.map es, rest)) :
    es.HasTextKeys ∧ es.keys.Nodup := by
  have hnil : Entries.HasTextKeys ([] : Entries Value) := List.forall_mem_nil _
  cases n with
  | zero => cases h
  | succ n =>
    rw [readValue.eq_def] at h
    dsimp only at h
    split at h
    · obtain ⟨r, -, h⟩ := map_eq_ok_iff.mp h
      cases h
    · split at h
      · cases h
      · obtain ⟨r, -, h⟩ := map_eq_ok_iff.mp h
        cases h
    · split at h
      · obtain ⟨heq, -⟩ := Prod.mk.inj (Except.ok.inj h)
        obtain rfl := Value.map.inj heq
        exact ⟨hnil, List.nodup_nil⟩
      · obtain ⟨⟨fields, t⟩, hfields, h⟩ := map_eq_ok_iff.mp h
        obtain ⟨heq, -⟩ := Prod.mk.inj h
        obtain rfl := Value.map.inj heq
        exact hnil.putAll List.nodup_nil (hasTextKeys_of_readFields hfields)
    · exact absurd h readPlain_ne_map

/-- A text that is read as a map is read as one under distinct texts. -/
theorem hasTextKeys_of_read (h : read s = .ok (.map es)) : es.HasTextKeys ∧ es.keys.Nodup := by
  rw [read] at h
  obtain ⟨⟨v, rest⟩, hv, h⟩ := bind_eq_ok_iff.mp h
  dsimp only at h
  split at h
  · obtain rfl := Except.ok.inj h
    exact hasTextKeys_of_readValue hv
  · cases h

end PageMarkup.Json
