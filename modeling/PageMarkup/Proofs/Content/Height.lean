import PageMarkup.Proofs.Content.PlainData

/-!
# The height of values

How deep the collections in a value are nested. What is read out of a value as entries holds values
of smaller height, so no value is among those it is read as, not even up to equality: equal values
have the same height.

## Main definitions

* `Value.height` : the depth of nesting.

## Main results

* `Value.height_lt_of_readEntries` : the values that a value is read as.
* `Value.height_le_of_same` : equal values.
-/

namespace PageMarkup

mutual

/-- The depth of nesting of the collections in a value. -/
def Value.height : Value → Nat
  | .list xs => Value.heightAll xs + 1
  | .tuple xs => Value.heightAll xs + 1
  | .map es => Value.heightEntries es + 1
  | _ => 0
termination_by structural v => v

/-- The greatest height of the items of a collection. -/
def Value.heightAll : List Value → Nat
  | [] => 0
  | x :: xs => max x.height (Value.heightAll xs)
termination_by structural xs => xs

/-- The greatest height of the keys and values of a map. -/
def Value.heightEntries : List (Value × Value) → Nat
  | [] => 0
  | (k, v) :: es => max (max k.height v.height) (Value.heightEntries es)
termination_by structural es => es

end

namespace Value

theorem height_le_heightAll {x : Value} {xs : List Value} (h : x ∈ xs) :
    x.height ≤ heightAll xs := by
  induction xs with
  | nil => cases h
  | cons y ys ih =>
    rw [heightAll]
    rcases List.mem_cons.mp h with rfl | h
    · exact le_max_left _ _
    · exact (ih h).trans (le_max_right _ _)

theorem height_le_heightEntries {e : Value × Value} {es : List (Value × Value)} (h : e ∈ es) :
    e.1.height ≤ heightEntries es ∧ e.2.height ≤ heightEntries es := by
  induction es with
  | nil => cases h
  | cons f fs ih =>
    obtain ⟨k, v⟩ := f
    rw [heightEntries]
    rcases List.mem_cons.mp h with rfl | h
    · exact ⟨(le_max_left _ _).trans (le_max_left _ _), (le_max_right _ _).trans (le_max_left _ _)⟩
    · exact (ih h).imp (·.trans (le_max_right _ _)) (·.trans (le_max_right _ _))

theorem handedDown_height (n : Nat) : HandedDown fun v => v.height ≤ n where
  list h _ hx := (height_le_heightAll hx).trans ((Nat.le_succ _).trans h)
  tuple h _ hx := (height_le_heightAll hx).trans ((Nat.le_succ _).trans h)
  keys h _ he := (height_le_heightEntries he).1.trans ((Nat.le_succ _).trans h)
  values h _ he := (height_le_heightEntries he).2.trans ((Nat.le_succ _).trans h)
  character _ := Nat.zero_le n

private theorem readEntry_singleton (c : Char) :
    (Value.str (String.singleton c)).readEntry = .error .notPair := by
  rw [readEntry, items, String.toList_singleton]
  rfl

/-- The values that a sequence or a text is read as are those of its items, each read as an
entry. -/
private theorem exists_readEntry_of_mem {v : Value} {xs : List Value} (hxs : v.items = .ok xs)
    {es : Entries Value}
    (h : (do return Entries.putAll [] (← (← v.items).mapM readEntry)) = Except.ok es) :
    ∀ e ∈ es, ∃ x ∈ xs, ∃ f, x.readEntry = .ok f ∧ f.2 = e.2 := by
  rw [hxs] at h
  obtain ⟨pairs, hpairs, h⟩ := bind_eq_ok_iff.mp (show xs.mapM readEntry >>= _ = _ from h)
  obtain rfl := Except.ok.inj h
  intro e he
  obtain ⟨-, f, hf, hfe⟩ := (Entries.putAll_nil pairs).2 e he
  obtain ⟨x, hx, hread⟩ := mem_of_mapM_eq_ok hpairs f hf
  exact ⟨x, hx, f, hread, hfe⟩

/-- What a value is read as is less high than the value. -/
theorem height_lt_of_readEntries {v : Value} {es : Entries Value} (h : v.readEntries = .ok es)
    {e : Value × Value} (he : e ∈ es) : e.2.height < v.height := by
  have hitem : ∀ {xs : List Value} {x : Value} {f : Value × Value}, x ∈ xs →
      x.readEntry = .ok f → f.2 = e.2 → e.2.height < heightAll xs + 1 := by
    rintro xs x f hx hread hfe
    rw [← hfe]
    exact Nat.lt_succ_of_le
      ((handedDown_height (heightAll xs)).readEntry (height_le_heightAll hx) hread).2
  cases v with
  | map fs =>
    obtain rfl := Except.ok.inj h
    exact Nat.lt_succ_of_le (height_le_heightEntries he).2
  | list xs =>
    obtain ⟨x, hx, f, hread, hfe⟩ := exists_readEntry_of_mem (v := .list xs) rfl h e he
    exact hitem hx hread hfe
  | tuple xs =>
    obtain ⟨x, hx, f, hread, hfe⟩ := exists_readEntry_of_mem (v := .tuple xs) rfl h e he
    exact hitem hx hread hfe
  | str s =>
    -- A text is read as entries only if it is empty, since its characters are no pairs.
    obtain ⟨x, hx, f, hread, -⟩ := exists_readEntry_of_mem (v := .str s) rfl h e he
    obtain ⟨c, -, rfl⟩ := List.mem_map.mp hx
    rw [readEntry_singleton] at hread
    cases hread
  | null | bool | int | float | foreign | markup => cases h

/-! ### Equal values -/

mutual

/-- Equal values have the same height; one direction is enough here. -/
theorem height_le_of_same {a b : Value} (h : a.same b = true) : a.height ≤ b.height := by
  match a with
  | .list xs =>
    cases b with
    | list ys => exact Nat.succ_le_succ (heightAll_le_of_same (by simpa only [same] using h))
    | null | bool | int | float | str | tuple | map | foreign | markup =>
      simp [same, number?] at h
  | .tuple xs =>
    cases b with
    | tuple ys => exact Nat.succ_le_succ (heightAll_le_of_same (by simpa only [same] using h))
    | null | bool | int | float | str | list | map | foreign | markup =>
      simp [same, number?] at h
  | .map es =>
    cases b with
    | map fs =>
      rw [same, Bool.and_eq_true] at h
      exact Nat.succ_le_succ (heightEntries_le_of_same h.2)
    | null | bool | int | float | str | list | tuple | foreign | markup =>
      simp [same, number?] at h
  | .null | .bool _ | .int _ | .float _ | .str _ | .foreign _ _ | .markup _ => exact Nat.zero_le _

private theorem heightAll_le_of_same {xs ys : List Value} (h : sameAll xs ys = true) :
    heightAll xs ≤ heightAll ys := by
  match xs with
  | [] => exact Nat.zero_le _
  | x :: xs =>
    cases ys with
    | nil => cases h
    | cons y ys =>
      rw [sameAll, Bool.and_eq_true] at h
      exact max_le_max (height_le_of_same h.1) (heightAll_le_of_same h.2)

private theorem heightEntries_le_of_same {es fs : List (Value × Value)}
    (h : sameEntries es fs = true) : heightEntries es ≤ heightEntries fs := by
  match es with
  | [] => exact Nat.zero_le _
  | (k, v) :: es =>
    rw [sameEntries, Bool.and_eq_true] at h
    obtain ⟨f, hf, hsame⟩ := List.any_eq_true.mp h.1
    rw [Bool.and_eq_true] at hsame
    obtain ⟨hkey, hvalue⟩ := height_le_heightEntries hf
    exact max_le (max_le ((height_le_of_same hsame.1).trans hkey)
      ((height_le_of_same hsame.2).trans hvalue)) (heightEntries_le_of_same h.2)

end

end Value

end PageMarkup
