import Mathlib.Data.List.Forall2
import PageMarkup.Proofs.Content.TextKeys
import PageMarkup.Render.Serialize

/-!
# What literals tell apart

The literal of a value leaves out the entries of maps that hold nothing, and writes a tuple as it
writes a list. It loses no more than that: the value without such entries, and with lists in the
place of tuples, can be read off the literal again. So two values have the same literal exactly if
they are the same once both differences are taken away.

## Main definitions

* `Value.pruned` : a value without entries that hold nothing, and without tuples.
* `Markup.asValue` : the value that a literal expression is written for.
* `Value.IsPlain` : the values that are looked at here.

## Main results

* `itemLiterals_eq`, `entryLiterals_eq` : the parts of the literal of a collection.
* `asValue_asLiteral` : the value that is read off a literal.
* `asLiteral_eq_iff` : the values with one literal.
-/

namespace PageMarkup

/-! ### The parts of a literal -/

theorem itemLiterals_eq (xs : List Value) : Value.itemLiterals xs = xs.map Value.asLiteral := by
  induction xs with
  | nil => rfl
  | cons x xs ih => rw [Value.itemLiterals, ih, List.map_cons]

theorem entryLiterals_eq (es : Entries Value) : Value.entryLiterals es =
    (es.filter fun e => !e.2.isNull).map fun e => (e.1.text, e.2.asLiteral) := by
  induction es with
  | nil => rfl
  | cons e es ih => cases hnull : e.2.isNull <;> simp [Value.entryLiterals, hnull, ih]

theorem mem_entryLiterals {es : Entries Value} {p : String × Markup}
    (h : p ∈ Value.entryLiterals es) : ∃ e ∈ es, (e.1.text, e.2.asLiteral) = p := by
  rw [entryLiterals_eq] at h
  obtain ⟨e, he, hp⟩ := List.mem_map.mp h
  exact ⟨e, List.mem_of_mem_filter he, hp⟩

/-- The literal of a sequence is an array of the literals of its items, those that are nothing
among them. -/
theorem asLiteral_of_items {v : Value} {xs : List Value} (h : v.items? = some xs) :
    v.asLiteral = .array (xs.map Value.asLiteral) := by
  cases v with
  | list ys =>
    obtain rfl := Option.some.inj h
    rw [Value.asLiteral, itemLiterals_eq]
  | tuple ys =>
    obtain rfl := Option.some.inj h
    rw [Value.asLiteral, itemLiterals_eq]
  | null | bool | int | float | str | map | foreign | markup => cases h

/-! ### Values without the differences that literals do not show -/

mutual

/-- A value without the entries of maps that hold nothing, and with lists in the place of tuples, at
every level. -/
def Value.pruned : Value → Value
  | .list xs => .list (Value.prunedAll xs)
  | .tuple xs => .list (Value.prunedAll xs)
  | .map es => .map (Value.prunedEntries es)
  | v => v
termination_by structural v => v

/-- The items of a sequence, pruned. Those that are nothing stay where they are. -/
def Value.prunedAll : List Value → List Value
  | [] => []
  | x :: xs => x.pruned :: Value.prunedAll xs
termination_by structural xs => xs

/-- The entries of a map that hold something, pruned. -/
def Value.prunedEntries : List (Value × Value) → List (Value × Value)
  | [] => []
  | (k, v) :: es =>
    if v.isNull then Value.prunedEntries es else (k, v.pruned) :: Value.prunedEntries es
termination_by structural es => es

end

mutual

/-- The value that a literal expression is written for; any other markup stands for itself. -/
def Markup.asValue : Markup → Value
  | .literal v => v
  | .array items => .list (Markup.asValues items)
  | .object entries => .map (Markup.asEntries entries)
  | m => .markup m
termination_by structural m => m

/-- The values that the items of an array are written for. -/
def Markup.asValues : List Markup → List Value
  | [] => []
  | m :: ms => m.asValue :: Markup.asValues ms
termination_by structural ms => ms

/-- The map entries that the entries of an object are written for. -/
def Markup.asEntries : List (String × Markup) → List (Value × Value)
  | [] => []
  | (k, m) :: es => (.str k, m.asValue) :: Markup.asEntries es
termination_by structural es => es

end

theorem prunedAll_eq (xs : List Value) : Value.prunedAll xs = xs.map Value.pruned := by
  induction xs with
  | nil => rfl
  | cons x xs ih => rw [Value.prunedAll, ih, List.map_cons]

theorem prunedEntries_eq (es : Entries Value) : Value.prunedEntries es =
    (es.filter fun e => !e.2.isNull).map fun e => (e.1, e.2.pruned) := by
  induction es with
  | nil => rfl
  | cons e es ih => cases hnull : e.2.isNull <;> simp [Value.prunedEntries, hnull, ih]

theorem asValues_eq (ms : List Markup) : Markup.asValues ms = ms.map Markup.asValue := by
  induction ms with
  | nil => rfl
  | cons m ms ih => rw [Markup.asValues, ih, List.map_cons]

theorem asEntries_eq (es : List (String × Markup)) :
    Markup.asEntries es = es.map fun e => (.str e.1, e.2.asValue) := by
  induction es with
  | nil => rfl
  | cons e es ih => rw [Markup.asEntries, ih, List.map_cons]

theorem isNull_pruned (v : Value) : v.pruned.isNull = v.isNull := by
  cases v <;> rfl

/-- Values that are made of nothing, truth values, integers, texts, sequences, and maps from
texts. -/
inductive Value.IsPlain : Value → Prop
  | null : IsPlain .null
  | bool (b : Bool) : IsPlain (.bool b)
  | int (n : Int) : IsPlain (.int n)
  | str (s : String) : IsPlain (.str s)
  | list {xs : List Value} (h : ∀ x ∈ xs, IsPlain x) : IsPlain (.list xs)
  | tuple {xs : List Value} (h : ∀ x ∈ xs, IsPlain x) : IsPlain (.tuple xs)
  | map {es : Entries Value} (htexts : es.HasTextKeys) (h : ∀ e ∈ es, IsPlain e.2) :
      IsPlain (.map es)

private theorem str_text {v : Value} (h : v.isStr = true) : .str v.text = v := by
  obtain ⟨s, rfl⟩ := Value.isStr_iff.mp h
  rfl

namespace Value.IsPlain

variable {v w : Value}

/-- The value that is read off the literal of a value is the value pruned. -/
theorem asValue_asLiteral (h : v.IsPlain) : v.asLiteral.asValue = v.pruned := by
  have hitems : ∀ xs : List Value, (∀ x ∈ xs, x.asLiteral.asValue = x.pruned) →
      Markup.asValues (itemLiterals xs) = prunedAll xs := by
    intro xs hxs
    rw [itemLiterals_eq, asValues_eq, prunedAll_eq, List.map_map]
    exact List.map_congr_left hxs
  induction h with
  | null => rfl
  | bool => rfl
  | int => rfl
  | str => rfl
  | list _ ih => exact congrArg Value.list (hitems _ ih)
  | tuple _ ih => exact congrArg Value.list (hitems _ ih)
  | @map es htexts _ ih =>
    have hentries : Markup.asEntries (entryLiterals es) = prunedEntries es := by
      rw [entryLiterals_eq, asEntries_eq, prunedEntries_eq, List.map_map]
      refine List.map_congr_left fun e he => ?_
      have hmem := List.mem_of_mem_filter he
      exact Prod.ext (str_text (htexts e hmem)) (ih e hmem)
    exact congrArg Value.map hentries

theorem asLiteral_pruned (h : v.IsPlain) : v.pruned.asLiteral = v.asLiteral := by
  have hitems : ∀ xs : List Value, (∀ x ∈ xs, x.pruned.asLiteral = x.asLiteral) →
      itemLiterals (prunedAll xs) = itemLiterals xs := by
    intro xs hxs
    rw [itemLiterals_eq, itemLiterals_eq, prunedAll_eq, List.map_map]
    exact List.map_congr_left hxs
  induction h with
  | null => rfl
  | bool => rfl
  | int => rfl
  | str => rfl
  | list _ ih => exact congrArg Markup.array (hitems _ ih)
  | tuple _ ih => exact congrArg Markup.array (hitems _ ih)
  | @map es _ _ ih =>
    have hentries : entryLiterals (prunedEntries es) = entryLiterals es := by
      -- the entries that are left hold something still
      have hkept : (prunedEntries es).filter (fun e => !e.2.isNull) = prunedEntries es := by
        rw [prunedEntries_eq, List.filter_map]
        simp [Function.comp_def, isNull_pruned]
      rw [entryLiterals_eq, hkept, prunedEntries_eq, entryLiterals_eq, List.map_map]
      refine List.map_congr_left fun e he => ?_
      exact congrArg (Prod.mk e.1.text) (ih e (List.mem_of_mem_filter he))
    exact congrArg Markup.object hentries

private theorem exists_items (h : v.IsPlain) {ms : List Markup}
    (hliteral : v.asLiteral = .array ms) :
    ∃ xs, v.items? = some xs ∧ ms = xs.map asLiteral := by
  cases h with
  | @list xs =>
    rw [asLiteral_of_items rfl] at hliteral
    exact ⟨xs, rfl, (Markup.array.inj hliteral).symm⟩
  | @tuple xs =>
    rw [asLiteral_of_items rfl] at hliteral
    exact ⟨xs, rfl, (Markup.array.inj hliteral).symm⟩
  | null | bool | int | str | map => cases hliteral

private theorem exists_entries (h : v.IsPlain) {os : List (String × Markup)}
    (hliteral : v.asLiteral = .object os) :
    ∃ es, v = .map es ∧ os.map (fun o => (Value.str o.1, o.2)) =
      (es.filter fun e => !e.2.isNull).map fun e => (e.1, e.2.asLiteral) := by
  cases h with
  | @map es htexts =>
    rw [asLiteral, entryLiterals_eq] at hliteral
    obtain rfl := Markup.object.inj hliteral
    refine ⟨es, rfl, ?_⟩
    rw [List.map_map]
    refine List.map_congr_left fun e he => ?_
    exact Prod.ext (str_text (htexts e (List.mem_of_mem_filter he))) rfl
  | null | bool | int | str | list | tuple => cases hliteral

end Value.IsPlain

/-- **Literals lose only entries that hold nothing.** Two values made of nothing, truth values,
integers, texts, sequences and maps from texts have the same literal if and only if they are the
same after every entry that holds nothing is removed, at every level, and lists stand in the place
of tuples. A value with the same literal as a sequence is a sequence of as many items, with the same
literals in the same places; one with the same literal as a map is a map whose entries that hold
something have the same keys and literals in the same order. -/
theorem asLiteral_eq_iff {v w : Value} (hv : v.IsPlain) (hw : w.IsPlain) :
    (v.asLiteral = w.asLiteral ↔ v.pruned = w.pruned) ∧
    (v.asLiteral = w.asLiteral →
      (∀ xs, v.items? = some xs →
        ∃ ys, w.items? = some ys ∧ xs.map Value.asLiteral = ys.map Value.asLiteral) ∧
      ∀ es, v = .map es → ∃ fs, w = .map fs ∧
        (es.filter fun e => !e.2.isNull).map (fun e => (e.1, e.2.asLiteral)) =
          (fs.filter fun e => !e.2.isNull).map fun e => (e.1, e.2.asLiteral)) := by
  refine ⟨⟨fun h => ?_, fun h => ?_⟩, fun h => ⟨fun xs hxs => ?_, ?_⟩⟩
  · rw [← hv.asValue_asLiteral, h, hw.asValue_asLiteral]
  · rw [← hv.asLiteral_pruned, h, hw.asLiteral_pruned]
  · exact hw.exists_items (h ▸ asLiteral_of_items hxs)
  · rintro es rfl
    obtain ⟨es', hes, hentries⟩ := hv.exists_entries rfl
    obtain rfl := Value.map.inj hes
    obtain ⟨fs, hfs, hentries'⟩ := hw.exists_entries h.symm
    exact ⟨fs, hfs, hentries.symm.trans hentries'⟩

/-- A map in which one entry holds nothing, and another one a tuple with nothing in it. -/
def sparseStyle : Value :=
  .map [(.str "color", .null), (.str "sizes", .tuple [.null, .int 2, .map [(.str "unit", .null)]])]

/-- The same style with a list, and without the entries that hold nothing. -/
def denseStyle : Value :=
  .map [(.str "sizes", .list [.null, .int 2, .map []])]

/-- The two styles have the same literal, and the nothing among the sizes keeps its place in it. -/
theorem asLiteral_sparseStyle :
    sparseStyle.IsPlain ∧ denseStyle.IsPlain ∧ sparseStyle.asLiteral = denseStyle.asLiteral ∧
      denseStyle.asLiteral = .object [("sizes",
        .array [.literal .null, .literal (.int 2), .object []])] := by
  have hunit : (Value.map [(.str "unit", .null)]).IsPlain :=
    .map (List.forall_mem_singleton.mpr rfl) (List.forall_mem_singleton.mpr .null)
  have hnone : (Value.map []).IsPlain := .map (List.forall_mem_nil _) (List.forall_mem_nil _)
  have hitems : ∀ v : Value, v.IsPlain → ∀ x ∈ [.null, .int 2, v], x.IsPlain := fun v hv =>
    List.forall_mem_cons.mpr ⟨.null,
      List.forall_mem_cons.mpr ⟨.int 2, List.forall_mem_singleton.mpr hv⟩⟩
  have hsparse : sparseStyle.IsPlain :=
    .map (List.forall_mem_cons.mpr ⟨rfl, List.forall_mem_singleton.mpr rfl⟩)
      (List.forall_mem_cons.mpr ⟨.null, List.forall_mem_singleton.mpr (.tuple (hitems _ hunit))⟩)
  have hdense : denseStyle.IsPlain :=
    .map (List.forall_mem_singleton.mpr rfl)
      (List.forall_mem_singleton.mpr (.list (hitems _ hnone)))
  exact ⟨hsparse, hdense, (asLiteral_eq_iff hsparse hdense).1.mpr (by rfl), by rfl⟩

end PageMarkup
