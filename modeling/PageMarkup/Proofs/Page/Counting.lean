import PageMarkup.Page.Content
import PageMarkup.Proofs.Page.Descent

/-!
# Counting the nodes of a document

The nodes of a document are counted through every list among their properties, whatever the fields
of these properties are. The count comes to an end unless it meets an entry with a type whose
properties are something other than a map.

## Main definitions

* `ListedBelow` : an entry of a list among the properties of a node.
* `Counts` : a count comes to an end.

## Main results

* `counts_countNode_iff`, `counts_countAll_iff` : when nodes can be counted.
* `countNodes_eq` : the nodes of a document are counted in its top-level nodes.
-/

namespace PageMarkup

open Relation (ReflTransGen)

/-- An entry stands in a list among the properties of a node. -/
def ListedBelow (v w : Value) : Prop :=
  (v.get? "type").isSome = true ∧ ∃ ps, v.get? "props" = some (.map ps) ∧
    ∃ e ∈ ps, w ∈ e.2.items?.getD []

theorem ListedBelow.sizeOf_lt {v w : Value} (h : ListedBelow v w) : sizeOf w < sizeOf v := by
  obtain ⟨-, ps, hps, e, he, hw⟩ := h
  exact sizeOf_lt_of_mem_props hps he hw

/-- A count comes to an end. -/
def Counts (r : Except Misuse Nat) : Prop :=
  Gives (fun _ => True) r

theorem counts_ok (n : Nat) : Counts (.ok n) := ⟨n, rfl, trivial⟩

private theorem counts_add_iff {x y : Except Misuse Nat} :
    Counts (do return (← x) + (← y)) ↔ Counts x ∧ Counts y :=
  gives_pair_iff (P := fun _ => True) fun _ _ => (and_self_iff (a := True)).symm

theorem count_add_eq_ok_iff {x y : Except Misuse Nat} {n : Nat} :
    (do return (← x) + (← y)) = Except.ok n ↔ ∃ a b, x = .ok a ∧ y = .ok b ∧ a + b = n := by
  simp only [bind_eq_ok_iff, pure, Except.pure, Except.ok.injEq]
  constructor
  · rintro ⟨a, hx, b, hy, hsum⟩
    exact ⟨a, b, hx, hy, hsum⟩
  · rintro ⟨a, b, hx, hy, hsum⟩
    exact ⟨a, hx, b, hy, hsum⟩

/-- Nodes can be counted together if each of them can. -/
theorem counts_countAll_iff {vs : List Value} :
    Counts (countAll vs) ↔ ∀ v ∈ vs, Counts (countNode v) := by
  induction vs with
  | nil => exact iff_of_true (counts_ok 0) fun v hv => nomatch hv
  | cons v vs ih => rw [countAll, counts_add_iff, ih, List.forall_mem_cons]

theorem countInLists_cons (e : Value × Value) (ps : Entries Value) :
    countInLists (e :: ps) =
      (do return (← countAll (e.2.items?.getD [])) + (← countInLists ps)) := by
  obtain ⟨k, v⟩ := e
  cases v <;> rfl

private theorem counts_countInLists_iff {ps : Entries Value} : Counts (countInLists ps) ↔
    ∀ e ∈ ps, ∀ w ∈ e.2.items?.getD [], Counts (countNode w) := by
  induction ps with
  | nil => exact iff_of_true (counts_ok 0) fun e he => nomatch he
  | cons e ps ih =>
    rw [countInLists_cons, counts_add_iff, ih, counts_countAll_iff, List.forall_mem_cons]

private theorem countInProps_eq (es : Entries Value) :
    countInProps es = throughProps countInLists 0 (.map es) := by
  induction es with
  | nil => rfl
  | cons e es ih =>
    obtain ⟨k, v⟩ := e
    rw [throughProps_cons, ← ih]
    cases v <;> rfl

/-- An entry with a type counts as one, together with what its properties hold; another one counts
as none. -/
theorem countNode_eq (v : Value) :
    countNode v = if (v.get? "type").isSome then
      (do return 1 + (← throughProps countInLists 0 v)) else .ok 0 := by
  cases v with
  | map es =>
    rw [countNode, Entries.has_eq_isSome, countInProps_eq]
    rfl
  | _ => rfl

/-- A node can be counted if its properties are a map and all that is listed below it can. -/
private theorem counts_countNode_step (v : Value) : Counts (countNode v) ↔
    ((v.get? "type").isSome = true → v.HoldsMap) ∧ ∀ w, ListedBelow v w → Counts (countNode w) := by
  rw [countNode_eq]
  by_cases htype : (v.get? "type").isSome = true
  · have hprops : Counts (throughProps countInLists 0 v) ↔ v.HoldsMap ∧
        ∀ ps, v.get? "props" = some (.map ps) → Counts (countInLists ps) :=
      gives_throughProps_iff trivial
    have hplus : Counts (do return 1 + (← throughProps countInLists 0 v)) ↔
        Counts (throughProps countInLists 0 v) :=
      (counts_add_iff (x := .ok 1)).trans (and_iff_right (counts_ok 1))
    rw [if_pos htype, hplus, hprops]
    simp only [counts_countInLists_iff, ListedBelow, htype, true_and, forall_true_left]
    constructor
    · rintro ⟨hmap, hlists⟩
      exact ⟨hmap, fun w ⟨ps, hps, e, he, hw⟩ => hlists ps hps e he w hw⟩
    · rintro ⟨hmap, hlists⟩
      exact ⟨hmap, fun ps hps e he w hw => hlists w ⟨ps, hps, e, he, hw⟩⟩
  · rw [if_neg htype]
    exact iff_of_true (counts_ok 0) ⟨fun h => absurd h htype, fun w hw => absurd hw.1 htype⟩

/-- A node can be counted if every entry with a type that is listed below it holds a map. -/
theorem counts_countNode_iff (v : Value) : Counts (countNode v) ↔
    ∀ w, ReflTransGen ListedBelow v w → (w.get? "type").isSome = true → w.HoldsMap :=
  forall_reached_iff sizeOf ListedBelow.sizeOf_lt counts_countNode_step v

/-- The nodes of a document are those of its content. -/
theorem countNodes_eq {document : Value} {nodes : List Value}
    (h : contentNodes document = .ok nodes) : countNodes document = countAll nodes := by
  cases document with
  | map es =>
    simp only [contentNodes, countNodes] at h ⊢
    split at h
    case h_1 xs hxs =>
      cases h
      rw [hxs]
      rfl
    case h_2 hnone =>
      rw [hnone]
      split at h
      · cases h
      · cases h
        rfl
  | null => cases h; rfl
  | list => cases h; rfl
  | tuple => cases h; rfl
  | _ => cases h

end PageMarkup
