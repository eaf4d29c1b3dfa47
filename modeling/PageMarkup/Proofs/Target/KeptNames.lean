import PageMarkup.Proofs.Target.Registration
import PageMarkup.Proofs.Text.LetterCase

/-!
# Names that registrations keep

A registration that replaces nothing looks for its further names among all names that are taken, but
for its own name only among the targets. So it keeps every name that is known, unless its target is
new and has a name that was a further name before: this name stands for the new target from then on,
and is still listed as a further name of the other one. Once a target is dropped, its further names
are free.

What one registration does is said by the look-ups in the table after it
(`TargetTable.classOf?_put`, `TargetTable.lookup_aliases_put`). That the further names of a target
lead back to it rests on an invariant of the list of further names: each is listed once, in the form
in which it is looked up (`TargetTable.Listed`).

## Main definitions

* `TargetTable.Listed` : further names listed once each, in the form in which they are looked up.
* `TargetCall.replaces` : a registration that replaces a target.

## Main results

* `afterCalls_keptNames` : which names a registration keeps, and what further names stand for.
-/

namespace PageMarkup

variable {α : Type}

theorem targetKey_targetKey (name : String) : targetKey (targetKey name) = targetKey name := by
  rw [targetKey, targetKey, String.toList_ofList, Text.lower_lower]

/-! ### Lists of pairs with distinct keys -/

private theorem map_fst_putPair (pairs : List (String × α)) (key : String) (value : α) :
    (putPair pairs key value).map Prod.fst =
      if key ∈ pairs.map Prod.fst then pairs.map Prod.fst else pairs.map Prod.fst ++ [key] := by
  induction pairs with
  | nil => rfl
  | cons p ps ih =>
    rw [putPair, List.map_cons]
    split
    next hp => rw [if_pos (hp ▸ List.mem_cons_self), List.map_cons, hp]
    next hp =>
      rw [List.map_cons, ih]
      simp only [List.mem_cons, Ne.symm hp, false_or]
      split <;> rfl

private theorem nodup_keys_putPair {pairs : List (String × α)} (h : (pairs.map Prod.fst).Nodup)
    (key : String) (value : α) : ((putPair pairs key value).map Prod.fst).Nodup := by
  rw [map_fst_putPair]
  split
  · exact h
  next hkey => exact List.nodup_append.mpr ⟨h, List.pairwise_singleton _ key, fun a ha b hb hab =>
      hkey (List.mem_singleton.mp hb ▸ hab ▸ ha)⟩

private theorem lookup_of_mem {pairs : List (String × α)} (h : (pairs.map Prod.fst).Nodup)
    {p : String × α} (hp : p ∈ pairs) : pairs.lookup p.1 = some p.2 := by
  obtain ⟨before, after, rfl⟩ := List.append_of_mem hp
  refine List.lookup_eq_some_iff.mpr ⟨before, after, rfl, fun q hq => bne_iff_ne.mpr fun heq => ?_⟩
  rw [List.map_append, List.nodup_append] at h
  exact h.2.2 _ (List.mem_map_of_mem hq) _ (List.mem_map_of_mem List.mem_cons_self) heq.symm

namespace TargetTable

variable {t : TargetTable} {c : GeneratorClass} {key name target : String} {keys : List String}

/-! ### Looking up after a registration -/

theorem classOf?_put (t : TargetTable) (key : String) (c : GeneratorClass) (keys : List String)
    (other : String) :
    (t.put key c keys).classOf? other = if other = key then some c else t.classOf? other :=
  lookup_putPair t.classes key c other

theorem lookup_aliases_put (t : TargetTable) (key : String) (c : GeneratorClass)
    (keys : List String) (other : String) :
    (t.put key c keys).aliases.lookup other =
      if other ∈ keys then some key else t.aliases.lookup other := by
  change (keys.foldl (fun acc a => putPair acc a key) t.aliases).lookup other = _
  generalize t.aliases = pairs
  induction keys generalizing pairs with
  | nil => rfl
  | cons k keys ih =>
    rw [List.foldl_cons, ih, lookup_putPair]
    by_cases hkeys : other ∈ keys
    · rw [if_pos hkeys, if_pos (List.mem_cons_of_mem k hkeys)]
    · simp only [List.mem_cons, hkeys, or_false, if_false]

/-- A registration that replaces nothing and ends without a fault finds its target there already, or
puts it where there is none, with further names none of which belongs to another target. -/
theorem register_keeping_eq_ok {made : TargetTable} {candidate : Option GeneratorClass}
    {aliases : List String} (h : t.register target candidate aliases false = .ok made) :
    ((t.classOf? (targetKey target)).isSome ∧ made = t) ∨
      ∃ c, candidate = some c ∧ t.classOf? (targetKey target) = none ∧
        (∀ a ∈ aliasKeys (targetKey target) aliases, ∀ owner, t.owner? a = some owner →
          owner = targetKey target) ∧
        made = t.put (targetKey target) c (aliasKeys (targetKey target) aliases) := by
  cases candidate with
  | none => cases h
  | some c =>
    simp only [register, Bool.not_false, Bool.and_true, Bool.false_eq_true, if_false] at h
    split at h
    next hthere => exact .inl ⟨hthere, (Except.ok.inj h).symm⟩
    next hthere =>
      cases htaken : t.takenAlias? (targetKey target) (aliasKeys (targetKey target) aliases) with
      | some taken => simp only [htaken, reduceCtorEq] at h
      | none =>
        rw [htaken] at h
        refine .inr ⟨c, rfl, Option.not_isSome_iff_eq_none.mp hthere, fun a ha owner howner => ?_,
          (Except.ok.inj h).symm⟩
        have hfree := List.findSome?_eq_none_iff.mp htaken a ha
        simp only [howner] at hfree
        exact Decidable.byContradiction fun hne =>
          Option.some_ne_none _ ((if_neg hne).symm.trans hfree)

theorem find_of_class? (h : t.class? name = some c) : t.find name = .ok c := by
  rw [find, h]

theorem AliasesKnown.find_put_of_ne (h : t.AliasesKnown) (hnew : t.classOf? key = none)
    (hfree : ∀ a ∈ keys, ∀ owner, t.owner? a = some owner → owner = key)
    (hname : t.supports name = true) (hne : targetKey name ≠ key) (c : GeneratorClass) :
    (t.put key c keys).find name = t.find name := by
  obtain ⟨owner, howner⟩ := Option.isSome_iff_exists.mp hname
  obtain ⟨d, hd⟩ := h.exists_classOf? howner
  have hother : owner ≠ key := by
    rintro rfl
    exact Option.some_ne_none d (hd.symm.trans hnew)
  have hresolve : (t.put key c keys).resolve name = some owner := by
    have hkept : targetKey name ∉ keys := fun hmem => hother (hfree _ hmem owner howner)
    rw [← howner, resolve, resolve, classOf?_put, if_neg hne, lookup_aliases_put, if_neg hkept]
  have hmade : (t.put key c keys).class? name = some d := by
    rw [class?, hresolve, Option.bind_some, classOf?_put, if_neg hother, hd]
  rw [find_of_class? hmade, find_of_class? (c := d) (by rw [class?, howner, Option.bind_some, hd])]

theorem find_put_self (t : TargetTable) (c : GeneratorClass) (keys : List String)
    (hname : targetKey name = key) : (t.put key c keys).find name = .ok c := by
  have hclass : (t.put key c keys).classOf? key = some c := by rw [classOf?_put, if_pos rfl]
  refine find_of_class? ?_
  rw [class?, resolve, hname, hclass]
  exact hclass

/-! ### The list of further names -/

/-- Every further name is listed once, in the form in which it is looked up. -/
structure Listed (t : TargetTable) : Prop where
  targetKey_eq : ∀ p ∈ t.aliases, targetKey p.1 = p.1
  nodup : (t.aliases.map Prod.fst).Nodup

theorem listed_empty : empty.Listed := ⟨fun _ hp => absurd hp List.not_mem_nil, List.nodup_nil⟩

theorem Listed.put (h : t.Listed) (key : String) (c : GeneratorClass)
    (hkeys : ∀ k ∈ keys, targetKey k = k) : (t.put key c keys).Listed := by
  have hfold : ∀ pairs : List (String × String),
      (∀ p ∈ pairs, targetKey p.1 = p.1) → (pairs.map Prod.fst).Nodup →
        (∀ p ∈ keys.foldl (fun acc a => putPair acc a key) pairs, targetKey p.1 = p.1) ∧
          ((keys.foldl (fun acc a => putPair acc a key) pairs).map Prod.fst).Nodup := by
    induction keys with
    | nil => exact fun pairs hpairs hnodup => ⟨hpairs, hnodup⟩
    | cons k keys ih =>
      intro pairs hpairs hnodup
      refine ih (fun a ha => hkeys a (List.mem_cons_of_mem k ha)) _ (fun p hp => ?_)
        (nodup_keys_putPair hnodup k key)
      rcases mem_of_mem_putPair hp with rfl | hp
      · exact hkeys k List.mem_cons_self
      · exact hpairs p hp
  obtain ⟨hlowered, hnodup⟩ := hfold t.aliases h.targetKey_eq h.nodup
  exact ⟨hlowered, hnodup⟩

theorem Listed.unregister (h : t.Listed) (target : String) : (t.unregister target).Listed where
  targetKey_eq p hp := h.targetKey_eq p (List.mem_filter.mp hp).1
  nodup := h.nodup.sublist ((List.filter_sublist).map Prod.fst)

private theorem targetKey_of_mem_aliasKeys {aliases : List String} {k : String}
    (hk : k ∈ aliasKeys target aliases) : targetKey k = k := by
  obtain ⟨a, -, rfl⟩ := List.mem_map.mp (List.mem_filter.mp hk).1
  exact targetKey_targetKey a

theorem Listed.resolve_of_mem_aliasesOf (h : t.Listed) {a : String}
    (ha : a ∈ t.aliasesOf target) :
    t.resolve a = some (if (t.classOf? a).isSome then a else targetKey target) := by
  obtain ⟨p, hp, rfl⟩ := List.mem_map.mp (List.mem_mergeSort.mp ha)
  obtain ⟨hmem, howner⟩ := List.mem_filter.mp hp
  rw [resolve, h.targetKey_eq p hmem, lookup_of_mem h.nodup hmem, beq_iff_eq.mp howner]
  split <;> rfl

end TargetTable

/-! ### Calls -/

/-- Whether a call is a registration that replaces a target. -/
def TargetCall.replaces : TargetCall → Bool
  | .register _ _ _ replace => replace
  | .unregister _ => false

theorem TargetCall.after_listed {t : TargetTable} (h : t.Listed) (call : TargetCall) :
    (call.after t).Listed := by
  obtain heq | ⟨target, c, aliases, heq⟩ | ⟨target, heq⟩ := call.after_cases t
  · rw [heq]
    exact h
  · rw [heq]
    exact h.put _ c fun k hk => TargetTable.targetKey_of_mem_aliasKeys hk
  · rw [heq]
    exact h.unregister target

theorem afterCalls_listed (calls : List TargetCall) : (afterCalls calls).Listed :=
  afterCalls_induction TargetTable.listed_empty
    (fun _ call h => TargetCall.after_listed h call) calls

/-- **Which names a registration keeps.** After any calls, a registration that replaces nothing
keeps the class of every name that is known, if the name is not that of its target, if the target is
registered already, or if the registration ends with a fault. Otherwise the name is a further name
of another target that has become the name of a new target, and stands for this one. A further name
that is listed for a target stands for it, unless there is a target of this very name. -/
theorem afterCalls_keptNames (calls : List TargetCall) :
    (∀ target candidate aliases name, (afterCalls calls).supports name = true →
      (targetKey name ≠ targetKey target ∨
        ((afterCalls calls).classOf? (targetKey target)).isSome ∨
        (∃ fault, ((TargetTable.registerStepwise target candidate aliases false).outcome
          (afterCalls calls)).1 = .error fault) →
        (afterCalls (calls ++ [.register target candidate aliases false])).find name =
          (afterCalls calls).find name) ∧
      (∀ c, candidate = some c → targetKey name = targetKey target →
        (afterCalls calls).classOf? (targetKey target) = none →
        ((TargetTable.registerStepwise target candidate aliases false).outcome
          (afterCalls calls)).1 = .ok () →
        (afterCalls (calls ++ [.register target candidate aliases false])).find name = .ok c)) ∧
    ∀ target, ∀ a ∈ (afterCalls calls).aliasesOf target, (afterCalls calls).resolve a =
      some (if ((afterCalls calls).classOf? a).isSome then a else targetKey target) := by
  refine ⟨fun target candidate aliases name hname => ?_,
    fun target a ha => (afterCalls_listed calls).resolve_of_mem_aliasesOf ha⟩
  have hknown := afterCalls_aliasesKnown calls
  rw [afterCalls_append_singleton, TargetCall.after, TargetTable.registerStepwise_outcome]
  cases hregister : (afterCalls calls).register target candidate aliases false with
  | error fault =>
    refine ⟨fun _ => rfl, fun c _ _ _ hok => ?_⟩
    cases hok
  | ok made =>
    obtain ⟨hthere, rfl⟩ | ⟨c, rfl, hnew, hfree, rfl⟩ :=
      TargetTable.register_keeping_eq_ok hregister
    · exact ⟨fun _ => rfl, fun c _ _ hnone => by simp [hnone] at hthere⟩
    · refine ⟨fun hkept => hknown.find_put_of_ne hnew hfree hname (fun heq => ?_) c,
        fun d hd heq _ _ => Option.some.inj hd ▸ TargetTable.find_put_self _ c _ heq⟩
      rcases hkept with hne | hthere | ⟨fault, hfault⟩
      · exact hne heq
      · simp [hnew] at hthere
      · cases hfault

/-- The class of a generator that is made as the built-in one is. -/
def previewGeneratorClass : GeneratorClass :=
  { builtinClass with name := "PreviewGenerator" }

/-- A further name is kept when another target is registered, and goes over to a target that is
registered under this very name. -/
theorem afterCalls_keptNames_jsx :
    (afterCalls [.register "React" (some builtinClass) ["jsx"] false]).supports "JSX" = true ∧
    targetKey "JSX" ≠ targetKey "Vue" ∧
    (afterCalls [.register "React" (some builtinClass) ["jsx"] false,
      .register "Vue" (some previewGeneratorClass) ["vue3"] false]).find "JSX" =
        (afterCalls [.register "React" (some builtinClass) ["jsx"] false]).find "JSX" ∧
    (afterCalls [.register "React" (some builtinClass) ["jsx"] false]).classOf?
      (targetKey "JSX") = none ∧
    (afterCalls [.register "React" (some builtinClass) ["jsx"] false,
      .register "JSX" (some previewGeneratorClass) [] false]).find "jsx" =
        .ok previewGeneratorClass ∧
    "jsx" ∈ (afterCalls [.register "React" (some builtinClass) ["jsx"] false]).aliasesOf
      "React" ∧
    (afterCalls [.register "React" (some builtinClass) ["jsx"] false]).resolve "jsx" =
      some "react" := by
  have hkept := afterCalls_keptNames [.register "React" (some builtinClass) ["jsx"] false]
  have hknown : ∀ name, targetKey name = "jsx" →
      (afterCalls [.register "React" (some builtinClass) ["jsx"] false]).supports name =
        true := by
    intro name hname
    rw [TargetTable.supports, TargetTable.resolve, hname]
    rfl
  have hvue : targetKey "JSX" ≠ targetKey "Vue" := by decide
  have hnew : (afterCalls [.register "React" (some builtinClass) ["jsx"] false]).classOf?
      (targetKey "JSX") = none := by rfl
  have hlisted : "jsx" ∈ (afterCalls [.register "React" (some builtinClass) ["jsx"]
      false]).aliasesOf "React" := by
    refine List.mem_mergeSort.mpr ?_
    exact List.mem_singleton.mpr rfl
  exact ⟨hknown "JSX" (by rfl), hvue,
    (hkept.1 "Vue" (some previewGeneratorClass) ["vue3"] "JSX" (hknown "JSX" (by rfl))).1
      (.inl hvue),
    hnew,
    (hkept.1 "JSX" (some previewGeneratorClass) [] "jsx" (hknown "jsx" (by rfl))).2
      previewGeneratorClass rfl (by rfl) hnew (by rfl),
    hlisted, hkept.2 "React" "jsx" hlisted⟩

/-- A registration that replaces nothing takes a further name away from another target when the
name is that of its own target, and the further name is listed there all the same. -/
theorem not_forall_keptNames :
    ¬ (∀ calls target candidate aliases name, (∀ call ∈ calls, call.replaces = false) →
      (afterCalls calls).supports name = true →
      (afterCalls (calls ++ [.register target candidate aliases false])).find name =
        (afterCalls calls).find name) ∧
    ¬ (∀ calls target, (∀ call ∈ calls, TargetCall.replaces call = false) →
      ∀ a ∈ (afterCalls calls).aliasesOf target,
        (afterCalls calls).resolve a = some (targetKey target)) := by
  constructor
  · intro hkept
    have hfind := hkept [.register "React" (some builtinClass) ["jsx"] false] "JSX"
      (some previewGeneratorClass) [] "jsx"
      (fun call hcall => List.mem_singleton.mp hcall ▸ rfl) (by rfl)
    have hname := congrArg (fun found => found.toOption.map GeneratorClass.name) hfind
    exact absurd (Option.some.inj hname) (by decide)
  · intro hback
    have hresolve := hback [.register "React" (some builtinClass) ["jsx"] false,
      .register "JSX" (some previewGeneratorClass) [] false] "React"
      (fun call hcall => by
        rcases List.mem_cons.mp hcall with rfl | hcall
        · rfl
        · exact List.mem_singleton.mp hcall ▸ rfl)
      "jsx" (List.mem_mergeSort.mpr (List.mem_singleton.mpr rfl))
    exact absurd (Option.some.inj hresolve) (by decide)

end PageMarkup
