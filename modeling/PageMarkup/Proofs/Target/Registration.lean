import PageMarkup.Proofs.Content.Outcomes
import PageMarkup.Target.Table
import PageMarkup.Template.Source

/-!
# Registering and removing targets

A registration is written here as it happens on the table: the class is looked at, then each further
name, and the first of them that is taken ends the registration; only after that the class is put,
and then the further names one after the other. `registerStepwise_outcome` shows that this comes to
what `TargetTable.register` says, and that nothing has been put where it ends with a fault.

Whatever is registered and removed, in any order and with faults on the way, no further name is left
that points to a target without a class. One call keeps this (`TargetCall.after_aliasesKnown`), so a
run of calls does.

## Main definitions

* `TargetTable.AliasesKnown` : every further name points to a target with a class.
* `TargetTable.registerStepwise` : a registration on the table, step after step.
* `TargetCall`, `afterCalls` : the calls on a table, and the table after several of them.

## Main results

* `afterCalls_lookups` : what a table looks up after any calls, and which calls change nothing.
-/

namespace PageMarkup

variable {α : Type}

/-! ### Lists of pairs -/

theorem mem_of_mem_putPair {pairs : List (String × α)} {key : String} {value : α}
    {p : String × α} (h : p ∈ putPair pairs key value) : p = (key, value) ∨ p ∈ pairs := by
  induction pairs with
  | nil => exact .inl (List.mem_singleton.mp h)
  | cons q qs ih =>
    rw [putPair] at h
    split at h
    · rcases List.mem_cons.mp h with rfl | h
      · exact .inl rfl
      · exact .inr (List.mem_cons_of_mem _ h)
    · rcases List.mem_cons.mp h with rfl | h
      · exact .inr List.mem_cons_self
      · exact (ih h).imp_right (List.mem_cons_of_mem _)

private theorem lookup_cons_pair (p : String × α) (ps : List (String × α)) (key : String) :
    (p :: ps).lookup key = if key = p.1 then some p.2 else ps.lookup key := by
  by_cases h : key = p.1
  · subst h
    rw [if_pos rfl]
    exact List.lookup_cons_self
  · rw [if_neg h, List.lookup_cons, beq_false_of_ne h]

theorem lookup_putPair (pairs : List (String × α)) (key : String) (value : α) (other : String) :
    (putPair pairs key value).lookup other =
      if other = key then some value else pairs.lookup other := by
  induction pairs with
  | nil => exact lookup_cons_pair (key, value) [] other
  | cons p ps ih =>
    rw [putPair]
    split
    next hp =>
      rw [lookup_cons_pair, lookup_cons_pair, hp]
      split <;> rfl
    next hp =>
      rw [lookup_cons_pair, ih, lookup_cons_pair]
      split
      next ho => rw [if_neg (ho ▸ hp)]
      next => rfl

theorem lookup_filter_ne {pairs : List (String × α)} {key other : String} (h : other ≠ key) :
    (pairs.filter (·.1 != key)).lookup other = pairs.lookup other := by
  induction pairs with
  | nil => rfl
  | cons p ps ih =>
    by_cases hp : p.1 = key
    · rw [List.filter_cons_of_neg (by simp [hp]), ih, lookup_cons_pair, if_neg (hp ▸ h)]
    · rw [List.filter_cons_of_pos (by simp [hp]), lookup_cons_pair, lookup_cons_pair, ih]

namespace TargetTable

/-! ### A registration step after step -/

/-- A computation on a table that may end early with a fault. What it has put by then stays. -/
abbrev Registering := ExceptT TargetFault (StateM TargetTable)

/-- What a computation comes to on a table, and the table after it. -/
def Registering.outcome (r : Registering α) (t : TargetTable) :
    Except TargetFault α × TargetTable :=
  r.run.run t

theorem Registering.outcome_bind {β : Type} (r : Registering α) (k : α → Registering β)
    (t : TargetTable) :
    Registering.outcome (r >>= k) t =
      match Registering.outcome r t with
      | (.ok a, t) => Registering.outcome (k a) t
      | (.error fault, t) => (.error fault, t) := by
  refine (outcomeOn_bind r k t).trans ?_
  change _ = match outcomeOn r t with | (.ok a, t) => _ | (.error fault, t) => _
  rcases outcomeOn r t with ⟨_ | _, _⟩ <;> rfl

/-- Ends the registration of a target if a key belongs to another one. -/
def checkAlias (target key : String) : Registering Unit := do
  match (← get).owner? key with
  | some owner => if owner = target then pure () else throw (.aliasTaken key owner)
  | none => pure ()

/-- Ends the registration of a target if one of several keys belongs to another one, unless targets
are to be replaced. -/
def checkAliases (target : String) (keys : List String) (replace : Bool) : Registering Unit :=
  if replace then pure () else keys.forM (checkAlias target)

/-- Puts the class of a target. -/
def putClass (target : String) (c : GeneratorClass) : Registering Unit :=
  modify fun t => { t with classes := putPair t.classes target c }

def putAlias (target key : String) : Registering Unit :=
  modify fun t => { t with aliases := putPair t.aliases key target }

/-- Registers a class, if it is one, under a target and further names. -/
def registerStepwise (target : String) (candidate : Option GeneratorClass)
    (aliases : List String) (replace : Bool) : Registering Unit :=
  match candidate with
  | none => throw .notGenerator
  | some c => do
    let key := targetKey target
    if ((← get).classOf? key).isSome && !replace then
      pure ()
    else
      checkAliases key (aliasKeys key aliases) replace
      putClass key c
      (aliasKeys key aliases).forM (putAlias key)

private theorem checkAlias_outcome (target key : String) (t : TargetTable) :
    (checkAlias target key).outcome t =
      match t.owner? key with
      | some owner => if owner = target then (.ok (), t) else (.error (.aliasTaken key owner), t)
      | none => (.ok (), t) := by
  rw [checkAlias, Registering.outcome_bind]
  show Registering.outcome (match t.owner? key with
    | some owner => if owner = target then pure () else throw (.aliasTaken key owner)
    | none => pure ()) t = _
  cases t.owner? key with
  | none => rfl
  | some owner =>
    dsimp only
    split <;> rfl

private theorem forM_checkAlias_outcome (target : String) (keys : List String) (t : TargetTable) :
    (keys.forM (checkAlias target)).outcome t =
      match t.takenAlias? target keys with
      | some (key, owner) => (.error (.aliasTaken key owner), t)
      | none => (.ok (), t) := by
  induction keys with
  | nil => rfl
  | cons key keys ih =>
    show Registering.outcome
      (checkAlias target key >>= fun _ => keys.forM (checkAlias target)) t = _
    rw [Registering.outcome_bind, checkAlias_outcome, takenAlias?, List.findSome?_cons]
    cases t.owner? key with
    | none => exact ih
    | some owner =>
      by_cases h : owner = target
      · simp only [if_pos h]
        exact ih
      · simp only [if_neg h]

private theorem forM_putAlias_outcome (target : String) (keys : List String) (t : TargetTable) :
    (keys.forM (putAlias target)).outcome t =
      (.ok (), { t with
        aliases := keys.foldl (fun acc key => putPair acc key target) t.aliases }) := by
  induction keys generalizing t with
  | nil => rfl
  | cons key keys ih => exact ih _

/-- A registration on the table comes to the table that is said to be its result, and leaves the
table as it is where it ends with a fault. -/
theorem registerStepwise_outcome (target : String) (candidate : Option GeneratorClass)
    (aliases : List String) (replace : Bool) (t : TargetTable) :
    (registerStepwise target candidate aliases replace).outcome t =
      match t.register target candidate aliases replace with
      | .ok made => (.ok (), made)
      | .error fault => (.error fault, t) := by
  cases candidate with
  | none => rfl
  | some c =>
    rw [registerStepwise, register, Registering.outcome_bind]
    show Registering.outcome (if ((t.classOf? (targetKey target)).isSome && !replace) = true
      then _ else _) t = _
    split
    · rfl
    · rw [Registering.outcome_bind, checkAliases]
      have hput : ∀ keys, Registering.outcome (putClass (targetKey target) c >>= fun _ =>
          keys.forM (putAlias (targetKey target))) t =
            (.ok (), t.put (targetKey target) c keys) :=
        fun keys => forM_putAlias_outcome (targetKey target) keys _
      cases replace with
      | true => exact hput _
      | false =>
        simp only [Bool.false_eq_true, if_false, forM_checkAlias_outcome]
        cases t.takenAlias? (targetKey target) (aliasKeys (targetKey target) aliases) with
        | none => exact hput _
        | some taken => rfl

theorem register_of_isSome {t : TargetTable} {target : String}
    (hthere : (t.classOf? (targetKey target)).isSome) (c : GeneratorClass)
    (aliases : List String) : t.register target (some c) aliases false = .ok t := by
  simp [register, hthere]

theorem register_eq_ok {t made : TargetTable} {target : String}
    {candidate : Option GeneratorClass} {aliases : List String} {replace : Bool}
    (h : t.register target candidate aliases replace = .ok made) :
    made = t ∨ ∃ c, candidate = some c ∧
      made = t.put (targetKey target) c (aliasKeys (targetKey target) aliases) := by
  cases candidate with
  | none => cases h
  | some c =>
    simp only [register] at h
    split at h
    · exact .inl (Except.ok.inj h).symm
    · split at h
      · cases h
      · exact .inr ⟨c, rfl, (Except.ok.inj h).symm⟩

/-! ### Further names and their targets -/

/-- Every further name points to a target with a class. -/
def AliasesKnown (t : TargetTable) : Prop := ∀ p ∈ t.aliases, (t.classOf? p.2).isSome

theorem aliasesKnown_empty : empty.AliasesKnown := fun _ hp => nomatch hp

private theorem mem_aliases_put {t : TargetTable} {key : String} {c : GeneratorClass}
    {keys : List String} {p : String × String} (h : p ∈ (t.put key c keys).aliases) :
    p.2 = key ∨ p ∈ t.aliases := by
  change p ∈ keys.foldl (fun acc a => putPair acc a key) t.aliases at h
  generalize t.aliases = pairs at h ⊢
  induction keys generalizing pairs with
  | nil => exact .inr h
  | cons k keys ih =>
    rcases ih _ h with h | h
    · exact .inl h
    · exact (mem_of_mem_putPair h).imp_left (congrArg Prod.snd)

theorem AliasesKnown.put {t : TargetTable} (h : t.AliasesKnown) (key : String)
    (c : GeneratorClass) (keys : List String) : (t.put key c keys).AliasesKnown := by
  intro p hp
  change ((putPair t.classes key c).lookup p.2).isSome
  rw [lookup_putPair]
  split
  · rfl
  · next hne => exact h p ((mem_aliases_put hp).resolve_left hne)

theorem AliasesKnown.unregister {t : TargetTable} (h : t.AliasesKnown) (target : String) :
    (t.unregister target).AliasesKnown := by
  intro p hp
  obtain ⟨hp, hne⟩ := List.mem_filter.mp hp
  change ((t.classes.filter (·.1 != targetKey target)).lookup p.2).isSome
  rw [lookup_filter_ne (bne_iff_ne.mp hne)]
  exact h p hp

theorem AliasesKnown.exists_classOf? {t : TargetTable} (h : t.AliasesKnown) {name key : String}
    (hresolve : t.resolve name = some key) : ∃ c, t.classOf? key = some c := by
  rw [resolve] at hresolve
  split at hresolve
  next hsome =>
    obtain rfl := Option.some.inj hresolve
    exact Option.isSome_iff_exists.mp hsome
  next =>
    obtain ⟨before, after, happ, -⟩ := List.lookup_eq_some_iff.mp hresolve
    have hmem : (targetKey name, key) ∈ t.aliases :=
      happ ▸ List.mem_append_right before List.mem_cons_self
    exact Option.isSome_iff_exists.mp (h _ hmem)

theorem AliasesKnown.supports_iff {t : TargetTable} (h : t.AliasesKnown) (name : String) :
    t.supports name = true ↔ ∃ c, t.find name = .ok c := by
  rw [supports, find, class?]
  cases hresolve : t.resolve name with
  | none => simp
  | some key =>
    obtain ⟨c, hc⟩ := h.exists_classOf? hresolve
    simp [hc]

end TargetTable

/-! ### Calls -/

/-- What may be asked of a table: to register what is a class or not, or to drop a target. -/
inductive TargetCall where
  | register (target : String) (candidate : Option GeneratorClass) (aliases : List String)
      (replace : Bool)
  | unregister (target : String)

/-- The table after a call, whether or not the call ends with a fault. -/
def TargetCall.after (t : TargetTable) : TargetCall → TargetTable
  | .register target candidate aliases replace =>
    ((TargetTable.registerStepwise target candidate aliases replace).outcome t).2
  | .unregister target => t.unregister target

/-- The table after several calls, beginning with the empty one. -/
def afterCalls (calls : List TargetCall) : TargetTable :=
  calls.foldl TargetCall.after .empty

theorem afterCalls_append_singleton (calls : List TargetCall) (call : TargetCall) :
    afterCalls (calls ++ [call]) = call.after (afterCalls calls) := by
  rw [afterCalls, afterCalls, List.foldl_append, List.foldl_cons, List.foldl_nil]

/-- All that a call can do: nothing, put a class under a target and its further names, or drop a
target. -/
theorem TargetCall.after_cases (t : TargetTable) (call : TargetCall) :
    call.after t = t ∨
      (∃ target c aliases, call.after t = t.put (targetKey target) c
        (TargetTable.aliasKeys (targetKey target) aliases)) ∨
      ∃ target, call.after t = t.unregister target := by
  cases call with
  | unregister target => exact .inr (.inr ⟨target, rfl⟩)
  | register target candidate aliases replace =>
    rw [after, TargetTable.registerStepwise_outcome]
    cases hregister : t.register target candidate aliases replace with
    | error fault => exact .inl rfl
    | ok made =>
      obtain rfl | ⟨c, -, rfl⟩ := TargetTable.register_eq_ok hregister
      · exact .inl rfl
      · exact .inr (.inl ⟨target, c, aliases, rfl⟩)

/-- One call leaves no further name that points to a target without a class. -/
theorem TargetCall.after_aliasesKnown {t : TargetTable} (h : t.AliasesKnown) (call : TargetCall) :
    (call.after t).AliasesKnown := by
  obtain heq | ⟨target, c, aliases, heq⟩ | ⟨target, heq⟩ := call.after_cases t
  · rw [heq]
    exact h
  · rw [heq]
    exact h.put _ _ _
  · rw [heq]
    exact h.unregister target

theorem afterCalls_induction {motive : TargetTable → Prop} (hempty : motive .empty)
    (hcall : ∀ t call, motive t → motive (TargetCall.after t call)) (calls : List TargetCall) :
    motive (afterCalls calls) := by
  have hfrom : ∀ t, motive t → motive (calls.foldl TargetCall.after t) := by
    induction calls with
    | nil => exact fun t ht => ht
    | cons call calls ih => exact fun t ht => ih (call.after t) (hcall t call ht)
  exact hfrom .empty hempty

theorem afterCalls_aliasesKnown (calls : List TargetCall) : (afterCalls calls).AliasesKnown :=
  afterCalls_induction TargetTable.aliasesKnown_empty
    (fun _ call h => TargetCall.after_aliasesKnown h call) calls

/-- **A table looks up what is registered, and calls without effect change nothing.** After any
calls on an empty table, every further name points to a target with a class. So a name that stands
for a target stands for one with a class, and a name is known if and only if there is a class to be
found for it. Once a target is dropped, no further name points to it. A registration that ends with
a fault leaves the table as it is, and so does one of a class under a target that is registered
already and not to be replaced. -/
theorem afterCalls_lookups (calls : List TargetCall) :
    (∀ p ∈ (afterCalls calls).aliases, ((afterCalls calls).classOf? p.2).isSome) ∧
    (∀ name, (afterCalls calls).supports name = true ↔
      ∃ c, (afterCalls calls).find name = .ok c) ∧
    (∀ name key, (afterCalls calls).resolve name = some key →
      ∃ c, (afterCalls calls).classOf? key = some c) ∧
    (∀ target, ∀ p ∈ (afterCalls (calls ++ [.unregister target])).aliases,
      p.2 ≠ targetKey target) ∧
    ∀ target candidate aliases replace,
      (∀ fault t, (TargetTable.registerStepwise target candidate aliases replace).outcome
          (afterCalls calls) = (.error fault, t) → t = afterCalls calls) ∧
      (((afterCalls calls).classOf? (targetKey target)).isSome → replace = false →
        afterCalls (calls ++ [.register target candidate aliases replace]) =
          afterCalls calls) := by
  have hknown := afterCalls_aliasesKnown calls
  refine ⟨hknown, hknown.supports_iff, fun name key => hknown.exists_classOf?, ?_, ?_⟩
  · intro target p hp
    rw [afterCalls_append_singleton] at hp
    exact bne_iff_ne.mp (List.mem_filter.mp hp).2
  · intro target candidate aliases replace
    constructor
    · intro fault t houtcome
      rw [TargetTable.registerStepwise_outcome] at houtcome
      split at houtcome
      · cases houtcome
      · exact (Prod.mk.inj houtcome).2.symm
    · intro hthere hreplace
      rw [afterCalls_append_singleton, TargetCall.after, TargetTable.registerStepwise_outcome,
        hreplace]
      cases candidate with
      | none => rfl
      | some c => rw [TargetTable.register_of_isSome hthere]

/-- The class of the built-in generator, whose templates are read. -/
def builtinClass : GeneratorClass :=
  pageGeneratorClass .reading

/-- The table with one target and a further name for it. A second target that asks for this name
after one of its own changes nothing, although its own name is free. -/
theorem afterCalls_lookups_taken :
    (TargetTable.registerStepwise "Vue" (some builtinClass) ["vue3", "JSX"] false).outcome
        (afterCalls [.register "React" (some builtinClass) ["jsx"] false]) =
      (.error (.aliasTaken "jsx" "react"),
        ⟨[("react", builtinClass)], [("jsx", "react")]⟩) ∧
    (⟨[("react", builtinClass)], [("jsx", "react")]⟩ : TargetTable) =
      afterCalls [.register "React" (some builtinClass) ["jsx"] false] ∧
    ((afterCalls [.register "React" (some builtinClass) ["jsx"] false]).classOf?
      (targetKey "REACT")).isSome ∧
    afterCalls [.register "React" (some builtinClass) ["jsx"] false,
        .register "REACT" (some builtinClass) ["tsx"] false] =
      afterCalls [.register "React" (some builtinClass) ["jsx"] false] := by
  have hcalls := afterCalls_lookups [.register "React" (some builtinClass) ["jsx"] false]
  obtain ⟨-, -, -, -, hkept⟩ := hcalls
  have htaken : (TargetTable.registerStepwise "Vue" (some builtinClass) ["vue3", "JSX"]
      false).outcome (afterCalls [.register "React" (some builtinClass) ["jsx"] false]) =
      (.error (.aliasTaken "jsx" "react"),
        ⟨[("react", builtinClass)], [("jsx", "react")]⟩) := by rfl
  have hthere : ((afterCalls [.register "React" (some builtinClass) ["jsx"] false]).classOf?
      (targetKey "REACT")).isSome := by rfl
  exact ⟨htaken, (hkept "Vue" (some builtinClass) ["vue3", "JSX"] false).1 _ _ htaken,
    hthere, (hkept "REACT" (some builtinClass) ["tsx"] false).2 hthere rfl⟩

end PageMarkup
