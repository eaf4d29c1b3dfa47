import PageMarkup.Proofs.Content.PlainData
import PageMarkup.Proofs.Imports.Kept

/-!
# Histories of an import table

A table lives through calls, each with several requests. A call that fails is not the end of it:
what it has met by then stays, and the next call finds the table as this one has left it. A request
is written here as it happens on the table, where the entry of a new path is made on the way, and
`registerStepwise_outcome` shows that this comes to what `ImportTable.register` says.

So a request that fails must not leave an entry that asks for nothing. One that is made of texts
does not: it fails before its entry is made. Therefore whatever calls a table has lived through,
with failures on the way, it holds requests that can all be met, those that were met; every path in
it asks for something, and has its declaration.

## Main definitions

* `ImportTable.registerStepwise`, `ImportTable.registerEach` : requests on the table, step after
  step.
* `ImportTable.afterCalls` : the table after several calls, whether or not they fail.
* `ImportTable.MeetsSome` : tables that hold requests made of texts that can all be met.
* `ImportTable.AliasesApart` : no alias in a table is the name itself.

## Main results

* `ImportTable.registerStepwise_outcome`, `ImportTable.registerEach_outcome` : the requests of a
  call on the table.
* `ImportTable.registerAll_eq_error_iff` : where a call fails.
* `ImportTable.meetsSome_afterCalls`, `ImportTable.aliasesApart_afterCalls` : every history.
* `registerEach_leaves_met` : what failed calls leave.
-/

namespace PageMarkup

open ImportSpec (Clashing)

namespace ImportTable

variable {t t' : ImportTable} {spec : ImportSpec}

/-! ### A request step after step -/

/-- A computation on a table that may end early with a fault. What it has put by then stays. -/
abbrev Requesting := ExceptT Fault (StateM ImportTable)

/-- Ends a request if a value cannot serve as a key. -/
def needKey (v : Value) : Requesting Unit :=
  if v.hashable then pure () else throw (.misuse .notHashable)

/-- The entry of a path, if it has one. -/
def lookUp (path : Value) : Requesting (Option ImportEntry) := do
  needKey path
  return (← get).entries.find? path

/-- Makes the entry of a path unless it has one. -/
def makeEntry (path : Value) : Requesting Unit :=
  modify fun t => t.withEntry path

/-- Changes the entry of a path. -/
def changeEntry (path : Value) (change : ImportEntry → ImportEntry) : Requesting Unit :=
  modify fun t => t.putEntry path (change (t.entry path))

/-- Ends a request for a default export if the path has one under another name. -/
def checkDefault (path name : Value) (present : Option ImportEntry) : Requesting Unit :=
  match present with
  | none => pure ()
  | some e =>
    if e.default.truthy && !e.default.same name then
      throw (.importConflict (.defaults path e.default name))
    else pure ()

/-- The alias under which an exported name is there already, if it is. -/
def lookUpName (name : Value) (present : Option ImportEntry) : Requesting (Option Value) :=
  match present with
  | none => pure none
  | some e => do
    needKey name
    return e.named.find? name

/-- Adds an exported name with its alias to the entry of a path. -/
def addName (path name kept : Value) : Requesting Unit := do
  makeEntry path
  needKey name
  changeEntry path fun e => { e with named := e.named ++ [(name, kept)] }

/-- Meets a request on the table. -/
def registerStepwise : ImportSpec → Requesting Unit
  | .default path name => do
    let present ← lookUp path
    if !name.truthy then throw (.content (.defaultWithoutName path)) else
    checkDefault path name present
    makeEntry path
    changeEntry path fun e => { e with default := name }
  | .named path name rename => do
    let present ← lookUp path
    if !name.truthy then throw (.content (.namedWithoutName path)) else
    match ← lookUpName name present with
    | some kept =>
      if kept.same (keptAlias name rename) then pure ()
      else throw (.importConflict (.aliases name path kept (keptAlias name rename)))
    | none => addName path name (keptAlias name rename)

/-- Meets requests one after the other. -/
def registerEach (specs : List ImportSpec) : Requesting Unit :=
  specs.forM registerStepwise

section Outcomes

variable (s : String) (name : Value) (t : ImportTable)

private theorem needKey_outcome : outcomeOn (needKey name) t =
    if name.hashable then (.ok (), t) else (.error (.misuse .notHashable), t) := by
  unfold needKey
  split <;> rfl

private theorem lookUp_outcome :
    outcomeOn (lookUp (.str s)) t = (.ok (t.entries.find? (.str s)), t) := by
  rfl

private theorem checkDefault_outcome :
    outcomeOn (checkDefault (.str s) name (t.entries.find? (.str s))) t =
      if (t.entry (.str s)).default.truthy && !(t.entry (.str s)).default.same name then
        (.error (.importConflict (.defaults (.str s) (t.entry (.str s)).default name)), t)
      else (.ok (), t) := by
  rw [entry]
  cases t.entries.find? (.str s) with
  | none => rfl
  | some e =>
    rw [checkDefault, Option.getD_some]
    split <;> rfl

private theorem lookUpName_outcome (hname : name.hashable = true) :
    outcomeOn (lookUpName name (t.entries.find? (.str s))) t =
      (.ok ((t.entry (.str s)).named.find? name), t) := by
  rw [entry]
  cases t.entries.find? (.str s) with
  | none => rfl
  | some e =>
    rw [lookUpName, outcomeOn_bind, needKey_outcome, if_pos hname]
    rfl

private theorem makeEntry_outcome :
    outcomeOn (makeEntry (.str s)) t = (.ok (), t.withEntry (.str s)) := by
  rfl

private theorem withEntry_spec : (t.withEntry (.str s)).entry (.str s) = t.entry (.str s) ∧
    ∀ e, (t.withEntry (.str s)).putEntry (.str s) e = t.putEntry (.str s) e := by
  unfold withEntry
  split
  · exact ⟨rfl, fun _ => rfl⟩
  · next hnew =>
    rw [Entries.has_eq_isSome, Option.not_isSome_iff_eq_none] at hnew
    refine ⟨?_, fun e => ?_⟩
    · rw [entry, entry, hnew, putEntry, Entries.find?_put, if_pos (Value.same_str_iff.mpr rfl)]
      rfl
    · rw [putEntry, putEntry, putEntry, Entries.put_put]

private theorem changeEntry_outcome (change : ImportEntry → ImportEntry) :
    outcomeOn (changeEntry (.str s) change) (t.withEntry (.str s)) =
      (.ok (), t.putEntry (.str s) (change (t.entry (.str s)))) := by
  obtain ⟨hentry, hput⟩ := withEntry_spec s t
  change (Except.ok (), (t.withEntry (.str s)).putEntry (.str s)
    (change ((t.withEntry (.str s)).entry (.str s)))) = _
  rw [hentry, hput]

private theorem addName_outcome (kept : Value) : outcomeOn (addName (.str s) name kept) t =
    if name.hashable then
      (.ok (), t.putEntry (.str s) { t.entry (.str s) with
        named := (t.entry (.str s)).named ++ [(name, kept)] })
    else (.error (.misuse .notHashable), t.withEntry (.str s)) := by
  rw [addName, outcomeOn_bind, makeEntry_outcome]
  dsimp only
  rw [outcomeOn_bind, needKey_outcome]
  by_cases hkey : name.hashable = true
  · simp only [if_pos hkey]
    exact changeEntry_outcome s t _
  · simp only [if_neg hkey]

private theorem registerStepwise_default_outcome :
    outcomeOn (registerStepwise (.default (.str s) name)) t =
      match t.registerDefault (.str s) name with
      | .ok made => (.ok (), made)
      | .error fault => (.error fault, t) := by
  rw [registerStepwise, outcomeOn_bind, lookUp_outcome, registerDefault]
  dsimp only
  cases hname : name.truthy with
  | false => rfl
  | true =>
    simp only [Bool.not_true, Bool.false_eq_true, if_false]
    rw [outcomeOn_bind, checkDefault_outcome]
    by_cases hclash : ((t.entry (.str s)).default.truthy &&
        !(t.entry (.str s)).default.same name) = true
    · simp only [if_pos hclash]
    · simp only [if_neg hclash]
      rw [outcomeOn_bind, makeEntry_outcome]
      exact changeEntry_outcome s t _

private theorem registerStepwise_named_outcome (rename : Value) :
    outcomeOn (registerStepwise (.named (.str s) name rename)) t =
      match t.registerNamed (.str s) name rename with
      | .ok made => (.ok (), made)
      | .error fault => (.error fault, t.leftBy (.named (.str s) name rename)) := by
  have hpath : (Value.str s).hashable = true := rfl
  rw [registerStepwise, outcomeOn_bind, lookUp_outcome, registerNamed, leftBy, hpath]
  dsimp only
  cases hname : name.truthy with
  | false => rfl
  | true =>
    simp only [Bool.not_true, Bool.false_eq_true, if_false, Bool.true_and]
    rw [outcomeOn_bind]
    cases hkey : name.hashable with
    | true =>
      rw [lookUpName_outcome s name t hkey]
      cases (t.entry (.str s)).named.find? name with
      | none =>
        dsimp only
        rw [addName_outcome, if_pos hkey]
        rfl
      | some kept =>
        dsimp only
        split <;> rfl
    | false =>
      -- a new path has its entry by the time the name is used as a key
      cases hfound : t.entries.find? (.str s) with
      | none =>
        change outcomeOn (addName (.str s) name (keptAlias name rename)) t = _
        rw [addName_outcome, if_neg (by simp [hkey])]
        rfl
      | some e =>
        have hthere : t.withEntry (.str s) = t := by
          rw [withEntry, Entries.has_eq_isSome, hfound]
          rfl
        rw [lookUpName, outcomeOn_bind, needKey_outcome, if_neg (by simp [hkey]), hthere]
        rfl

end Outcomes

/-- A request on the table comes to the table that is said to be its result, and leaves the one that
is said to be left where it ends with a fault. -/
theorem registerStepwise_outcome (hpath : spec.path.isStr = true) (t : ImportTable) :
    outcomeOn (registerStepwise spec) t =
      match t.register spec with
      | .ok made => (.ok (), made)
      | .error fault => (.error fault, t.leftBy spec) := by
  obtain ⟨s, hs⟩ := Value.isStr_iff.mp hpath
  cases spec with
  | default path name =>
    obtain rfl : path = .str s := hs
    exact registerStepwise_default_outcome s name t
  | named path name rename =>
    obtain rfl : path = .str s := hs
    exact registerStepwise_named_outcome s name t rename

/-- The requests of a call on the table come to what is said of them. -/
theorem registerEach_outcome {specs : List ImportSpec}
    (hpaths : ∀ spec ∈ specs, spec.path.isStr = true) (t : ImportTable) :
    outcomeOn (registerEach specs) t = t.registerAll specs := by
  induction specs generalizing t with
  | nil => rfl
  | cons spec specs ih =>
    obtain ⟨hpath, hpaths⟩ := List.forall_mem_cons.mp hpaths
    change outcomeOn (registerStepwise spec >>= fun _ => registerEach specs) t = _
    rw [outcomeOn_bind, registerStepwise_outcome hpath, registerAll]
    cases t.register spec with
    | ok made => exact ih hpaths made
    | error f => rfl

/-! ### Where a call fails -/

theorem leftBy_of_isTextual (h : spec.isTextual = true) (t : ImportTable) : t.leftBy spec = t := by
  cases spec with
  | default => rfl
  | named path name rename =>
    simp only [ImportSpec.isTextual, Bool.and_eq_true] at h
    rw [leftBy]
    refine if_neg fun hleft => ?_
    simp only [Bool.and_eq_true] at hleft
    obtain ⟨n, rfl⟩ := eq_str_of_truthy h.1.2 hleft.1.2
    simp [Value.hashable] at hleft

/-- A call fails at the first of its requests that is refused by the table that those before it have
led to. -/
theorem registerAll_eq_error_iff {specs : List ImportSpec} {f : Fault} :
    t.registerAll specs = (.error f, t') ↔
      ∃ before spec rest met, specs = before ++ spec :: rest ∧
        t.registerAll before = (.ok (), met) ∧ met.register spec = .error f ∧
        met.leftBy spec = t' := by
  constructor
  · intro h
    induction specs generalizing t with
    | nil => cases h
    | cons spec specs ih =>
      rw [registerAll] at h
      cases hstep : t.register spec with
      | ok made =>
        rw [hstep] at h
        obtain ⟨before, bad, rest, met, rfl, hmet, hbad⟩ := ih h
        exact ⟨spec :: before, bad, rest, met, rfl, by simp only [registerAll, hstep, hmet], hbad⟩
      | error g =>
        rw [hstep] at h
        obtain ⟨hg, hleft⟩ := Prod.mk.inj h
        exact ⟨[], spec, specs, t, rfl, rfl, hstep.trans (congrArg _ (Except.error.inj hg)), hleft⟩
  · rintro ⟨before, spec, rest, met, rfl, hmet, hbad, rfl⟩
    rw [registerAll_append, hmet]
    simp only [registerAll, hbad]

/-! ### Every history -/

/-- The table after several calls, whether or not they fail. -/
def afterCalls (t : ImportTable) (calls : List (List ImportSpec)) : ImportTable :=
  calls.foldl (fun t specs => (t.registerAll specs).2) t

section Induction

variable {motive : ImportTable → Prop} {P : ImportSpec → Prop}
  (hmet : ∀ {t spec t'}, P spec → motive t → t.register spec = .ok t' → motive t')
  (hleft : ∀ {t spec}, P spec → motive t → motive (t.leftBy spec))

include hmet hleft

theorem registerAll_induction {specs : List ImportSpec} (hspecs : ∀ spec ∈ specs, P spec)
    (h : motive t) : motive (t.registerAll specs).2 := by
  induction specs generalizing t with
  | nil => exact h
  | cons spec specs ih =>
    obtain ⟨hspec, hspecs⟩ := List.forall_mem_cons.mp hspecs
    rw [registerAll]
    cases hstep : t.register spec with
    | ok made => exact ih hspecs (hmet hspec h hstep)
    | error f => exact hleft hspec h

theorem afterCalls_induction {calls : List (List ImportSpec)}
    (hcalls : ∀ specs ∈ calls, ∀ spec ∈ specs, P spec) (h : motive t) :
    motive (t.afterCalls calls) := by
  induction calls generalizing t with
  | nil => exact h
  | cons specs calls ih =>
    obtain ⟨hspecs, hcalls⟩ := List.forall_mem_cons.mp hcalls
    exact ih hcalls (registerAll_induction hmet hleft hspecs h)

end Induction

/-! ### What a table holds -/

/-- A table holds requests that are made of texts and can all be met. -/
def MeetsSome (t : ImportTable) : Prop :=
  ∃ specs : List ImportSpec, (∀ spec ∈ specs, spec.isTextual = true) ∧ t.Holds specs ∧
    ¬ Clashing specs

theorem meetsSome_empty : empty.MeetsSome :=
  ⟨[], List.forall_mem_nil _, .empty, ImportSpec.not_clashing_nil⟩

theorem MeetsSome.register (hspec : spec.isTextual = true) (h : t.MeetsSome)
    (hmet : t.register spec = .ok t') : t'.MeetsSome := by
  obtain ⟨specs, htexts, hholds, hfree⟩ := h
  by_cases hagree : spec.Agrees specs
  · obtain ⟨made, hmade, hholds'⟩ := register_of_agrees hholds hspec hagree
    obtain rfl := Except.ok.inj (hmade.symm.trans hmet)
    refine ⟨spec :: specs, List.forall_mem_cons.mpr ⟨hspec, htexts⟩, hholds', ?_⟩
    rw [ImportSpec.clashing_cons_iff hfree, not_not]
    exact hagree
  · obtain ⟨f, hf⟩ := register_of_not_agrees hholds hfree hspec hagree
    cases hf.symm.trans hmet

/-- After any calls with requests made of texts, a table holds requests that can all be met. -/
theorem meetsSome_afterCalls {calls : List (List ImportSpec)}
    (hcalls : ∀ specs ∈ calls, ∀ spec ∈ specs, spec.isTextual = true) :
    (empty.afterCalls calls).MeetsSome :=
  afterCalls_induction MeetsSome.register
    (fun hspec h => (leftBy_of_isTextual hspec _).symm ▸ h) hcalls meetsSome_empty

/-- No alias in a table is the name itself. -/
def AliasesApart (t : ImportTable) : Prop :=
  ∀ e ∈ t.entries, ∀ p ∈ e.2.named, p.2.same p.1 = false

theorem keptAlias_same {name rename : Value} (hname : name.truthy = true) :
    (keptAlias name rename).same name = false := by
  unfold keptAlias
  split
  · cases name <;> first | rfl | cases hname
  · next hsame => exact Bool.eq_false_iff.mpr hsame

theorem aliasesApart_empty : empty.AliasesApart := fun _ he => nomatch he

namespace AliasesApart

theorem entry (h : t.AliasesApart) (path : Value) :
    ∀ p ∈ (t.entry path).named, p.2.same p.1 = false :=
  Entries.getD_find?_of_forall
    (P := fun e : ImportEntry => ∀ p ∈ e.named, p.2.same p.1 = false) h (List.forall_mem_nil _) path

theorem putEntry (h : t.AliasesApart) (path : Value) {e : ImportEntry}
    (he : ∀ p ∈ e.named, p.2.same p.1 = false) : (t.putEntry path e).AliasesApart := by
  intro f hf
  rcases (Entries.mem_put hf).2 with hmem | rfl
  · exact h f hmem
  · exact he

theorem register (h : t.AliasesApart) (hmet : t.register spec = .ok t') : t'.AliasesApart := by
  cases spec with
  | default path name =>
    obtain ⟨-, -, rfl⟩ := registerDefault_eq_ok (register_default_eq_ok hmet)
    exact h.putEntry path (h.entry path)
  | named path name rename =>
    obtain ⟨hname, ⟨-, -, -, rfl⟩ | ⟨-, rfl⟩⟩ := registerNamed_eq_ok (register_named_eq_ok hmet)
    · exact h
    · refine h.putEntry path (List.forall_mem_append.mpr ⟨h.entry path, ?_⟩)
      exact List.forall_mem_singleton.mpr (keptAlias_same hname)

theorem leftBy (h : t.AliasesApart) (spec : ImportSpec) : (t.leftBy spec).AliasesApart := by
  cases spec with
  | default => exact h
  | named path name rename =>
    rw [ImportTable.leftBy, withEntry]
    split
    · split
      · exact h
      · exact h.putEntry path fun _ hp => nomatch hp
    · exact h

end AliasesApart

/-- After any calls, no alias in a table is the name itself. -/
theorem aliasesApart_afterCalls (calls : List (List ImportSpec)) :
    (empty.afterCalls calls).AliasesApart :=
  afterCalls_induction (P := fun _ => True) (fun _ h => h.register) (fun _ h => h.leftBy _)
    (fun _ _ _ _ => trivial) aliasesApart_empty

/-! ### Paths and their declarations -/

/-- Of a table whose paths are texts, it is told for every value whether it is one of them. -/
theorem contains_eq_true_iff (htexts : t.entries.HasTextKeys) {path : Value} :
    t.contains path = .ok true ↔ path ∈ t.entries.keys := by
  unfold contains
  constructor
  · intro h
    split at h
    · obtain ⟨e, he, hsame⟩ := List.any_eq_true.mp (Except.ok.inj h)
      obtain ⟨s, hs⟩ := Value.isStr_iff.mp (htexts e he)
      rw [hs] at hsame
      rw [Value.str_same_iff.mp hsame, ← hs]
      exact Entries.mem_keys_of_mem he
    · cases h
  · intro h
    obtain ⟨e, he, rfl⟩ := List.mem_map.mp h
    obtain ⟨s, hs⟩ := Value.isStr_iff.mp (htexts e he)
    rw [if_pos (by rw [hs]; rfl), Except.ok.injEq, hs]
    exact List.any_eq_true.mpr ⟨e, he, Value.same_str_iff.mpr hs⟩

theorem Holds.perm_paths {specs : List ImportSpec} {ds : List ImportDeclaration}
    (h : t.Holds specs) (hexact : DeclaresExactly specs ds) (hasc : PathsAscending ds) :
    (ds.map ImportDeclaration.path).Perm t.entries.keys := by
  have hnodup : (ds.map ImportDeclaration.path).Nodup :=
    List.pairwise_map.mpr (hasc.imp Value.TextLt.ne)
  rw [List.perm_ext_iff_of_nodup hnodup h.distinct_paths]
  intro path
  rw [h.mem_paths_iff, ← hexact.path_iff, List.mem_map]

end ImportTable

open ImportTable

/-- **A call that fails leaves what it has met, and no path without anything.** Take a table after
any calls with requests made of texts, some of which may have failed. A call on it, taken step after
step, fails at the first request that is refused, and leaves the table as the requests before this
one have made it. Every path of the table asks for a default export or for a name, and no alias is
the name itself. So there is a declaration for every path, with all that it asks for, and for
nothing else. -/
theorem registerEach_leaves_met (calls : List (List ImportSpec))
    (hcalls : ∀ specs ∈ calls, ∀ spec ∈ specs, spec.isTextual = true) :
    (∀ specs : List ImportSpec, (∀ spec ∈ specs, spec.isTextual = true) →
      outcomeOn (registerEach specs) (empty.afterCalls calls) =
        (empty.afterCalls calls).registerAll specs ∧
      ∀ f t', (empty.afterCalls calls).registerAll specs = (.error f, t') →
        ∃ before spec rest, specs = before ++ spec :: rest ∧
          (empty.afterCalls calls).registerAll before = (.ok (), t') ∧
          t'.register spec = .error f) ∧
    (∀ e ∈ (empty.afterCalls calls).entries,
      (e.2.default.truthy = true ∨ e.2.named ≠ []) ∧ ∀ p ∈ e.2.named, p.2 ≠ p.1) ∧
    ∃ ds, (empty.afterCalls calls).declarations = .ok ds ∧
      ds.length = (empty.afterCalls calls).size ∧
      (∀ e ∈ (empty.afterCalls calls).entries,
        ∃ d ∈ ds, d.path = e.1 ∧ d.default = e.2.default ∧ d.named.Perm e.2.named) ∧
      ∀ path, (empty.afterCalls calls).contains path = .ok true ↔ ∃ d ∈ ds, d.path = path := by
  obtain ⟨held, -, hholds, hfree⟩ := meetsSome_afterCalls hcalls
  have hapart := aliasesApart_afterCalls calls
  generalize empty.afterCalls calls = t at hholds hapart ⊢
  refine ⟨fun specs hspecs => ⟨?_, fun f t' h => ?_⟩, fun e he => ⟨?_, fun p hp heq => ?_⟩, ?_⟩
  · exact registerEach_outcome (fun spec hspec => ImportSpec.isStr_path (hspecs spec hspec)) t
  · obtain ⟨before, spec, rest, met, rfl, hmet, hbad, hleft⟩ := registerAll_eq_error_iff.mp h
    have hspec := hspecs spec (List.mem_append_right before List.mem_cons_self)
    rw [leftBy_of_isTextual hspec] at hleft
    obtain rfl := hleft
    exact ⟨before, spec, rest, rfl, hmet, hbad⟩
  · simpa using asks_of_holds hholds hfree he
  · obtain ⟨n, hn⟩ := Value.isStr_iff.mp ((hholds.entry_holds e he).text_names p hp)
    have hsame := hapart e he p hp
    rw [heq, hn, Value.same_str_iff.mpr rfl] at hsame
    cases hsame
  · obtain ⟨ds, hds, hexact, hasc⟩ := declarations_of_holds hholds hfree
    have hperm := hholds.perm_paths hexact hasc
    refine ⟨ds, hds, ?_, fun e he => ?_, fun path => ?_⟩
    · simpa [size, Entries.keys] using hperm.length_eq
    · obtain ⟨path, e⟩ := e
      obtain ⟨s, rfl⟩ : ∃ s, path = .str s := Value.isStr_iff.mp (hholds.text_paths _ he)
      have hentry : t.entry (.str s) = e := by
        rw [entry, (Entries.find?_eq_some_iff hholds.distinct_paths).mpr he, Option.getD_some]
      have hasked := asks_of_holds hholds hfree he
      rw [← hentry] at hasked ⊢
      exact exists_declaration hasked hds
    · rw [contains_eq_true_iff hholds.text_paths, ← hperm.mem_iff, List.mem_map]

/-- A name that cannot serve as a key is noticed too late: it leaves a path that asks for
nothing. -/
example : (empty.registerAll [.named (.str "antd") (.list [.str "Button"]) .null]).2 =
    empty.putEntry (.str "antd") .empty := rfl

/-- Two calls that fail, each after a request that is met. -/
def failingCalls : List (List ImportSpec) := [
  [.named (.str "antd") (.str "Button") (.str "Button"), .named (.str "antd") (.str "") .null,
    .default (.str "react") (.str "React")],
  [.default (.str "@/ui") (.str "Ui"), .default (.str "@/ui") (.str "Kit")]]

/-- A call for a new name, and for another alias of a name that is there. -/
def thirdCall : List ImportSpec := [
  .named (.str "antd") (.str "Card") .null,
  .named (.str "antd") (.str "Button") (.str "AntButton")]

/-- After both calls the table has the two paths of the requests that were met. A third call fails,
and leaves what stands before the request that is refused. -/
theorem registerEach_leaves_met_failingCalls :
    (∀ specs ∈ failingCalls, ∀ spec ∈ specs, spec.isTextual = true) ∧
    (∃ before spec rest, thirdCall = before ++ spec :: rest ∧
      (empty.afterCalls failingCalls).registerAll before =
        (.ok (), empty.afterCalls (failingCalls ++ [thirdCall]))) ∧
    ∃ ds, (empty.afterCalls failingCalls).declarations = .ok ds ∧ ds.length = 2 ∧
      ∀ path, (empty.afterCalls failingCalls).contains path = .ok true ↔
        ∃ d ∈ ds, d.path = path := by
  have hcalls : ∀ specs ∈ failingCalls, ∀ spec ∈ specs, spec.isTextual = true := by decide
  have hthird : ∀ spec ∈ thirdCall, spec.isTextual = true := by decide
  obtain ⟨hcall, -, ds, hds, hlength, -, hpaths⟩ :=
    registerEach_leaves_met failingCalls hcalls
  refine ⟨hcalls, ?_, ds, hds, hlength, hpaths⟩
  obtain ⟨before, spec, rest, hspecs, hmet, -⟩ := (hcall thirdCall hthird).2 _ _ rfl
  exact ⟨before, spec, rest, hspecs, hmet⟩

end PageMarkup
