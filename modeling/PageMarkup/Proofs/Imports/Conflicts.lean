import PageMarkup.Imports.Statement
import PageMarkup.Proofs.Imports.Histories

/-!
# Conflicts are about local names, and about empty aliases

A table holds a binding under a local name, and a request for the same binding asks for a local name
too. The request is refused if the two names differ. If they agree it changes nothing, with one
exception: the table compares aliases and not local names. It takes an alias that is the name itself
for none, but not an empty one, which statements leave out all the same. So a request with an empty
alias is refused where the name is held without one, and the other way round, although both come to
the same statement.

What a table can hold after any calls is known from `ImportTable.meetsSome_afterCalls`: aliases are
texts or nothing, and none is the name itself. For such aliases `keptAlias_eq_iff` says how much
more than local names is compared.

## Main definitions

* `ImportTable.localName?` : the local name under which a table holds a binding.
* `ImportTable.EmptyAliasApart` : just one of the alias asked for and the alias held is empty.
* `writtenSpecifier` : a name of a statement, with its local name.

## Main results

* `specifierText_eq_ok` : the local name of a specifier is the one that is written.
* `keptAlias_eq_iff` : when aliases are taken for the same.
* `register_conflict_iff` : which requests are conflicts.
-/

namespace PageMarkup

open ImportTable (keptAlias)

/-! ### Local names as they are written -/

/-- A name of a statement with its local name, which is left out if it is the name itself. -/
def writtenSpecifier (name bound : String) : String :=
  if bound = name then name else name ++ " as " ++ bound

theorem exists_boundName_eq_str (name : String) {rename : Value}
    (h : (rename.isStr || rename.isNull) = true) :
    ∃ s : String, boundName (.str name) rename = .str s := by
  unfold boundName
  split
  · next htruthy => exact ImportTable.eq_str_of_truthy h htruthy
  · exact ⟨name, rfl⟩

/-- A specifier is written with the name that it is bound to. -/
theorem specifierText_eq_ok {name s : String} {rename : Value}
    (h : boundName (.str name) rename = .str s) :
    specifierText (.str name) rename = .ok (writtenSpecifier name s) := by
  rw [specifierText, writtenSpecifier]
  cases htruthy : rename.truthy with
  | false =>
    rw [boundName, htruthy] at h
    obtain rfl : name = s := Value.str.inj h
    rw [if_pos rfl]
    rfl
  | true =>
    rw [boundName, if_pos htruthy] at h
    subst h
    by_cases hsame : s = name
    · simp [hsame, Value.needText]
    · simp [hsame, Value.text]

/-! ### Aliases that are taken for the same -/

theorem keptAlias_str (name s : String) :
    keptAlias (.str name) (.str s) = if s = name then .null else .str s := by
  simp [keptAlias]

theorem boundName_str (name s : String) :
    boundName (.str name) (.str s) = if s = "" then .str name else .str s := by
  by_cases h : s = "" <;> simp [boundName, Value.truthy, h]

/-- Aliases of a name are kept alike exactly if the name is bound alike and both or neither of them
are empty. -/
theorem keptAlias_eq_iff {name : String} (hname : name ≠ "") {a b : Value}
    (ha : (a.isStr || a.isNull) = true) (hb : (b.isStr || b.isNull) = true) :
    keptAlias (.str name) a = keptAlias (.str name) b ↔
      boundName (.str name) a = boundName (.str name) b ∧ (a = .str "" ↔ b = .str "") := by
  have hnull : keptAlias (.str name) .null = .null := rfl
  have hbare : boundName (.str name) .null = .str name := rfl
  cases a with
  | null =>
    cases b with
    | null => simp
    | str t =>
      rw [keptAlias_str, boundName_str, hnull, hbare]
      grind
    | bool | int | float | list | tuple | map | foreign | markup => cases hb
  | str s =>
    cases b with
    | null =>
      rw [keptAlias_str, boundName_str, hnull, hbare]
      grind
    | str t =>
      rw [keptAlias_str, boundName_str, keptAlias_str, boundName_str]
      grind
    | bool | int | float | list | tuple | map | foreign | markup => cases hb
  | bool | int | float | list | tuple | map | foreign | markup => cases ha

theorem ImportSpec.eq_of_not_nameless {spec : ImportSpec} (hspec : spec.isTextual = true)
    (hname : ¬ spec.Nameless) :
    (∃ s n, n ≠ "" ∧ spec = .default (.str s) (.str n)) ∨
      ∃ s n rename, n ≠ "" ∧ (rename.isStr || rename.isNull) = true ∧
        spec = .named (.str s) (.str n) rename := by
  have htext : ∀ name : Value, (name.isStr || name.isNull) = true → name.truthy = true →
      ∃ n, n ≠ "" ∧ name = .str n := by
    intro name htext htruthy
    obtain ⟨n, rfl⟩ := ImportTable.eq_str_of_truthy htext htruthy
    exact ⟨n, by simpa [Value.truthy] using htruthy, rfl⟩
  cases spec with
  | default path name =>
    simp only [isTextual, Bool.and_eq_true] at hspec
    obtain ⟨s, rfl⟩ := Value.isStr_iff.mp hspec.1
    obtain ⟨n, hn, rfl⟩ := htext name hspec.2 (by simpa [Nameless] using hname)
    exact .inl ⟨s, n, hn, rfl⟩
  | named path name rename =>
    simp only [isTextual, Bool.and_eq_true] at hspec
    obtain ⟨s, rfl⟩ := Value.isStr_iff.mp hspec.1.1
    obtain ⟨n, hn, rfl⟩ := htext name hspec.1.2 (by simpa [Nameless] using hname)
    exact .inr ⟨s, n, rename, hn, hspec.2, rfl⟩

/-! ### What a table holds a binding under -/

namespace ImportTable

variable {t t' : ImportTable} {spec : ImportSpec}

/-- The local name under which a table holds a binding. -/
def localName? (t : ImportTable) : Binding → Option Value
  | .default path =>
    if (t.entry path).default.truthy then some (t.entry path).default else none
  | .named path name => ((t.entry path).named.find? name).map (boundName name)

/-- Of the alias that is asked for and the one that a table holds, just one is empty. -/
def EmptyAliasApart (t : ImportTable) : ImportSpec → Prop
  | .default _ _ => False
  | .named path name rename => ∃ held, (t.entry path).named.find? name = some held ∧
      ¬ (held = .str "" ↔ rename = .str "")

theorem Keeps.localName?_eq (h : t.Keeps spec) (hspec : spec.isTextual = true) :
    t.localName? spec.binding = some spec.localName := by
  cases spec with
  | default path name =>
    obtain ⟨hname, hkept⟩ := h
    rw [ImportSpec.binding, ImportSpec.localName, localName?, hkept, if_pos hname]
  | named path name rename =>
    simp only [ImportSpec.isTextual, Bool.and_eq_true] at hspec
    obtain ⟨hname, hkept⟩ := h
    rw [ImportSpec.binding, ImportSpec.localName, localName?, hkept, Option.map_some,
      boundName_keptAlias hspec.1.2 hname]

theorem MeetsSome.held_alias (h : t.MeetsSome) (happart : t.AliasesApart) {s n : String}
    {held : Value} (hfound : (t.entry (.str s)).named.find? (.str n) = some held) :
    (held.isStr || held.isNull) = true ∧ keptAlias (.str n) held = held := by
  obtain ⟨specs, htexts, hholds, -⟩ := h
  have hmem := Entries.mem_of_find?_eq_some hfound
  obtain ⟨rename, hasked, hkept⟩ := ((hholds.entry s).met.mem_named_iff _ _).mp hmem
  have htext := htexts _ hasked
  simp only [ImportSpec.isTextual, Bool.and_eq_true] at htext
  refine ⟨hkept ▸ keptAlias_textual htext.2, if_neg ?_⟩
  rw [Bool.not_eq_true]
  exact happart.entry (.str s) _ hmem

/-! ### One request -/

private theorem putEntry_entry {s : String} (h : (t.entry (.str s)).default.truthy = true) :
    t.putEntry (.str s) (t.entry (.str s)) = t := by
  cases hfound : t.entries.find? (.str s) with
  | none =>
    rw [entry, hfound] at h
    cases h
  | some e =>
    have hentry : t.entry (.str s) = e := by rw [entry, hfound, Option.getD_some]
    rw [hentry, putEntry, Entries.put_of_find? hfound]

/-- A request for a default export that is held changes nothing if it is held under the name asked
for, and is a conflict otherwise. -/
private theorem register_default_of_held {s n : String} (hn : n ≠ "") {held : Value}
    (hheld : t.localName? (.default (.str s)) = some held) :
    (held = .str n ∧ t.register (.default (.str s) (.str n)) = .ok t) ∨
      (held ≠ .str n ∧
        ∃ clash, t.register (.default (.str s) (.str n)) = .error (.importConflict clash)) := by
  have hname : (Value.str n).truthy = true := by simpa [Value.truthy] using hn
  obtain ⟨htruthy, rfl⟩ : (t.entry (.str s)).default.truthy = true ∧
      (t.entry (.str s)).default = held := by
    rw [localName?] at hheld
    split at hheld
    · next htruthy => exact ⟨htruthy, Option.some.inj hheld⟩
    · cases hheld
  have houtcome : t.register (.default (.str s) (.str n)) =
      if !(t.entry (.str s)).default.same (.str n) then
        .error (.importConflict (.defaults (.str s) (t.entry (.str s)).default (.str n)))
      else .ok (t.putEntry (.str s) { t.entry (.str s) with default := .str n }) := by
    simp [register, ImportSpec.path, Value.hashable, registerDefault, hname, htruthy]
  rw [houtcome]
  by_cases hsame : (t.entry (.str s)).default.same (.str n) = true
  · have heq := Value.same_str_iff.mp hsame
    refine .inl ⟨heq, ?_⟩
    rw [hsame, ← heq]
    exact congrArg Except.ok (putEntry_entry htruthy)
  · exact .inr ⟨mt Value.same_str_iff.mpr hsame, _, if_pos (by simpa using hsame)⟩

/-- A request for an exported name that is held changes nothing if the alias asked for is kept like
the one that is held, and is a conflict otherwise. -/
private theorem register_named_of_held {s n : String} (hn : n ≠ "") {rename held : Value}
    (hrename : (rename.isStr || rename.isNull) = true)
    (hheld : (t.entry (.str s)).named.find? (.str n) = some held) :
    (held = keptAlias (.str n) rename ∧ t.register (.named (.str s) (.str n) rename) = .ok t) ∨
      (held ≠ keptAlias (.str n) rename ∧
        ∃ clash, t.register (.named (.str s) (.str n) rename) =
          .error (.importConflict clash)) := by
  have hname : (Value.str n).truthy = true := by simpa [Value.truthy] using hn
  have hsame : held.same (keptAlias (.str n) rename) = true ↔ held = keptAlias (.str n) rename :=
    same_iff_of_textual (keptAlias_textual hrename)
  have houtcome : t.register (.named (.str s) (.str n) rename) =
      if held.same (keptAlias (.str n) rename) then .ok t
      else .error (.importConflict
        (.aliases (.str n) (.str s) held (keptAlias (.str n) rename))) := by
    simp [register, ImportSpec.path, Value.hashable, registerNamed, hname, hheld]
  rw [houtcome]
  by_cases h : held.same (keptAlias (.str n) rename) = true
  · exact .inl ⟨hsame.mp h, if_pos h⟩
  · exact .inr ⟨mt hsame.mpr h, _, if_neg h⟩

private theorem exists_register_of_not_held (hspec : spec.isTextual = true)
    (hname : ¬ spec.Nameless) (hheld : t.localName? spec.binding = none) :
    ∃ t', t.register spec = .ok t' := by
  rcases ImportSpec.eq_of_not_nameless hspec hname with
    ⟨s, n, hn, rfl⟩ | ⟨s, n, rename, hn, -, rfl⟩
  · have hnone : (t.entry (.str s)).default.truthy = false := by
      simpa [ImportSpec.binding, localName?] using hheld
    have htruthy : (Value.str n).truthy = true := by simpa [Value.truthy] using hn
    refine ⟨t.putEntry (.str s) { t.entry (.str s) with default := .str n }, ?_⟩
    simp [register, ImportSpec.path, Value.hashable, registerDefault, htruthy, hnone]
  · have hnone : (t.entry (.str s)).named.find? (.str n) = none := by
      simpa [ImportSpec.binding, localName?] using hheld
    refine ⟨t.putEntry (.str s) { t.entry (.str s) with
      named := (t.entry (.str s)).named ++ [(.str n, keptAlias (.str n) rename)] }, ?_⟩
    simp [register, ImportSpec.path, Value.hashable, registerNamed, Value.truthy, hn, hnone]

/-- A request for what is held changes nothing if it is held under the local name asked for and no
empty alias comes between, and is a conflict otherwise. -/
theorem MeetsSome.register_of_held (h : t.MeetsSome) (happart : t.AliasesApart)
    (hspec : spec.isTextual = true) (hname : ¬ spec.Nameless) {held : Value}
    (hheld : t.localName? spec.binding = some held) :
    ((held = spec.localName ∧ ¬ t.EmptyAliasApart spec) ∧ t.register spec = .ok t) ∨
      (¬ (held = spec.localName ∧ ¬ t.EmptyAliasApart spec) ∧
        ∃ clash, t.register spec = .error (.importConflict clash)) := by
  rcases ImportSpec.eq_of_not_nameless hspec hname with
    ⟨s, n, hn, rfl⟩ | ⟨s, n, rename, hn, hrename, rfl⟩
  · simpa [EmptyAliasApart, ImportSpec.localName] using register_default_of_held hn hheld
  · -- the table compares with the alias as it is kept, and what it holds was kept before
    obtain ⟨kept, hfound, rfl⟩ := Option.map_eq_some_iff.mp hheld
    obtain ⟨htext, hkept⟩ := h.held_alias happart hfound
    have hapart : t.EmptyAliasApart (.named (.str s) (.str n) rename) ↔
        ¬ (kept = .str "" ↔ rename = .str "") := by
      simp only [EmptyAliasApart, hfound, Option.some.injEq, exists_eq_left']
    have hsame : boundName (.str n) kept = boundName (.str n) rename ∧
        ¬ t.EmptyAliasApart (.named (.str s) (.str n) rename) ↔
          kept = keptAlias (.str n) rename := by
      rw [hapart, not_not, ← keptAlias_eq_iff hn htext hrename, hkept]
    rw [ImportSpec.localName, hsame]
    exact register_named_of_held hn hrename hfound

private theorem EmptyAliasApart.exists_localName? (h : t.EmptyAliasApart spec) :
    ∃ held, t.localName? spec.binding = some held := by
  cases spec with
  | default => cases h
  | named path name rename =>
    obtain ⟨held, hfound, -⟩ := h
    exact ⟨boundName name held, Option.map_eq_some_iff.mpr ⟨held, hfound, rfl⟩⟩

/-- A request is a conflict exactly if what it is for is held under another local name, or if an
empty alias comes between. -/
theorem MeetsSome.conflict_iff (h : t.MeetsSome) (happart : t.AliasesApart)
    (hspec : spec.isTextual = true) (hname : ¬ spec.Nameless) :
    (∃ clash, t.register spec = .error (.importConflict clash)) ↔
      (∃ held, t.localName? spec.binding = some held ∧ held ≠ spec.localName) ∨
        t.EmptyAliasApart spec := by
  cases hheld : t.localName? spec.binding with
  | none =>
    obtain ⟨t', ht'⟩ := exists_register_of_not_held hspec hname hheld
    have hfree : ¬ t.EmptyAliasApart spec := fun hempty => by
      obtain ⟨held, hheld'⟩ := hempty.exists_localName?
      cases hheld.symm.trans hheld'
    simp [ht', hfree]
  | some held =>
    simp only [Option.some.injEq, exists_eq_left']
    rcases h.register_of_held happart hspec hname hheld with ⟨⟨heq, hfree⟩, hmet⟩ | ⟨hapart, hclash⟩
    · simp [hmet, heq, hfree]
    · exact iff_of_true hclash (by tauto)

theorem MeetsSome.exists_register (h : t.MeetsSome) (happart : t.AliasesApart)
    (hspec : spec.isTextual = true) (hname : ¬ spec.Nameless)
    (hfree : ∀ clash, t.register spec ≠ .error (.importConflict clash)) :
    ∃ t', t.register spec = .ok t' := by
  cases hheld : t.localName? spec.binding with
  | none => exact exists_register_of_not_held hspec hname hheld
  | some held =>
    rcases h.register_of_held happart hspec hname hheld with ⟨-, hmet⟩ | ⟨-, clash, hclash⟩
    · exact ⟨t, hmet⟩
    · exact absurd hclash (hfree clash)

end ImportTable

open ImportTable

/-- **Conflicts are about local names, and about empty aliases.** Take a table after any calls with
requests made of texts, some of which may have failed, and a request with a name. It is a conflict
exactly if the table holds what it is for under a local name other than the one asked for, or if it
is for an exported name and just one of the alias asked for and the alias held is empty. What is
held under the local name asked for, and is no conflict, stays as it is; and whatever is no conflict
is held under this name afterwards. The local name is the one that a statement shows. -/
theorem register_conflict_iff (calls : List (List ImportSpec))
    (hcalls : ∀ specs ∈ calls, ∀ spec ∈ specs, spec.isTextual = true) (spec : ImportSpec)
    (hspec : spec.isTextual = true) (hname : ¬ spec.Nameless) :
    ((∃ clash, (empty.afterCalls calls).register spec = .error (.importConflict clash)) ↔
      (∃ held, (empty.afterCalls calls).localName? spec.binding = some held ∧
        held ≠ spec.localName) ∨ (empty.afterCalls calls).EmptyAliasApart spec) ∧
    ((empty.afterCalls calls).localName? spec.binding = some spec.localName →
      ¬ (empty.afterCalls calls).EmptyAliasApart spec →
        (empty.afterCalls calls).register spec = .ok (empty.afterCalls calls)) ∧
    ((∀ clash, (empty.afterCalls calls).register spec ≠ .error (.importConflict clash)) →
      ∃ t', (empty.afterCalls calls).register spec = .ok t' ∧
        t'.localName? spec.binding = some spec.localName) ∧
    ∀ (name : String) (rename : Value), (rename.isStr || rename.isNull) = true →
      ∃ s, boundName (.str name) rename = .str s ∧
        specifierText (.str name) rename = .ok (writtenSpecifier name s) := by
  have hsome := meetsSome_afterCalls hcalls
  have happart := aliasesApart_afterCalls calls
  generalize empty.afterCalls calls = t at hsome happart ⊢
  refine ⟨hsome.conflict_iff happart hspec hname, fun hheld hfree => ?_, fun hfree => ?_,
    fun name rename hrename => ?_⟩
  · rcases hsome.register_of_held happart hspec hname hheld with ⟨-, hmet⟩ | ⟨hapart, -⟩
    · exact hmet
    · exact absurd ⟨rfl, hfree⟩ hapart
  · obtain ⟨t', ht'⟩ := hsome.exists_register happart hspec hname hfree
    exact ⟨t', ht', (keeps_of_register hspec ht').localName?_eq hspec⟩
  · obtain ⟨s, hs⟩ := exists_boundName_eq_str name hrename
    exact ⟨s, hs, specifierText_eq_ok hs⟩

/-- A call that asks for a name without an alias, and one that fails. -/
def bareCalls : List (List ImportSpec) := [
  [.named (.str "antd") (.str "Button") .null],
  [.named (.str "antd") (.str "Button") (.str "AntButton"), .default (.str "react") (.str "React")]]

/-- A request for the name under an alias. -/
def namedButton (rename : String) : ImportSpec :=
  .named (.str "antd") (.str "Button") (.str rename)

/-- Where a name is held without an alias, the alias that is the name itself changes nothing, and an
alias that is another name is a conflict. -/
theorem register_conflict_iff_bareCalls :
    (∀ specs ∈ bareCalls, ∀ spec ∈ specs, spec.isTextual = true) ∧
    (∀ rename ∈ ["Button", "Knob"],
      (namedButton rename).isTextual = true ∧ ¬ (namedButton rename).Nameless) ∧
    (empty.afterCalls bareCalls).register (namedButton "Button") =
      .ok (empty.afterCalls bareCalls) ∧
    ∃ clash, (empty.afterCalls bareCalls).register (namedButton "Knob") =
      .error (.importConflict clash) := by
  have hcalls : ∀ specs ∈ bareCalls, ∀ spec ∈ specs, spec.isTextual = true := by decide
  have hname : ∀ rename, ¬ (namedButton rename).Nameless := by
    intro rename
    simp [namedButton, ImportSpec.Nameless, Value.truthy]
  have hheld : (empty.afterCalls bareCalls).localName? (.named (.str "antd") (.str "Button")) =
      some (.str "Button") := rfl
  refine ⟨hcalls, fun rename _ => ⟨rfl, hname rename⟩, ?_, ?_⟩
  · refine (register_conflict_iff bareCalls hcalls (namedButton "Button") rfl
      (hname _)).2.1 hheld ?_
    rintro ⟨held, hfound, hapart⟩
    obtain rfl : Value.null = held := Option.some.inj hfound
    simp at hapart
  · exact (register_conflict_iff bareCalls hcalls (namedButton "Knob") rfl (hname _)).1.mpr
      (.inl ⟨_, hheld, by simp [namedButton, ImportSpec.localName, boundName, Value.truthy]⟩)

/-- Conflicts are not about local names alone: an empty alias is refused where the name is held
without one, though it is written without it too. -/
theorem not_forall_conflict_iff_localName :
    ¬ ∀ calls : List (List ImportSpec),
      (∀ specs ∈ calls, ∀ spec ∈ specs, spec.isTextual = true) →
      ∀ (path name : String) (rename : Value), name ≠ "" →
        (rename.isStr || rename.isNull) = true →
        ((∃ clash, (empty.afterCalls calls).register (.named (.str path) (.str name) rename) =
            .error (.importConflict clash)) ↔
          ∃ held, (empty.afterCalls calls).localName? (.named (.str path) (.str name)) = some held ∧
            held ≠ boundName (.str name) rename) := by
  intro h
  have hclash : (empty.afterCalls bareCalls).register (namedButton "") =
      .error (.importConflict (.aliases (.str "Button") (.str "antd") .null (.str ""))) := rfl
  obtain ⟨held, hheld, hne⟩ :=
    (h bareCalls (by decide) "antd" "Button" (.str "") (by decide) rfl).mp ⟨_, hclash⟩
  obtain rfl : Value.str "Button" = held := Option.some.inj hheld
  exact hne rfl

end PageMarkup
