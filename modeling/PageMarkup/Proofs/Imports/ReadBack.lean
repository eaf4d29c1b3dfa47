import PageMarkup.Proofs.Imports.Conflicts
import PageMarkup.Proofs.Markup.ReadBackTags

/-!
# Import statements read back

A statement is read by the grammar of imports: a default name, names between braces, or both, then
the quoted path. Keywords are no more than words that stand in their places, so a name may be one of
them. `{ as as from }` is the name `as` under the alias `from`, because the first word of a
specifier is its name, and a second one is a keyword.

Where names and aliases are words and the path is free of characters that would need an escape, the
reader finds what a declaration asks for. What makes this exact is known of every table: each
declaration asks for something, and no alias is the name itself, which the statement would leave
out.

## Main definitions

* `readImport` : the declaration of a statement.
* `ImportDeclaration.InWords` : declarations whose names are words.
* `ImportDeclaration.Proper` : declarations that ask for something, with aliases of their own.

## Main results

* `ImportDeclaration.readImport_shownStatement` : one statement.
* `importStatements_readBack` : the statements of a table.
-/

namespace PageMarkup

open ImportTable

/-! ### The grammar of imports -/

/-- What follows a keyword at the start of a text, where it is a word by itself. -/
def afterWord? (word : String) (s : List Char) : Option (List Char) :=
  if s.takeWhile isWordChar = word.toList then some (skipBlank (s.dropWhile isWordChar)) else none

/-- A name at the start of a text, and what follows it. -/
def readName (s : List Char) : Option (Value × List Char) :=
  (readRun isWordChar s).map fun r => (.str (String.ofList r.1), r.2)

/-- A name, with its alias if there is one. -/
def readSpecifier (s : List Char) : Option ((Value × Value) × List Char) := do
  let (name, rest) ← readName s
  match afterWord? "as" rest with
  | none => return ((name, .null), rest)
  | some rest =>
    let (bound, rest) ← readName rest
    return ((name, bound), rest)

/-- Specifiers with commas between them, up to and with the closing brace. There are at most `steps`
of them, which the length of the text bounds. -/
def readSpecifiers : (steps : Nat) → List Char → Option (Entries Value × List Char)
  | 0, _ => none
  | n + 1, s => do
    let (e, rest) ← readSpecifier s
    match rest with
    | ',' :: rest =>
      let (es, rest) ← readSpecifiers n (skipBlank rest)
      return (e :: es, rest)
    | rest => return ([e], ← afterMark? '\x7d' rest)

/-- Specifiers between braces. -/
def readBraces (s : List Char) : Option (Entries Value × List Char) := do
  let rest ← afterMark? '\x7b' s
  readSpecifiers rest.length rest

/-- What stands behind a default name: specifiers after a comma, or nothing more. -/
def readBehindDefault (default : Value) :
    List Char → Option ((Value × Entries Value) × List Char)
  | ',' :: rest => (readBraces (skipBlank rest)).map fun r => ((default, r.1), r.2)
  | rest => some ((default, []), rest)

/-- What a statement has between its keywords: a default name, specifiers between braces, or
both. -/
def readClause : List Char → Option ((Value × Entries Value) × List Char)
  | '\x7b' :: s => (readBraces ('\x7b' :: s)).map fun r => ((.null, r.1), r.2)
  | s => do
    let (default, rest) ← readName s
    readBehindDefault default rest

/-- A character of a path that needs no escape. -/
def isPathChar (c : Char) : Bool :=
  c != Text.quoteMark && c != '\\' && c != '\n'

def readPath : List Char → Option (Value × List Char)
  | '\x22' :: s => (afterMark? Text.quoteMark (s.dropWhile isPathChar)).map fun rest =>
      (.str (String.ofList (s.takeWhile isPathChar)), rest)
  | _ => none

/-- The declaration of a statement. -/
def readImport (s : List Char) : Option ImportDeclaration := do
  let ((default, named), rest) ← readClause (← afterWord? "import" s)
  let (path, rest) ← readPath (← afterWord? "from" rest)
  match ← afterMark? ';' rest with
  | [] => return ⟨path, default, named⟩
  | _ => none

/-! ### Declarations in words -/

def Value.InWord (v : Value) : Prop :=
  ∃ s, v = .str s ∧ IsWord s

theorem IsWord.ne_empty {s : String} (h : IsWord s) : s ≠ "" := fun heq =>
  h.1 (by rw [heq]; rfl)

theorem Value.InWord.truthy {v : Value} (h : v.InWord) : v.truthy = true := by
  obtain ⟨s, rfl, hs⟩ := h
  simpa [Value.truthy] using hs.ne_empty

/-- A name that is a word, with an alias that is a word or missing. -/
def SpecifierInWords (e : Value × Value) : Prop :=
  e.1.InWord ∧ (e.2 = .null ∨ e.2.InWord)

/-- The names and aliases of a declaration are words, if they are not missing, and the path is a
text that needs no escapes. Words may have letters, digits, `_` and `$`, and more. -/
structure ImportDeclaration.InWords (d : ImportDeclaration) : Prop where
  path : ∃ s : String, d.path = .str s ∧ ∀ c ∈ s.toList, isPathChar c = true
  default : d.default = .null ∨ d.default.InWord
  named : ∀ e ∈ d.named, SpecifierInWords e

/-- A declaration that asks for something, and no alias of which is the name itself. -/
structure ImportDeclaration.Proper (d : ImportDeclaration) : Prop where
  asked : (d.default.truthy || !d.named.isEmpty) = true
  apart : ∀ e ∈ d.named, e.2.same e.1 = false

theorem ImportTable.AliasesApart.proper {t : ImportTable} (h : t.AliasesApart)
    {ds : List ImportDeclaration} (hds : t.declarations = .ok ds) : ∀ d ∈ ds, d.Proper := by
  intro d hd
  obtain ⟨sorted, hsorted, hds⟩ := bind_eq_ok_iff.mp hds
  obtain ⟨e, he, hmade⟩ := mem_of_mapM_eq_ok hds d hd
  obtain ⟨he, hasked⟩ := List.mem_filter.mp he
  obtain ⟨named, hnamed, hmade⟩ := bind_eq_ok_iff.mp hmade
  obtain rfl := Except.ok.inj hmade
  have hperm := perm_of_sortByKey hnamed
  refine ⟨?_, fun p hp => ?_⟩
  · simpa [hperm.isEmpty_eq] using hasked
  · exact h e ((perm_of_sortByKey hsorted).mem_iff.mp he) p (hperm.mem_iff.mp hp)

/-! ### Words and marks at the start of a text -/

section Reading

variable {rest : List Char}

theorem readName_append {n : String} (h : IsWord n) (hrest : Delimited rest) :
    readName (n.toList ++ rest) = some (.str n, skipBlank rest) := by
  rw [readName, readRun_append h.1 h.2 hrest, Option.map_some, String.ofList_toList]

theorem afterWord?_append {word : String} (h : IsWord word) (hrest : Delimited rest) :
    afterWord? word (word.toList ++ rest) = some (skipBlank rest) := by
  obtain ⟨htake, hdrop⟩ := takeWhile_append_of_head h.2 rest hrest
  rw [afterWord?, htake, hdrop, if_pos rfl]

theorem afterWord?_eq_none {word : String} (h : IsWord word) (hrest : Delimited rest) :
    afterWord? word rest = none := by
  have htake : rest.takeWhile isWordChar = [] := by
    cases rest with
    | nil => rfl
    | cons c rest => exact List.takeWhile_cons_of_neg (by simp [hrest c rfl])
  rw [afterWord?, htake, if_neg (Ne.symm h.1)]

theorem delimited_cons {c : Char} (hc : isWordChar c = false) (s : List Char) :
    Delimited (c :: s) := by
  rintro _ ⟨⟩
  exact hc

theorem delimited_space (s : List Char) : Delimited (' ' :: s) :=
  delimited_cons (by decide) s

theorem IsWord.exists_cons {w : String} (h : IsWord w) :
    ∃ c l, w.toList = c :: l ∧ isWordChar c = true := by
  obtain ⟨c, l, hl⟩ := List.exists_cons_of_ne_nil h.1
  exact ⟨c, l, hl, h.2 c (hl ▸ List.mem_cons_self)⟩

theorem skipBlank_space {c : Char} (hc : Text.isBlank c = false) (s : List Char) :
    skipBlank (' ' :: c :: s) = c :: s := by
  rw [skipBlank, List.dropWhile_cons_of_pos (by decide), List.dropWhile_cons_of_neg (by simp [hc])]

theorem skipBlank_space_word {w : String} (h : IsWord w) (s : List Char) :
    skipBlank (' ' :: (w.toList ++ s)) = w.toList ++ s := by
  obtain ⟨c, l, hl, hc⟩ := h.exists_cons
  rw [hl]
  exact skipBlank_space (isBlank_of_isWordChar hc) _

/-! ### Specifiers -/

/-- A name of a declaration with its alias, as a statement shows them. -/
def shownSpecifier (e : Value × Value) : String :=
  writtenSpecifier e.1.text (boundName e.1 e.2).text

private theorem shownSpecifier_eq {n s : String} {rename : Value}
    (h : boundName (.str n) rename = .str s) :
    shownSpecifier (.str n, rename) = writtenSpecifier n s := by
  rw [shownSpecifier, h]
  rfl

private theorem specifierText_inWords {e : Value × Value} (h : SpecifierInWords e) :
    specifierText e.1 e.2 = .ok (shownSpecifier e) := by
  obtain ⟨name, rename⟩ := e
  obtain ⟨⟨n, rfl, -⟩, hrename⟩ := h
  have htext : (rename.isStr || rename.isNull) = true := by
    rcases hrename with rfl | ⟨a, rfl, -⟩ <;> rfl
  obtain ⟨s, hs⟩ := exists_boundName_eq_str n htext
  rw [shownSpecifier_eq hs]
  exact specifierText_eq_ok hs

private theorem shownSpecifier_inWords {e : Value × Value} (h : SpecifierInWords e)
    (hapart : e.2.same e.1 = false) :
    (∃ n, e = (.str n, .null) ∧ IsWord n ∧ shownSpecifier e = n) ∨
      ∃ n a, e = (.str n, .str a) ∧ IsWord n ∧ IsWord a ∧
        shownSpecifier e = n ++ " as " ++ a := by
  obtain ⟨name, rename⟩ := e
  obtain ⟨⟨n, rfl, hn⟩, rfl | ⟨a, rfl, ha⟩⟩ := h
  · exact .inl ⟨n, rfl, hn, (shownSpecifier_eq rfl).trans (if_pos rfl)⟩
  · have hbound : boundName (.str n) (.str a) = .str a := by
      rw [boundName_str, if_neg ha.ne_empty]
    have hother : a ≠ n := by simpa using hapart
    exact .inr ⟨n, a, rfl, hn, ha, (shownSpecifier_eq hbound).trans (if_neg hother)⟩

private theorem readSpecifier_append {e : Value × Value} (h : SpecifierInWords e)
    (hapart : e.2.same e.1 = false) (hrest : Delimited rest) (hnext : Delimited (skipBlank rest)) :
    readSpecifier ((shownSpecifier e).toList ++ rest) = some (e, skipBlank rest) := by
  have has : IsWord "as" := by decide
  rcases shownSpecifier_inWords h hapart with
    ⟨n, rfl, hn, hshown⟩ | ⟨n, a, rfl, hn, ha, hshown⟩
  · -- what follows is no word, so it is no keyword either
    rw [hshown, readSpecifier, readName_append hn hrest]
    simp only [Option.bind_eq_bind, Option.bind_some, afterWord?_eq_none has hnext]
    rfl
  · have htext : (shownSpecifier (.str n, .str a)).toList ++ rest =
        n.toList ++ ' ' :: ("as".toList ++ ' ' :: (a.toList ++ rest)) := by
      simp [hshown]
    rw [htext, readSpecifier, readName_append hn (delimited_space _), skipBlank_space_word has]
    simp only [Option.bind_eq_bind, Option.bind_some, afterWord?_append has (delimited_space _),
      skipBlank_space_word ha, readName_append ha hrest]
    rfl

private theorem readSpecifier_comma {e : Value × Value} (h : SpecifierInWords e)
    (hapart : e.2.same e.1 = false) (s : List Char) :
    readSpecifier ((shownSpecifier e).toList ++ ',' :: s) = some (e, ',' :: s) := by
  have hnext : skipBlank (',' :: s) = ',' :: s := List.dropWhile_cons_of_neg (by decide)
  have hdelimited : Delimited (',' :: s) := delimited_cons (by decide) s
  rw [readSpecifier_append h hapart hdelimited (by rwa [hnext]), hnext]

private theorem readSpecifier_brace {e : Value × Value} (h : SpecifierInWords e)
    (hapart : e.2.same e.1 = false) (s : List Char) :
    readSpecifier ((shownSpecifier e).toList ++ ' ' :: '\x7d' :: s) = some (e, '\x7d' :: s) := by
  have hnext : skipBlank (' ' :: '\x7d' :: s) = '\x7d' :: s := skipBlank_space (by decide) s
  have hdelimited : Delimited ('\x7d' :: s) := delimited_cons (by decide) s
  rw [readSpecifier_append h hapart (delimited_space _) (by rwa [hnext]), hnext]

/-! ### Specifiers with commas between them -/

private theorem toList_commaSeparated_singleton (part : String) :
    (commaSeparated [part]).toList = part.toList := by
  rw [commaSeparated, String.toList_intercalate]
  simp

private theorem toList_commaSeparated_cons (part part' : String) (parts : List String) :
    (commaSeparated (part :: part' :: parts)).toList =
      part.toList ++ ',' :: ' ' :: (commaSeparated (part' :: parts)).toList := by
  rw [commaSeparated, String.toList_intercalate, List.map_cons, List.map_cons,
    List.intercalate_cons_cons, ← List.map_cons, ← String.toList_intercalate, List.append_assoc]
  rfl

private theorem length_le_commaSeparated (parts : List String) :
    parts.length ≤ (commaSeparated parts).toList.length + 1 := by
  induction parts with
  | nil => exact Nat.zero_le _
  | cons part parts ih =>
    cases parts with
    | nil => simp
    | cons part' parts =>
      rw [toList_commaSeparated_cons]
      simp only [List.length_cons, List.length_append] at ih ⊢
      omega

private theorem exists_cons_commaSeparated {e : Value × Value} (h : SpecifierInWords e)
    (hapart : e.2.same e.1 = false) (es : Entries Value) :
    ∃ c l, (commaSeparated ((e :: es).map shownSpecifier)).toList = c :: l ∧
      isWordChar c = true := by
  obtain ⟨c, l, hl, hc⟩ : ∃ c l, (shownSpecifier e).toList = c :: l ∧ isWordChar c = true := by
    rcases shownSpecifier_inWords h hapart with
      ⟨n, -, hn, hshown⟩ | ⟨n, a, -, hn, -, hshown⟩
    · rw [hshown]
      exact hn.exists_cons
    · obtain ⟨c, l, hl, hc⟩ := hn.exists_cons
      exact ⟨c, l ++ (" as ".toList ++ a.toList), by simp [hshown, hl], hc⟩
  cases es with
  | nil => exact ⟨c, l, by rw [List.map_singleton, toList_commaSeparated_singleton, hl], hc⟩
  | cons e' es =>
    rw [List.map_cons, List.map_cons, toList_commaSeparated_cons, hl, List.cons_append]
    exact ⟨c, _, rfl, hc⟩

private theorem readSpecifiers_append {es : Entries Value} (hne : es ≠ [])
    (hwords : ∀ e ∈ es, SpecifierInWords e) (hapart : ∀ e ∈ es, e.2.same e.1 = false) {n : Nat}
    (hn : es.length ≤ n) (rest : List Char) :
    readSpecifiers n ((commaSeparated (es.map shownSpecifier)).toList ++ ' ' :: '\x7d' :: rest) =
      some (es, skipBlank rest) := by
  induction es generalizing n with
  | nil => exact absurd rfl hne
  | cons e es ih =>
    obtain ⟨n, rfl⟩ : ∃ k, n = k + 1 := ⟨n - 1, by rw [List.length_cons] at hn; omega⟩
    rw [List.forall_mem_cons] at hwords hapart
    -- the last specifier is followed by the brace, every other one by a comma
    cases es with
    | nil =>
      rw [List.map_singleton, toList_commaSeparated_singleton, readSpecifiers,
        readSpecifier_brace hwords.1 hapart.1]
      rfl
    | cons e' es =>
      obtain ⟨c, l, hl, hc⟩ := exists_cons_commaSeparated (hwords.2 e' List.mem_cons_self)
        (hapart.2 e' List.mem_cons_self) es
      have hmore := ih (List.cons_ne_nil e' es) hwords.2 hapart.2 (Nat.le_of_succ_le_succ hn)
      rw [hl, List.cons_append] at hmore
      rw [List.map_cons, List.map_cons, toList_commaSeparated_cons, ← List.map_cons, hl,
        List.append_assoc, List.cons_append, List.cons_append, List.cons_append, readSpecifiers,
        readSpecifier_comma hwords.1 hapart.1]
      simp only [Option.bind_eq_bind, Option.bind_some, hmore,
        skipBlank_space (isBlank_of_isWordChar hc)]
      rfl

/-- The specifiers of a declaration between braces. -/
def shownBraces (es : Entries Value) : String :=
  "\x7b " ++ commaSeparated (es.map shownSpecifier) ++ " \x7d"

private theorem toList_shownBraces (es : Entries Value) : (shownBraces es).toList =
    '\x7b' :: ' ' :: ((commaSeparated (es.map shownSpecifier)).toList ++ [' ', '\x7d']) := by
  simp [shownBraces]

private theorem readBraces_append {es : Entries Value} (hne : es ≠ [])
    (hwords : ∀ e ∈ es, SpecifierInWords e) (hapart : ∀ e ∈ es, e.2.same e.1 = false)
    (rest : List Char) :
    readBraces ((shownBraces es).toList ++ rest) = some (es, skipBlank rest) := by
  have hlength := length_le_commaSeparated (es.map shownSpecifier)
  rw [List.length_map] at hlength
  rw [toList_shownBraces, List.cons_append, List.cons_append, List.append_assoc, readBraces,
    afterMark?_cons]
  have hread : ∀ {n}, es.length ≤ n → readSpecifiers n
      ((commaSeparated (es.map shownSpecifier)).toList ++ ' ' :: '\x7d' :: rest) =
        some (es, skipBlank rest) := fun hn => readSpecifiers_append hne hwords hapart hn rest
  obtain ⟨e, es, rfl⟩ := List.exists_cons_of_ne_nil hne
  obtain ⟨c, l, hl, hc⟩ := exists_cons_commaSeparated (hwords e List.mem_cons_self)
    (hapart e List.mem_cons_self) es
  rw [hl] at hread hlength ⊢
  rw [List.cons_append, skipBlank_space (isBlank_of_isWordChar hc), ← List.cons_append]
  refine hread ?_
  simp only [List.length_append, List.length_cons] at hlength ⊢
  omega

/-! ### What stands between the keywords -/

/-- The parts of a statement between its keywords. -/
def ImportDeclaration.shownParts (d : ImportDeclaration) : List String :=
  (if d.default.truthy then [d.default.text] else []) ++
    if d.named.isEmpty then [] else [shownBraces d.named]

namespace ImportDeclaration

variable {d : ImportDeclaration}

theorem InWords.clauses_eq_ok (h : d.InWords) (hproper : d.Proper) :
    d.clauses = .ok d.shownParts := by
  have hnames : d.named.mapM (fun e => specifierText e.1 e.2) =
      .ok (d.named.map shownSpecifier) :=
    mapM_eq_ok_map fun e he => specifierText_inWords (h.named e he)
  have hempty : (commaSeparated (d.named.map shownSpecifier)).isEmpty = d.named.isEmpty := by
    cases hnamed : d.named with
    | nil => rfl
    | cons e es =>
      have hmem : e ∈ d.named := hnamed ▸ List.mem_cons_self
      obtain ⟨c, l, hl, -⟩ :=
        exists_cons_commaSeparated (h.named e hmem) (hproper.apart e hmem) es
      refine Bool.eq_false_iff.mpr fun hnone => ?_
      rw [String.isEmpty_iff.mp hnone] at hl
      cases hl
  rw [clauses, hnames]
  change (do
    let defaultPart ← if d.default.truthy then do pure [← d.default.needText] else pure []
    return defaultPart ++ if (commaSeparated (d.named.map shownSpecifier)).isEmpty then [] else
      [shownBraces d.named]) = _
  rw [hempty, shownParts]
  rcases h.default with hnull | hword
  · rw [hnull]
    rfl
  · rw [hword.truthy]
    obtain ⟨n, hn, -⟩ := hword
    rw [hn]
    rfl

theorem InWords.shape (h : d.InWords) (hproper : d.Proper) :
    (d.default = .null ∧ d.named ≠ [] ∧ d.shownParts = [shownBraces d.named]) ∨
      ∃ n, IsWord n ∧ d.default = .str n ∧
        ((d.named = [] ∧ d.shownParts = [n]) ∨
          (d.named ≠ [] ∧ d.shownParts = [n, shownBraces d.named])) := by
  rw [shownParts]
  rcases h.default with hnull | hword
  · have hne : d.named ≠ [] := by simpa [hnull, Value.truthy] using hproper.asked
    refine .inl ⟨hnull, hne, ?_⟩
    simp [hnull, Value.truthy, hne]
  · rw [if_pos hword.truthy]
    obtain ⟨n, hn, hword⟩ := hword
    refine .inr ⟨n, hword, hn, ?_⟩
    by_cases hnamed : d.named = []
    · exact .inl ⟨hnamed, by simp [hnamed, hn, Value.text]⟩
    · exact .inr ⟨hnamed, by simp [hnamed, hn, Value.text]⟩

private theorem readClause_word {n : String} (hn : IsWord n) (hrest : Delimited rest) :
    readClause (n.toList ++ rest) = readBehindDefault (.str n) (skipBlank rest) := by
  obtain ⟨c, l, hl, hc⟩ := hn.exists_cons
  have hname := readName_append hn hrest
  rw [hl, List.cons_append] at hname ⊢
  rw [readClause]
  · rw [hname]
    rfl
  · exact fun _ heq => ne_of_kind hc (by decide) (List.cons.inj heq).1

/-- What stands between the keywords is read up to a text that goes on with neither a character of a
word nor a comma. -/
private theorem readClause_append (h : d.InWords) (hproper : d.Proper) (hrest : Delimited rest)
    (hnext : ∀ s, skipBlank rest ≠ ',' :: s) :
    readClause ((commaSeparated d.shownParts).toList ++ rest) =
      some ((d.default, d.named), skipBlank rest) := by
  have hbraces : d.named ≠ [] → ∃ s, (shownBraces d.named).toList ++ rest = '\x7b' :: s ∧
      readBraces ('\x7b' :: s) = some (d.named, skipBlank rest) := by
    intro hne
    have hread := readBraces_append hne h.named hproper.apart rest
    rw [toList_shownBraces, List.cons_append] at hread ⊢
    exact ⟨_, rfl, hread⟩
  rcases h.shape hproper with
    ⟨hnull, hne, hparts⟩ | ⟨n, hn, hdefault, ⟨hnil, hparts⟩ | ⟨hne, hparts⟩⟩
  · obtain ⟨s, hs, hread⟩ := hbraces hne
    rw [hparts, toList_commaSeparated_singleton, hs, readClause, hread, hnull]
    rfl
  · rw [hparts, toList_commaSeparated_singleton, readClause_word hn hrest, hdefault, hnil,
      readBehindDefault]
    exact hnext
  · obtain ⟨s, hs, hread⟩ := hbraces hne
    have hcomma : skipBlank (',' :: ' ' :: '\x7b' :: s) = ',' :: ' ' :: '\x7b' :: s :=
      List.dropWhile_cons_of_neg (by decide)
    rw [hparts, toList_commaSeparated_cons, toList_commaSeparated_singleton, List.append_assoc,
      List.cons_append, List.cons_append, hs, readClause_word hn (delimited_cons (by decide) _),
      hcomma, readBehindDefault, skipBlank_space (by decide), hread, hdefault]
    rfl

private theorem exists_cons_shownParts (h : d.InWords) (hproper : d.Proper) :
    ∃ c l, (commaSeparated d.shownParts).toList = c :: l ∧ Text.isBlank c = false := by
  rcases h.shape hproper with ⟨-, -, hparts⟩ | ⟨n, hn, -, ⟨-, hparts⟩ | ⟨-, hparts⟩⟩
  · rw [hparts, toList_commaSeparated_singleton, toList_shownBraces]
    exact ⟨'\x7b', _, rfl, by decide⟩
  · obtain ⟨c, l, hl, hc⟩ := hn.exists_cons
    exact ⟨c, l, by rw [hparts, toList_commaSeparated_singleton, hl], isBlank_of_isWordChar hc⟩
  · obtain ⟨c, l, hl, hc⟩ := hn.exists_cons
    rw [hparts, toList_commaSeparated_cons, hl, List.cons_append]
    exact ⟨c, _, rfl, isBlank_of_isWordChar hc⟩

/-! ### Statements -/

/-- A statement as it is shown. -/
def shownStatement (d : ImportDeclaration) : String :=
  "import " ++ commaSeparated d.shownParts ++ " from \"" ++ d.path.text ++ "\";"

theorem InWords.statement_eq_ok (h : d.InWords) (hproper : d.Proper) :
    d.statement? = .ok (some d.shownStatement) := by
  have hne : ∃ part parts, d.shownParts = part :: parts := by
    rcases h.shape hproper with ⟨-, -, hparts⟩ | ⟨n, -, -, ⟨-, hparts⟩ | ⟨-, hparts⟩⟩ <;>
      exact ⟨_, _, hparts⟩
  obtain ⟨part, parts, hparts⟩ := hne
  rw [statement?, h.clauses_eq_ok hproper, shownStatement, hparts]
  rfl

private theorem readPath_append {p : List Char} (hp : ∀ c ∈ p, isPathChar c = true)
    (rest : List Char) : readPath (Text.quoteMark :: (p ++ Text.quoteMark :: rest)) =
      some (.str (String.ofList p), skipBlank rest) := by
  obtain ⟨htake, hdrop⟩ := takeWhile_append_of_head hp (Text.quoteMark :: rest)
    (by rintro _ ⟨⟩; decide)
  change (afterMark? Text.quoteMark _).map _ = _
  rw [htake, hdrop, afterMark?_cons]
  rfl

/-- What a statement ends with, from its second keyword on. -/
private def pathClause (p : List Char) : List Char :=
  "from".toList ++ ' ' :: Text.quoteMark :: (p ++ [Text.quoteMark, ';'])

private theorem skipBlank_pathClause (p : List Char) :
    skipBlank (' ' :: pathClause p) = pathClause p :=
  skipBlank_space_word (w := "from") (by decide) _

/-- A declaration in words is found by the reader in its statement. -/
theorem readImport_shownStatement (h : d.InWords) (hproper : d.Proper) :
    readImport d.shownStatement.toList = some d := by
  obtain ⟨path, hpath, hchars⟩ := h.path
  have himport : IsWord "import" := by decide
  have hfrom : IsWord "from" := by decide
  have htext : d.shownStatement.toList = "import".toList ++ ' ' ::
      ((commaSeparated d.shownParts).toList ++ ' ' :: pathClause path.toList) := by
    simp [shownStatement, hpath, Value.text, pathClause]
    rfl
  have hclause := readClause_append h hproper (delimited_space (pathClause path.toList))
    fun _ heq => absurd (skipBlank_pathClause path.toList ▸ heq) (by simp [pathClause])
  have hbehind : afterWord? "from" (pathClause path.toList) =
      some (Text.quoteMark :: (path.toList ++ [Text.quoteMark, ';'])) := by
    rw [pathClause, afterWord?_append hfrom (delimited_space _), skipBlank_space (by decide)]
  obtain ⟨c, l, hl, hc⟩ := exists_cons_shownParts h hproper
  rw [hl, List.cons_append] at hclause htext
  rw [htext, readImport, afterWord?_append himport (delimited_space _), skipBlank_space hc]
  simp only [Option.bind_eq_bind, Option.bind_some, hclause, skipBlank_pathClause, hbehind,
    readPath_append hchars [';']]
  rw [String.ofList_toList, ← hpath]
  rfl

end ImportDeclaration

end Reading

theorem importStatements_eq_ok {ds : List ImportDeclaration} (hwords : ∀ d ∈ ds, d.InWords)
    (hproper : ∀ d ∈ ds, d.Proper) :
    ds.mapM ImportDeclaration.statement? =
        .ok ((ds.map ImportDeclaration.shownStatement).map some) ∧
      importStatements ds = .ok (ds.map ImportDeclaration.shownStatement) := by
  have hmap : ds.mapM ImportDeclaration.statement? =
      .ok ((ds.map ImportDeclaration.shownStatement).map some) := by
    rw [List.map_map]
    exact mapM_eq_ok_map fun d hd => (hwords d hd).statement_eq_ok (hproper d hd)
  refine ⟨hmap, ?_⟩
  rw [importStatements, hmap]
  change Except.ok (((ds.map ImportDeclaration.shownStatement).map some).filterMap id) = _
  rw [List.filterMap_map, Function.id_comp, List.filterMap_some]

/-- **Import statements are read back.** Take a table after any calls, some of which may have
failed, whose declarations have words as names and aliases and paths without quotes, backslashes and
newlines. There is one statement for each declaration, in order, and the grammar of imports finds
the declaration in it. So no other declarations of this kind have these statements. -/
theorem importStatements_readBack (calls : List (List ImportSpec)) {ds : List ImportDeclaration}
    (hds : (empty.afterCalls calls).declarations = .ok ds) (hwords : ∀ d ∈ ds, d.InWords) :
    ∃ statements, importStatements ds = .ok statements ∧
      ds.mapM ImportDeclaration.statement? = .ok (statements.map some) ∧
      statements.map (fun s => readImport s.toList) = ds.map some ∧
      ∀ calls' ds', (empty.afterCalls calls').declarations = .ok ds' →
        (∀ d ∈ ds', d.InWords) → importStatements ds' = .ok statements → ds' = ds := by
  have hread : ∀ calls {ds : List ImportDeclaration},
      (empty.afterCalls calls).declarations = .ok ds → (∀ d ∈ ds, d.InWords) →
        (ds.map ImportDeclaration.shownStatement).map (fun s => readImport s.toList) =
          ds.map some := by
    intro calls ds hds hwords
    have hproper := (aliasesApart_afterCalls calls).proper hds
    rw [List.map_map]
    exact List.map_congr_left fun d hd => ImportDeclaration.readImport_shownStatement (hwords d hd)
      (hproper d hd)
  obtain ⟨hmap, hstatements⟩ :=
    importStatements_eq_ok hwords ((aliasesApart_afterCalls calls).proper hds)
  refine ⟨_, hstatements, hmap, hread calls hds hwords, fun calls' ds' hds' hwords' hsame => ?_⟩
  obtain ⟨-, hstatements'⟩ :=
    importStatements_eq_ok hwords' ((aliasesApart_afterCalls calls').proper hds')
  have hshown := Except.ok.inj (hstatements'.symm.trans hsame)
  -- both are what the reader finds in the same statements
  have hsome : ds'.map some = ds.map some := by
    rw [← hread calls' hds' hwords', hshown, hread calls hds hwords]
  exact List.map_injective_iff.mpr (Option.some_injective _) hsome

/-- Requests for names that are keywords too, with and without aliases. One of them fails. -/
def keywordCalls : List (List ImportSpec) := [
  [.named (.str "react") (.str "as") (.str "from"), .named (.str "react") (.str "") .null],
  [.default (.str "react") (.str "from"), .named (.str "react") (.str "import") (.str "import")]]

/-- What the requests come to. -/
def keywordImport : ImportDeclaration :=
  ⟨.str "react", .str "from", [(.str "as", .str "from"), (.str "import", .null)]⟩

/-- Names that are keywords are read back: `import from, { as as from, import } from "react";`. -/
theorem importStatements_readBack_keywordImport :
    (empty.afterCalls keywordCalls).declarations = .ok [keywordImport] ∧
    (∀ d ∈ [keywordImport], d.InWords) ∧
    ∃ statements, importStatements [keywordImport] = .ok statements ∧
      statements.map (fun s => readImport s.toList) = [some keywordImport] := by
  have hnames : (Value.str "as").TextLt (.str "import") :=
    ⟨"as", "import", rfl, rfl, String.lt_iff_toList_lt.mpr (by decide)⟩
  have htexts : keywordImport.named.HasTextKeys :=
    List.forall_mem_cons.mpr ⟨rfl, List.forall_mem_singleton.mpr rfl⟩
  have hds : (holding [keywordImport]).declarations = .ok [keywordImport] :=
    declarations_holding (List.forall_mem_singleton.mpr rfl) (List.pairwise_singleton _ _)
      (List.forall_mem_singleton.mpr ⟨htexts, List.pairwise_pair.mpr hnames⟩)
      (List.forall_mem_singleton.mpr rfl)
  have has : (Value.str "as").InWord := ⟨"as", rfl, by decide⟩
  have hfrom : (Value.str "from").InWord := ⟨"from", rfl, by decide⟩
  have himport : (Value.str "import").InWord := ⟨"import", rfl, by decide⟩
  have hreact : ∀ c ∈ "react".toList, isPathChar c = true := List.all_eq_true.mp rfl
  have hwords : ∀ d ∈ [keywordImport], d.InWords :=
    List.forall_mem_singleton.mpr ⟨⟨"react", rfl, hreact⟩, .inr hfrom,
      List.forall_mem_cons.mpr ⟨⟨has, .inr hfrom⟩,
        List.forall_mem_singleton.mpr ⟨himport, .inl rfl⟩⟩⟩
  obtain ⟨statements, hstatements, -, hread, -⟩ :=
    importStatements_readBack keywordCalls hds hwords
  exact ⟨hds, hwords, statements, hstatements, hread⟩

end PageMarkup
