import PageMarkup.Proofs.Content.Outcomes
import PageMarkup.Proofs.Content.Overlay
import PageMarkup.Schema.Reading

/-!
# Where a setting of a component is taken from

The settings of a component stand next to its fields, or in its block for code generation, and all
but one of them have two spellings. The entries of the block are put over the others key by key, and
only then is the spelling looked for, the preferred one first. So the block does not always win: a
preferred spelling next to the fields is found before the other spelling in the block.

Each setting is followed on its own. What a definition says about it are the entries under its
spellings, and these are a definition that can be read without the rest.

## Main definitions

* `ComponentSetting` : the settings that may stand in the block, with their spellings.
* `ComponentSetting.entriesIn` : what some entries say about a setting.
* `ComponentSetting.only` : a component of which one setting is kept.
* `ComponentSetting.takesBlock`, `ComponentSetting.layer` : the entries that decide a setting.
* `Definition.blockEntries` : the entries of a block.

## Main results

* `asComponent_eq_ok_iff` : a component is read setting by setting.
* `firstOf_putAll_block` : the spelling that is found in one of two layers of entries.
* `asComponent_onlySetting` : each setting is read from the block alone or from the entries next to
  the fields alone.
-/

namespace PageMarkup

/-- The settings of a component that may stand in its block. -/
inductive ComponentSetting where
  | imports
  | outputName
  | hook
  | omitted
  | skip
  deriving DecidableEq

namespace ComponentSetting

/-- The spelling of a setting that is looked for first. -/
def preferred : ComponentSetting → String
  | .imports => "import"
  | .outputName => "output_name"
  | .hook => "props_transform"
  | .omitted => "omit_props"
  | .skip => "skip"

/-- The other spelling of a setting. -/
def other? : ComponentSetting → Option String
  | .imports => some "imports"
  | .outputName => some "component"
  | .hook => some "mapProps"
  | .omitted => some "omitProps"
  | .skip => none

/-- The spellings of a setting, the preferred one first. -/
def spellings (s : ComponentSetting) : List String :=
  s.preferred :: s.other?.toList

/-- Whether some entries give a setting under any of its spellings. -/
def givenIn (s : ComponentSetting) (es : Entries Definition) : Bool :=
  (es.firstOf s.spellings).isSome

/-- What some entries say about a setting. -/
def entriesIn (s : ComponentSetting) (es : Entries Definition) : Entries Definition :=
  es.filter fun e => s.spellings.any fun name => e.1.same (.str name)

/-- Whether the block decides a setting: it gives the preferred spelling, or it gives the other one
and the preferred one does not stand next to the fields. -/
def takesBlock (s : ComponentSetting) (es block : Entries Definition) : Bool :=
  block.has (.str s.preferred) || (s.givenIn block && !es.has (.str s.preferred))

/-- The entries that decide a setting: those of the block, or those next to the fields. -/
def layer (s : ComponentSetting) (es block : Entries Definition) : Entries Definition :=
  if s.takesBlock es block then block else es

/-- The component with one setting of another one and nothing else. -/
def only : ComponentSetting → Component → Component
  | .imports, c => { Component.plain with imports := c.imports }
  | .outputName, c => { Component.plain with outputName := c.outputName }
  | .hook, c => { Component.plain with hook := c.hook }
  | .omitted, c => { Component.plain with omitted := c.omitted }
  | .skip, c => { Component.plain with skip := c.skip }

/-- What is found under the spellings of a setting is read as the setting of a component of the
given type. -/
def ReadsAs (type : Value) (found : Option Definition) : ComponentSetting → Component → Prop
  | .imports, c => readImports found = .ok c.imports
  | .outputName, c => (found.map Definition.value).getD .null = c.outputName
  | .hook, c => readHook type found = .ok c.hook
  | .omitted, c => readOmitted found = .ok c.omitted
  | .skip, c => (found.map Definition.truthy).getD false = c.skip

end ComponentSetting

/-- The entries of a block for code generation; what counts as false has none. -/
def Definition.blockEntries (block : Definition) : Except Fault (Entries Definition) :=
  if block.truthy then liftMisuse block.readEntries else .ok []

/-! ### Spellings -/

theorem firstOf_spellings (s : ComponentSetting) (es : Entries Definition) :
    es.firstOf s.spellings =
      (es.find? (.str s.preferred)).or (s.other?.bind fun name => es.find? (.str name)) := by
  rw [Entries.firstOf, ComponentSetting.spellings, List.findSome?_cons]
  cases es.find? (.str s.preferred) with
  | some d => rfl
  | none =>
    cases s.other? with
    | none => rfl
    | some name => simp

theorem firstOf_spellings_skip (es : Entries Definition) :
    es.firstOf ComponentSetting.skip.spellings = es.find? (.str "skip") := by
  rw [firstOf_spellings, ComponentSetting.other?, Option.bind_none, Option.or_none]
  rfl

theorem Entries.firstOf_congr {es fs : Entries Definition} {names : List String}
    (h : ∀ name ∈ names, es.find? (.str name) = fs.find? (.str name)) :
    es.firstOf names = fs.firstOf names := by
  unfold firstOf
  induction names with
  | nil => rfl
  | cons name names ih =>
    obtain ⟨hname, hnames⟩ := List.forall_mem_cons.mp h
    rw [List.findSome?_cons, List.findSome?_cons, hname, ih hnames]

theorem Entries.find?_filter_keys {α : Type} (es : Entries α) (p : Value → Bool) (name : String) :
    find? (es.filter fun e => p e.1) (.str name) =
      if p (.str name) then es.find? (.str name) else none := by
  induction es with
  | nil => exact (ite_self none).symm
  | cons e es ih =>
    rw [List.filter_cons, find?_cons]
    by_cases hkey : e.1.same (.str name) = true
    · rw [if_pos hkey, Value.same_str_iff.mp hkey]
      split
      · rw [find?_cons, if_pos hkey]
      · rwa [if_neg ‹_›] at ih
    · rw [if_neg hkey, ← ih]
      split
      · rw [find?_cons, if_neg hkey]
      · rfl

/-- What some entries say about a setting is found under its spellings and under no other text. -/
theorem find?_entriesIn (s : ComponentSetting) (es : Entries Definition) (name : String) :
    (s.entriesIn es).find? (.str name) =
      if name ∈ s.spellings then es.find? (.str name) else none := by
  have hany : (s.spellings.any fun t => (Value.str name).same (.str t)) = true ↔
      name ∈ s.spellings := by
    rw [List.any_eq_true]
    constructor
    · rintro ⟨t, ht, hsame⟩
      exact Value.str.inj (Value.str_same_iff.mp hsame) ▸ ht
    · exact fun hmem => ⟨name, hmem, Value.str_same_iff.mpr rfl⟩
  rw [ComponentSetting.entriesIn,
    Entries.find?_filter_keys es fun key => s.spellings.any fun t => key.same (.str t)]
  simp only [hany]

theorem disjoint_spellings {s t : ComponentSetting} (h : s ≠ t) :
    ∀ name ∈ s.spellings, name ∉ t.spellings := by
  cases s <;> cases t <;> first | exact absurd rfl h | decide

theorem firstOf_entriesIn (s : ComponentSetting) (es : Entries Definition) :
    (s.entriesIn es).firstOf s.spellings = es.firstOf s.spellings := by
  refine Entries.firstOf_congr fun name hname => ?_
  rw [find?_entriesIn, if_pos hname]

theorem firstOf_entriesIn_of_ne {s t : ComponentSetting} (h : s ≠ t) (es : Entries Definition) :
    (s.entriesIn es).firstOf t.spellings = none := by
  refine List.findSome?_eq_none_iff.mpr fun name hname => ?_
  rw [find?_entriesIn, if_neg fun hmem => disjoint_spellings h name hmem hname]

/-! ### A component setting by setting -/

/-- A component is read from its fields and, each on its own, its settings. -/
theorem asComponent_eq_ok_iff {type : Value} {es : Entries Definition} {c : Component} :
    Definition.asComponent type (.map es) = .ok c ↔
      ∃ settings, componentSettings es = .ok settings ∧
        ((Entries.find? es (.str "fields")).map Definition.asFields).getD (.ok []) = .ok c.fields ∧
        ∀ s : ComponentSetting, s.ReadsAs type (settings.firstOf s.spellings) c := by
  constructor
  · intro h
    obtain ⟨settings, hsettings, h⟩ := bind_eq_ok_iff.mp h
    obtain ⟨imports, himports, h⟩ := bind_eq_ok_iff.mp h
    obtain ⟨hook, hhook, h⟩ := bind_eq_ok_iff.mp h
    obtain ⟨fields, hfields, h⟩ := bind_eq_ok_iff.mp h
    obtain ⟨omitted, homitted, h⟩ := bind_eq_ok_iff.mp h
    cases h
    refine ⟨settings, hsettings, hfields, fun s => ?_⟩
    cases s with
    | imports => exact himports
    | outputName => rfl
    | hook => exact hhook
    | omitted => exact homitted
    | skip =>
      rw [firstOf_spellings_skip]
      rfl
  · rintro ⟨settings, hsettings, hfields, hreads⟩
    refine bind_eq_ok_iff.mpr ⟨settings, hsettings, ?_⟩
    refine bind_eq_ok_iff.mpr ⟨c.imports, hreads .imports, ?_⟩
    refine bind_eq_ok_iff.mpr ⟨c.hook, hreads .hook, ?_⟩
    refine bind_eq_ok_iff.mpr ⟨c.fields, hfields, ?_⟩
    refine bind_eq_ok_iff.mpr ⟨c.omitted, hreads .omitted, ?_⟩
    have hname : ((settings.firstOf ["output_name", "component"]).map Definition.value).getD .null =
        c.outputName := hreads .outputName
    have hskip : ((settings.find? (.str "skip")).map Definition.truthy).getD false = c.skip := by
      have hsetting := hreads .skip
      rwa [firstOf_spellings_skip] at hsetting
    rw [hname, hskip]
    rfl

theorem componentSettings_of_none {es : Entries Definition}
    (h : Entries.find? es (.str "codegen") = none) : componentSettings es = .ok es := by
  rw [componentSettings, h]

theorem asComponent_entriesIn {type : Value} {s : ComponentSetting} {es : Entries Definition}
    {c : Component} (h : s.ReadsAs type (es.firstOf s.spellings) c) :
    Definition.asComponent type (.map (s.entriesIn es)) = .ok (s.only c) := by
  refine asComponent_eq_ok_iff.mpr ⟨s.entriesIn es, componentSettings_of_none ?_, ?_, fun t => ?_⟩
  · rw [find?_entriesIn, if_neg (by cases s <;> decide)]
  · rw [find?_entriesIn, if_neg (by cases s <;> decide)]
    cases s <;> rfl
  · by_cases heq : s = t
    · subst heq
      rw [firstOf_entriesIn]
      cases s <;> exact h
    · rw [firstOf_entriesIn_of_ne heq]
      cases s <;> cases t <;> first | exact absurd rfl heq | rfl

/-! ### Two layers of settings -/

/-- The settings are the entries next to the fields with those of the block put over them. -/
theorem componentSettings_of_block {es : Entries Definition} {block : Definition}
    (h : Entries.find? es (.str "codegen") = some block) :
    componentSettings es = es.putAll <$> block.blockEntries := by
  rw [componentSettings, h, Definition.blockEntries]
  dsimp only
  split
  · cases block.readEntries <;> rfl
  · rfl

theorem Entries.DistinctTexts.of_nodup_keys {α : Type} {es : Entries α} (h : es.keys.Nodup) :
    es.DistinctTexts := by
  refine (List.pairwise_map.mp h).imp ?_
  exact fun hne _ => hne

theorem distinctTexts_of_blockEntries {block : Definition} {bs : Entries Definition}
    (h : block.blockEntries = .ok bs)
    (hmap : ∀ entries, block = .map entries → Entries.DistinctTexts entries) :
    bs.DistinctTexts := by
  unfold Definition.blockEntries at h
  split at h
  · have hread := liftMisuse_eq_ok_iff.mp h
    unfold Definition.readEntries at hread
    split at hread
    · cases hread
      exact hmap _ rfl
    · obtain ⟨items, -, hread⟩ := bind_eq_ok_iff.mp hread
      obtain ⟨more, -, hread⟩ := bind_eq_ok_iff.mp hread
      cases hread
      exact (Entries.putAll_nil more).1.distinctTexts
  · cases h
    exact List.Pairwise.nil

/-- In two layers a setting is found where it is found in one of them: in the block if the block
decides it, and next to the fields otherwise. -/
theorem firstOf_putAll_block (s : ComponentSetting) (es : Entries Definition)
    {bs : Entries Definition} (hbs : bs.DistinctTexts) :
    (es.putAll bs).firstOf s.spellings = (s.layer es bs).firstOf s.spellings := by
  have hgiven : s.givenIn bs = (bs.firstOf s.spellings).isSome := rfl
  rw [ComponentSetting.layer, ComponentSetting.takesBlock, hgiven]
  rw [Entries.has_eq_isSome, Entries.has_eq_isSome]
  simp only [firstOf_spellings, Entries.find?_putAll es hbs]
  cases hblock : bs.find? (.str s.preferred) with
  | some d =>
    rw [Option.isSome_some, Bool.true_or, if_pos rfl, hblock]
    rfl
  | none =>
    cases hes : es.find? (.str s.preferred) with
    | some d =>
      rw [Option.isSome_some, Bool.not_true, Bool.and_false, Option.isSome_none, Bool.or_false,
        if_neg Bool.false_ne_true, hes]
      rfl
    | none =>
      -- Only the other spelling is left, and the block has it or has nothing.
      cases s.other? with
      | none => simp [hes]
      | some name =>
        cases hother : bs.find? (.str name) with
        | some d => simp [hblock, hother]
        | none => simp [hes, hother]

/-- **Each setting is taken from one place alone.** The block decides a setting if it gives the
preferred spelling, or if it gives the other one and the preferred one does not stand next to the
fields; otherwise what stands next to the fields decides it. The setting is read from the first
spelling in this place. The entries of this place that spell the setting are, read on their own, the
component with this setting. -/
theorem asComponent_onlySetting {type : Value} {es : Entries Definition} {block : Definition}
    {c : Component} (hblock : Entries.find? es (.str "codegen") = some block)
    (hmap : ∀ entries, block = .map entries → Entries.DistinctTexts entries)
    (hread : Definition.asComponent type (.map es) = .ok c) :
    ∃ bs, block.blockEntries = .ok bs ∧ ∀ s : ComponentSetting,
      s.ReadsAs type ((s.layer es bs).firstOf s.spellings) c ∧
        Definition.asComponent type (.map (s.entriesIn (s.layer es bs))) = .ok (s.only c) := by
  obtain ⟨settings, hsettings, -, hreads⟩ := asComponent_eq_ok_iff.mp hread
  rw [componentSettings_of_block hblock] at hsettings
  obtain ⟨bs, hbs, rfl⟩ := map_eq_ok_iff.mp hsettings
  refine ⟨bs, hbs, fun s => ?_⟩
  have hsetting : s.ReadsAs type ((s.layer es bs).firstOf s.spellings) c := by
    rw [← firstOf_putAll_block s es (distinctTexts_of_blockEntries hbs hmap)]
    exact hreads s
  exact ⟨hsetting, asComponent_entriesIn hsetting⟩

/-- A block that gives three settings, two of them by their other spelling. -/
private def bannerBlock : Entries Definition := [
  (.str "component", .str "HeroBanner"), (.str "omitProps", .list [.str "id"]),
  (.str "skip", .bool false)]

/-- A banner that has two of these settings next to its fields, too, in the preferred spelling. -/
private def banner : Entries Definition := [
  (.str "import", .map [(.str "path", .str "antd"), (.str "name", .str "Card")]),
  (.str "output_name", .str "Card"), (.str "skip", .bool true),
  (.str "codegen", .map bannerBlock)]

theorem asComponent_onlySetting_banner :
    Entries.find? banner (.str "codegen") = some (.map bannerBlock) ∧ bannerBlock.DistinctTexts ∧
    ∃ c bs, Definition.asComponent (.str "Banner") (.map banner) = .ok c ∧
      ∀ s : ComponentSetting,
        s.ReadsAs (.str "Banner") ((s.layer banner bs).firstOf s.spellings) c ∧
          Definition.asComponent (.str "Banner") (.map (s.entriesIn (s.layer banner bs))) =
            .ok (s.only c) := by
  have hblock : Entries.find? banner (.str "codegen") = some (.map bannerBlock) := rfl
  have hnodup : (["component", "omitProps", "skip"].map Value.str).Nodup :=
    List.Nodup.map (fun _ _ => Value.str.inj) (by decide)
  have hdistinct : bannerBlock.DistinctTexts := .of_nodup_keys hnodup
  obtain ⟨c, hread⟩ : ∃ c, Definition.asComponent (.str "Banner") (.map banner) = .ok c :=
    ⟨_, rfl⟩
  obtain ⟨bs, -, hsettings⟩ := asComponent_onlySetting hblock
    (fun entries heq => Definition.map.inj heq ▸ hdistinct) hread
  exact ⟨hblock, hdistinct, c, bs, hread, hsettings⟩

/-- A block that gives a setting need not decide it: `output_name` next to the fields is found
before `component` in the block. -/
theorem not_forall_givenIn_block :
    ¬ ∀ (type : Value) (es bs : Entries Definition) (block : Definition) (c : Component),
      Entries.find? es (.str "codegen") = some block → block.blockEntries = .ok bs →
      (∀ entries, block = .map entries → Entries.DistinctTexts entries) →
      Definition.asComponent type (.map es) = .ok c → ∀ s : ComponentSetting,
        Definition.asComponent type (.map (s.entriesIn (if s.givenIn bs then bs else es))) =
          .ok (s.only c) := by
  intro hall
  have hread := hall (.str "Hero")
    [(.str "output_name", .str "Card"),
      (.str "codegen", .map [(.str "component", .str "HeroBanner")])]
    [(.str "component", .str "HeroBanner")] _ _ rfl rfl
    (fun entries heq => by cases heq; exact List.pairwise_singleton _ _) rfl .outputName
  have hname : Value.str "HeroBanner" = .str "Card" :=
    congrArg Component.outputName (Except.ok.inj hread)
  exact absurd (Value.str.inj hname) (by decide)

end PageMarkup
