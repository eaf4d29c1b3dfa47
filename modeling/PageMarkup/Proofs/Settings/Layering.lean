import PageMarkup.Proofs.Json.Objects
import PageMarkup.Proofs.Json.ReadBack
import PageMarkup.Settings.File

/-!
# Layers of settings over one another

A layer gives values to settings and entries to the custom values. Both are read off the layer
alone, one entry after the other, and whatever the layers before it have given only comes in where
the new values are put over the old ones. So settings made of a file and of overrides are those of
the file with those of the overrides put over them: for each setting the last value counts, and the
custom values are one map put over the other.

An entry under an unknown name and one inside the block of custom values come to the same thing.
They are put in the order in which they stand, and the first place of a name is the one it keeps.

## Main definitions

* `Settings.fieldNames` : the names that mean something in a layer.
* `Settings.customEntries` : the entries that a layer puts among the custom values.
* `Settings.BlockIsMap` : a layer whose block of custom values is a map, if it holds any.
* `Settings.GivesCustom` : a layer that gives a custom value under a name, inline or in its block.

## Main results

* `LayeredSettings.add_eq_ok` : what a layer makes of settings.
* `Settings.load_file_and_overrides` : the settings of a file and of overrides from those of each.
-/

namespace PageMarkup

open Entries (keys)

namespace Settings

/-- The names that mean something in a layer of settings: those of the settings, and that of the
block of custom values. -/
def fieldNames : List String :=
  Setting.all.map Setting.key ++ [customKey]

/-- The entries that one entry of a layer puts among the custom values: those of the block, none for
a setting, and the entry itself under any other name. -/
def customOf (e : Value × Value) : Entries Value :=
  if (Value.str customKey).same e.1 then e.2.entries?.getD []
  else if (Setting.ofKey? e.1).isSome then [] else [e]

/-- The entries that a layer puts among the custom values, in order. -/
def customEntries (layer : Entries Value) : Entries Value :=
  layer.flatMap customOf

/-- The block of custom values of a layer is a map, unless it counts as false and holds none. -/
def BlockIsMap (layer : Entries Value) : Prop :=
  ∀ v, (.str customKey, v) ∈ layer → v.truthy = true → ∃ es, v = .map es

/-- A layer gives a custom value under a name: inline, where the name means nothing else, or in its
block. -/
def GivesCustom (layer : Entries Value) (name : String) : Prop :=
  (.str name ∈ layer.keys ∧ name ∉ fieldNames) ∨
    ∃ es : Entries Value, (.str customKey, .map es) ∈ layer ∧ .str name ∈ es.keys

end Settings

/-! ### Names of settings -/

namespace Setting

theorem key_injective : Function.Injective key := by
  intro k l h
  cases k <;> cases l <;> first | rfl | exact absurd h (by decide)

theorem mem_all (k : Setting) : k ∈ all := by
  cases k <;> decide

theorem customKey_ne_key (k : Setting) : customKey ≠ k.key := by
  cases k <;> decide

theorem ofKey?_of_notMem {name : String} (h : name ∉ all.map key) : ofKey? (.str name) = none := by
  refine List.find?_eq_none.mpr fun k hk => ?_
  rw [Value.same_str, beq_iff_eq]
  exact fun heq => h (heq ▸ List.mem_map_of_mem hk)

end Setting

/-! ### One layer -/

namespace LayeredSettings

open Settings

variable {l : LayeredSettings} {layer : Entries Value} {name : String} {v : Value}

theorem addEntry_setting (l : LayeredSettings) (k : Setting) (v : Value) :
    l.addEntry (.str k.key, v) = .ok { l with base := l.base.set k v } := by
  cases k <;> rfl

theorem addEntry_custom (l : LayeredSettings) (v : Value) :
    l.addEntry (.str customKey, v) =
      if v.truthy then v.readEntries.map fun es => { l with custom := l.custom.putAll es }
      else .ok l := by
  change (if v.truthy then v.readEntries >>= _ else .ok l) = _
  cases v.readEntries <;> rfl

theorem same_customKey_of_notMem (h : name ∉ fieldNames) :
    (Value.str customKey).same (.str name) = false := by
  rw [Value.same_str]
  exact beq_false_of_ne fun heq => h (List.mem_append_right _ (heq ▸ List.mem_singleton_self _))

theorem addEntry_other (h : name ∉ fieldNames) (l : LayeredSettings) (v : Value) :
    l.addEntry (.str name, v) = .ok { l with custom := l.custom.put (.str name) v } := by
  have hnone := Setting.ofKey?_of_notMem (mt (List.mem_append_left _) h)
  rw [addEntry]
  simp only [same_customKey_of_notMem h, hnone]
  rfl

theorem add_cons (l : LayeredSettings) (e : Value × Value) (layer : Entries Value) :
    l.add (e :: layer) = l.addEntry e >>= fun l => l.add layer :=
  List.foldlM_cons

theorem add_append (l : LayeredSettings) (layer more : Entries Value) :
    l.add (layer ++ more) = l.add layer >>= fun l => l.add more :=
  List.foldlM_append

end LayeredSettings

namespace Settings

variable {layer : Entries Value} {name : String}

theorem customOf_setting (k : Setting) (v : Value) : customOf (.str k.key, v) = [] := by
  cases k <;> rfl

theorem customOf_custom (v : Value) : customOf (.str customKey, v) = v.entries?.getD [] :=
  rfl

theorem customOf_other (h : name ∉ fieldNames) (v : Value) :
    customOf (.str name, v) = [(.str name, v)] := by
  have hnone := Setting.ofKey?_of_notMem (mt (List.mem_append_left _) h)
  rw [customOf, LayeredSettings.same_customKey_of_notMem h, hnone]
  rfl

theorem field_cases (name : String) :
    (∃ k : Setting, name = k.key) ∨ name = customKey ∨ name ∉ fieldNames := by
  by_cases h : name ∈ fieldNames
  · rcases List.mem_append.mp h with hsetting | hblock
    · obtain ⟨k, -, rfl⟩ := List.mem_map.mp hsetting
      exact .inl ⟨k, rfl⟩
    · exact .inr (.inl (List.mem_singleton.mp hblock))
  · exact .inr (.inr h)

theorem key_mem_fieldNames (k : Setting) : k.key ∈ fieldNames :=
  List.mem_append_left _ (List.mem_map_of_mem k.mem_all)

end Settings

namespace LayeredSettings

open Settings

variable {layer : Entries Value}

/-- What one entry of a layer makes of settings: the value of the setting that it names, and entries
put among the custom values. -/
theorem addEntry_eq_ok {name : String} {v : Value}
    (hblock : name = customKey → v.truthy = true → ∃ es, v = .map es) (l : LayeredSettings) :
    ∃ base, l.addEntry (.str name, v) = .ok ⟨base, l.custom.putAll (customOf (.str name, v))⟩ ∧
      ∀ k : Setting, base.get k = if name = k.key then v else l.base.get k := by
  rcases field_cases name with ⟨k, rfl⟩ | rfl | hname
  · refine ⟨l.base.set k v, ?_, fun j => ?_⟩
    · rw [addEntry_setting, customOf_setting]
      rfl
    · by_cases hjk : k = j
      · rw [if_pos (congrArg Setting.key hjk), ← hjk, get_set_self]
      · rw [if_neg fun heq => hjk (Setting.key_injective heq), get_set_of_ne (Ne.symm hjk)]
  · refine ⟨l.base, ?_, fun j => (if_neg (Setting.customKey_ne_key j)).symm⟩
    rw [addEntry_custom, customOf_custom]
    by_cases hv : v.truthy = true
    · obtain ⟨es, rfl⟩ := hblock rfl hv
      rw [if_pos hv]
      rfl
    · have hnone : v.entries?.getD [] = [] := by
        cases v with
        | map es =>
          cases es with
          | nil => rfl
          | cons e es => exact absurd rfl hv
        | null | bool | int | float | str | list | tuple | foreign | markup => rfl
      rw [if_neg hv, hnone]
      rfl
  · refine ⟨l.base, ?_, fun j => (if_neg ?_).symm⟩
    · rw [addEntry_other hname, customOf_other hname]
      rfl
    · exact fun heq => hname (heq ▸ key_mem_fieldNames j)

/-- **What a layer makes of settings.** Each setting that the layer names takes its value, the
others stay as they are, and the custom entries of the layer are put over the custom values so
far. -/
theorem add_eq_ok (htexts : layer.HasTextKeys) (hdistinct : layer.keys.Nodup)
    (hblock : BlockIsMap layer) (l : LayeredSettings) :
    ∃ base, l.add layer = .ok ⟨base, l.custom.putAll (customEntries layer)⟩ ∧
      ∀ k : Setting, base.get k = (layer.find? (.str k.key)).getD (l.base.get k) := by
  induction layer generalizing l with
  | nil => exact ⟨l.base, rfl, fun _ => rfl⟩
  | cons e layer ih =>
    obtain ⟨key, v⟩ := e
    obtain ⟨hkey, hkeys⟩ := List.forall_mem_cons.mp htexts
    obtain ⟨hnew, hrest⟩ := List.nodup_cons.mp hdistinct
    obtain ⟨name, rfl⟩ : ∃ name, key = .str name := Value.isStr_iff.mp hkey
    obtain ⟨base, hbase, hget⟩ := addEntry_eq_ok
      (fun heq => hblock v (heq ▸ List.mem_cons_self)) l
    obtain ⟨base', hadd, hget'⟩ := ih hkeys hrest
      (fun w hw => hblock w (List.mem_cons_of_mem _ hw))
      ⟨base, l.custom.putAll (customOf (.str name, v))⟩
    refine ⟨base', ?_, fun k => ?_⟩
    · rw [add_cons, hbase]
      refine hadd.trans ?_
      rw [customEntries, customEntries, List.flatMap_cons, Entries.putAll_append]
    · rw [hget' k, hget k, Entries.find?_cons, Value.same_str]
      by_cases hk : name = k.key
      · have hnone : Entries.find? layer (.str k.key) = none :=
          Entries.find?_eq_none_iff.mpr (hk ▸ hnew)
        rw [hnone, if_pos hk, if_pos (beq_iff_eq.mpr hk)]
        rfl
      · rw [if_neg hk, if_neg (mt beq_iff_eq.mp hk)]

end LayeredSettings

namespace Settings

variable {layer : Entries Value} {name : String}

theorem mem_keys_customEntries_iff (htexts : layer.HasTextKeys) :
    .str name ∈ (customEntries layer).keys ↔ GivesCustom layer name := by
  have hmem : .str name ∈ (customEntries layer).keys ↔
      ∃ e ∈ layer, .str name ∈ keys (customOf e) := by
    simp only [customEntries, keys, List.map_flatMap, List.mem_flatMap]
  rw [hmem]
  constructor
  · rintro ⟨⟨key, v⟩, he, hin⟩
    obtain ⟨n, rfl⟩ : ∃ n, key = .str n := Value.isStr_iff.mp (htexts _ he)
    rcases field_cases n with ⟨k, rfl⟩ | rfl | hn
    · rw [customOf_setting] at hin
      cases hin
    · rw [customOf_custom] at hin
      cases v with
      | map es => exact .inr ⟨es, he, hin⟩
      | null | bool | int | float | str | list | tuple | foreign | markup => cases hin
    · rw [customOf_other hn] at hin
      obtain rfl := Value.str.inj (List.mem_singleton.mp hin)
      exact .inl ⟨Entries.mem_keys_of_mem he, hn⟩
  · rintro (⟨hin, hn⟩ | ⟨es, he, hin⟩)
    · obtain ⟨⟨key, v⟩, he, rfl⟩ := List.mem_map.mp hin
      refine ⟨_, he, ?_⟩
      rw [customOf_other hn]
      exact List.mem_singleton_self _
    · exact ⟨_, he, hin⟩

private theorem hasTextKeys_customEntries (htexts : layer.HasTextKeys)
    (hnone : .str customKey ∉ layer.keys) : (customEntries layer).HasTextKeys := by
  intro f hf
  obtain ⟨⟨key, v⟩, he, hin⟩ := List.mem_flatMap.mp hf
  obtain ⟨n, rfl⟩ : ∃ n, key = .str n := Value.isStr_iff.mp (htexts _ he)
  rcases field_cases n with ⟨k, rfl⟩ | rfl | hn
  · rw [customOf_setting] at hin
    cases hin
  · exact absurd (Entries.mem_keys_of_mem he) hnone
  · rw [customOf_other hn] at hin
    rw [List.mem_singleton.mp hin]
    rfl

theorem onlyTextsRepeat_customEntries (htexts : layer.HasTextKeys) (hdistinct : layer.keys.Nodup)
    (hkeys : ∀ es : Entries Value, (.str customKey, .map es) ∈ layer → es.Distinct) :
    (customEntries layer).OnlyTextsRepeat := by
  induction layer with
  | nil => exact List.Pairwise.nil
  | cons e layer ih =>
    obtain ⟨key, v⟩ := e
    obtain ⟨hkey, hrest⟩ := List.forall_mem_cons.mp htexts
    obtain ⟨hnew, hnodup⟩ := List.nodup_cons.mp hdistinct
    obtain ⟨n, rfl⟩ : ∃ n, key = .str n := Value.isStr_iff.mp hkey
    have hbehind := ih hrest hnodup fun es hes => hkeys es (List.mem_cons_of_mem _ hes)
    change Entries.OnlyTextsRepeat (customOf (.str n, v) ++ customEntries layer)
    rcases field_cases n with ⟨k, rfl⟩ | rfl | hn
    · rw [customOf_setting]
      exact hbehind
    · have htail := hasTextKeys_customEntries hrest hnew
      refine List.pairwise_append.mpr ⟨?_, hbehind, fun _ _ f hf => .inl (htail f hf)⟩
      rw [customOf_custom]
      cases v with
      | map es => exact (hkeys es List.mem_cons_self).onlyTextsRepeat
      | null | bool | int | float | str | list | tuple | foreign | markup =>
        exact List.Pairwise.nil
    · rw [customOf_other hn]
      refine List.pairwise_cons.mpr ⟨fun f _ => ?_, hbehind⟩
      by_cases htext : f.1.isStr = true
      · exact .inl htext
      · refine .inr (Bool.eq_false_iff.mpr fun hsame => htext ?_)
        rw [Value.str_same_iff.mp hsame]
        rfl

/-! ### A file and overrides -/

theorem get_finish (l : LayeredSettings) (k : Setting) : l.finish.get k = l.base.get k := by
  cases k <;> rfl

variable {entries given : Entries Value}

private theorem ofLayers_eq_ok (htexts : entries.HasTextKeys) (hdistinct : entries.keys.Nodup)
    (hblock : BlockIsMap entries) (hgiven : given.HasTextKeys) (hgivenDistinct : given.keys.Nodup)
    (hgivenBlock : BlockIsMap given) :
    ∃ s, ofLayers entries (.map given) = .ok s ∧
      s.custom = .map ((Entries.putAll [] (customEntries entries)).putAll (customEntries given)) ∧
      ∀ k : Setting, s.get k =
        ((given.find? (.str k.key)).or (entries.find? (.str k.key))).getD (default.get k) := by
  obtain ⟨base, hadd, hget⟩ := LayeredSettings.add_eq_ok htexts hdistinct hblock .start
  obtain ⟨base', hadd', hget'⟩ := LayeredSettings.add_eq_ok hgiven hgivenDistinct hgivenBlock
    ⟨base, Entries.putAll [] (customEntries entries)⟩
  refine ⟨LayeredSettings.finish ⟨base', _⟩, ?_, rfl, fun k => ?_⟩
  · rw [ofLayers]
    exact bind_eq_ok_iff.mpr ⟨_, hadd, bind_eq_ok_iff.mpr ⟨_, rfl, bind_eq_ok_iff.mpr
      ⟨_, hadd', rfl⟩⟩⟩
  · rw [get_finish, hget' k, hget k, Option.getD_or]
    rfl

theorem readSettingsFile_eq_ok {w : Workspace} {p full : Path} {text : String}
    (hlocate : w.locate p = .file full (.text text)) (hsuffix : p.hasSuffix ".json" = true)
    (hread : Json.read text.toList = .ok (.map entries)) : readSettingsFile w p = .ok entries := by
  rw [readSettingsFile, hlocate]
  simp only [hsuffix, Bool.not_true, Bool.false_eq_true, if_false, Location.contents?, hread]

theorem readNamedFile_of_truthy {w : Workspace} {file : String}
    (h : (Value.str file).truthy = true) :
    readNamedFile w (.str file) = readSettingsFile w (.ofText file) := by
  rw [readNamedFile, h]
  rfl

private theorem hasTextKeys_of_readSettingsFile {w : Workspace} {p : Path}
    (h : readSettingsFile w p = .ok entries) : entries.HasTextKeys ∧ entries.keys.Nodup := by
  rw [readSettingsFile.eq_def] at h
  split at h
  · cases h
  · cases h
  · split at h
    · cases h
    · split at h
      · cases h
      · cases h
      · split at h
        · cases h
        · cases h
        · rename_i hread
          obtain rfl := Except.ok.inj h
          exact Json.hasTextKeys_of_read hread
        · cases h

/-- So is the object in a named settings file; without a file there is the empty map. -/
private theorem hasTextKeys_of_readNamedFile {w : Workspace} {file : Value}
    (h : readNamedFile w file = .ok entries) : entries.HasTextKeys ∧ entries.keys.Nodup := by
  rw [readNamedFile.eq_def] at h
  split at h
  · obtain rfl := Except.ok.inj h
    exact ⟨List.forall_mem_nil _, List.nodup_nil⟩
  · split at h
    · exact hasTextKeys_of_readSettingsFile h
    · cases h

private theorem isSome_find?_custom_iff {layer : Entries Value} (htexts : layer.HasTextKeys)
    (name : String) :
    ((Entries.putAll [] (customEntries layer)).find? (.str name)).isSome = true ↔
      GivesCustom layer name := by
  rw [Option.isSome_iff_ne_none, ne_eq, Entries.find?_eq_none_iff, not_not,
    Entries.str_mem_keys_putAll_iff, mem_keys_customEntries_iff htexts]
  exact or_iff_right List.not_mem_nil

/-- **Overrides are put over the file.** Whatever a settings file and overrides hold, as long as a
block of custom values is a map or holds none, the settings of both are those of the file with those
of the overrides put over them. A setting has the value of the overrides, or else of the file, or
else its default. The custom values are one map put over the other, so the overrides win under every
name, inline or in a block; and a layer without entries changes nothing. -/
theorem load_file_and_overrides {w : Workspace} {file : Value}
    (hfile : readNamedFile w file = .ok entries) (hfileBlock : BlockIsMap entries)
    (hgiven : given.HasTextKeys) (hdistinct : given.keys.Nodup) (hblock : BlockIsMap given)
    (hkeys : ∀ es : Entries Value, (.str customKey, .map es) ∈ given → es.Distinct) :
    ∃ (s below above : Settings) (lower upper : Entries Value),
      load w file (.map given) = .ok s ∧
      load w file .null = .ok below ∧ below.custom = .map lower ∧
      load w .null (.map given) = .ok above ∧ above.custom = .map upper ∧
      (∀ k : Setting, s.get k =
        ((given.find? (.str k.key)).or (entries.find? (.str k.key))).getD (default.get k)) ∧
      s.custom = .map (lower.putAll upper) ∧
      (∀ name : String,
        s.custom.get? name = (upper.find? (.str name)).or (lower.find? (.str name)) ∧
        ((upper.find? (.str name)).isSome = true ↔ GivesCustom given name) ∧
        ((lower.find? (.str name)).isSome = true ↔ GivesCustom entries name)) ∧
      (given = [] → s = below) ∧ (entries = [] → s = above) := by
  obtain ⟨htexts, hentries⟩ := hasTextKeys_of_readNamedFile hfile
  have hnil : Entries.HasTextKeys ([] : Entries Value) := List.forall_mem_nil _
  have hnoBlock : BlockIsMap [] := fun _ hv => nomatch hv
  obtain ⟨s, hs, hcustom, hget⟩ :=
    ofLayers_eq_ok htexts hentries hfileBlock hgiven hdistinct hblock
  obtain ⟨below, hbelow, hlower, -⟩ :=
    ofLayers_eq_ok htexts hentries hfileBlock hnil List.nodup_nil hnoBlock
  obtain ⟨above, habove, hupper, -⟩ :=
    ofLayers_eq_ok hnil List.nodup_nil hnoBlock hgiven hdistinct hblock
  have hload : ∀ v, load w file v = liftMisuse (ofLayers entries v) := fun v => by
    rw [load, hfile]
    rfl
  have hboth : load w file (.map given) = .ok s := (hload _).trans (congrArg liftMisuse hs)
  have hfirst : load w file .null = .ok below := (hload _).trans (congrArg liftMisuse hbelow)
  have hsecond : load w .null (.map given) = .ok above := congrArg liftMisuse habove
  -- The custom entries of the overrides may be made a map first, and are what they leave alone.
  have hput : s.custom = .map ((Entries.putAll [] (customEntries entries)).putAll
      (Entries.putAll [] (customEntries given))) := by
    rw [hcustom, Entries.putAll_putAll_nil _
      (onlyTextsRepeat_customEntries hgiven hdistinct hkeys)]
  refine ⟨s, below, above, _, _, hboth, hfirst, hlower, hsecond, hupper, hget, hput,
    fun name => ⟨?_, isSome_find?_custom_iff hgiven name, isSome_find?_custom_iff htexts name⟩,
    ?_, ?_⟩
  · rw [hput]
    exact Entries.find?_putAll _ (Entries.putAll_nil _).1.distinctTexts name
  · rintro rfl
    exact Except.ok.inj (hboth.symm.trans hfirst)
  · rintro rfl
    exact Except.ok.inj (hboth.symm.trans ((hload _).trans hsecond))

/-- The text of a settings file with custom values inline and in a block. -/
private def siteText : String :=
  "\x7b\n  \"theme\": \"dark\",\n  \"custom\": \x7b\n    \"grid\": true\n  \x7d\n\x7d"

private def siteWorkspace : Workspace :=
  .ofFiles .top [(.ofText "site.json", .text siteText)] []

private def siteEntries : Entries Value := [
  (.str "theme", .str "dark"), (.str "custom", .map [(.str "grid", .bool true)])]

/-- Overrides that give the custom values the other way round, and one under a number. -/
private def siteOverrides : Entries Value := [
  (.str "custom", .map [(.str "theme", .str "light"), (.int 1, .null)]),
  (.str "grid", .bool false), (.str "print_width", .int 100)]

private theorem isJson_site :
    (Value.map siteEntries).IsJson Decimal.IsReadable fun _ => True := by
  have hkeys : (["theme", "custom"].map Value.str).Nodup :=
    List.Nodup.map (fun _ _ => Value.str.inj) (by decide)
  have htext : ∀ s : String, (Value.str s).IsJson Decimal.IsReadable fun _ => True :=
    fun s => .str fun _ _ => trivial
  refine .map (by simp [Entries.HasTextKeys, siteEntries, Value.isStr]) hkeys
    (List.forall_mem_cons.mpr ⟨htext _, List.forall_mem_singleton.mpr (htext _)⟩) ?_
  refine List.forall_mem_cons.mpr ⟨htext _, List.forall_mem_singleton.mpr ?_⟩
  exact .map (by simp [Entries.HasTextKeys, Value.isStr]) (List.nodup_singleton _)
    (List.forall_mem_singleton.mpr (htext _)) (List.forall_mem_singleton.mpr (.bool true))

private theorem readNamedFile_site :
    readNamedFile siteWorkspace (.str "site.json") = .ok siteEntries := by
  have hlocate : ∃ full, siteWorkspace.locate (.ofText "site.json") = .file full (.text siteText) :=
    ⟨_, rfl⟩
  have hwrite : Json.write (.map siteEntries) = .ok siteText.toList := rfl
  have hread : Json.read siteText.toList = .ok (.map siteEntries) := by
    obtain ⟨text, htext, hread⟩ := Json.read_of_write isJson_site
    rwa [Except.ok.inj (htext.symm.trans hwrite)] at hread
  obtain ⟨full, hfull⟩ := hlocate
  exact (readNamedFile_of_truthy (by decide)).trans
    (readSettingsFile_eq_ok hfull (by decide) hread)

/-- Custom values keep the places that they have in the file, and take the values of the overrides,
whether the one or the other holds them inline. -/
theorem load_file_and_overrides_site :
    readNamedFile siteWorkspace (.str "site.json") = .ok siteEntries ∧ BlockIsMap siteEntries ∧
      siteOverrides.HasTextKeys ∧ siteOverrides.keys.Nodup ∧ BlockIsMap siteOverrides ∧
      (∀ es : Entries Value, (.str customKey, .map es) ∈ siteOverrides → es.Distinct) ∧
      ∃ s, load siteWorkspace (.str "site.json") (.map siteOverrides) = .ok s ∧
        s.get .printWidth = .int 100 ∧
        s.custom = .map [(.str "theme", .str "light"), (.str "grid", .bool false),
          (.int 1, .null)] := by
  have hfileMem : ∀ v, (.str customKey, v) ∈ siteEntries →
      v = .map [(.str "grid", .bool true)] := by
    simp [siteEntries, customKey]
  have hfileBlock : BlockIsMap siteEntries := fun v hv _ => ⟨_, hfileMem v hv⟩
  have htexts : siteOverrides.HasTextKeys := by
    simp [siteOverrides, Entries.HasTextKeys, Value.isStr]
  have hdistinct : siteOverrides.keys.Nodup := by
    simp [siteOverrides, Entries.keys]
  have hmem : ∀ v, (.str customKey, v) ∈ siteOverrides →
      v = .map [(.str "theme", .str "light"), (.int 1, .null)] := by
    simp [siteOverrides, customKey]
  have hblock : BlockIsMap siteOverrides := fun v hv _ => ⟨_, hmem v hv⟩
  have hkeys : ∀ es : Entries Value, (.str customKey, .map es) ∈ siteOverrides → es.Distinct := by
    intro es hes
    obtain rfl := Value.map.inj (hmem _ hes)
    exact List.pairwise_cons.mpr
      ⟨List.forall_mem_singleton.mpr rfl, List.pairwise_singleton _ _⟩
  obtain ⟨s, below, above, lower, upper, hs, hbelow, hlower, habove, hupper, hget, hcustom, -⟩ :=
    load_file_and_overrides readNamedFile_site hfileBlock htexts hdistinct hblock hkeys
  refine ⟨readNamedFile_site, hfileBlock, htexts, hdistinct, hblock, hkeys, s, hs,
    hget .printWidth, ?_⟩
  have hlower' : lower = [(.str "theme", .str "dark"), (.str "grid", .bool true)] := by
    rw [load, readNamedFile_site] at hbelow
    obtain rfl := Except.ok.inj hbelow
    exact (Value.map.inj hlower).symm
  have hupper' : upper =
      [(.str "theme", .str "light"), (.int 1, .null), (.str "grid", .bool false)] := by
    obtain rfl := Except.ok.inj habove
    exact (Value.map.inj hupper).symm
  rw [hcustom, hlower', hupper']
  rfl

end Settings

end PageMarkup
