import PageMarkup.Proofs.Content.Height
import PageMarkup.Proofs.Files.Writing
import PageMarkup.Proofs.Json.Characters
import PageMarkup.Proofs.Json.ReadBack
import PageMarkup.Proofs.Settings.Layering

/-!
# Saved settings

Settings are saved with their custom values next to them, so they come back from the file if and
only if no custom value has a name that means something else there: that of a setting, or that of
the block of custom values.

With other names the layer that is read is the settings followed by the custom values, each in its
place. A custom value under such a name is lost: what a name of a setting holds goes to the setting,
and what the block holds is spread. A custom value that is found under such a name after all can
only come from within the block. It is less high than the block, and so it is not the block.

## Main definitions

* `Settings.IsJson` : settings with values that JSON can hold.
* `Settings.same` : equality of settings.

## Main results

* `Settings.load_of_save` : when saved settings come back.
-/

namespace PageMarkup

open Decimal (IsReadable)

/-! ### Values that JSON can hold -/

variable {P : Int → Prop} {Q : Char → Prop}

mutual

theorem Value.IsJson.unfolded_eq {v : Value} (h : v.IsJson P Q) :
    v.unfolded = v := by
  match v with
  | .null | .bool _ | .int _ | .str _ => rfl
  | .list xs =>
    cases h with
    | list hxs => rw [Value.unfolded, unfoldedAll_eq hxs]
  | .map es =>
    cases h with
    | map _ _ _ hes => rw [Value.unfolded, unfoldedEntries_eq hes]
  | .float _ | .tuple _ | .foreign _ _ | .markup _ => cases h

private theorem Value.IsJson.unfoldedAll_eq {xs : List Value}
    (h : ∀ x ∈ xs, x.IsJson P Q) : Value.unfoldedAll xs = xs := by
  match xs with
  | [] => rfl
  | x :: xs =>
    obtain ⟨hx, hxs⟩ := List.forall_mem_cons.mp h
    rw [Value.unfoldedAll, hx.unfolded_eq, unfoldedAll_eq hxs]

private theorem Value.IsJson.unfoldedEntries_eq {es : List (Value × Value)}
    (h : ∀ e ∈ es, e.2.IsJson P Q) : Value.unfoldedEntries es = es := by
  match es with
  | [] => rfl
  | (k, v) :: es =>
    obtain ⟨hv, hvs⟩ := List.forall_mem_cons.mp h
    rw [Value.unfoldedEntries, hv.unfolded_eq, unfoldedEntries_eq hvs]

end

mutual

theorem Value.IsJson.same_self {v : Value} (h : v.IsJson P Q) :
    v.same v = true := by
  match v with
  | .null => exact Value.same_null
  | .bool _ | .int _ => simp [Value.same, Value.number?, Number.same]
  | .str _ => exact Value.same_str_iff.mpr rfl
  | .list xs =>
    cases h with
    | list hxs => rw [Value.same, sameAll_self hxs]
  | .map es =>
    cases h with
    | map htexts _ _ hes =>
      rw [Value.same, beq_self_eq_true, Bool.true_and]
      exact sameEntries_self htexts hes fun _ he => he
  | .float _ | .tuple _ | .foreign _ _ | .markup _ => cases h

private theorem Value.IsJson.sameAll_self {xs : List Value}
    (h : ∀ x ∈ xs, x.IsJson P Q) : Value.sameAll xs xs = true := by
  match xs with
  | [] => rfl
  | x :: xs =>
    obtain ⟨hx, hxs⟩ := List.forall_mem_cons.mp h
    rw [Value.sameAll, hx.same_self, sameAll_self hxs]
    rfl

private theorem Value.IsJson.sameEntries_self {es fs : List (Value × Value)}
    (htexts : Entries.HasTextKeys es) (h : ∀ e ∈ es, e.2.IsJson P Q) (hsub : ∀ e ∈ es, e ∈ fs) :
    Value.sameEntries es fs = true := by
  match es with
  | [] => rfl
  | (k, v) :: es =>
    obtain ⟨hk, hks⟩ := List.forall_mem_cons.mp htexts
    obtain ⟨hv, hvs⟩ := List.forall_mem_cons.mp h
    obtain ⟨hmem, hrest⟩ := List.forall_mem_cons.mp hsub
    obtain ⟨s, rfl⟩ : ∃ s, k = .str s := Value.isStr_iff.mp hk
    rw [Value.sameEntries, sameEntries_self hks hvs hrest, Bool.and_true]
    refine List.any_eq_true.mpr ⟨_, hmem, ?_⟩
    rw [Value.same_str_iff.mpr rfl, hv.same_self]
    rfl

end

theorem Value.IsJson.putAll {es more : Entries Value}
    (h : (Value.map es).IsJson P Q) (htexts : more.HasTextKeys)
    (hkeys : ∀ e ∈ more, e.1.IsJson P Q) (hmore : ∀ e ∈ more, e.2.IsJson P Q) :
    (Value.map (es.putAll more)).IsJson P Q := by
  induction more generalizing es with
  | nil => exact h
  | cons e more ih =>
    obtain ⟨k, v⟩ := e
    obtain ⟨hk, hks⟩ := List.forall_mem_cons.mp htexts
    obtain ⟨hkey, hothers⟩ := List.forall_mem_cons.mp hkeys
    obtain ⟨hv, hvs⟩ := List.forall_mem_cons.mp hmore
    obtain ⟨s, rfl⟩ : ∃ s, k = .str s := Value.isStr_iff.mp hk
    cases h with
    | map hes hdistinct hfirst hvalues =>
      refine ih (.map (hes.put s v) (Entries.nodup_keys_put hdistinct s v) (fun e he => ?_)
        fun e he => ?_) hks hothers hvs
      · rcases (Entries.mem_put_iff hdistinct).mp he with rfl | ⟨he, -⟩
        · exact hkey
        · exact hfirst e he
      · rcases (Entries.mem_put_iff hdistinct).mp he with rfl | ⟨he, -⟩
        · exact hv
        · exact hvalues e he

namespace Settings

/-- Settings whose values JSON can hold. -/
structure IsJson (P : Int → Prop) (Q : Char → Prop) (s : Settings) : Prop where
  get : ∀ k, (s.get k).IsJson P Q
  custom : s.custom.IsJson P Q

/-- Equality of settings, value by value. -/
def same (s t : Settings) : Bool :=
  Setting.all.all (fun k => (s.get k).same (t.get k)) && s.custom.same t.custom

/-- The settings by name, without the custom values. -/
private def known (s : Settings) : Entries Value :=
  Setting.all.map fun k => (.str k.key, s.get k)

variable {s : Settings} {custom : Entries Value}

private theorem known_keys (s : Settings) :
    s.known.keys = (Setting.all.map Setting.key).map .str := by
  rw [known, Entries.keys, List.map_map, List.map_map]
  rfl

private theorem isJson_known (hseven : ∀ c, Text.isSevenBit c = true → Q c) (h : s.IsJson P Q) :
    (Value.map s.known).IsJson P Q := by
  have hname : ∀ k : Setting, ∀ c ∈ k.key.toList, Q c := fun k c hc => by
    have hall : k.key.toList.all Text.isSevenBit = true := by cases k <;> decide
    exact hseven c (List.all_eq_true.mp hall c hc)
  refine .map (List.forall_mem_map.mpr fun _ _ => rfl) ?_
    (List.forall_mem_map.mpr fun k _ => .str (hname k))
    (List.forall_mem_map.mpr fun k _ => h.get k)
  rw [known_keys]
  have hkeys : (Setting.all.map Setting.key).Nodup := by decide
  exact hkeys.map fun _ _ heq => Value.str.inj heq

/-! ### Giving several settings a value -/

theorem ext_get {s t : Settings} (h : ∀ k, s.get k = t.get k) (hcustom : s.custom = t.custom) :
    s = t := by
  cases s
  cases t
  exact Settings.mk.injEq .. ▸ ⟨h .componentName, h .exportDefault, h .includeFrameworkImport,
    h .frameworkImportPath, h .frameworkImportName, h .preserveIds, h .listKeys, h .indentSize,
    h .printWidth, h .maxDepth, hcustom⟩

private theorem get_foldl_set {ks : List Setting} {base : Settings} {k : Setting}
    (h : k ∈ ks ∨ base.get k = s.get k) :
    (ks.foldl (fun base k => base.set k (s.get k)) base).get k = s.get k := by
  induction ks generalizing base with
  | nil => exact h.resolve_left List.not_mem_nil
  | cons j ks ih =>
    refine ih ?_
    by_cases hkj : k = j
    · exact .inr (hkj ▸ get_set_self base j (s.get j))
    · rw [get_set_of_ne hkj]
      exact h.imp_left fun hmem => (List.mem_cons.mp hmem).resolve_left hkj

private theorem custom_foldl_set (s : Settings) (ks : List Setting) (base : Settings) :
    (ks.foldl (fun base k => base.set k (s.get k)) base).custom = base.custom := by
  induction ks generalizing base with
  | nil => rfl
  | cons k ks ih => exact (ih _).trans (by cases k <;> rfl)

/-! ### Writing -/

/-- The object that is written for settings that JSON can hold, which JSON can hold as well. -/
private theorem flatEntries_of_isJson (hseven : ∀ c, Text.isSevenBit c = true → Q c)
    (h : s.IsJson P Q) (hcustom : s.custom = .map custom) :
    s.flatEntries = .ok (s.known.putAll custom) ∧
      (Value.map (s.known.putAll custom)).IsJson P Q := by
  have hknown : (Setting.all.map fun k => (Value.str k.key, (s.get k).unfolded)) = s.known :=
    List.map_congr_left fun k _ => by rw [(h.get k).unfolded_eq]
  have hmap : (Value.map custom).IsJson P Q := hcustom ▸ h.custom
  refine ⟨?_, ?_⟩
  · rw [flatEntries, hknown, hcustom, hmap.unfolded_eq]
    rfl
  · cases hmap with
    | map htexts _ hkeys hvalues => exact (isJson_known hseven h).putAll htexts hkeys hvalues

/-! ### Reading layers -/

end Settings

namespace LayeredSettings

open Settings (fieldNames)

variable {l l' : LayeredSettings} {layer whole : Entries Value} {name : String} {v : Value}

private theorem add_settings (s : Settings) (ks : List Setting) (l : LayeredSettings) :
    l.add (ks.map fun k => (.str k.key, s.get k)) =
      .ok { l with base := ks.foldl (fun base k => base.set k (s.get k)) l.base } := by
  induction ks generalizing l with
  | nil => rfl
  | cons k ks ih =>
    rw [List.map_cons, add_cons, addEntry_setting]
    exact ih _

private theorem add_known (s : Settings) :
    start.add s.known = .ok ⟨{ s with custom := .map [] }, []⟩ := by
  have hbase : Setting.all.foldl (fun base k => base.set k (s.get k)) .default =
      { s with custom := .map [] } := by
    refine Settings.ext_get (fun k => ?_) (Settings.custom_foldl_set ..)
    rw [Settings.get_foldl_set (.inl k.mem_all)]
    cases k <;> rfl
  rw [Settings.known, add_settings]
  exact congrArg (fun base => Except.ok (LayeredSettings.mk base [])) hbase

private theorem add_others (htexts : layer.HasTextKeys)
    (hnames : ∀ name ∈ fieldNames, .str name ∉ layer.keys) (l : LayeredSettings) :
    l.add layer = .ok { l with custom := l.custom.putAll layer } := by
  induction layer generalizing l with
  | nil => rfl
  | cons e layer ih =>
    obtain ⟨k, v⟩ := e
    obtain ⟨hk, hks⟩ := List.forall_mem_cons.mp htexts
    obtain ⟨n, rfl⟩ : ∃ n, k = .str n := Value.isStr_iff.mp hk
    have hn : n ∉ fieldNames := fun hmem => hnames n hmem List.mem_cons_self
    rw [add_cons, addEntry_other hn]
    exact ih hks (fun name hname hmem => hnames name hname (List.mem_cons_of_mem _ hmem)) _

/-! ### Names that mean something in a layer -/

private theorem mem_of_mem_put {es : Entries Value} {e : Value × Value}
    (h : e ∈ es.put (.str name) v) (hne : e.1 ≠ .str name) : e ∈ es := by
  induction es with
  | nil => exact absurd (congrArg Prod.fst (List.mem_singleton.mp h)) hne
  | cons f es ih =>
    rw [Entries.put] at h
    split at h
    next hsame =>
      rcases List.mem_cons.mp h with rfl | h
      · exact absurd (Value.same_str_iff.mp hsame) hne
      · exact List.mem_cons_of_mem f h
    next =>
      rcases List.mem_cons.mp h with rfl | h
      · exact List.mem_cons_self
      · exact List.mem_cons_of_mem f (ih h)

private theorem mem_of_mem_putAll {es more : Entries Value} {e : Value × Value}
    (h : e ∈ es.putAll more) : e ∈ es ∨ ∃ f ∈ more, f.2 = e.2 := by
  induction more generalizing es with
  | nil => exact .inl h
  | cons f more ih =>
    rcases ih (show e ∈ (es.put f.1 f.2).putAll more from h) with h | ⟨g, hg, hge⟩
    · exact (Entries.mem_put h).2.imp_right fun heq => ⟨f, List.mem_cons_self, heq.symm⟩
    · exact .inr ⟨g, List.mem_cons_of_mem f hg, hge⟩

/-- Custom values under names that mean something come from within a block of a layer. -/
private def ComeFromBlocks (layer custom : Entries Value) : Prop :=
  ∀ e ∈ custom, ∀ name ∈ fieldNames, e.1 = .str name →
    ∃ block, (.str customKey, block) ∈ layer ∧ e.2.height < block.height

private theorem addEntry_comeFromBlocks (hl : ComeFromBlocks whole l.custom)
    (hmem : (.str name, v) ∈ whole) (h : l.addEntry (.str name, v) = .ok l') :
    ComeFromBlocks whole l'.custom := by
  by_cases hname : name ∈ fieldNames
  · rcases List.mem_append.mp hname with hsetting | hblock
    · obtain ⟨k, -, rfl⟩ := List.mem_map.mp hsetting
      rw [addEntry_setting] at h
      obtain rfl := Except.ok.inj h
      exact hl
    · obtain rfl := List.mem_singleton.mp hblock
      rw [addEntry_custom] at h
      split at h
      · obtain ⟨es, hes, rfl⟩ := map_eq_ok_iff.mp h
        intro e he n hn heq
        rcases mem_of_mem_putAll he with he | ⟨f, hf, hfe⟩
        · exact hl e he n hn heq
        · exact ⟨v, hmem, hfe ▸ Value.height_lt_of_readEntries hes hf⟩
      · obtain rfl := Except.ok.inj h
        exact hl
  · rw [addEntry_other hname] at h
    obtain rfl := Except.ok.inj h
    intro e he n hn heq
    refine hl e (mem_of_mem_put he fun hsame => hname ?_) n hn heq
    obtain rfl := Value.str.inj (heq.symm.trans hsame)
    exact hn

private theorem add_comeFromBlocks (hl : ComeFromBlocks whole l.custom)
    (htexts : layer.HasTextKeys) (hsub : ∀ e ∈ layer, e ∈ whole) (h : l.add layer = .ok l') :
    ComeFromBlocks whole l'.custom := by
  induction layer generalizing l with
  | nil =>
    obtain rfl := Except.ok.inj h
    exact hl
  | cons e layer ih =>
    obtain ⟨k, v⟩ := e
    obtain ⟨hk, hks⟩ := List.forall_mem_cons.mp htexts
    obtain ⟨hmem, hrest⟩ := List.forall_mem_cons.mp hsub
    obtain ⟨n, rfl⟩ : ∃ n, k = .str n := Value.isStr_iff.mp hk
    rw [add_cons] at h
    obtain ⟨l₁, hfirst, h⟩ := bind_eq_ok_iff.mp h
    exact ih (addEntry_comeFromBlocks hl hmem hfirst) hks hrest h

end LayeredSettings

namespace Settings

variable {s t : Settings} {custom : Entries Value}

private theorem ofLayers_null (layer : Entries Value) :
    ofLayers layer .null = (LayeredSettings.start.add layer).map LayeredSettings.finish := by
  rw [ofLayers]
  cases LayeredSettings.start.add layer <;> rfl

/-- Without custom values under names that mean something, the settings come back. -/
private theorem ofLayers_of_notMem (hcustom : s.custom = .map custom)
    (hjson : (Value.map custom).IsJson IsReadable Q)
    (hnames : ∀ name ∈ fieldNames, .str name ∉ custom.keys) :
    ofLayers (s.known.putAll custom) .null = .ok s := by
  cases hjson with
  | map htexts hdistinct _ _ =>
    have hnew : (s.known.keys ++ custom.keys).Nodup := by
      refine List.nodup_append.mpr ⟨?_, hdistinct, ?_⟩
      · rw [known_keys]
        have hkeys : (Setting.all.map Setting.key).Nodup := by decide
        exact hkeys.map fun _ _ heq => Value.str.inj heq
      · rw [known_keys]
        rintro k hk _ hmem rfl
        obtain ⟨name, hname, rfl⟩ := List.mem_map.mp hk
        exact hnames name (List.mem_append_left _ hname) hmem
    have hput : Entries.putAll [] custom = custom := Entries.putAll_of_new htexts hdistinct
    rw [ofLayers_null, Entries.putAll_of_new htexts hnew, LayeredSettings.add_append,
      LayeredSettings.add_known]
    change (LayeredSettings.add _ custom).map _ = _
    rw [LayeredSettings.add_others htexts hnames, Except.map, LayeredSettings.finish, hput,
      ← hcustom]

/-- Custom values that equal those of a map hold an equal value under each of its texts. -/
private theorem exists_mem_of_same {es : Entries Value}
    (h : (Value.map custom).same (.map es) = true) {name : String} {v : Value}
    (hmem : (.str name, v) ∈ custom) : ∃ w, (.str name, w) ∈ es ∧ v.same w = true := by
  rw [Value.same, Bool.and_eq_true] at h
  have hentries := h.2
  clear h
  induction custom with
  | nil => cases hmem
  | cons e custom ih =>
    obtain ⟨k, u⟩ := e
    rw [Value.sameEntries, Bool.and_eq_true] at hentries
    rcases List.mem_cons.mp hmem with heq | hmem
    · obtain ⟨rfl, rfl⟩ := Prod.mk.inj heq
      obtain ⟨⟨l, w⟩, hf, hsame⟩ := List.any_eq_true.mp hentries.1
      rw [Bool.and_eq_true] at hsame
      obtain rfl := Value.str_same_iff.mp hsame.1
      exact ⟨w, hf, hsame.2⟩
    · exact ih hmem hentries.2

private theorem mem_or_mem_of_putAll {es more : Entries Value} (hn : es.keys.Nodup)
    (htexts : more.HasTextKeys) {e : Value × Value} (h : e ∈ es.putAll more) :
    e ∈ es ∨ e ∈ more := by
  induction more generalizing es with
  | nil => exact .inl h
  | cons f more ih =>
    obtain ⟨k, v⟩ := f
    obtain ⟨hk, hks⟩ := List.forall_mem_cons.mp htexts
    obtain ⟨n, rfl⟩ : ∃ n, k = .str n := Value.isStr_iff.mp hk
    rcases ih (Entries.nodup_keys_put hn n v) hks h with h | h
    · rcases (Entries.mem_put_iff hn).mp h with rfl | ⟨h, -⟩
      · exact .inr List.mem_cons_self
      · exact .inl h
    · exact .inr (List.mem_cons_of_mem _ h)

/-- The block of custom values in what is written is the custom value under its name. -/
private theorem mem_custom_of_block (htexts : custom.HasTextKeys) {block : Value}
    (h : (.str customKey, block) ∈ s.known.putAll custom) : (.str customKey, block) ∈ custom := by
  have hkeys : (Setting.all.map Setting.key).Nodup := by decide
  have hn : s.known.keys.Nodup := known_keys s ▸ hkeys.map fun _ _ heq => Value.str.inj heq
  refine (mem_or_mem_of_putAll hn htexts h).resolve_left fun hmem => ?_
  have hkey := Entries.mem_keys_of_mem hmem
  rw [known_keys] at hkey
  obtain ⟨name, hname, heq⟩ := List.mem_map.mp hkey
  rw [Value.str.inj heq] at hname
  revert hname
  decide

/-- With a custom value under a name that means something, other settings come back, if any do. -/
private theorem not_same_of_mem (hcustom : s.custom = .map custom)
    (hjson : (Value.map custom).IsJson IsReadable Q)
    (hwritten : (Value.map (s.known.putAll custom)).IsJson IsReadable Q) {name : String}
    (hname : name ∈ fieldNames) (hmem : .str name ∈ custom.keys)
    (h : ofLayers (s.known.putAll custom) .null = .ok t) : s.same t = false := by
  refine Bool.eq_false_iff.mpr fun hsame => ?_
  cases hjson with
  | map htexts hdistinct _ _ =>
  cases hwritten with
  | map hwrittenTexts _ _ _ =>
  rw [ofLayers_null] at h
  obtain ⟨l, hl, rfl⟩ := map_eq_ok_iff.mp h
  have hblocks : LayeredSettings.ComeFromBlocks (s.known.putAll custom) l.custom :=
    LayeredSettings.add_comeFromBlocks (fun _ he => absurd he List.not_mem_nil) hwrittenTexts
      (fun _ he => he) hl
  have hcustoms : (Value.map custom).same (.map l.custom) = true := by
    rw [same, Bool.and_eq_true, hcustom] at hsame
    exact hsame.2
  have hblock : ∀ n ∈ fieldNames, ∀ v, (.str n, v) ∈ custom → ∃ u block, v.same u = true ∧
      (.str customKey, block) ∈ custom ∧ u.height < block.height := by
    intro n hn v hv
    obtain ⟨u, hu, hvu⟩ := exists_mem_of_same hcustoms hv
    obtain ⟨block, hin, hlow⟩ := hblocks _ hu n hn rfl
    exact ⟨u, block, hvu, mem_custom_of_block htexts hin, hlow⟩
  obtain ⟨⟨_, v⟩, hv, rfl⟩ := List.mem_map.mp hmem
  obtain ⟨-, block, -, hin, -⟩ := hblock name hname v hv
  -- The block is a custom value itself, and would be found within itself.
  obtain ⟨u, block', hsame', hin', hlow⟩ :=
    hblock customKey (List.mem_append_right _ List.mem_cons_self) block hin
  obtain rfl : block = block' :=
    Option.some.inj (((Entries.find?_eq_some_iff hdistinct).mpr hin).symm.trans
      ((Entries.find?_eq_some_iff hdistinct).mpr hin'))
  exact absurd (Value.height_le_of_same hsame') (Nat.not_le.mpr hlow)

private theorem readSettingsFile_of_write {w saved : Workspace} {p : Path} {text : List Char}
    {es : Entries Value} (hsaved : w.write p (String.ofList text) = .ok saved)
    (hsuffix : p.hasSuffix ".json" = true) (hread : Json.read text = .ok (.map es)) :
    readSettingsFile saved p = .ok es := by
  obtain ⟨full, hlocate⟩ := Workspace.locate_of_write hsaved
  exact readSettingsFile_eq_ok hlocate hsuffix (String.toList_ofList.symm ▸ hread)

/-- **Saved settings come back exactly if no custom value has a name that means something.**
Settings whose values JSON can hold, with integers of no more digits than are read and with texts
that the encoding of files has, can be saved under any path to a JSON file that can be written to.
The settings that are loaded from it equal them if and only if none of the custom values has the
name of a setting or of the block of custom values. Then they are the very same. -/
theorem load_of_save {w : Workspace} {file : String}
    (hsuffix : (Path.ofText file).hasSuffix ".json" = true)
    (hwritable : w.IsWritable (.ofText file)) (hcustom : s.custom = .map custom)
    (hjson : s.IsJson IsReadable fun c => w.encoding.has c = true) :
    ∃ saved, s.save w (.ofText file) = .ok saved ∧
      ((∃ t, load saved (.str file) .null = .ok t ∧ s.same t = true) ↔
        ∀ name ∈ fieldNames, .str name ∉ custom.keys) ∧
      ((∀ name ∈ fieldNames, .str name ∉ custom.keys) →
        load saved (.str file) .null = .ok s) := by
  have hmap : (Value.map custom).IsJson IsReadable fun c => w.encoding.has c = true :=
    hcustom ▸ hjson.custom
  obtain ⟨hflat, hwritten⟩ := flatEntries_of_isJson w.encoding.has_of_isSevenBit hjson hcustom
  obtain ⟨text, hwrite, hread⟩ := Json.read_of_write hwritten
  have hencodes : w.encoding.encodes (String.ofList text).toList = true := by
    rw [String.toList_ofList]
    exact List.all_eq_true.mpr (Json.forall_mem_write w.encoding.has_of_isSevenBit hwritten hwrite)
  obtain ⟨saved, hsaved⟩ := hwritable.write hencodes
  have hload : load saved (.str file) .null =
      liftMisuse (ofLayers (s.known.putAll custom) .null) := by
    have hentries : readNamedFile saved (.str file) = .ok (s.known.putAll custom) := by
      have hfile : (Value.str file).truthy = true := by
        refine bne_iff_ne.mpr ?_
        rintro rfl
        exact absurd hsuffix (by decide)
      rw [readNamedFile, hfile]
      exact readSettingsFile_of_write hsaved hsuffix hread
    rw [load, hentries]
    rfl
  have hback : (∀ name ∈ fieldNames, .str name ∉ custom.keys) →
      load saved (.str file) .null = .ok s := fun hnames => by
    rw [hload, ofLayers_of_notMem hcustom hmap hnames]
    rfl
  refine ⟨saved, ?_, ⟨?_, fun hnames => ⟨s, hback hnames, ?_⟩⟩, hback⟩
  · simp only [save, hflat, liftMisuse, Except.mapError, bind, Except.bind, hwrite, hsaved]
    rfl
  · rintro ⟨t, ht, hsame⟩ name hname hmem
    rw [hload] at ht
    have hother := not_same_of_mem hcustom hmap hwritten hname hmem (liftMisuse_eq_ok_iff.mp ht)
    exact Bool.false_ne_true (hother.symm.trans hsame)
  · rw [same, Bool.and_eq_true, List.all_eq_true]
    exact ⟨fun k _ => (hjson.get k).same_self, hjson.custom.same_self⟩

/-- Settings with a custom value. -/
private def themed : Settings :=
  { default with custom := .map [(.str "theme", .map [(.str "dark", .bool true)])] }

private theorem isJson_str {P : Int → Prop} {s : String}
    (h : Workspace.empty.encoding.encodes s.toList = true) :
    (Value.str s).IsJson P fun c => Workspace.empty.encoding.has c = true :=
  .str (List.all_eq_true.mp h)

private theorem isJson_themed :
    themed.IsJson IsReadable fun c => Workspace.empty.encoding.has c = true where
  get k := by
    have hshort : ∀ n : Int, n.natAbs < 1000 → IsReadable n := fun n hn =>
      Decimal.isReadable_of_lt (k := 3) (by decide) (by decide) hn
    cases k with
    | componentName | frameworkImportPath | frameworkImportName => exact isJson_str (by decide)
    | exportDefault | includeFrameworkImport | preserveIds | listKeys => exact .bool _
    | indentSize | printWidth | maxDepth => exact .int (hshort _ (by decide))
  custom := by
    have hinner : (Value.map [(.str "dark", .bool true)]).IsJson IsReadable
        fun c => Workspace.empty.encoding.has c = true :=
      .map (List.forall_mem_singleton.mpr rfl) (List.nodup_singleton _)
        (List.forall_mem_singleton.mpr (isJson_str (by decide)))
        (List.forall_mem_singleton.mpr (.bool _))
    exact .map (List.forall_mem_singleton.mpr rfl) (List.nodup_singleton _)
      (List.forall_mem_singleton.mpr (isJson_str (by decide)))
      (List.forall_mem_singleton.mpr hinner)

private theorem isWritable_page : Workspace.empty.IsWritable (.ofText "page.json") :=
  ⟨"", _, rfl⟩

/-- Settings with a theme come back from the file. -/
theorem load_of_save_themed :
    (Path.ofText "page.json").hasSuffix ".json" = true ∧
      Workspace.empty.IsWritable (.ofText "page.json") ∧
      (themed.IsJson IsReadable fun c => Workspace.empty.encoding.has c = true) ∧
      ∃ saved, themed.save .empty (.ofText "page.json") = .ok saved ∧
        load saved (.str "page.json") .null = .ok themed := by
  have hsuffix : (Path.ofText "page.json").hasSuffix ".json" = true := by decide
  obtain ⟨saved, hsave, -, hback⟩ := load_of_save hsuffix isWritable_page rfl isJson_themed
  exact ⟨hsuffix, isWritable_page, isJson_themed, saved, hsave, hback (by simp [fieldNames,
    Setting.all, Setting.key, customKey, Entries.keys])⟩

/-- Settings with an indentation of a given size. -/
private def indented (n : Int) : Settings :=
  { default with indentSize := .int n }

private theorem save_indented {n : Int} (h : ¬ IsReadable n) (w : Workspace) (p : Path) :
    (indented n).save w p = misused .tooManyDigits := by
  have hint : Json.writeInt n = .error .tooManyDigits := if_pos (Nat.lt_of_not_le h)
  have hflat : (indented n).flatEntries = .ok (indented n).known := rfl
  have hwrite : Json.write (.map (indented n).known) = .error .tooManyDigits := by
    simp only [known, Setting.all, List.map_cons, List.map_nil, Json.write, Json.writeLines,
      Json.writeFields, indented, get, default, Setting.key, Json.keyText, hint]
    rfl
  simp only [save, hflat, liftMisuse, Except.mapError, bind, Except.bind, hwrite]
  rfl

/-- Settings are not saved if an integer in them has more digits than are read. -/
theorem not_forall_load_of_save :
    ¬ ∀ (w : Workspace) (file : String) (s : Settings) (custom : Entries Value),
      (Path.ofText file).hasSuffix ".json" = true → w.IsWritable (.ofText file) →
      s.custom = .map custom → (s.IsJson (fun _ => True) fun c => w.encoding.has c = true) →
      ∃ saved, s.save w (.ofText file) = .ok saved ∧
        ((∃ t, load saved (.str file) .null = .ok t ∧ s.same t = true) ↔
          ∀ name ∈ fieldNames, .str name ∉ custom.keys) := by
  intro hback
  have hjson : (indented (10 ^ Decimal.maxDigits)).IsJson (fun _ => True)
      fun c => Workspace.empty.encoding.has c = true := by
    refine ⟨fun k => ?_, .map (List.forall_mem_nil _) List.nodup_nil (List.forall_mem_nil _)
      (List.forall_mem_nil _)⟩
    cases k with
    | componentName | frameworkImportPath | frameworkImportName => exact isJson_str (by decide)
    | exportDefault | includeFrameworkImport | preserveIds | listKeys => exact .bool _
    | indentSize | printWidth | maxDepth => exact .int trivial
  obtain ⟨saved, hsave, -⟩ := hback .empty "page.json" _ [] (by decide) isWritable_page rfl hjson
  rw [save_indented Decimal.not_isReadable_pow] at hsave
  cases hsave

end Settings

end PageMarkup
