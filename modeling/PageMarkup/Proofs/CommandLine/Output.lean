import PageMarkup.Proofs.CommandLine.Progress
import PageMarkup.Proofs.Files.Writing
import PageMarkup.Template.Source
import PageMarkup.Terminal.Screen

/-!
# The output of the command

The command writes all or nothing. The text that options ask for is described here without the steps
of the command: it is what the generator of the target gives for the document and the schema of the
named sources, under the settings of the file and of the options. A command that ends before it has
this text, or while it is generated, leaves all files as they are, and a command that succeeds has
written this text and a newline to the output file, if the options name one. A text that the
encoding of files does not have is found out too late: the output file is empty by then.

The proof goes through `Options.generate`: a run leaves the files as they are up to there
(`outcomeOn_generating`), and what it gives is the described text (`Options.generates_of_generate`).

## Main definitions

* `Options.Reads` : the document of the source that options name.
* `Generator.Gives` : the text of a generator, with a component around the markup or without.
* `Options.Generates` : the text that options ask for.

## Main results

* `Options.Generates.unique` : options ask for one text at most.
* `runCommand_allOrNothing` : what the command leaves in the files.
-/

namespace PageMarkup

variable {α : Type} {o : Options} {env : Surroundings}

/-- The document that options name: the one in their file, else the one at their address, else the
one on the standard input. -/
inductive Options.Reads (o : Options) (env : Surroundings) : Value → Prop
  | file {name : String} {d : Loaded} (hname : o.file = some name) (hne : name ≠ "")
      (h : loadFile env.files (.ofText name) = .ok d) : Reads o env d.value
  | url {address : String} {d : Loaded} (hfile : o.file.getD "" = "")
      (haddress : Assigned.text o.url = address) (hne : address ≠ "")
      (h : loadAddress env.fetch address = .ok d) : Reads o env d.value
  | stdin {v : Value} (hfile : o.file.getD "" = "") (hurl : Assigned.text o.url = "")
      (hstdin : o.stdin = true) (h : Json.read env.stdin.toList = .ok v) : Reads o env v

/-- The text that a generator gives for a page: the code it generates, or, if only the markup is
asked for, the import statements on lines of their own, a blank line and the markup. -/
inductive Generator.Gives (g : Generator) (input : PageInput) : (jsxOnly : Bool) → String → Prop
  | code {code : String} {warnings : List ContentWarning} {facts : Facts}
      (h : generateCode g input = .ok (.generated code warnings facts)) : Gives g input false code
  | markup {tree : PageInput → Except Fault PageTree} {warnings : List ContentWarning}
      {made : PageTree} (htree : g.tree? = some tree) (hcheck : g.check input = .ok warnings)
      (hmade : tree input = .ok made) (hnone : importStatements made.imports = .ok []) :
      Gives g input true made.text
  | imports {tree : PageInput → Except Fault PageTree} {warnings : List ContentWarning}
      {made : PageTree} {statements : List String} (htree : g.tree? = some tree)
      (hcheck : g.check input = .ok warnings) (hmade : tree input = .ok made)
      (hstatements : importStatements made.imports = .ok statements) (hne : statements ≠ []) :
      Gives g input true ("\n".intercalate statements ++ "\n\n" ++ made.text)

/-- The text that options ask for: what the generator of their target gives for the document and
the schema that they name. Its settings are those of a run that sets none, under those of the
settings file, under those of the options. -/
def Options.Generates (o : Options) (env : Surroundings) (text : String) : Prop :=
  ∃ target document schema entries settings g,
    o.target = .value target ∧
    o.Reads env document ∧
    loadSchema env.files env.modules (Assigned.text o.schema) = .ok schema ∧
    readNamedFile env.files (.str (Assigned.text o.config)) = .ok entries ∧
    Settings.ofLayers entries (.map o.overrides) = .ok settings ∧
    env.targets.create env.files target (.ready settings) = .ok g ∧
    g.Gives ⟨document, schema⟩ o.jsxOnly text

/-! ### One text at most -/

theorem Options.Reads.unique {v w : Value} (hv : o.Reads env v) (hw : o.Reads env w) : v = w := by
  cases hv with
  | file hname hne h =>
    cases hw with
    | file hname' hne' h' =>
      obtain rfl := Option.some.inj (hname.symm.trans hname')
      exact congrArg Loaded.value (Except.ok.inj (h.symm.trans h'))
    | url hfile' | stdin hfile' => exact absurd (by rwa [hname] at hfile') hne
  | url hfile haddress hne h =>
    cases hw with
    | file hname' hne' => exact absurd (by rwa [hname'] at hfile) hne'
    | url hfile' haddress' hne' h' =>
      obtain rfl := haddress.symm.trans haddress'
      exact congrArg Loaded.value (Except.ok.inj (h.symm.trans h'))
    | stdin hfile' hurl' => exact absurd (haddress.symm.trans hurl') hne
  | stdin hfile hurl hstdin h =>
    cases hw with
    | file hname' hne' => exact absurd (by rwa [hname'] at hfile) hne'
    | url hfile' haddress' hne' => exact absurd (haddress'.symm.trans hurl) hne'
    | stdin hfile' hurl' hstdin' h' => exact Except.ok.inj (h.symm.trans h')

theorem Generator.Gives.unique {g : Generator} {input : PageInput} {jsxOnly : Bool}
    {s t : String} (hs : g.Gives input jsxOnly s) (ht : g.Gives input jsxOnly t) : s = t := by
  cases hs with
  | code h =>
    cases ht with
    | code h' =>
      cases Except.ok.inj (h.symm.trans h')
      rfl
  | markup htree hcheck hmade hnone =>
    cases ht with
    | markup htree' hcheck' hmade' hnone' =>
      obtain rfl := Option.some.inj (htree.symm.trans htree')
      obtain rfl := Except.ok.inj (hmade.symm.trans hmade')
      rfl
    | imports htree' hcheck' hmade' hstatements' hne' =>
      obtain rfl := Option.some.inj (htree.symm.trans htree')
      obtain rfl := Except.ok.inj (hmade.symm.trans hmade')
      exact absurd (Except.ok.inj (hstatements'.symm.trans hnone)) hne'
  | imports htree hcheck hmade hstatements hne =>
    cases ht with
    | markup htree' hcheck' hmade' hnone' =>
      obtain rfl := Option.some.inj (htree.symm.trans htree')
      obtain rfl := Except.ok.inj (hmade.symm.trans hmade')
      exact absurd (Except.ok.inj (hstatements.symm.trans hnone')) hne
    | imports htree' hcheck' hmade' hstatements' hne' =>
      obtain rfl := Option.some.inj (htree.symm.trans htree')
      obtain rfl := Except.ok.inj (hmade.symm.trans hmade')
      obtain rfl := Except.ok.inj (hstatements.symm.trans hstatements')
      rfl

/-- Options ask for one text at most. -/
theorem Options.Generates.unique {s t : String} (hs : o.Generates env s)
    (ht : o.Generates env t) : s = t := by
  obtain ⟨target, document, schema, entries, settings, g, htarget, hdocument, hschema, hentries,
    hsettings, hg, hgives⟩ := hs
  obtain ⟨target', document', schema', entries', settings', g', htarget', hdocument', hschema',
    hentries', hsettings', hg', hgives'⟩ := ht
  obtain rfl := Assigned.value.inj (htarget.symm.trans htarget')
  obtain rfl := hdocument.unique hdocument'
  obtain rfl := Except.ok.inj (hschema.symm.trans hschema')
  obtain rfl := Except.ok.inj (hentries.symm.trans hentries')
  obtain rfl := Except.ok.inj (hsettings.symm.trans hsettings')
  obtain rfl := Except.ok.inj (hg.symm.trans hg')
  exact hgives.unique hgives'

/-! ### What the command generates -/

private theorem reportLoading_eq_ok {what : String} {r : Except Fault α} {a : α}
    (h : reportLoading what r = .ok a) : r = .ok a := by
  unfold reportLoading at h
  split at h
  · exact congrArg _ (Except.ok.inj h)
  · cases h
  · cases h

private theorem checkOptions_eq_ok {target : String} (h : checkOptions o env = .ok target) :
    (o.file.getD "" = "" → Assigned.text o.url = "" → o.stdin = true) ∧
      o.target = .value target := by
  rw [checkOptions] at h
  split at h
  · cases h
  next hnamed =>
  split at h
  · cases h
  obtain ⟨name, hname, h⟩ := bind_eq_ok_iff.mp h
  split at h
  · obtain rfl : name = target := Except.ok.inj h
    refine ⟨fun hfile hurl => ?_, ?_⟩
    · simpa [hfile, hurl] using hnamed
    · rw [Options.targetName] at hname
      split at hname
      next given hgiven => rw [hgiven, Except.ok.inj hname]
      · cases hname
  · cases h

private theorem loadDocument_file {w : Workspace} {fetch : String → Fetched} {name : String}
    (h : name ≠ "") : loadDocument w fetch name "" = loadFile w (.ofText name) := by
  have hname : name.isEmpty = false := by simpa using h
  rw [loadDocument, hname]
  rfl

private theorem loadDocument_url {w : Workspace} {fetch : String → Fetched} {address : String}
    (h : address ≠ "") : loadDocument w fetch "" address = loadAddress fetch address := by
  have haddress : address.isEmpty = false := by simpa using h
  rw [loadDocument, haddress]
  rfl

private theorem document_eq_ok {v : Value} (h : o.document env = .ok v)
    (hnamed : o.file.getD "" = "" → Assigned.text o.url = "" → o.stdin = true) :
    o.Reads env v := by
  rw [Options.document] at h
  split at h
  next hfile =>
    obtain ⟨d, hd, rfl⟩ := map_eq_ok_iff.mp (reportLoading_eq_ok h)
    have hne : o.file.getD "" ≠ "" := by simpa using hfile
    cases hname : o.file with
    | none => exact absurd (by rw [hname]; rfl) hne
    | some name =>
      rw [hname] at hd hne
      exact .file hname hne (loadDocument_file hne ▸ hd)
  next hfile =>
  have hfile : o.file.getD "" = "" := by simpa using hfile
  split at h
  next hurl =>
    obtain ⟨d, hd, rfl⟩ := map_eq_ok_iff.mp (reportLoading_eq_ok h)
    have hne : Assigned.text o.url ≠ "" := by simpa using hurl
    exact .url hfile rfl hne (loadDocument_url hne ▸ hd)
  next hurl =>
  have hurl : Assigned.text o.url = "" := by simpa using hurl
  split at h
  next v' hread =>
    obtain rfl := Except.ok.inj h
    exact .stdin hfile hurl (hnamed hfile hurl) hread
  · cases h
  · cases h

private theorem settings_eq_ok {s : Settings} (h : o.settings env = .ok s) :
    ∃ entries, readNamedFile env.files (.str (Assigned.text o.config)) = .ok entries ∧
      Settings.ofLayers entries (.map o.overrides) = .ok s := by
  rw [Options.settings] at h
  split at h
  next s' hload =>
    obtain rfl := Except.ok.inj h
    obtain ⟨entries, hentries, hlayers⟩ := bind_eq_ok_iff.mp hload
    exact ⟨entries, hentries, liftMisuse_eq_ok_iff.mp hlayers⟩
  · cases h
  · cases h

private theorem gives_of_generateModule {g : Generator} {input : PageInput} {out : CommandOutput}
    (h : generateModule g input = .ok out) : g.Gives input false out.text := by
  obtain ⟨outcome, houtcome, h⟩ := bind_eq_ok_iff.mp h
  have hcode := liftMisuse_eq_ok_iff.mp (mapError_eq_ok_iff.mp houtcome)
  cases outcome with
  | failed cause => cases h
  | generated code warnings facts =>
    obtain rfl := Except.ok.inj h
    exact .code hcode

private theorem gives_of_generateBare {g : Generator} {input : PageInput} {out : CommandOutput}
    (h : generateBare g input = .ok out) : g.Gives input true out.text := by
  rw [generateBare] at h
  split at h
  · cases h
  next tree htree =>
  split at h
  · cases h
  next warnings made hmade =>
  obtain ⟨checked, hcheck, hmade⟩ := bind_eq_ok_iff.mp hmade
  obtain ⟨page, hpage, hmade⟩ := bind_eq_ok_iff.mp hmade
  obtain ⟨rfl, rfl⟩ := Prod.mk.inj (Except.ok.inj hmade)
  obtain ⟨statements, hstatements, h⟩ := bind_eq_ok_iff.mp h
  have hstatements := liftMisuse_eq_ok_iff.mp (mapError_eq_ok_iff.mp hstatements)
  obtain rfl := Except.ok.inj h
  cases statements with
  | nil => exact .markup htree hcheck hpage hstatements
  | cons first rest => exact .imports htree hcheck hpage hstatements (List.cons_ne_nil first rest)

/-- What the command generates is the text that the options ask for. -/
theorem Options.generates_of_generate {out : CommandOutput} (h : o.generate env = .ok out) :
    o.Generates env out.text := by
  obtain ⟨target, htarget, h⟩ := bind_eq_ok_iff.mp h
  obtain ⟨document, hdocument, h⟩ := bind_eq_ok_iff.mp h
  obtain ⟨schema, hschema, h⟩ := bind_eq_ok_iff.mp h
  obtain ⟨settings, hsettings, h⟩ := bind_eq_ok_iff.mp h
  obtain ⟨g, hg, h⟩ := bind_eq_ok_iff.mp h
  obtain ⟨-, -, h⟩ := bind_eq_ok_iff.mp h
  obtain ⟨hnamed, htarget⟩ := checkOptions_eq_ok htarget
  obtain ⟨entries, hentries, hlayers⟩ := settings_eq_ok hsettings
  refine ⟨target, document, schema, entries, settings, g, htarget, document_eq_ok hdocument hnamed,
    reportLoading_eq_ok hschema, hentries, hlayers, mapError_eq_ok_iff.mp hg, ?_⟩
  cases hbare : o.jsxOnly with
  | true =>
    rw [hbare] at h
    exact gives_of_generateBare h
  | false =>
    rw [hbare] at h
    exact gives_of_generateModule h

/-! ### What the command leaves in the files -/

/-- **The command writes all or nothing.** Told step after step, it does what it is said to do,
whatever the console does. As long as nothing has been generated where it ends, with a code or by a
fault, all files are as they were. Once something has been generated, it is the text that the
options ask for, and the files are as they were or have this text and a newline in the output file;
only if the encoding of files does not have the text, the command ends by a fault and leaves the
output file empty. A command that ends with another code than zero leaves all files as they were. A
command that ends with code zero, where no list of targets is asked for and an output file is named,
has written the one text that the options ask for and a newline to it. -/
theorem runCommand_allOrNothing (args : List String) (env : Surroundings) :
    (runCommand args env = (runStepwise args env).1.map fun code =>
      ⟨code, (runStepwise args env).2.shown, (runStepwise args env).2.files⟩) ∧
    ((runStepwise args env).2.generated = none → (runStepwise args env).2.files = env.files) ∧
    (∀ out, (runStepwise args env).2.generated = some out →
      ∃ o, Options.read args = .ok o ∧ o.Generates env out.text ∧
        ((runStepwise args env).2.files = env.files ∨
          env.files.write (.ofText (Assigned.text o.output)) (out.text ++ "\n") =
            .ok (runStepwise args env).2.files ∨
          env.files.encoding.encodes (out.text ++ "\n").toList = false ∧
            (runStepwise args env).2.files.text? (.ofText (Assigned.text o.output)) = some "" ∧
            runCommand args env = misused .notEncodable)) ∧
    (∀ r, runCommand args env = .ok r → r.code ≠ 0 → r.files = env.files) ∧
    ∀ o r, Options.read args = .ok o → o.listTargets = false → Assigned.text o.output ≠ "" →
      runCommand args env = .ok r → r.code = 0 →
      ∃ text, o.Generates env text ∧ (∀ other, o.Generates env other → other = text) ∧
        env.files.write (.ofText (Assigned.text o.output)) (text ++ "\n") = .ok r.files ∧
        r.files.text? (.ofText (Assigned.text o.output)) = some (text ++ "\n") := by
  refine ⟨runCommand_eq_runStepwise args env, files_of_generated_eq_none, ?_,
    fun r => files_of_code_ne_zero, ?_⟩
  · intro out hout
    obtain ⟨o, hread, hgenerate, hfiles⟩ := files_of_generated_eq_some hout
    refine ⟨o, hread, Options.generates_of_generate hgenerate, ?_⟩
    obtain hsame | hwritten | ⟨hcut, hfault⟩ := hfiles
    · exact .inl hsame
    · exact .inr (.inl hwritten)
    · obtain ⟨hencodes, hempty⟩ := Workspace.text?_of_cutShort hcut
      exact .inr (.inr ⟨hencodes, hempty, hfault⟩)
  · intro o r hread hlist hnamed hr hcode
    obtain ⟨out, hgenerate, hwritten⟩ := write_of_code_eq_zero hread hlist hnamed hr hcode
    have hgenerates := Options.generates_of_generate hgenerate
    exact ⟨out.text, hgenerates, fun other hother => hother.unique hgenerates, hwritten,
      Workspace.text?_of_write hwritten⟩

/-- The built-in target with a document and a schema that are both empty. -/
def emptyPage : Surroundings where
  files := .ofFiles .top [(.ofText "p.json", .text "[]"), (.ofText "s.json", .text "\x7b\x7d")] []
  stdin := ""
  fetch := fun _ => .failed
  modules := []
  targets := .builtin .reading
  console := .terminal fun _ => none

/-- The import of the framework and the markup of an empty page are written to the output file; for
a target that is not registered nothing is generated, and nothing is written. -/
theorem runCommand_allOrNothing_emptyPage :
    (∃ o r, Options.read ["p.json", "-s", "s.json", "--jsx-only", "--framework-import", "-o",
        "out.jsx"] = .ok o ∧
      o.listTargets = false ∧ Assigned.text o.output ≠ "" ∧
      runCommand ["p.json", "-s", "s.json", "--jsx-only", "--framework-import", "-o", "out.jsx"]
        emptyPage = .ok r ∧
      r.code = 0 ∧
      r.files.text? (.ofText "out.jsx") = some "import React from \"react\";\n\n<></>\n" ∧
      ∃ text, o.Generates emptyPage text ∧
        r.files.text? (.ofText "out.jsx") = some (text ++ "\n")) ∧
    ∃ r, runCommand ["p.json", "-s", "s.json", "-t", "vue", "-o", "out.jsx"] emptyPage = .ok r ∧
      r.code ≠ 0 ∧ r.files = emptyPage.files := by
  constructor
  · have hread : Options.read ["p.json", "-s", "s.json", "--jsx-only", "--framework-import", "-o",
        "out.jsx"] = .ok {
          file := some "p.json"
          schema := some (.value "s.json")
          output := some (.value "out.jsx")
          frameworkImport := true
          jsxOnly := true } := by rfl
    have hrun : (runCommand ["p.json", "-s", "s.json", "--jsx-only", "--framework-import", "-o",
        "out.jsx"] emptyPage).toOption.map (fun r => (r.code, r.files.text? (.ofText "out.jsx"))) =
          some (0, some "import React from \"react\";\n\n<></>\n") := by decide +kernel
    obtain ⟨r, hr, hends⟩ := Option.map_eq_some_iff.mp hrun
    obtain ⟨hcode, htext⟩ := Prod.mk.inj hends
    have hr := toOption_eq_some_iff.mp hr
    obtain ⟨text, hgenerates, -, -, hwritten⟩ := (runCommand_allOrNothing _ emptyPage).2.2.2.2 _ r
      hread rfl (by decide) hr hcode
    exact ⟨_, r, hread, rfl, by decide, hr, hcode, htext, text, hgenerates, hwritten⟩
  · have hrun : (runCommand ["p.json", "-s", "s.json", "-t", "vue", "-o", "out.jsx"]
        emptyPage).toOption.map (fun r => r.code) = some 1 := by decide +kernel
    obtain ⟨r, hr, hcode⟩ := Option.map_eq_some_iff.mp hrun
    have hr := toOption_eq_some_iff.mp hr
    have hfailed : r.code ≠ 0 := by rw [hcode]; decide
    exact ⟨r, hr, hfailed, (runCommand_allOrNothing _ emptyPage).2.2.2.1 r hr hfailed⟩

/-- A double hyphen behind the letter of the option for the output file is no name of a file: the
command succeeds, and there is no file of this name. -/
theorem not_forall_output_written :
    ¬ ∀ (name : String) (env : Surroundings) (r : CommandResult),
      runCommand ["p.json", "-s", "s.json", "-o" ++ name] env = .ok r → r.code = 0 →
        ∃ text, r.files.text? (.ofText name) = some (text ++ "\n") := by
  intro hwritten
  have hrun : (runCommand ["p.json", "-s", "s.json", "-o" ++ "--"] emptyPage).toOption.map
      (fun r => (r.code, r.files.text? (.ofText "--"))) = some (0, none) := by decide +kernel
  obtain ⟨r, hr, hends⟩ := Option.map_eq_some_iff.mp hrun
  obtain ⟨hcode, hnone⟩ := Prod.mk.inj hends
  obtain ⟨text, htext⟩ := hwritten "--" emptyPage r (toOption_eq_some_iff.mp hr) hcode
  cases hnone.symm.trans htext

end PageMarkup
