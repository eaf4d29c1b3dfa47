import PageMarkup.Page.Outcome
import PageMarkup.Page.Shell
import PageMarkup.Proofs.Text.Tidy
import PageMarkup.Template.Source

/-!
# The text of a module

The template of a module is told here by its parts. An engine that fills a template with these parts
writes the import statements, an empty line behind them if there are any, and the function; and if
what it is given stands on neat lines, then the text is tidy already. The engine that reads sources
is such an engine.

## Main definitions

* `shellTemplate` : the parts of the template.

## Main results

* `source_shellTemplate` : these are the parts of the source.
* `Shell.exists_write`, `Shell.tidy_write` : the text of a module, and why it is tidy.
* `fills_reading` : an engine that fills the template.
-/

namespace PageMarkup

open Text (Neat NeatText IsSolid)

/-! ### The template -/

/-- A line of the function in the template, one level deeper. -/
def shellLine (line : String) : TemplatePart :=
  .shown (.text line) [⟨"indent_block", [.name "indent_size"]⟩]

/-- The parts of the template. -/
def shellTemplate : Template := [
  .when "imports_block" [.shown (.name "imports_block") [], .text ['\n', '\n']],
  .text "export ".toList,
  .when "export_default" [.text "default ".toList],
  .text "function ".toList,
  .shown (.name "component_name") [],
  .text ("() \x7b".toList ++ ['\n']),
  shellLine "return (",
  .text ['\n'],
  .shown (.name "jsx") [],
  .text ['\n'],
  shellLine ");",
  .text ['\n', '\x7d']]

theorem source_shellTemplate : String.ofList (Template.source shellTemplate) = shellSource := by
  decide +kernel

section

variable {context : Entries Value}

private theorem fill_cons {part : TemplatePart} {parts : Template} {s t : List Char}
    (h : part.fill templateSetup false context = .ok s)
    (h' : Template.fill templateSetup false context parts = .ok t) :
    Template.fill templateSetup false context (part :: parts) = .ok (s ++ t) := by
  rw [Template.fill, h, h']
  rfl

private theorem fill_text (text : List Char) {parts : Template} {t : List Char}
    (h : Template.fill templateSetup false context parts = .ok t) :
    Template.fill templateSetup false context (.text text :: parts) = .ok (text ++ t) :=
  fill_cons rfl h

private theorem fill_shown {name shown : String}
    (h : context.find? (.str name) = some (.str shown)) :
    (TemplatePart.shown (.name name) []).fill templateSetup false context = .ok shown.toList := by
  simp only [TemplatePart.fill, Operand.value?, h]
  rfl

private theorem fill_shellLine {v : Value} (h : context.find? (.str "indent_size") = some v)
    {width : Nat} (hwidth : v.spaces = .ok width) (line : String) :
    (shellLine line).fill templateSetup false context =
      .ok (Text.indentBlock width line.toList) := by
  have hfilter : FilterCall.apply templateSetup context (some (.str line))
      ⟨"indent_block", [.name "indent_size"]⟩ =
        .ok (some (.str (String.ofList (Text.indentBlock width line.toList)))) := by
    have hlookup : templateSetup.filters.lookup "indent_block" = some indentFilter := rfl
    simp only [FilterCall.apply, hlookup, List.map, Operand.value?, h, indentFilter, hwidth]
    rfl
  simp only [shellLine, TemplatePart.fill, Operand.value?, List.foldlM_cons, hfilter]
  exact congrArg Except.ok String.toList_ofList

private theorem fill_when {name : String} {v : Value} (h : context.find? (.str name) = some v)
    {body : Template} {s : List Char}
    (hbody : Template.fill templateSetup false context body = .ok s) :
    (TemplatePart.when name body).fill templateSetup false context =
      .ok (if v.truthy then s else []) := by
  simp only [TemplatePart.fill, h, Option.map_some, Option.getD_some]
  split
  · exact hbody
  · rfl

end

/-! ### The text of a module -/

namespace Shell

variable {engine : TemplateEngine} {s : Shell} {width : Nat}

/-- The block of import statements. -/
private def importText (s : Shell) : String :=
  String.intercalate "\n" s.statements

/-- The words before the name of the function. -/
private def leadText (s : Shell) : List Char :=
  "export ".toList ++ (if s.isDefault.truthy then "default ".toList else []) ++ "function ".toList

/-- The head of the function up to its opening brace. -/
private def headText (s : Shell) : List Char :=
  s.leadText ++ (s.name.toList ++ "() \x7b".toList)

/-- A line of the function, one level deeper. -/
private def deeperLine (width : Nat) (line : List Char) : List Char :=
  List.replicate width ' ' ++ line

/-- The function from its head to its closing brace. -/
private def functionText (s : Shell) (width : Nat) : List Char :=
  s.headText ++ (['\n'] ++ (deeperLine width "return (".toList ++ (['\n'] ++ (s.body.toList ++
    (['\n'] ++ (deeperLine width ");".toList ++ ['\n', '\x7d']))))))

/-- What the parts of the template come to: the imports, an empty line behind them if there are
any, and the function. -/
private theorem fill_shellTemplate (h : s.indentSize.spaces = .ok width) :
    Template.fill templateSetup false s.context shellTemplate = .ok
      ((if s.importText = "" then [] else s.importText.toList ++ ['\n', '\n']) ++
        s.functionText width) := by
  have himports : s.context.find? (.str "imports_block") = some (.str s.importText) := rfl
  have hdefault : s.context.find? (.str "export_default") = some s.isDefault := rfl
  have hname : s.context.find? (.str "component_name") = some (.str s.name) := rfl
  have hindent : s.context.find? (.str "indent_size") = some s.indentSize := rfl
  have hbody : s.context.find? (.str "jsx") = some (.str s.body) := rfl
  have hnil : Template.fill templateSetup false s.context [] = .ok [] := rfl
  have hblock := fill_cons (fill_shown himports) <|
    fill_text ['\n', '\n'] hnil
  have hword := fill_text "default ".toList hnil
  have hreturn : (shellLine "return (").fill templateSetup false s.context =
      .ok (deeperLine width "return (".toList) := fill_shellLine hindent h _
  have hclose : (shellLine ");").fill templateSetup false s.context =
      .ok (deeperLine width ");".toList) := fill_shellLine hindent h _
  have hfill := fill_cons (fill_when himports hblock) <|
    fill_text "export ".toList <|
    fill_cons (fill_when hdefault hword) <|
    fill_text "function ".toList <|
    fill_cons (fill_shown hname) <|
    fill_text ("() \x7b".toList ++ ['\n']) <|
    fill_cons hreturn <|
    fill_text ['\n'] <|
    fill_cons (fill_shown hbody) <|
    fill_text ['\n'] <|
    fill_cons hclose <|
    fill_text ['\n', '\x7d'] hnil
  have himported : (Value.str s.importText).truthy = (s.importText != "") := rfl
  rw [shellTemplate, hfill]
  simp only [himported, bne_iff_ne, ne_eq, ite_not]
  unfold functionText headText leadText
  simp only [List.append_assoc, List.append_nil]

private theorem isContext_context (s : Shell) : IsContext s.context := by
  refine ⟨?_, ?_⟩
  · simp [context]
  · simp [context]

private theorem write_eq (hengine : engine.Fills shellTemplate)
    (h : s.indentSize.spaces = .ok width) : s.write engine = .ok (String.ofList
    ((if s.importText = "" then [] else s.importText.toList ++ ['\n', '\n']) ++
      s.functionText width)) := by
  have hescapes : templateSetup.escapes shellName = false := by decide
  have hlookup : moduleTemplates.lookup shellName = some shellSource := rfl
  have hfilled := hengine shellName s.context hescapes s.isContext_context
  rw [source_shellTemplate, fill_shellTemplate h] at hfilled
  rw [write, TemplateTable.render, hlookup]
  dsimp only
  rw [hfilled]
  rfl

/-- An engine that fills the template writes a module if lines can be indented. -/
theorem exists_write (hengine : engine.Fills shellTemplate) (h : s.indentSize.spaces = .ok width) :
    ∃ code, s.write engine = .ok code :=
  ⟨_, write_eq hengine h⟩

private theorem neatText_headText {body : List Char} (hsolid : IsSolid body)
    (hname : s.name.toList = body ∨ body ≠ [] ∧ s.name.toList = body ++ ['\n']) :
    NeatText s.headText := by
  have hlead : '\n' ∉ s.leadText := by
    unfold leadText
    split <;> decide
  have hend : Neat "() \x7b".toList := by decide
  rw [headText]
  rcases hname with hname | ⟨hne, hname⟩
  · rw [hname]
    exact ((hend.append hsolid.newline).append hlead).neatText
  · rw [hname, List.append_assoc, ← List.append_assoc]
    exact ((hsolid.neat hne).append hlead).neatText.below hend.neatText

/-- A shell that is filled with neat lines is tidy already. -/
theorem tidy_write {code : String} (hengine : engine.Fills shellTemplate)
    (h : s.write engine = .ok code)
    (hwidth : s.indentSize.spaces = .ok width)
    (hstatements : ∀ statement ∈ s.statements, Neat statement.toList) {body : List Char}
    (hsolid : IsSolid body)
    (hname : s.name.toList = body ∨ body ≠ [] ∧ s.name.toList = body ++ ['\n'])
    (hbody : NeatText s.body.toList) : tidyCode code = code := by
  have hdeeper : ∀ line, Neat line → NeatText (deeperLine width line) := fun line hline =>
    (hline.append fun hmem => absurd (List.eq_of_mem_replicate hmem) (by decide)).neatText
  have hbrace : Neat ['\x7d'] := by decide
  have hfunction : NeatText (s.functionText width) := by
    have hclose := (hdeeper ");".toList (by decide)).below hbrace.neatText
    have hreturn := (hdeeper "return (".toList (by decide)).below (hbody.below hclose)
    exact (neatText_headText hsolid hname).below hreturn
  rw [write_eq hengine hwidth] at h
  obtain rfl := Except.ok.inj h
  rw [tidyCode, String.toList_ofList]
  refine congrArg String.ofList ?_
  split
  · exact hfunction.tidy_eq
  · rename_i hsome
    have himports : NeatText s.importText.toList := by
      rw [importText, String.toList_intercalate]
      refine ⟨s.statements.map String.toList, fun hnil => hsome ?_,
        List.forall_mem_map.mpr hstatements, Text.joinLines_eq_intercalate _⟩
      rw [importText, List.map_eq_nil_iff.mp hnil]
      rfl
    simpa using himports.tidy_apart_eq hfunction

end Shell

/-! ### An engine -/

set_option maxRecDepth 10000 in
theorem ofSource?_shellSource :
    Template.ofSource? templateSetup shellSource = some shellTemplate := by rfl

theorem fills_reading : TemplateEngine.reading.Fills shellTemplate := by
  intro name context hescapes _
  rw [source_shellTemplate]
  simp only [TemplateEngine.reading, ofSource?_shellSource, hescapes]

end PageMarkup
