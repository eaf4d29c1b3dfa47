import PageMarkup.Page.Check
import PageMarkup.Page.Module

/-!
# Outcomes of generation

A generator turns a document and a schema into code for one target. Its run is captured: either it
gives code with reports and facts about it, or the fault that ended it. The facts are gathered after
a run that succeeded; what goes wrong there is not captured.

## Main definitions

* `Generator` : generators.
* `generateCode` : the captured run of a generator.
* `Outcome` : what comes of a run.
-/

namespace PageMarkup

/-- A document and its schema, as they are given to a generator. -/
structure PageInput where
  document : Value
  schema : Definition

/-- What a generator gives: code, and what hooks have appended to lists of the document. -/
structure GeneratedCode where
  code : String
  appended : List Value

/-- A generator for one target: the name of its language, the extension of its files, its settings,
how it checks and generates, and how it gives the bare tree if it can. -/
structure Generator where
  language : String
  extension : String
  settings : Settings
  check : PageInput → Except Fault (List ContentWarning)
  generate : PageInput → Except Fault GeneratedCode
  tree? : Option (PageInput → Except Fault PageTree)

/-- Facts about generated code. -/
structure Facts where
  language : String
  extension : String
  componentName : Value
  nodeCount : Nat
  componentTypes : Nat

/-- What comes of a run. -/
inductive Outcome where
  | generated (code : String) (warnings : List ContentWarning) (facts : Facts)
  | failed (cause : Fault)

/-- The message of a run that failed. -/
def failureMessage (cause : Fault) : String :=
  "Code generation failed: " ++ cause.text

/-- Code without blanks at line ends and long runs of blank lines. -/
def tidyCode (code : String) : String :=
  String.ofList (Text.tidy code.toList)

namespace Generator

/-- The reports of a generator and what it generates. -/
def run (g : Generator) (input : PageInput) :
    Except Fault (List ContentWarning × GeneratedCode) := do
  let warnings ← g.check input
  return (warnings, ← g.generate input)

/-- The facts about the code generated for a document. What hooks have appended to the document
counts too. -/
def facts (g : Generator) (input : PageInput) (made : GeneratedCode) : Except Misuse Facts := do
  let own ← countNodes input.document
  let more ← countAll made.appended
  let types ← input.schema.typeCount
  return ⟨g.language, g.extension, g.settings.componentName, own + more, types⟩

/-- The code that a generator gives, tidied. -/
def code (g : Generator) (input : PageInput) : Except Fault String := do
  return tidyCode (← g.generate input).code

end Generator

/-- The captured run of a generator. -/
def generateCode (g : Generator) (input : PageInput) : Except Misuse Outcome :=
  match g.run input with
  | .ok (warnings, made) => do
    return .generated (tidyCode made.code) warnings (← g.facts input made)
  | .error cause => .ok (.failed cause)

/-- The generator of modules with markup. -/
def pageGenerator (engine : TemplateEngine) (settings : Settings) : Generator where
  language := "react"
  extension := ".jsx"
  settings := settings
  check input := checkContent settings input.document input.schema
  generate input := do
    let made ← pageModule engine settings input.document input.schema
    return ⟨made.code, made.tree.appended⟩
  tree? := some fun input => pageTree settings input.document input.schema 0

end PageMarkup
