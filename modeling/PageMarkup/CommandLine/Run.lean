import PageMarkup.CommandLine.Console
import PageMarkup.CommandLine.Options
import PageMarkup.Loading.Schema
import PageMarkup.Target.Creation

/-!
# The command

The command reads a document and a schema, generates a module and writes it to a file or shows it.
What goes wrong with its sources, its settings, the content or the output file is reported, and the
command ends with code one; any other fault ends it without a report, and so does a message that
the console cannot read. A file is only written after everything else has succeeded.

## Main definitions

* `Surroundings` : what the command works with.
* `CommandResult` : what it leaves.
* `runCommand` : the command.
-/

namespace PageMarkup

/-- What the command works with: files, the standard input, the web, modules with schemas, the
registered targets, and the console. -/
structure Surroundings where
  files : Workspace
  stdin : String
  fetch : String → Fetched
  modules : List (String × SchemaModule)
  targets : TargetTable
  console : Console

/-- What the command leaves: its code, the lines it has shown, and the files. -/
structure CommandResult where
  code : Nat
  shown : List String
  files : Workspace

/-- How the command ends: its code, what it shows, and the files. -/
structure CommandEnd where
  code : Nat
  notices : List Notice
  files : Workspace

/-- Why the command ends early: with messages and code one, or by a fault. -/
inductive CommandStop where
  | reported (messages : List String)
  | uncaught (cause : Fault)

abbrev CommandStep := Except CommandStop

/-- Ends the command with an error message. -/
def stopWith {α : Type} (message : String) : CommandStep α :=
  .error (.reported ["[red]✗ Error:[/red] " ++ message])

/-- A step whose faults are not reported. -/
def uncaught {α : Type} (r : Except Fault α) : CommandStep α :=
  r.mapError .uncaught

/-- A loading step: its own faults are reported with what was to be loaded. -/
def reportLoading {α : Type} (what : String) (r : Except Fault α) : CommandStep α :=
  match r with
  | .ok a => .ok a
  | .error (.loading cause) => stopWith ("Failed to load " ++ what ++ ": " ++ cause.message)
  | .error f => .error (.uncaught f)

/-- The value of a number that an option is set to: an empty list where there is none. -/
def Assigned.asSetting : Assigned Int → Value
  | .value n => .int n
  | .nothing => .list []

namespace Options

/-- The settings that options give. -/
def overrides (o : Options) : Entries Value :=
  let flag (on : Bool) (which : Setting) (v : Bool) : Entries Value :=
    if on then [(.str which.key, .bool v)] else []
  let name := Assigned.text o.componentName
  (if name.isEmpty then [] else [(.str Setting.componentName.key, .str name)]) ++
    flag o.frameworkImport .includeFrameworkImport true ++
    flag o.preserveIds .preserveIds true ++
    flag o.noKeys .listKeys false ++
    (o.indent.map fun n => (Value.str Setting.indentSize.key, n.asSetting)).toList ++
    flag o.exportDefault .exportDefault true

/-- The document that options name. -/
def document (o : Options) (env : Surroundings) : CommandStep Value :=
  let file := o.file.getD ""
  let url := Assigned.text o.url
  if !file.isEmpty then
    reportLoading "input" ((loadDocument env.files env.fetch file "").map (·.value))
  else if !url.isEmpty then
    reportLoading "input" ((loadDocument env.files env.fetch "" url).map (·.value))
  else match Json.read env.stdin.toList with
    | .ok v => .ok v
    | .error .malformed => stopWith "Invalid JSON input: "
    | .error .tooManyDigits => uncaught (misused .tooManyDigits)

/-- The settings of the named settings file with those of the options over it. -/
def settings (o : Options) (env : Surroundings) : CommandStep Settings :=
  match Settings.load env.files (.str (Assigned.text o.config)) (.map o.overrides) with
  | .ok s => .ok s
  | .error (.settings cause) => stopWith ("Configuration error: " ++ cause.message)
  | .error f => .error (.uncaught f)

end Options

/-- What the command has generated: the text, the reports, and what is told about it on request. -/
structure CommandOutput where
  text : String
  warnings : List ContentWarning
  facts : List (String × String)

/-- Ends the command because nothing could be generated. -/
def generationFailed {α : Type} (message : String) (hints : List String) : CommandStep α :=
  .error (.reported (("[red]✗ Code generation failed:[/red] " ++ message) :: hints))

/-- Ends the command because of a fault of generation. -/
def failGeneration {α : Type} (cause : Fault) : CommandStep α :=
  generationFailed (failureMessage cause) <|
    match cause with
    | .schema _ => ["[dim]Check the component schema document[/dim]"]
    | _ => []

/-- What is told about a module. -/
def factRows (facts : Facts) : List (String × String) := [
  ("Language", facts.language), ("File Extension", facts.extension),
  ("Component Name", facts.componentName.text), ("Node Count", Decimal.intText facts.nodeCount),
  ("Component Types", Decimal.intText facts.componentTypes)]

/-- The module for a document. -/
def generateModule (g : Generator) (input : PageInput) : CommandStep CommandOutput := do
  match ← uncaught (liftMisuse (generateCode g input)) with
  | .generated code warnings facts => return ⟨code, warnings, factRows facts⟩
  | .failed cause => failGeneration cause

/-- The markup of a document behind the import statements it needs, without a component around
it. -/
def bareText (tree : PageTree) (statements : List String) : String :=
  if statements.isEmpty then tree.text
  else String.intercalate "\n" statements ++ "\n\n" ++ tree.text

/-- The import statements and the markup for a document. -/
def generateBare (g : Generator) (input : PageInput) : CommandStep CommandOutput :=
  match g.tree? with
  | none => generationFailed ("Target '" ++ g.language ++ "' does not support --jsx-only") []
  | some tree =>
    match (do return (← g.check input, ← tree input) : Except Fault _) with
    | .error cause => failGeneration cause
    | .ok (warnings, made) => do
      let statements ← uncaught (liftMisuse (importStatements made.imports))
      let paths := Decimal.intText made.imports.length
      return ⟨bareText made statements, warnings,
        [("Language", g.language), ("Import Paths", paths)]⟩

/-- What is shown about reports, if there are any. -/
def warningNotices (warnings : List ContentWarning) : List Notice :=
  if warnings.isEmpty then []
  else
    [.message "", .message "[yellow]⚠️  Warnings:[/yellow]"] ++
      warnings.map (fun w => .message ("  [yellow]•[/yellow] " ++ w.message)) ++ [.message ""]

/-- What is shown behind the generated text: what is told about it if that is asked for, and the
reports. -/
def closingNotices (o : Options) (out : CommandOutput) : List Notice :=
  let facts : List Notice :=
    if o.verbose then .message "" :: out.facts.map (fun f => .row [f.1, f.2]) else []
  facts ++ warningNotices out.warnings

/-- What is told about a file that has been written. -/
def savedMessage (p : Path) : String :=
  "[green]✓[/green] Generated code saved to [cyan]" ++ p.text ++ "[/cyan]"

/-- How the command ends where the output file cannot be written. -/
def writeStop (p : Path) : WriteRefusal → CommandStop
  | .refused => .reported ["[red]✗ Failed to write to " ++ p.text ++ ":[/red] "]
  | .nullInPath => .uncaught (.misuse .nullInPath)
  | .cutShort _ => .uncaught (.misuse .notEncodable)

/-- Writes what was generated to the output file if one is named, and shows it otherwise. -/
def deliver (o : Options) (env : Surroundings) (out : CommandOutput) : CommandStep CommandEnd := do
  let output := Assigned.text o.output
  if output.isEmpty then return ⟨0, .code out.text :: closingNotices o out, env.files⟩
  else
    let p := Path.ofText output
    let files ← (env.files.write p (out.text ++ "\n")).mapError (writeStop p)
    return ⟨0, .message (savedMessage p) :: closingNotices o out, files⟩

/-- Shows the registered targets. -/
def showTargets (env : Surroundings) : CommandStep CommandEnd := do
  let rows ← env.targets.targets.mapM fun target => do
    let d ← uncaught (env.targets.describe target)
    let others := if d.aliases.isEmpty then "[dim]none[/dim]" else commaSeparated d.aliases
    return Notice.row ["🔧 " ++ target, d.extension, d.className, others]
  return ⟨0, rows, env.files⟩

/-- The name of the target that options ask for. -/
def Options.targetName (o : Options) : CommandStep String :=
  match o.target with
  | .value name => .ok name
  | .nothing => uncaught (misused .noLetters)

/-- Ends the command unless its sources are named and its target is registered, and gives the name
of the target. -/
def checkOptions (o : Options) (env : Surroundings) : CommandStep String := do
  if (o.file.getD "").isEmpty && (Assigned.text o.url).isEmpty && !o.stdin then
    throw (.reported ["[red]✗[/red] Input source required (file, --url, or --stdin)"])
  if (Assigned.text o.schema).isEmpty then
    throw (.reported ["[red]✗[/red] --schema is required for code generation"])
  let target ← o.targetName
  if env.targets.supports target then return target
  else
    throw (.reported ["[red]✗ Unsupported target '" ++ target ++ "'[/red]",
      "[dim]Supported targets: " ++ commaSeparated env.targets.targets ++ "[/dim]"])

/-- The message that stands on the console while code is generated for a target. -/
def progressMessage (target : String) : String :=
  "[progress.description][green]Generating " ++ target ++ " code..."

/-- What the command generates from the sources that options name. -/
def Options.generate (o : Options) (env : Surroundings) : CommandStep CommandOutput := do
  let target ← checkOptions o env
  let document ← o.document env
  let schema ← reportLoading "schema" (loadSchema env.files env.modules (Assigned.text o.schema))
  let settings ← o.settings env
  let generator ← uncaught (env.targets.create env.files target (.ready settings))
  let _ ← uncaught (liftMisuse (env.console.announce (progressMessage target)))
  let input : PageInput := ⟨document, schema⟩
  if o.jsxOnly then generateBare generator input else generateModule generator input

/-- The steps of the command under the given options. -/
def runOptions (o : Options) (env : Surroundings) : CommandStep CommandEnd := do
  if o.logLevel matches .nothing then uncaught (misused .notText)
  if o.listTargets then showTargets env
  else deliver o env (← o.generate env)

/-- What an end of the command leaves, shown on a console. -/
def CommandEnd.result (e : CommandEnd) (c : Console) : Except Fault CommandResult := do
  return ⟨e.code, ← liftMisuse (c.showAll e.notices), e.files⟩

/-- The command with the given words. -/
def runCommand (args : List String) (env : Surroundings) : Except Fault CommandResult :=
  match Options.read args with
  | .error .refused => .ok ⟨2, [], env.files⟩
  | .error .help => .ok ⟨0, [], env.files⟩
  | .ok o =>
    match runOptions o env with
    | .ok e => e.result env.console
    | .error (.reported messages) =>
      (CommandEnd.mk 1 (messages.map .message) env.files).result env.console
    | .error (.uncaught f) => .error f

end PageMarkup
