import PageMarkup.Content.Display
import PageMarkup.Content.Entries
import PageMarkup.Fault

/-!
# Settings

The settings of a run have names and values of any kind; what a value means is decided where it is
used. Names that are no setting of their own are kept in a map of custom values.

## Main definitions

* `Setting` : the settings by name.
* `Settings` : a value for each of them, and the custom values.
* `Settings.get`, `Settings.set` : access by name.
* `Settings.replace` : settings with some of them given anew.
-/

namespace PageMarkup

/-- The settings that have a name of their own. -/
inductive Setting where
  | componentName
  | exportDefault
  | includeFrameworkImport
  | frameworkImportPath
  | frameworkImportName
  | preserveIds
  | listKeys
  | indentSize
  | printWidth
  | maxDepth
  deriving DecidableEq

namespace Setting

def key : Setting → String
  | .componentName => "component_name"
  | .exportDefault => "export_default"
  | .includeFrameworkImport => "include_framework_import"
  | .frameworkImportPath => "framework_import_path"
  | .frameworkImportName => "framework_import_name"
  | .preserveIds => "preserve_ids"
  | .listKeys => "list_keys"
  | .indentSize => "indent_size"
  | .printWidth => "print_width"
  | .maxDepth => "max_depth"

/-- All settings in their order. -/
def all : List Setting := [
  .componentName, .exportDefault, .includeFrameworkImport, .frameworkImportPath,
  .frameworkImportName, .preserveIds, .listKeys, .indentSize, .printWidth, .maxDepth]

def ofKey? (name : Value) : Option Setting :=
  all.find? fun s => (Value.str s.key).same name

end Setting

/-- The name under which the custom values stand. -/
def customKey : String := "custom"

/-- A value for each setting, and the custom values. -/
structure Settings where
  componentName : Value := .str "GeneratedPage"
  exportDefault : Value := .bool false
  includeFrameworkImport : Value := .bool false
  frameworkImportPath : Value := .str "react"
  frameworkImportName : Value := .str "React"
  preserveIds : Value := .bool false
  listKeys : Value := .bool true
  indentSize : Value := .int 2
  printWidth : Value := .int 80
  maxDepth : Value := .int 100
  custom : Value := .map []

namespace Settings

/-- The settings of a run that sets none. -/
def default : Settings := {}

/-- The value of a setting. -/
def get (s : Settings) : Setting → Value
  | .componentName => s.componentName
  | .exportDefault => s.exportDefault
  | .includeFrameworkImport => s.includeFrameworkImport
  | .frameworkImportPath => s.frameworkImportPath
  | .frameworkImportName => s.frameworkImportName
  | .preserveIds => s.preserveIds
  | .listKeys => s.listKeys
  | .indentSize => s.indentSize
  | .printWidth => s.printWidth
  | .maxDepth => s.maxDepth

/-- Gives a setting another value. -/
def set (s : Settings) (which : Setting) (v : Value) : Settings :=
  match which with
  | .componentName => { s with componentName := v }
  | .exportDefault => { s with exportDefault := v }
  | .includeFrameworkImport => { s with includeFrameworkImport := v }
  | .frameworkImportPath => { s with frameworkImportPath := v }
  | .frameworkImportName => { s with frameworkImportName := v }
  | .preserveIds => { s with preserveIds := v }
  | .listKeys => { s with listKeys := v }
  | .indentSize => { s with indentSize := v }
  | .printWidth => { s with printWidth := v }
  | .maxDepth => { s with maxDepth := v }

theorem get_set_self (s : Settings) (k : Setting) (v : Value) : (s.set k v).get k = v := by
  cases k <;> rfl

theorem get_set_of_ne {s : Settings} {k l : Setting} {v : Value} (h : l ≠ k) :
    (s.set k v).get l = s.get l := by
  cases k <;> cases l <;> first | rfl | exact absurd rfl h

/-- Gives one value anew, by name; an unknown name is a misuse. -/
def put (s : Settings) (name v : Value) : Except Misuse Settings :=
  if (Value.str customKey).same name then .ok { s with custom := v }
  else match Setting.ofKey? name with
    | some which => .ok (s.set which v)
    | none => .error .unknownSetting

/-- Settings with the given ones in place of their own. -/
def replace (s : Settings) (given : Entries Value) : Except Misuse Settings :=
  given.foldlM (fun s e => s.put e.1 e.2) s

/-- The settings as a map in their order, the custom values last. -/
def toEntries (s : Settings) : Entries Value :=
  Setting.all.map (fun k => (.str k.key, s.get k)) ++ [(.str customKey, s.custom)]

/-- The inspected form of settings. -/
def inspect (s : Settings) : String :=
  "GeneratorConfig(" ++
    commaSeparated (s.toEntries.map fun e => e.1.text ++ "=" ++ e.2.inspect) ++ ")"

end Settings

end PageMarkup
