import PageMarkup.Settings.File
import PageMarkup.Target.Table

/-!
# Making generators

A generator is made for a target from settings, which may be given ready, as values over the
settings of a run that sets none, by the path of a settings file, or not at all.

## Main definitions

* `SettingsSource` : how settings are given.
* `TargetTable.create` : the generator of a target.
* `TargetTable.describe` : what is told about a target.
* `TargetTable.code` : the code for a document in one step.
-/

namespace PageMarkup

/-- How settings are given: ready, or as a value that says where they come from. -/
inductive SettingsSource where
  | ready (s : Settings)
  | value (v : Value)

def SettingsSource.settings (w : Workspace) : SettingsSource → Except Fault Settings
  | .ready s => .ok s
  | .value .null => .ok .default
  | .value (.map es) => Settings.load w .null (.map es)
  | .value (.str path) => Settings.load w (.str path) .null
  | .value v => .error (.target (.unsupportedSettings v.kindName))

/-- What is told about a target. -/
structure TargetDescription where
  language : String
  className : String
  extension : String
  aliases : List String

namespace TargetTable

/-- The class that a name stands for. -/
def findClass (t : TargetTable) (name : String) : Except Fault GeneratorClass :=
  (t.find name).mapError .target

/-- The generator of a target. -/
def create (t : TargetTable) (w : Workspace) (target : String) (source : SettingsSource) :
    Except Fault Generator := do
  let c ← t.findClass target
  let settings ← source.settings w
  (c.create settings).mapError fun reason => .target (.notCreated target reason)

/-- What is told about a target, which takes a generator to be made for it. -/
def describe (t : TargetTable) (target : String) : Except Fault TargetDescription := do
  let c ← t.findClass target
  let sample ← (c.create .default).mapError .hook
  return ⟨sample.language, c.name, sample.extension, t.aliasesOf ((t.resolve target).getD "")⟩

/-- A document that is given as a value or as its JSON text. -/
def readDocument (v : Value) : Except Misuse Value :=
  match v with
  | .str s =>
    match Json.read s.toList with
    | .ok document => .ok document
    | .error .malformed => .error .malformedData
    | .error .tooManyDigits => .error .tooManyDigits
  | v => .ok v

/-- The code for a document in one step, with nothing captured: the document may be given by its
text, and the settings as values over those of a run that sets none. -/
def code (t : TargetTable) (w : Workspace) (target : String) (given document : Value)
    (schema : Definition) : Except Fault String := do
  let document ← liftMisuse (readDocument document)
  let g ← t.create w target (.value given)
  g.code ⟨document, schema⟩

end TargetTable

end PageMarkup
