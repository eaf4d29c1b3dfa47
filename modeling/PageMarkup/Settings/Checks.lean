import PageMarkup.Settings.Basic

/-!
# Checks of settings

Settings are accepted as they are given. A setting with an unusable value is reported, in a fixed
order, and does not stop a run by itself.

## Main definitions

* `SettingsWarning` : what can be wrong with a setting.
* `Settings.warnings` : the reports on settings.
-/

namespace PageMarkup

/-- What can be wrong with a setting. -/
inductive SettingsWarning where
  | invalid (which : Setting) (value : Value)
  | noComponentName
  | noFrameworkName

def SettingsWarning.message : SettingsWarning → String
  | .invalid which value => "Invalid " ++ which.key ++ ": " ++ value.text
  | .noComponentName => "component_name must not be empty"
  | .noFrameworkName => "framework_import_name is required for the framework import"

/-- Whether a value is an integer of at least the given size; truth values count as zero and one. -/
def Value.isAtLeast (least : Int) : Value → Bool
  | .int n => least ≤ n
  | .bool b => least ≤ b.toNat
  | _ => false

namespace Settings

/-- The report on a setting that has to be an integer of at least the given size. -/
def checkSize (s : Settings) (which : Setting) (least : Int) : List SettingsWarning :=
  if (s.get which).isAtLeast least then [] else [.invalid which (s.get which)]

/-- The reports on settings. -/
def warnings (s : Settings) : List SettingsWarning :=
  s.checkSize .indentSize 0 ++ s.checkSize .printWidth 20 ++ s.checkSize .maxDepth 1 ++
    (if s.componentName.truthy then [] else [.noComponentName]) ++
    (if s.includeFrameworkImport.truthy && !s.frameworkImportName.truthy then [.noFrameworkName]
      else [])

end Settings

end PageMarkup
