import PageMarkup.Content.Parts
import PageMarkup.Files.Workspace
import PageMarkup.Json.Writer
import PageMarkup.Settings.Layers

/-!
# Settings files

Settings are kept in JSON files, each an object that holds the settings by name and next to them the
custom values.

## Main definitions

* `readSettingsFile` : the object in a settings file.
* `Settings.load` : the settings of a file and of values given over it.
* `Settings.save` : writes settings to a file.
-/

namespace PageMarkup

/-- The object in a settings file. -/
def readSettingsFile (w : Workspace) (p : Path) : Except Fault (Entries Value) :=
  match w.locate p with
  | .overlong => misused .pathTooLong
  | .nowhere => .error (.settings (.fileNotFound p.text))
  | place =>
    if !p.hasSuffix ".json" then .error (.settings (.fileNotJson p.text))
    else match place.contents? with
      | none => .error (.settings (.unreadable p.text))
      | some .undecodable => misused .malformedText
      | some (.text s) =>
        match Json.read s.toList with
        | .error .malformed => .error (.settings (.invalidJson p.text))
        | .error .tooManyDigits => misused .tooManyDigits
        | .ok (.map es) => .ok es
        | .ok _ => .error (.settings (.notObject p.text))

/-- The object in the settings file that a value names, if it names one. -/
def readNamedFile (w : Workspace) (file : Value) : Except Fault (Entries Value) :=
  if !file.truthy then .ok []
  else match file with
    | .str s => readSettingsFile w (.ofText s)
    | _ => misused .notText

namespace Settings

/-- The settings of a file and of values given over it. -/
def load (w : Workspace) (file given : Value) : Except Fault Settings := do
  let entries ← readNamedFile w file
  liftMisuse (ofLayers entries given)

/-- The object that is written for settings: the custom values stand next to the settings, and
markup is kept as its parts. -/
def flatEntries (s : Settings) : Except Misuse (Entries Value) := do
  let known := Setting.all.map fun k => (Value.str k.key, (s.get k).unfolded)
  return Entries.putAll known (← s.custom.unfolded.readEntries)

/-- Writes settings to a file. -/
def save (s : Settings) (w : Workspace) (p : Path) : Except Fault Workspace := do
  let entries ← liftMisuse s.flatEntries
  let text ← liftMisuse (Json.write (.map entries))
  match w.write p (String.ofList text) with
  | .ok w => return w
  | .error .refused => throw (.settings (.unsaved p.text))
  | .error .nullInPath => misused .nullInPath
  | .error (.cutShort _) => misused .notEncodable

end Settings

end PageMarkup
