import PageMarkup.Settings.Basic

/-!
# Layers of settings

Settings are given in layers, each over the one before: a file over the settings of a run that sets
none, and values given directly over the file. A layer is a map. The values of known names replace
settings; everything else becomes a custom value, and a layer may also hold custom values in a block
of their own.

## Main definitions

* `LayeredSettings` : settings with the custom values found so far.
* `LayeredSettings.add` : one more layer.
* `Settings.ofLayers` : the settings of a file and of values given over it.
-/

namespace PageMarkup

/-- Settings with the custom values found so far. -/
structure LayeredSettings where
  base : Settings
  custom : Entries Value

namespace LayeredSettings

/-- The settings under all layers. -/
def start : LayeredSettings := ⟨.default, []⟩

/-- Adds one entry of a layer. A block of custom values that counts as false holds none. -/
def addEntry (l : LayeredSettings) (entry : Value × Value) : Except Misuse LayeredSettings :=
  let (name, v) := entry
  if (Value.str customKey).same name then
    if v.truthy then do return { l with custom := l.custom.putAll (← v.readEntries) } else .ok l
  else
    .ok <| match Setting.ofKey? name with
      | some which => { l with base := l.base.set which v }
      | none => { l with custom := l.custom.put name v }

/-- Adds a layer. -/
def add (l : LayeredSettings) (layer : Entries Value) : Except Misuse LayeredSettings :=
  layer.foldlM addEntry l

/-- The settings of all layers. -/
def finish (l : LayeredSettings) : Settings :=
  { l.base with custom := .map l.custom }

end LayeredSettings

/-- The entries of a layer that is given as a value; what counts as false is no layer. -/
def layerEntries (v : Value) : Except Misuse (Entries Value) :=
  match v with
  | .map es => .ok es
  | v => if v.truthy then .error .noEntries else .ok []

/-- The settings of a file and of values given over it. -/
def Settings.ofLayers (file : Entries Value) (given : Value) : Except Misuse Settings := do
  let l ← LayeredSettings.start.add file
  let l ← l.add (← layerEntries given)
  return l.finish

end PageMarkup
