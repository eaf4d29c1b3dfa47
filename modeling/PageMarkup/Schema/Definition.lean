import PageMarkup.Schema.Component
import PageMarkup.Settings.Basic

/-!
# Definitions

A schema is given as a tree of definitions. It is built like a value, and in the place of any value
it may hold what no document can express: a finished field, import request, component or settings,
a hook, a factory that gives a definition when it is called, or a namespace with members.

## Main definitions

* `Definition` : definitions.
* `Definition.ofValue` : a value as a definition.
* `Definition.value` : what a definition looks like where a plain value is needed.
* `Definition.readEntries` : a definition read as a map.
-/

namespace PageMarkup

/-- A node of a schema document. -/
inductive Definition where
  | null
  | bool (b : Bool)
  | int (n : Int)
  | float (x : Float)
  | str (s : String)
  | foreign (kind text : String)
  | markup (m : Markup)
  | list (items : List Definition)
  | tuple (items : List Definition)
  | map (entries : List (Value × Definition))
  | field (f : Field)
  | request (spec : ImportSpec)
  | component (c : Component)
  | settings (s : Settings)
  | hook (h : Hook)
  | factory (result : Definition)
  | namespace (members : List (String × Definition))

instance : Inhabited Definition := ⟨.null⟩

mutual

/-- A value as a definition. -/
def Definition.ofValue : Value → Definition
  | .null => .null
  | .bool b => .bool b
  | .int n => .int n
  | .float x => .float x
  | .str s => .str s
  | .foreign kind text => .foreign kind text
  | .markup m => .markup m
  | .list xs => .list (Definition.ofValues xs)
  | .tuple xs => .tuple (Definition.ofValues xs)
  | .map es => .map (Definition.ofEntries es)
termination_by structural v => v

/-- The items of a collection as definitions. -/
def Definition.ofValues : List Value → List Definition
  | [] => []
  | x :: xs => .ofValue x :: Definition.ofValues xs
termination_by structural xs => xs

/-- The entries of a map as definitions. -/
def Definition.ofEntries : List (Value × Value) → List (Value × Definition)
  | [] => []
  | (k, v) :: es => (k, .ofValue v) :: Definition.ofEntries es
termination_by structural es => es

end

mutual

/-- A definition where a plain value is needed; what no document can express is an object that no
rule recognises. -/
def Definition.value : Definition → Value
  | .null => .null
  | .bool b => .bool b
  | .int n => .int n
  | .float x => .float x
  | .str s => .str s
  | .foreign kind text => .foreign kind text
  | .markup m => .markup m
  | .list xs => .list (Definition.values xs)
  | .tuple xs => .tuple (Definition.values xs)
  | .map es => .map (Definition.valueEntries es)
  | .field f => .foreign "FieldDescriptor" f.inspect
  | .request spec =>
    match spec with
    | .named _ _ _ => .foreign "NamedImport" spec.inspect
    | .default _ _ => .foreign "DefaultImport" spec.inspect
  | .component c => .foreign "ComponentConfig" c.inspect
  | .settings s => .foreign "GeneratorConfig" s.inspect
  | .hook _ => .foreign "function" "<function>"
  | .factory _ => .foreign "function" "<function>"
  | .namespace _ => .foreign "SimpleNamespace" "namespace()"
termination_by structural d => d

/-- The items of a collection as plain values. -/
def Definition.values : List Definition → List Value
  | [] => []
  | d :: ds => d.value :: Definition.values ds
termination_by structural ds => ds

/-- The entries of a map as plain values. -/
def Definition.valueEntries : List (Value × Definition) → List (Value × Value)
  | [] => []
  | (k, d) :: es => (k, d.value) :: Definition.valueEntries es
termination_by structural es => es

end

namespace Definition

/-- Whether a definition counts as true. -/
def truthy (d : Definition) : Bool :=
  d.value.truthy

/-- Whether a definition is nothing. -/
def isNull : Definition → Bool
  | .null => true
  | _ => false

/-- The items of a definition: of a sequence, the keys of a map, or the characters of a text. -/
def items : Definition → Except Misuse (List Definition)
  | .list xs => .ok xs
  | .tuple xs => .ok xs
  | .map es => .ok (es.map fun e => .ofValue e.1)
  | .str s => .ok (s.toList.map fun c => .str (String.singleton c))
  | _ => .error .notIterable

/-- A definition read as an entry: it must have two items, and the first must be able to serve as a
key. -/
def readEntry (d : Definition) : Except Misuse (Value × Definition) := do
  match ← d.items with
  | [k, w] => if k.value.hashable then .ok (k.value, w) else .error .notHashable
  | _ => .error .notPair

/-- A definition read as entries: those of a map, or the items of a sequence, each a pair. -/
def readEntries (d : Definition) : Except Misuse (Entries Definition) :=
  match d with
  | .map es => .ok es
  | d => do return Entries.putAll [] (← (← d.items).mapM readEntry)

end Definition

/-- The first of several keys that a map has, with its definition. -/
def Entries.firstOf (es : Entries Definition) (keys : List String) : Option Definition :=
  keys.findSome? fun key => es.find? (.str key)

end PageMarkup
