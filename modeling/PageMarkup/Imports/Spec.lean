import PageMarkup.Content.Entries
import PageMarkup.Fault

/-!
# Import requests

A component may need names from other modules. A request names the path of a module and either one
of its exported names, perhaps under an alias, or its default export under a local name. A request
without a name means the tag that the component is written with, up to its first dot.

## Main definitions

* `ImportSpec` : a request.
* `bindingName` : the name that a tag depends on.
* `ImportSpec.bind` : a request with the missing name filled in.
-/

namespace PageMarkup

/-- A request for an import. A name that is missing is nothing. -/
inductive ImportSpec where
  | named (path exportedName rename : Value)
  | default (path localName : Value)

/-- The part of a tag before its first dot. -/
def firstPart (tag : List Char) : List Char :=
  tag.takeWhile (· != '.')

/-- The name that a tag depends on; only a text has one. -/
def bindingName : Value → Except Misuse Value
  | .str s => .ok (.str (String.ofList (firstPart s.toList)))
  | _ => .error .noParts

namespace ImportSpec

def path : ImportSpec → Value
  | .named p _ _ => p
  | .default p _ => p

/-- A request with a missing name taken from the tag that the component is written with. -/
def bind (spec : ImportSpec) (tag : Value) : Except Misuse ImportSpec :=
  match spec with
  | .named p name rename =>
    if name.truthy then .ok spec else do return .named p (← bindingName tag) rename
  | .default p name =>
    if name.truthy then .ok spec else do return .default p (← bindingName tag)

/-- The inspected form of a request. -/
def inspect : ImportSpec → String
  | .named p name rename =>
    "NamedImport(path=" ++ p.inspect ++ ", exported_name=" ++ name.inspect ++ ", alias=" ++
      rename.inspect ++ ")"
  | .default p name =>
    "DefaultImport(path=" ++ p.inspect ++ ", local_name=" ++ name.inspect ++ ")"

end ImportSpec

end PageMarkup
