import PageMarkup.Loading.Document
import PageMarkup.Loading.Member

/-!
# Loading schemas

A schema is loaded from a JSON file or from a module that can hold what no document expresses. A
reference to a module names it before the first colon, and behind the colon the way to one of its
members.

## Main definitions

* `memberNames` : the names on the way to a member.
* `loadSchema` : the schema of a reference.
-/

namespace PageMarkup

/-- The parts of a way through members, which are separated by dots. -/
def memberNames (way : List Char) : List String :=
  (Address.cutAt '.' way).map String.ofList

/-- The schema of a module and a way through its members. -/
def schemaMember (members : SchemaModule) (moduleName way : String) : Except Fault Definition :=
  match (Member.schemaModule moduleName members).follow? (memberNames way.toList) with
  | some target => liftMisuse target.schema
  | none => .error (.loading (.noAttribute moduleName way))

/-- The schema of a reference. A module whose name starts with a dot is meant relative to another
one, which no reference tells. -/
def loadSchema (w : Workspace) (modules : List (String × SchemaModule)) (reference : String) :
    Except Fault Definition := do
  let p := Path.ofText reference
  if p.hasSuffix ".json" then
    (loadFile w p).map fun d => .ofValue d.value
  else if (← liftMisuse (w.read p)).isSome then
    (loadFile w p).map fun d => .ofValue d.value
  else
    let name := reference.toList.takeWhile (· != ':')
    let way := reference.toList.drop (name.length + 1)
    if name.isEmpty || way.isEmpty then .error (.loading (.notReference reference))
    else if name.head? = some '.' then .error (.misuse .notTold)
    else match modules.lookup (String.ofList name) with
      | some members => schemaMember members (String.ofList name) (String.ofList way)
      | none => .error (.loading (.importFailed (String.ofList name)))

end PageMarkup
