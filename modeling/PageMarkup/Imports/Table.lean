import PageMarkup.Content.Ordering
import PageMarkup.Imports.Spec

/-!
# The import table

The table collects the requests of a run. A path has one entry: the local name of its default
export, if that was asked for, and the exported names with their aliases. Asking again for what the
table holds changes nothing; asking for it under another name is a conflict. Requests that fail
leave the table as it was, but for a name that cannot serve as a key: by the time this shows, a new
path has its entry already.

## Main definitions

* `ImportTable` : the entries by path.
* `ImportTable.register`, `ImportTable.registerAll` : one request, and requests in order up to the
  first that fails.
* `ImportTable.leftBy` : the table that a request leaves where it fails.
* `ImportTable.declarations` : the import declarations, sorted by path and by name.
-/

namespace PageMarkup

/-- What a path is asked for: a default export under a local name, and exported names, each with its
alias or nothing. -/
structure ImportEntry where
  default : Value
  named : Entries Value

/-- The entry that asks for nothing. -/
def ImportEntry.empty : ImportEntry := ⟨.null, []⟩

/-- The entries of a run by path. -/
structure ImportTable where
  entries : Entries ImportEntry

/-- A finished import declaration for one path. -/
structure ImportDeclaration where
  path : Value
  default : Value
  named : Entries Value

namespace ImportTable

/-- The table without entries. -/
def empty : ImportTable := ⟨[]⟩

def size (t : ImportTable) : Nat :=
  t.entries.length

/-- The entry of a path, or the empty one. -/
def entry (t : ImportTable) (path : Value) : ImportEntry :=
  (t.entries.find? path).getD .empty

/-- Whether a path has an entry. -/
def contains (t : ImportTable) (path : Value) : Except Misuse Bool :=
  if path.hashable then .ok (t.entries.has path) else .error .notHashable

def putEntry (t : ImportTable) (path : Value) (e : ImportEntry) : ImportTable :=
  ⟨t.entries.put path e⟩

/-- Asks for a default export under a local name. -/
def registerDefault (t : ImportTable) (path name : Value) : Except Fault ImportTable :=
  let e := t.entry path
  if !name.truthy then .error (.content (.defaultWithoutName path))
  else if e.default.truthy && !e.default.same name then
    .error (.importConflict (.defaults path e.default name))
  else .ok (t.putEntry path { e with default := name })

/-- An alias as it is kept: one that is the exported name itself is none. -/
def keptAlias (name rename : Value) : Value :=
  if rename.same name then .null else rename

/-- Asks for an exported name, perhaps under an alias. -/
def registerNamed (t : ImportTable) (path name rename : Value) : Except Fault ImportTable :=
  let e := t.entry path
  let kept := keptAlias name rename
  if !name.truthy then .error (.content (.namedWithoutName path))
  else if !name.hashable then misused .notHashable
  else match e.named.find? name with
    | some present =>
      if present.same kept then .ok t
      else .error (.importConflict (.aliases name path present kept))
    | none => .ok (t.putEntry path { e with named := e.named ++ [(name, kept)] })

/-- Meets one request. -/
def register (t : ImportTable) (spec : ImportSpec) : Except Fault ImportTable :=
  if !spec.path.hashable then misused .notHashable
  else match spec with
    | .default path name => t.registerDefault path name
    | .named path name rename => t.registerNamed path name rename

/-- A table with an entry for a path: the one that it has, or one that asks for nothing. -/
def withEntry (t : ImportTable) (path : Value) : ImportTable :=
  if t.entries.has path then t else t.putEntry path .empty

/-- The table that a request leaves where it fails: the table as it was, but for the entry of its
path if the exported name cannot serve as a key there. -/
def leftBy (t : ImportTable) : ImportSpec → ImportTable
  | .default _ _ => t
  | .named path name _ =>
    if path.hashable && name.truthy && !name.hashable then t.withEntry path else t

/-- Meets requests in order. The first that fails ends this, and those before it stay met. -/
def registerAll (t : ImportTable) : List ImportSpec → Except Fault Unit × ImportTable
  | [] => (.ok (), t)
  | spec :: specs =>
    match t.register spec with
    | .ok t => t.registerAll specs
    | .error f => (.error f, t.leftBy spec)

/-- The declarations of the paths that are asked for anything, sorted by path, and in each the names
sorted. -/
def declarations (t : ImportTable) : Except Misuse (List ImportDeclaration) := do
  let entries ← sortByKey t.entries
  let asked := entries.filter fun e => e.2.default.truthy || !e.2.named.isEmpty
  asked.mapM fun e => do return ⟨e.1, e.2.default, ← sortByKey e.2.named⟩

end ImportTable

end PageMarkup
