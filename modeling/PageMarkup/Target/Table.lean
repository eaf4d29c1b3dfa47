import PageMarkup.Page.Outcome

/-!
# Targets

Generators are registered under the name of a target and further names for it. Names are not
sensitive to case. A target that is registered already stays as it is unless it is to be replaced,
and a further name must not take away a name of another target.

## Main definitions

* `GeneratorClass` : how a generator is made from settings.
* `TargetTable` : the classes by target, and the targets by further names.
* `TargetTable.register`, `TargetTable.unregister`, `TargetTable.class?` : its operations.
-/

namespace PageMarkup

/-- How a generator is made: the name of its class, and the generator for given settings or the
reason why there is none. -/
structure GeneratorClass where
  name : String
  create : Settings → Except String Generator

/-- The class of the built-in generator. -/
def pageGeneratorClass (engine : TemplateEngine) : GeneratorClass where
  name := "ReactGenerator"
  create settings := .ok (pageGenerator engine settings)

/-- The classes by target, and the targets by further names, all in order of registration. -/
structure TargetTable where
  classes : List (String × GeneratorClass)
  aliases : List (String × String)

/-- A list of pairs with the value of a key put in its place, or at the end. -/
def putPair {α : Type} (pairs : List (String × α)) (key : String) (value : α) :
    List (String × α) :=
  match pairs with
  | [] => [(key, value)]
  | p :: ps => if p.1 = key then (key, value) :: ps else p :: putPair ps key value

def sortNames (names : List String) : List String :=
  names.mergeSort fun a b => a ≤ b

/-- The form of a name in which it is looked up. -/
def targetKey (name : String) : String :=
  String.ofList (Text.lower name.toList)

namespace TargetTable

/-- The table without targets. -/
def empty : TargetTable := ⟨[], []⟩

/-- The class of a target that is registered under this very key. -/
def classOf? (t : TargetTable) (key : String) : Option GeneratorClass :=
  t.classes.lookup key

/-- The key of the target that a name stands for: of itself, or of the target it is a further name
of. -/
def resolve (t : TargetTable) (name : String) : Option String :=
  let key := targetKey name
  if (t.classOf? key).isSome then some key else t.aliases.lookup key

/-- The target that a key belongs to, if it is taken. -/
def owner? (t : TargetTable) (key : String) : Option String :=
  if (t.classOf? key).isSome then some key else t.aliases.lookup key

/-- The first of several keys that belongs to a target other than the given one, with that
target. -/
def takenAlias? (t : TargetTable) (target : String) (keys : List String) :
    Option (String × String) :=
  keys.findSome? fun key =>
    match t.owner? key with
    | some owner => if owner = target then none else some (key, owner)
    | none => none

/-- The keys of the further names of a target. -/
def aliasKeys (target : String) (aliases : List String) : List String :=
  (aliases.map targetKey).filter (· != target)

/-- Puts a target and its further names. -/
def put (t : TargetTable) (key : String) (c : GeneratorClass) (aliases : List String) :
    TargetTable where
  classes := putPair t.classes key c
  aliases := aliases.foldl (fun acc a => putPair acc a key) t.aliases

/-- Registers a class, if it is one, under a target and further names. -/
def register (t : TargetTable) (target : String) (candidate : Option GeneratorClass)
    (aliases : List String) (replace : Bool) : Except TargetFault TargetTable :=
  match candidate with
  | none => .error .notGenerator
  | some c =>
    let key := targetKey target
    let keys := aliasKeys key aliases
    if (t.classOf? key).isSome && !replace then .ok t
    else match if replace then none else t.takenAlias? key keys with
      | some (name, owner) => .error (.aliasTaken name owner)
      | none => .ok (t.put key c keys)

/-- Drops a target and its further names. -/
def unregister (t : TargetTable) (target : String) : TargetTable :=
  let key := targetKey target
  ⟨t.classes.filter (·.1 != key), t.aliases.filter (·.2 != key)⟩

/-- The targets in order of their names. -/
def targets (t : TargetTable) : List String :=
  sortNames (t.classes.map (·.1))

/-- The class that a name stands for. -/
def class? (t : TargetTable) (name : String) : Option GeneratorClass :=
  (t.resolve name).bind t.classOf?

/-- The class that a name stands for, or the fault of a name that stands for none. -/
def find (t : TargetTable) (name : String) : Except TargetFault GeneratorClass :=
  match t.class? name with
  | some c => .ok c
  | none => .error (.unknownTarget name t.targets)

/-- Whether a name stands for a target. -/
def supports (t : TargetTable) (name : String) : Bool :=
  (t.resolve name).isSome

/-- The further names of a target in order. -/
def aliasesOf (t : TargetTable) (target : String) : List String :=
  sortNames ((t.aliases.filter (·.2 == targetKey target)).map (·.1))

/-- The table with the built-in target. -/
def builtin (engine : TemplateEngine) : TargetTable :=
  empty.put "react" (pageGeneratorClass engine) ["jsx", "tsx"]

end TargetTable

end PageMarkup
