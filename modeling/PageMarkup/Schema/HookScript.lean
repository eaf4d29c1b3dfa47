import PageMarkup.Schema.Hook

/-!
# Hook scripts

A hook can be given as a script: a list of steps that move values between the properties, the slots
and an output map, and a statement of what is given back. All three maps refer to the values by
their place in a store, so a value that was moved is still the object it was, and an item appended
to a list is seen wherever the list is referred to.

## Main definitions

* `HookScript` : scripts.
* `Identity.ofValue`, `Identity.ofGiven` : which object a stored value is.
* `HookScript.hook` : the hook of a script.
-/

namespace PageMarkup

/-- The maps that a script works on. -/
inductive HookMap where
  | out
  | props
  | slots
  deriving DecidableEq

/-- Where a value comes from: an entry, which may have to be there or not, the names of all entries,
or a constant. -/
inductive HookSource where
  | entry (of : HookMap) (key : Value) (required : Bool)
  | names (of : HookMap)
  | constant (v : Value)

/-- A step of a script. -/
inductive HookStep where
  | set (into : HookMap) (key : Value) (source : HookSource)
  | delete (of : HookMap) (key : Value)
  | spread (of : HookMap)
  | append (prop : Value) (source : HookSource)
  | fail (text : String)

/-- What a script gives back. -/
inductive HookReturn where
  | map (which : HookMap)
  | nothing
  | source (s : HookSource)

/-- A script: its steps in order and what it gives back. -/
structure HookScript where
  steps : List HookStep
  result : HookReturn

/-- An object in the store of a script, with the name of the property or slot it was given under, if
it was given at all. -/
structure Stored extends Object where
  owner : Option Value

/-- The state of a script: the store, the three maps of references into it, and the values appended
so far to lists that belong to the node. -/
structure HookState where
  store : List Stored
  out : Entries Nat
  props : Entries Nat
  slots : Entries Nat
  appended : List (Value × Value)

/-- The least and the greatest number that is one object wherever it turns up. -/
def sharedNumbers : Int × Int := (-5, 256)

/-- Which object a value is that is stored at a place: nothing, the truth values, small numbers,
texts of at most one narrow character and the empty tuple are always the same objects. -/
def Identity.ofValue (v : Value) (place : Nat) : Identity :=
  match v with
  | .null => .nothing
  | .bool b => .truth b
  | .int n => if sharedNumbers.1 ≤ n ∧ n ≤ sharedNumbers.2 then .number n else .place place
  | .str s =>
    match s.toList with
    | [] => .emptyText
    | [c] => if c.toNat < 0x100 then .letter c else .place place
    | _ => .place place
  | .tuple [] => .emptyTuple
  | _ => .place place

/-- Which object a value is that is given to a hook under a name, if all that is given is stored in
order, the properties first. -/
def Identity.ofGiven (props : Entries Value) (slots : Entries (Option Markup)) (name : Value) :
    Identity :=
  let given := props ++ slots.map fun e => (e.1, slotValue e.2)
  .ofValue ((given.find? name).getD .null) (given.keys.findIdx fun k => k.same name)

namespace HookState

def get (st : HookState) : HookMap → Entries Nat
  | .out => st.out
  | .props => st.props
  | .slots => st.slots

/-- Replaces one of the three maps. -/
def put (st : HookState) (which : HookMap) (es : Entries Nat) : HookState :=
  match which with
  | .out => { st with out := es }
  | .props => { st with props := es }
  | .slots => { st with slots := es }

/-- The object at a place of the store. -/
def stored (st : HookState) (place : Nat) : Stored :=
  st.store.getD place ⟨⟨.nothing, .null⟩, none⟩

/-- Stores a value that was not given to the hook. -/
def alloc (st : HookState) (v : Value) : Nat × HookState :=
  let object : Object := ⟨.ofValue v st.store.length, v⟩
  (st.store.length, { st with store := st.store ++ [⟨object, none⟩] })

/-- The state in which a script starts: everything given is in the store, under its own name. -/
def start (given : HookInput) : HookState where
  store := (given.props ++ given.slots).map fun e => ⟨e.2, some e.1⟩
  out := []
  props := given.props.mapIdx fun i e => (e.1, i)
  slots := given.slots.mapIdx fun i e => (e.1, given.props.length + i)
  appended := []

/-- The place of the object of a source. -/
def eval (st : HookState) : HookSource → Except Fault (Nat × HookState)
  | .entry which key required =>
    match (st.get which).find? key with
    | some place => .ok (place, st)
    | none => if required then misused .missingEntry else .ok (st.alloc .null)
  | .names which => .ok (st.alloc (.list (st.get which).keys))
  | .constant v => .ok (st.alloc v)

def step (st : HookState) : HookStep → Except Fault HookState
  | .set which key source => do
    let (place, st) ← st.eval source
    return st.put which ((st.get which).put key place)
  | .delete which key =>
    if (st.get which).has key then .ok (st.put which ((st.get which).erase key))
    else misused .missingEntry
  | .spread which => .ok { st with out := st.out.putAll (st.get which) }
  | .append prop source =>
    match st.props.find? prop with
    | none => misused .missingEntry
    | some place =>
      match st.stored place with
      | ⟨⟨id, .list xs⟩, owner⟩ => do
        let (item, st) ← st.eval source
        let v := (st.stored item).value
        return { st with
          store := st.store.set place ⟨⟨id, .list (xs ++ [v])⟩, owner⟩
          appended := st.appended ++ (owner.map fun name => (name, v)).toList }
      | _ => misused .noAppend
  | .fail text => .error (.hook text)

/-- The entries of one of the maps with the objects they refer to. -/
def resolve (st : HookState) (which : HookMap) : Entries Object :=
  (st.get which).map fun e => (e.1, (st.stored e.2).toObject)

/-- What comes of a script in its last state, for what it gives back. -/
def outcome (st : HookState) (result : HookResult) : HookOutcome :=
  ⟨result, ⟨st.resolve .props, st.resolve .slots⟩, st.appended⟩

/-- A value that is given back, read as entries. The values in it were not given to the hook. -/
def readResult (st : HookState) (v : Value) : Except Misuse (Entries Object) := do
  return (← v.readEntries).mapIdx fun i e => (e.1, ⟨.ofValue e.2 (st.store.length + i), e.2⟩)

/-- What a script gives back in its last state. -/
def finish (st : HookState) : HookReturn → Except Fault HookOutcome
  | .map which => .ok (st.outcome (.entries (.ok (st.resolve which))))
  | .nothing => .ok (st.outcome .nothing)
  | .source s => do
    let (place, st) ← st.eval s
    match (st.stored place).value with
    | .null => return st.outcome .nothing
    | v => return st.outcome (.entries (st.readResult v))

end HookState

/-- The hook of a script. -/
def HookScript.hook (script : HookScript) : Hook where
  identity := Identity.ofGiven
  call given := do
    let st ← script.steps.foldlM HookState.step (HookState.start given)
    st.finish script.result

end PageMarkup
