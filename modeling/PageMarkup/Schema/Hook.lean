import PageMarkup.Content.Entries
import PageMarkup.Fault

/-!
# Property hooks

A component may change its properties before they are written. Its hook is given the plain
properties of a node and the markup of its slots, and gives back the entries to write instead. The
values in its hands are objects, and an object stays the one it is under whatever name it is given
back; by this it is told later which value only changed its name. The two maps are the hook's own,
so that it may also change them, but a list among the properties that it appends to is the list of
the node.

## Main definitions

* `Identity`, `Object` : what tells objects apart, and values as objects.
* `HookInput`, `HookOutcome` : what a hook is given, and what it brings about.
* `Hook` : hooks.
-/

namespace PageMarkup

/-- What tells objects apart. Some values are one object wherever they turn up, and are told by what
they are; all others are told by their place in a store. -/
inductive Identity where
  | nothing
  | truth (b : Bool)
  | number (n : Int)
  | emptyText
  | letter (c : Char)
  | emptyTuple
  | place (n : Nat)
  deriving DecidableEq

/-- A value as an object. -/
structure Object where
  id : Identity
  value : Value

/-- What a hook is given: the plain properties of a node, and the markup of its slots, which is
nothing where a slot renders to nothing. -/
structure HookInput where
  props : Entries Object
  slots : Entries Object

/-- What a hook gives back: nothing, which leaves the properties as they are, or something that is
read as the entries to write in their stead, if it can be. -/
inductive HookResult where
  | nothing
  | entries (es : Except Misuse (Entries Object))

/-- What a hook brings about: its result, the two maps as it leaves them, and the values that it
appended to lists among the properties, each with the name of the property. -/
structure HookOutcome where
  result : HookResult
  left : HookInput
  appended : List (Value × Value)

/-- A hook: which objects the values are that it is given under their names, and what it does with
these objects. -/
structure Hook where
  identity : Entries Value → Entries (Option Markup) → Value → Identity
  call : HookInput → Except Fault HookOutcome

/-- The hook that fails, whatever it is given. -/
def Hook.failing (f : Fault) : Hook where
  identity _ _ _ := .nothing
  call _ := .error f

/-- The value of a slot, from its markup. -/
def slotValue (m : Option Markup) : Value :=
  (m.map Value.markup).getD .null

/-- What a hook is given for some properties and slots. -/
def Hook.given (hook : Hook) (props : Entries Value) (slots : Entries (Option Markup)) :
    HookInput where
  props := props.map fun e => (e.1, ⟨hook.identity props slots e.1, e.2⟩)
  slots := slots.map fun e => (e.1, ⟨hook.identity props slots e.1, slotValue e.2⟩)

/-- The names under which an object was given, those of properties first. -/
def HookInput.namesOf (given : HookInput) (id : Identity) : List Value :=
  Entries.keys ((given.props ++ given.slots).filter fun e => e.2.id = id)

/-- A list with one more item; every other value stays as it is. -/
def Value.append (v item : Value) : Value :=
  match v with
  | .list xs => .list (xs ++ [item])
  | v => v

/-- Properties after values have been appended to lists among them. -/
def appendItems (props : Entries Value) (appended : List (Value × Value)) : Entries Value :=
  appended.foldl
    (fun ps a => ps.map fun e => if e.1.same a.1 then (e.1, e.2.append a.2) else e) props

end PageMarkup
