import PageMarkup.Content.Misuse
import PageMarkup.Content.Same

/-!
# Entries of a map

A map is the list of its entries in order of insertion, with no two equal keys. Putting an entry
replaces the value of an equal key in its place and comes last otherwise.

## Main definitions

* `Entries.find?`, `Entries.put`, `Entries.putAll`, `Entries.erase` : operations of a map.
* `Value.items`, `Value.readEntries` : a value read as a sequence and as a map.
* `Value.get?` : the value under a key that is a text.
-/

namespace PageMarkup

abbrev Entries (α : Type) := List (Value × α)

namespace Entries

variable {α : Type}

/-- The value under a key. -/
def find? (es : Entries α) (key : Value) : Option α :=
  (List.find? (fun e => e.1.same key) es).map (·.2)

/-- Whether a key has a value. -/
def has (es : Entries α) (key : Value) : Bool :=
  es.any fun e => e.1.same key

/-- Puts an entry: in the place of an equal key, which stays as it is, or at the end. -/
def put (es : Entries α) (key : Value) (value : α) : Entries α :=
  match es with
  | [] => [(key, value)]
  | e :: rest => if e.1.same key then (e.1, value) :: rest else e :: put rest key value

/-- Puts entries one after the other. -/
def putAll (es : Entries α) (more : List (Value × α)) : Entries α :=
  more.foldl (fun acc e => put acc e.1 e.2) es

/-- Drops the entry of a key. -/
def erase (es : Entries α) (key : Value) : Entries α :=
  es.filter fun e => !e.1.same key

def keys (es : Entries α) : List Value :=
  es.map (·.1)

@[simp] theorem find?_nil (key : Value) : find? ([] : Entries α) key = none := rfl

@[simp] theorem has_nil (key : Value) : has ([] : Entries α) key = false := rfl

end Entries

namespace Value

/-- The value that a map holds under a text; nothing is found in anything but a map. -/
def get? (v : Value) (key : String) : Option Value :=
  match v with
  | .map es => Entries.find? es (.str key)
  | _ => none

/-- The items of a value: of a sequence, the keys of a map, or the characters of a text. -/
def items : Value → Except Misuse (List Value)
  | .list xs => .ok xs
  | .tuple xs => .ok xs
  | .map es => .ok (Entries.keys es)
  | .str s => .ok (s.toList.map fun c => .str (String.singleton c))
  | _ => .error .notIterable

/-- A value read as an entry: it must have two items, and the first must be able to serve as a
key. -/
def readEntry (v : Value) : Except Misuse (Value × Value) := do
  match ← v.items with
  | [k, w] => if k.hashable then .ok (k, w) else .error .notHashable
  | _ => .error .notPair

/-- A value read as entries: those of a map, or the items of a sequence, each a pair. -/
def readEntries (v : Value) : Except Misuse (Entries Value) :=
  match v with
  | .map es => .ok es
  | v => do return Entries.putAll [] (← (← v.items).mapM readEntry)

end Value

namespace Markup

/-- The value of the first attribute of an element with the given name. -/
def attribute? (m : Markup) (name : Value) : Option Markup :=
  match m with
  | .element _ attributes _ => Entries.find? attributes name
  | _ => none

/-- Whether an element has no children. -/
def isSelfClosing : Markup → Bool
  | .element _ _ children => children.isEmpty
  | _ => false

end Markup

end PageMarkup
