import PageMarkup.Content.Entries
import PageMarkup.Fault

/-!
# The content of a document

A document is a list of content nodes, or a map that holds this list next to other data of the
editor. The nodes of a document are counted through every list among their properties, whatever
fields describe them.

## Main definitions

* `contentNodes` : the top-level nodes of a document.
* `countNodes` : the number of nodes of a document, nested ones included.
-/

namespace PageMarkup

/-- The name under which a document holds its nodes. -/
def contentKey : String := "content"

/-- The top-level nodes of a document; nothing is an empty document. -/
def contentNodes (document : Value) : Except Fault (List Value) :=
  match document with
  | .null => .ok []
  | .list xs => .ok xs
  | .tuple xs => .ok xs
  | .map _ =>
    let content := (document.get? contentKey).getD .null
    match content.items? with
    | some xs => .ok xs
    | none => if content.truthy then .error (.content .contentNotList) else .ok []
  | v => .error (.content (.unsupportedContent v.kindName))

mutual

/-- The number of nodes that a value in a list of nodes stands for: itself if it has a type, and the
nodes in the lists among its properties. -/
def countNode : Value → Except Misuse Nat
  | .map es =>
    if Entries.has es (.str "type") then return 1 + (← countInProps es) else .ok 0
  | _ => .ok 0
termination_by structural v => v

/-- The number of nodes in a list of nodes. -/
def countAll : List Value → Except Misuse Nat
  | [] => .ok 0
  | v :: vs => do return (← countNode v) + (← countAll vs)
termination_by structural vs => vs

/-- The number of nodes in the properties of a node, given the entries of the node. -/
def countInProps : List (Value × Value) → Except Misuse Nat
  | [] => .ok 0
  | (k, v) :: es =>
    if k.same (.str "props") then
      match v with
      | .map props => countInLists props
      | v => if v.truthy then .error .noEntries else .ok 0
    else countInProps es
termination_by structural es => es

/-- The number of nodes in the lists among properties. -/
def countInLists : List (Value × Value) → Except Misuse Nat
  | [] => .ok 0
  | (_, v) :: es => do
    let here ← match v with
      | .list xs => countAll xs
      | .tuple xs => countAll xs
      | _ => .ok 0
    return here + (← countInLists es)
termination_by structural es => es

end

/-- The number of nodes of a document; what holds no list of nodes has none. -/
def countNodes (document : Value) : Except Misuse Nat :=
  let content := match document with
    | .map _ => (document.get? contentKey).getD .null
    | v => v
  (content.items?.map countAll).getD (.ok 0)

end PageMarkup
