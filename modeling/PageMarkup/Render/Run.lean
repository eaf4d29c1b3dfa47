import PageMarkup.Imports.Table
import PageMarkup.Schema.Component
import PageMarkup.Settings.Basic

/-!
# Runs of the renderer

Rendering meets import requests on the way, and hooks may append content to lists of the tree. Both
are the state of a run. A run that fails keeps what it had collected before.

## Main definitions

* `RunState`, `Render` : the state, and steps that may fail and leave a state.
* `LevelRenderer`, `NodeRenderer` : how nodes are rendered at one depth, and at every depth.
* `Settings.isBeyond` : whether a depth lies beyond the maximum depth.
* `Settings.levels` : the number of levels from a depth on that do not.
-/

namespace PageMarkup

/-- What a run has collected: the import table, and the values that hooks have appended to lists of
the content tree. -/
structure RunState where
  imports : ImportTable
  appended : List Value

/-- The state at the start of a run. -/
def RunState.initial : RunState := ⟨.empty, []⟩

/-- A step of a run. -/
abbrev Render := ExceptT Fault (StateM RunState)

namespace Render

/-- The outcome of a step, with the state that it leaves. -/
def outcome {α : Type} (r : Render α) (st : RunState) : Except Fault α × RunState :=
  StateT.run (ExceptT.run r) st

def fail {α : Type} (f : Fault) : Render α :=
  throw f

/-- A computation outside a run. -/
def ofExcept {α : Type} : Except Fault α → Render α
  | .ok a => pure a
  | .error f => fail f

/-- A computation outside a run that can only be misused. -/
def ofMisuse {α : Type} (r : Except Misuse α) : Render α :=
  ofExcept (liftMisuse r)

/-- Meets import requests in order, up to the first that fails. -/
def register (specs : List ImportSpec) : Render Unit := do
  let st ← get
  let (result, imports) := st.imports.registerAll specs
  set { st with imports := imports }
  ofExcept result

/-- Notes values that a hook has appended to lists of the content tree. -/
def noteAppended (items : List Value) : Render Unit :=
  modify fun st => { st with appended := st.appended ++ items }

end Render

/-- How a node is met: as one of several siblings or not, and in a place of the content tree that
counts as holding nodes or not. -/
structure Place where
  listItem : Bool
  counted : Bool

/-- How the nodes at one depth are rendered; a node of a skipped type has no markup. -/
abbrev LevelRenderer := Value → Place → Render (Option Markup)

/-- How nodes are rendered at a depth. -/
abbrev NodeRenderer := Int → LevelRenderer

/-- Whether a depth lies beyond the maximum depth; only a number limits the depth. -/
def Settings.isBeyond (s : Settings) (depth : Int) : Except Misuse Bool :=
  match s.maxDepth with
  | .int n => .ok (n < depth)
  | .bool b => .ok (b.toNat < depth)
  | .float x =>
    match Decimal.Binary.ofFloat x with
    | .infinite negative => .ok negative
    | b => .ok (b.floor?.any fun n => n < depth)
  | _ => .error .notNumber

/-- The number of levels that a run without a limit may go down. -/
def unlimitedLevels : Nat := 1000000

/-- The number of levels from a depth on that do not lie beyond the maximum depth. -/
def Settings.levels (s : Settings) (depth : Int) : Nat :=
  let upTo (limit : Int) : Nat := (limit - depth + 1).toNat
  match s.maxDepth with
  | .int n => upTo n
  | .bool b => upTo b.toNat
  | .float x =>
    match Decimal.Binary.ofFloat x with
    | .infinite true => 0
    | b => (b.floor?.map upTo).getD unlimitedLevels
  | _ => 0

end PageMarkup
