import PageMarkup.Content.Entries
import PageMarkup.Fault
import PageMarkup.Markup.Layout

/-!
# Template engines

The text around markup comes from templates. A template is a named source, and an engine fills it
from a context of named values. Which engine this is, is left open: here it is only set up, with
the endings of names whose templates escape what they show and with a filter that indents lines,
and asked for the text of a template.

## Main definitions

* `TemplateSetup`, `TemplateEngine` : what an engine is set up with, and what it does.
* `indentFilter` : indents the lines of a value.
* `TemplateTable` : named sources, and how the template of a name is rendered.
-/

namespace PageMarkup

/-- Why a template is not filled: the engine refuses it, or something that it computes with goes
wrong. -/
inductive TemplateFault where
  | refused
  | misuse (how : Misuse)

/-- A filter: the text that comes of a value and of what is given with it. A context may have none
of these. -/
abbrev TemplateFilter := Option Value → List (Option Value) → Except TemplateFault (List Char)

/-- What an engine is set up with: the endings of names whose templates escape what they show,
whether the blanks that a line has before a statement are left out, and the filters by name. -/
structure TemplateSetup where
  escaped : List String
  trimsStatements : Bool
  filters : List (String × TemplateFilter)

/-- A template engine: the text of a template, given its name and its source, in a context. -/
structure TemplateEngine where
  fill : TemplateSetup → (name source : String) → Entries Value → Except TemplateFault String

/-- The characters of a value in a template; a value that the context does not have has none. -/
def templateText (v : Option Value) : Except TemplateFault (List Char) :=
  match v with
  | some v => (v.text?.map String.toList).mapError .misuse
  | none => .ok []

/-- The width by which lines are indented if none is given. -/
def defaultIndent : Nat := 4

/-- The text of a value with its lines indented. A width that the context does not have cannot be
computed with. -/
def indentFilter : TemplateFilter
  | v, [] => do return Text.indentBlock defaultIndent (← templateText v)
  | v, [some width] => do
    let width ← width.spaces.mapError .misuse
    return Text.indentBlock width (← templateText v)
  | _, [none] => .error .refused
  | _, _ => .error (.misuse .toldTooMuch)

def templateSetup : TemplateSetup where
  escaped := ["html", "xml"]
  trimsStatements := true
  filters := [("indent_block", indentFilter)]

/-- Sources of templates by name. -/
abbrev TemplateTable := List (String × String)

namespace TemplateTable

/-- Whether there is a template of a name. -/
def contains (t : TemplateTable) (name : String) : Bool :=
  t.any fun e => e.1 == name

/-- Adds a template in place of another one of the same name. -/
def add (t : TemplateTable) (name source : String) : TemplateTable :=
  (name, source) :: t.filter fun e => e.1 != name

/-- The text of the template of a name in a context. -/
def render (t : TemplateTable) (engine : TemplateEngine) (name : String)
    (context : Entries Value) : Except Fault String :=
  match t.lookup name with
  | none => .error (.template name)
  | some source =>
    match engine.fill templateSetup name source context with
    | .ok text => .ok text
    | .error .refused => .error (.template name)
    | .error (.misuse how) => misused how

end TemplateTable

end PageMarkup
