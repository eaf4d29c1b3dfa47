import PageMarkup.Decimal.Style
import PageMarkup.Template.Engine

/-!
# Templates

A template is a text with places that are filled from a context of named values. A place shows a
value, perhaps through filters, and a statement keeps parts of the template only if a name is true.
A name that the context does not have shows as nothing and is not true. In its source a place stands
between double braces and a statement between braces with percent signs.

## Main definitions

* `Operand`, `FilterCall`, `TemplatePart`, `Template` : templates.
* `Template.source` : the source of a template.
* `Template.fill` : the text of a template in a context.
* `TemplateEngine.Fills` : an engine that gives this text for this source.
-/

namespace PageMarkup

/-- What a place refers to: a name of the context, or a constant. -/
inductive Operand where
  | name (n : String)
  | text (s : String)
  | number (n : Int)

/-- The use of a filter: its name, and what it is given in parentheses. -/
structure FilterCall where
  name : String
  given : List Operand

/-- A part of a template: text that stands as it is, a value that is shown through filters, or parts
that depend on a name being true. -/
inductive TemplatePart where
  | text (s : List Char)
  | shown (what : Operand) (filters : List FilterCall)
  | when (name : String) (body : List TemplatePart)

/-- The parts of a template in order. -/
abbrev Template := List TemplatePart

/-! ### Sources -/

/-- An operand as it is written. -/
def Operand.source : Operand → List Char
  | .name n => n.toList
  | .text s => Text.quoteMark :: s.toList ++ [Text.quoteMark]
  | .number n => (Decimal.intText n).toList

/-- The use of a filter as it is written behind a bar. -/
def FilterCall.source (f : FilterCall) : List Char :=
  f.name.toList ++
    if f.given.isEmpty then []
    else '(' :: List.intercalate [',', ' '] (f.given.map Operand.source) ++ [')']

/-- A statement as it is written. -/
def statementSource (words : String) : List Char :=
  "\x7b% ".toList ++ words.toList ++ " %\x7d".toList

mutual

/-- A part of a template as it is written. -/
def TemplatePart.source : TemplatePart → List Char
  | .text s => s
  | .shown what filters =>
    "\x7b\x7b ".toList ++ what.source ++ filters.flatMap (" | ".toList ++ ·.source) ++
      " \x7d\x7d".toList
  | .when name body =>
    statementSource ("if " ++ name) ++ Template.source body ++ statementSource "endif"
termination_by structural part => part

/-- A template as it is written. -/
def Template.source : List TemplatePart → List Char
  | [] => []
  | p :: ps => p.source ++ Template.source ps
termination_by structural ps => ps

end

/-! ### Texts -/

variable (setup : TemplateSetup) (escape : Bool) (context : Entries Value)

/-- The value of an operand; a name that the context does not have has none. -/
def Operand.value? : Operand → Option Value
  | .name n => context.find? (.str n)
  | .text s => some (.str s)
  | .number n => some (.int n)

/-- What a filter makes of a value. -/
def FilterCall.apply (v : Option Value) (f : FilterCall) : Except TemplateFault (Option Value) :=
  match setup.filters.lookup f.name with
  | none => .error .refused
  | some filter => do
    return some (.str (String.ofList (← filter v (f.given.map (Operand.value? context)))))

/-- A character as it is shown in a document with markup. -/
def escapeMarkupChar (c : Char) : List Char :=
  if c = '&' then "&amp;".toList
  else if c = '<' then "&lt;".toList
  else if c = '>' then "&gt;".toList
  else if c = '\x27' then "&#39;".toList
  else if c = Text.quoteMark then "&#34;".toList
  else [c]

mutual

/-- The text of one part of a template. -/
def TemplatePart.fill : TemplatePart → Except TemplateFault (List Char)
  | .text s => .ok s
  | .shown what filters => do
    let v ← filters.foldlM (FilterCall.apply setup context) (what.value? context)
    let s ← templateText v
    return if escape then s.flatMap escapeMarkupChar else s
  | .when name body =>
    if ((context.find? (.str name)).map Value.truthy).getD false then Template.fill body
    else .ok []
termination_by structural part => part

/-- The text of a template in a context. -/
def Template.fill : List TemplatePart → Except TemplateFault (List Char)
  | [] => .ok []
  | p :: ps => do return (← p.fill) ++ (← Template.fill ps)
termination_by structural ps => ps

end

/-- Whether a template of a name escapes what it shows: its name has one of the endings. -/
def TemplateSetup.escapes (name : String) : Bool :=
  let lower := Text.lower name.toList
  setup.escaped.any fun ending => ('.' :: ending.toList).isSuffixOf lower

/-- A context of an engine: its names are distinct, and none is that of the receiver of a call. -/
def IsContext (context : Entries Value) : Prop :=
  (context.map Prod.fst).Nodup ∧ ∀ e ∈ context, ∃ n, e.1 = .str n ∧ n ≠ "self"

/-- An engine fills a template: for its source, under a name whose templates do not escape what they
show, it gives the text of the template in every context. -/
def TemplateEngine.Fills (engine : TemplateEngine) (template : Template) : Prop :=
  ∀ name context, templateSetup.escapes name = false → IsContext context →
    engine.fill templateSetup name (String.ofList (Template.source template)) context =
      String.ofList <$> Template.fill templateSetup false context template

end PageMarkup
