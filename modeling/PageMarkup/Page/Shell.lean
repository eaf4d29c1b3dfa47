import PageMarkup.Template.Engine

/-!
# The shell of a module

A module is the block of its import statements and a function that returns the markup of the page.
This is the only text of a module that is not markup or an import; it is a template, so that its
places are named.

## Main definitions

* `shellSource` : the source of the template.
* `Shell` : what its places are filled with.
* `Shell.write` : the text of a module.
-/

namespace PageMarkup

def shellName : String := "component.jsx.j2"

/-- The source of the template: the import statements and a blank line behind them if there are any,
the head of the function, and the markup between parentheses that are one level deeper. -/
def shellSource : String := String.intercalate "\n" [
  "\x7b% if imports_block %\x7d\x7b\x7b imports_block \x7d\x7d",
  "",
  "\x7b% endif %\x7dexport \x7b% if export_default %\x7ddefault \x7b% endif %\x7dfunction " ++
    "\x7b\x7b component_name \x7d\x7d() \x7b",
  "\x7b\x7b \x22return (\x22 | indent_block(indent_size) \x7d\x7d",
  "\x7b\x7b jsx \x7d\x7d",
  "\x7b\x7b \x22);\x22 | indent_block(indent_size) \x7d\x7d",
  "\x7d"]

/-- The templates of a module. -/
def moduleTemplates : TemplateTable := [(shellName, shellSource)]

/-- What the places of the shell are filled with. -/
structure Shell where
  statements : List String
  isDefault : Value
  name : String
  indentSize : Value
  body : String

def Shell.context (s : Shell) : Entries Value := [
  (.str "imports_block", .str (String.intercalate "\n" s.statements)),
  (.str "export_default", s.isDefault),
  (.str "component_name", .str s.name),
  (.str "indent_size", s.indentSize),
  (.str "jsx", .str s.body)]

/-- The text of a module. -/
def Shell.write (engine : TemplateEngine) (s : Shell) : Except Fault String :=
  moduleTemplates.render engine shellName s.context

end PageMarkup
