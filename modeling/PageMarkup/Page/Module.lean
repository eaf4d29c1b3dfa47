import PageMarkup.Page.Shell
import PageMarkup.Page.Tree

/-!
# Generated modules

A module exports one component function, which returns the tree of a page.

## Main definitions

* `PageModule` : a module, its tree and its import statements.
* `pageModule` : the module of a document.
-/

namespace PageMarkup

/-- A module: its code, the tree in it and its import statements. -/
structure PageModule where
  code : String
  tree : PageTree
  statements : List String

/-- The depth of the markup in a module: below the function and the parentheses. -/
def moduleDepth : Int := 2

/-- The name of the component function under the given settings. -/
def functionName (settings : Settings) : Except Misuse String := do
  return Identifier.componentName (← settings.componentName.needText)

/-- The module of a document, with a template engine that writes its text. -/
def pageModule (engine : TemplateEngine) (settings : Settings) (document : Value)
    (schema : Definition) : Except Fault PageModule := do
  let tree ← pageTree settings document schema moduleDepth
  let statements ← liftMisuse (importStatements tree.imports)
  let name ← liftMisuse (functionName settings)
  let shell : Shell := ⟨statements, settings.exportDefault, name, settings.indentSize, tree.text⟩
  return ⟨← shell.write engine, tree, statements⟩

end PageMarkup
