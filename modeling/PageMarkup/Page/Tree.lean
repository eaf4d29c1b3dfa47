import PageMarkup.Imports.Statement
import PageMarkup.Markup.Layout
import PageMarkup.Page.Content
import PageMarkup.Render.Node
import PageMarkup.Schema.Reading

/-!
# The tree of a page

The nodes of a document become one piece of markup, and the imports that it needs are declared. A
page without markup is an empty fragment. If the settings ask for the import of the framework, it is
requested before all others and declared before all others.

## Main definitions

* `PageTree` : the markup of a page, its text and its imports.
* `renderRoot` : the markup of the top-level nodes.
* `pageTree` : the tree of a document.
-/

namespace PageMarkup

/-- The tree of a page: its markup, the text of the markup, the imports that it needs, and the
values that hooks have appended to lists of the document. -/
structure PageTree where
  root : Markup
  text : String
  imports : List ImportDeclaration
  appended : List Value

/-- Requests the import of the framework if the settings ask for it. -/
def requestFramework (settings : Settings) : Render Unit :=
  if settings.includeFrameworkImport.truthy then
    Render.register [.default settings.frameworkImportPath settings.frameworkImportName]
  else pure ()

/-- The markup of the top-level nodes, which are met at depth zero. -/
def renderRoot (table : ComponentTable) (settings : Settings) (nodes : List Value) :
    Render Markup := do
  requestFramework settings
  let root ← renderSiblings (renderer table settings 0) true nodes
  return root.getD (.fragment [])

/-- Declarations in the order of a module: the framework comes first if the settings ask for it. -/
def orderImports (settings : Settings) (imports : List ImportDeclaration) :
    List ImportDeclaration :=
  if settings.includeFrameworkImport.truthy then
    let isFramework := fun d : ImportDeclaration => d.path.same settings.frameworkImportPath
    imports.filter isFramework ++ imports.filter (fun d => !isFramework d)
  else imports

/-- The tree of a document, its text indented to a depth. -/
def pageTree (settings : Settings) (document : Value) (schema : Definition) (depth : Int) :
    Except Fault PageTree := do
  let nodes ← contentNodes document
  let table ← schema.asTable
  let (outcome, run) := (renderRoot table settings nodes).outcome .initial
  let root ← outcome
  let text ← liftMisuse (root.printWith settings.indentSize settings.printWidth depth)
  let imports ← liftMisuse run.imports.declarations
  return ⟨root, String.ofList text, orderImports settings imports, run.appended⟩

end PageMarkup
