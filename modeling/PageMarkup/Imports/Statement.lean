import PageMarkup.Imports.Table

/-!
# Import statements

A declaration is written as one statement: the default name, the other names between braces, the
quoted path. A name with an alias of its own is written with both.

## Main definitions

* `ImportDeclaration.statement?` : the statement of a declaration, none where it asks for nothing.
* `importStatements` : the statements of declarations in order.
-/

namespace PageMarkup

/-- A text that stands in a statement by itself. -/
def Value.needText : Value → Except Misuse String
  | .str s => .ok s
  | _ => .error .notText

/-- One name of a declaration, with its alias if that is another name. -/
def specifierText (name rename : Value) : Except Misuse String :=
  if rename.truthy && !rename.same name then .ok (name.text ++ " as " ++ rename.text)
  else name.needText

/-- The parts of a statement between the keyword and the path: the default name, and the other
names between braces. -/
def ImportDeclaration.clauses (d : ImportDeclaration) : Except Misuse (List String) := do
  let names ← d.named.mapM fun e => specifierText e.1 e.2
  let named := commaSeparated names
  let defaultPart ← if d.default.truthy then do pure [← d.default.needText] else pure []
  return defaultPart ++ if named.isEmpty then [] else ["\x7b " ++ named ++ " \x7d"]

/-- The statement of a declaration. -/
def ImportDeclaration.statement? (d : ImportDeclaration) : Except Misuse (Option String) := do
  match ← d.clauses with
  | [] => return none
  | parts => return some ("import " ++ commaSeparated parts ++ " from \"" ++ d.path.text ++ "\";")

/-- The statements of declarations in order, without those that ask for nothing. -/
def importStatements (ds : List ImportDeclaration) : Except Misuse (List String) := do
  return (← ds.mapM ImportDeclaration.statement?).filterMap id

end PageMarkup
