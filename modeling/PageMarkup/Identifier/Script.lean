import PageMarkup.Identifier.Casing

/-!
# Identifiers of generated modules

The identifiers of the language that generated modules are written in: its reserved words, the
global names that a component must not hide, and the test for a name that may stand without quotes.

## Main definitions

* `reservedWords`, `protectedNames` : the two classes of names that are not free.
* `isBareName` : the test for a bare name.
* `componentName` : the name of a component function.
-/

namespace PageMarkup.Identifier

/-- The reserved words of the language, those of its strict mode included. -/
def reservedWords : List String := [
  "await", "break", "case", "catch", "class", "const", "continue", "debugger", "default", "delete",
  "do", "else", "enum", "export", "extends", "false", "finally", "for", "function", "if",
  "implements", "import", "in", "instanceof", "interface", "let", "new", "null", "package",
  "private", "protected", "public", "return", "static", "super", "switch", "this", "throw", "true",
  "try", "typeof", "var", "void", "while", "with", "yield"]

/-- The global names that a generated component must not hide. -/
def protectedNames : List String := [
  "Array", "Boolean", "Date", "Error", "Function", "JSON", "Map", "Math", "Number", "Object",
  "Promise", "React", "RegExp", "Set", "String", "Symbol", "undefined"]

/-- A character that may start a name: an ASCII letter, an underscore or a dollar sign. -/
def isNameStart (c : Char) : Bool :=
  isCapital c || isSmall c || c == '_' || c == '$'

/-- A character that may stand in a name. -/
def isNameChar (c : Char) : Bool :=
  isNameStart c || isDecimal c

/-- Whether a text is a name, up to one newline at its end. -/
def hasNameShape : List Char → Bool
  | [] => false
  | c :: cs =>
    let body := if cs.getLast? = some '\n' then cs.dropLast else cs
    isNameStart c && body.all isNameChar

/-- Whether a text may stand as a name without quotes: it has the shape of one and is not
reserved. -/
def isBareName (name : String) : Bool :=
  hasNameShape name.toList && !reservedWords.contains name

/-- The sanitizer of generated modules. -/
def moduleSanitizer : Sanitizer where
  reserved := reservedWords ++ protectedNames
  fallback := "component"

/-- The name of a component function: a free bare name with a leading capital is kept, and any
other label is rebuilt in Pascal case. -/
def componentName (label : String) : String :=
  let keeps := isBareName label && (label.toList.head?.any isCapital) &&
    !moduleSanitizer.isReserved label
  if keeps then label else (moduleSanitizer.name? label.toList .pascal "_").getD ""

end PageMarkup.Identifier
