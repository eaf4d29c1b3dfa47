import PageMarkup.Content.Ordering
import PageMarkup.Decimal.Hexadecimal
import PageMarkup.Schema.Definition
import PageMarkup.Text.Capital
import PageMarkup.Text.Letter
import PageMarkup.Text.Pieces

/-!
# Operations of definitions

A definition has operations by name, according to its kind. A reference that ends at one calls it
without telling it anything, which some operations refuse. The result of an operation is all that
counts: what it would change is not seen again.

## Main definitions

* `Operations` : operations by name with what calling them gives.
* `Definition.operations` : the operations of a definition.
-/

namespace PageMarkup

/-- Operations by name, with what calling each of them without anything gives. -/
abbrev Operations := List (String × Except Misuse Definition)

/-- Operations that need to be told something. -/
def askingOperations (names : List String) : Operations :=
  names.map fun name => (name, .error .notTold)

/-- The definition that is a text of some characters. -/
def Definition.ofChars (cs : List Char) : Definition :=
  .str (String.ofList cs)

/-- The inspected form of the bytes of a text: a character of one byte as in a text, and every other
byte by its number. -/
def inspectBytes (s : String) : String :=
  let apostrophe : Char := '\x27'
  let cs := s.toList
  let mark := if cs.contains apostrophe && !cs.contains Text.quoteMark then Text.quoteMark
    else apostrophe
  let byte (b : UInt8) : List Char :=
    if b < 0x80 then inspectChar mark (Char.ofNat b.toNat)
    else Text.escapeMark :: 'x' :: Text.hexDigits 2 b.toNat
  String.ofList ('b' :: mark :: s.toUTF8.toList.flatMap byte ++ [mark])

/-- The operations that make a text out of a text. -/
def textChanges (cs : List Char) : List (String × List Char) := [
  ("upper", Text.upper cs), ("lower", Text.lower cs), ("capitalize", Text.capitalize cs),
  ("title", Text.titleWords cs), ("swapcase", Text.swapCase cs), ("casefold", Text.foldCase cs),
  ("strip", Text.strip cs), ("lstrip", cs.dropWhile Text.isBlank), ("rstrip", Text.stripEnd cs),
  ("expandtabs", Text.expandTabs cs)]

/-- The operations that cut a text into pieces. -/
def textCuts (cs : List Char) : List (String × List (List Char)) := [
  ("split", Text.blankWords cs), ("rsplit", Text.blankWords cs),
  ("splitlines", Text.breakLines cs)]

/-- Whether a text has characters, and all of them are in a class. -/
def isFilledWith (inClass : Char → Bool) (cs : List Char) : Bool :=
  !cs.isEmpty && cs.all inClass

/-- The operations that test a text. -/
def textTests (cs : List Char) : List (String × Bool) := [
  ("isascii", cs.all fun c => c.toNat < 0x80), ("isprintable", cs.all Text.isPrintable),
  ("isspace", isFilledWith Text.isBlank cs), ("isdigit", isFilledWith Text.isDigit cs),
  ("isdecimal", isFilledWith (fun c => (Text.decimalValue? c).isSome) cs),
  ("isnumeric", isFilledWith Text.isNumeral cs), ("isalpha", isFilledWith Text.isLetter cs),
  ("isalnum", isFilledWith (fun c => Text.isLetter c || Text.isNumeral c) cs),
  ("isidentifier", Text.isNameText cs), ("isupper", Text.isAllCapital cs),
  ("islower", Text.isAllSmall cs), ("istitle", Text.isTitled cs)]

/-- What filling in a text without anything to fill in gives: a text without braces itself. -/
def formatted (cs : List Char) : Except Misuse Definition :=
  if cs.all fun c => c != '\x7b' && c != '\x7d' then .ok (.ofChars cs) else .error .missingEntry

def textOperations (s : String) : Operations :=
  let cs := s.toList
  (textChanges cs).map (fun e => (e.1, .ok (.ofChars e.2))) ++
    (textCuts cs).map (fun e => (e.1, .ok (.list (e.2.map .ofChars)))) ++
    (textTests cs).map (fun e => (e.1, .ok (.bool e.2))) ++
    [("format", formatted cs), ("encode", .ok (.foreign "bytes" (inspectBytes s)))] ++
    askingOperations ["center", "count", "endswith", "find", "format_map", "index", "join", "ljust",
      "maketrans", "partition", "removeprefix", "removesuffix", "replace", "rfind", "rindex",
      "rjust", "rpartition", "startswith", "translate", "zfill"]

/-- The number of ones in the binary digits of a number, of which there are at most `digits`. -/
def countOnes : (digits : Nat) → Nat → Nat
  | 0, _ => 0
  | d + 1, n => n % 2 + countOnes d (n / 2)

/-- The number of binary digits of a number. -/
def binaryLength (n : Nat) : Nat :=
  if n = 0 then 0 else n.log2 + 1

/-- The operations of an integer. -/
def integerOperations (n : Int) : Operations :=
  let length := binaryLength n.natAbs
  [("bit_length", .ok (.int length)), ("bit_count", .ok (.int (countOnes length n.natAbs))),
    ("conjugate", .ok (.int n)), ("as_integer_ratio", .ok (.tuple [.int n, .int 1]))] ++
    askingOperations ["to_bytes", "from_bytes"]

/-- The operations of a floating-point number. -/
def floatOperations (x : Float) : Operations :=
  let b := Decimal.Binary.ofFloat x
  let ratio : Except Misuse Definition :=
    match b.quotient? with
    | some (p, q) => .ok (.tuple [.int p, .int q])
    | none => .error .notNumber
  [("is_integer", .ok (.bool (b.quotient?.any fun r => r.2 == 1))), ("conjugate", .ok (.float x)),
    ("as_integer_ratio", ratio), ("hex", .ok (.str (Decimal.hexText b)))] ++
    askingOperations ["fromhex"]

def listOperations (ds : List Definition) : Operations :=
  let last : Except Misuse Definition := match ds.getLast? with
    | some d => .ok d
    | none => .error .emptyList
  let sorted : Except Misuse Definition :=
    if Value.sortable (Definition.values ds) then .ok .null else .error .notOrdered
  [("copy", .ok (.list ds)), ("clear", .ok .null), ("reverse", .ok .null), ("pop", last),
    ("sort", sorted)] ++
    askingOperations ["append", "count", "extend", "index", "insert", "remove"]

/-- A look at a part of the entries of a map. -/
def entriesView (kind : String) (items : List Definition) : Definition :=
  .foreign kind (kind ++ "(" ++ (Definition.list items).value.inspect ++ ")")

def mapOperations (es : Entries Definition) : Operations :=
  let entry (e : Value × Definition) : Definition := .tuple [.ofValue e.1, e.2]
  let last : Except Misuse Definition := match es.getLast? with
    | some e => .ok (entry e)
    | none => .error .missingEntry
  [("keys", .ok (entriesView "dict_keys" (es.map fun e => .ofValue e.1))),
    ("values", .ok (entriesView "dict_values" (es.map (·.2)))),
    ("items", .ok (entriesView "dict_items" (es.map entry))), ("copy", .ok (.map es)),
    ("clear", .ok .null), ("update", .ok .null), ("popitem", last)] ++
    askingOperations ["fromkeys", "get", "pop", "setdefault"]

/-- The operations of a definition. -/
def Definition.operations : Definition → Operations
  | .bool b => integerOperations (if b then 1 else 0)
  | .int n => integerOperations n
  | .float x => floatOperations x
  | .str s => textOperations s
  | .list ds => listOperations ds
  | .tuple _ => askingOperations ["count", "index"]
  | .map es => mapOperations es
  | .markup (.element _ _ _) => askingOperations ["get_attribute"]
  | .request _ => askingOperations ["bind"]
  | .component c =>
    ("slot_field_names", .ok (.list (c.slotNames.map .ofValue))) :: askingOperations ["get_field"]
  | .factory result => [("__call__", .ok result)]
  | .hook _ => askingOperations ["__call__"]
  | _ => []

end PageMarkup
