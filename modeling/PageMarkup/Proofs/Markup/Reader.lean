import PageMarkup.Markup.Layout

/-!
# Reading markup

A reader for written markup that knows nothing about layouts: blanks between the parts of a text
mean nothing, an attribute value between quotes is taken as it stands, an expression stands between
braces, and a bare text between tags loses the blanks on both sides. A text is read as a literal
wherever it stands. Every reading starts at a character that is not blank and leaves off before one.

## Main definitions

* `readExpression` : an expression at the start of a text, and what follows it.
* `readMarkup` : the tree of a whole text.
-/

namespace PageMarkup

/-- A text without the blanks at its start. -/
def skipBlank (s : List Char) : List Char :=
  s.dropWhile Text.isBlank

/-- A character of a word: of a literal without quotes, a tag or the name of an attribute. -/
def isWordChar (c : Char) : Bool :=
  Identifier.isNameChar c || c == '-' || c == ':' || c == '.' ||
    (0x80 ≤ c.toNat && !Text.isBlank c)

/-- The longest run of some kind of characters at the start of a text, if there is one, and what
follows it. -/
def readRun (p : Char → Bool) (s : List Char) : Option (List Char × List Char) :=
  match s.takeWhile p with
  | [] => none
  | w => some (w, skipBlank (s.dropWhile p))

/-- What follows a character at the start of a text. -/
def afterMark? (mark : Char) : List Char → Option (List Char)
  | [] => none
  | c :: rest => if c = mark then some (skipBlank rest) else none

/-- The number that a run of digits stands for. -/
def digitsNumber? (w : List Char) : Option Nat :=
  if w.all Identifier.isDecimal && !w.isEmpty then some (Decimal.digitsValue w) else none

def wordValue? (w : List Char) : Option Value :=
  if w = "null".toList then some .null
  else if w = "true".toList then some (.bool true)
  else if w = "false".toList then some (.bool false)
  else
    match w with
    | '-' :: ds => (digitsNumber? ds).map fun (n : Nat) => .int (-n)
    | ds => (digitsNumber? ds).map fun (n : Nat) => .int n

def readWord (s : List Char) : Option (Markup × List Char) := do
  let (w, rest) ← readRun isWordChar s
  return (.literal (← wordValue? w), rest)

/-- A text between double quotes with its escapes. -/
def readText (s : List Char) : Option (String × List Char) :=
  (Text.readQuoted s).map fun r => (String.ofList r.1, skipBlank r.2)

/-- The key of an entry, quoted or bare. -/
def readKey : List Char → Option (String × List Char)
  | '\x22' :: rest => readText ('\x22' :: rest)
  | s => (readRun Identifier.isNameChar s).map fun r => (String.ofList r.1, r.2)

/-- A text up to the next double quote, the first one being gone. -/
def readPlainAttribute (s : List Char) : Option (Markup × List Char) :=
  (afterMark? Text.quoteMark (s.dropWhile (· != Text.quoteMark))).map fun rest =>
    (.literal (.str (String.ofList (s.takeWhile (· != Text.quoteMark)))), rest)

/-- A character of a bare text between tags: all but those that start a tag or a container. -/
def isContentChar (c : Char) : Bool :=
  c != '<' && c != '\x7b'

/-- What follows a closing tag, its first two characters being gone. -/
def afterClosing? (tag s : List Char) : Option (List Char) :=
  if s.takeWhile isWordChar = tag then afterMark? '>' (s.dropWhile isWordChar) else none

mutual

/-- An expression at the start of a text, and what follows it. Each nested reading is one of at most
`steps`, which the length of the text bounds. -/
def readExpression : (steps : Nat) → List Char → Option (Markup × List Char)
  | 0, _ => none
  | n + 1, s =>
    match s with
    | '\x22' :: rest => (readText ('\x22' :: rest)).map fun r => (.literal (.str r.1), r.2)
    | '[' :: rest => (readItems n (skipBlank rest)).map fun r => (.array r.1, r.2)
    | '\x7b' :: rest => (readEntries n (skipBlank rest)).map fun r => (.object r.1, r.2)
    | '<' :: rest => readTagged n rest
    | s => readWord s

/-- The items of an array up to its closing bracket. -/
def readItems : (steps : Nat) → List Char → Option (List Markup × List Char)
  | 0, _ => none
  | n + 1, s =>
    match s with
    | ']' :: rest => some ([], skipBlank rest)
    | s => do
      let (item, rest) ← readExpression n s
      match rest with
      | ',' :: rest =>
        let (items, rest) ← readItems n (skipBlank rest)
        return (item :: items, rest)
      | rest => return ([item], ← afterMark? ']' rest)

/-- The entries of an object up to its closing brace. -/
def readEntries : (steps : Nat) → List Char → Option (List (String × Markup) × List Char)
  | 0, _ => none
  | n + 1, s =>
    match s with
    | '\x7d' :: rest => some ([], skipBlank rest)
    | s => do
      let (key, rest) ← readKey s
      let (value, rest) ← readExpression n (← afterMark? ':' rest)
      match rest with
      | ',' :: rest =>
        let (entries, rest) ← readEntries n (skipBlank rest)
        return ((key, value) :: entries, rest)
      | rest => return ([(key, value)], ← afterMark? '\x7d' rest)

/-- An expression between braces, the opening one being gone. -/
def readContainer : (steps : Nat) → List Char → Option (Markup × List Char)
  | 0, _ => none
  | n + 1, s => do
    let (value, rest) ← readExpression n s
    return (value, ← afterMark? '\x7d' rest)

/-- The value of an attribute: a text taken as it stands, or an expression between braces. -/
def readAttributeValue : (steps : Nat) → List Char → Option (Markup × List Char)
  | 0, _ => none
  | n + 1, s =>
    match s with
    | '\x22' :: rest => readPlainAttribute rest
    | '\x7b' :: rest => readContainer n (skipBlank rest)
    | _ => none

/-- The attributes of an opening tag up to its end. -/
def readAttributes : (steps : Nat) → List Char → Option (List (Value × Markup) × List Char)
  | 0, _ => none
  | n + 1, s =>
    match s with
    | '>' :: rest => some ([], '>' :: rest)
    | '/' :: rest => some ([], '/' :: rest)
    | s => do
      let (name, rest) ← readRun isWordChar s
      let (value, rest) ← readAttributeValue n (← afterMark? '=' rest)
      let (attributes, rest) ← readAttributes n rest
      return ((.str (String.ofList name), value) :: attributes, rest)

/-- An element or fragment, its first character being gone. -/
def readTagged : (steps : Nat) → List Char → Option (Markup × List Char)
  | 0, _ => none
  | n + 1, s =>
    match s with
    | '>' :: rest => (readChildren n [] (skipBlank rest)).map fun r => (.fragment r.1, r.2)
    | s => do
      let (tag, rest) ← readRun isWordChar s
      let (attributes, rest) ← readAttributes n rest
      match rest with
      | '/' :: rest =>
        return (.element (.str (String.ofList tag)) attributes [], ← afterMark? '>' rest)
      | '>' :: rest =>
        let (children, rest) ← readChildren n tag (skipBlank rest)
        return (.element (.str (String.ofList tag)) attributes children, rest)
      | _ => none

/-- A child: an element or fragment, an expression between braces, or a text. -/
def readChild : (steps : Nat) → List Char → Option (Markup × List Char)
  | 0, _ => none
  | n + 1, s =>
    match s with
    | [] => none
    | '<' :: rest => readTagged n rest
    | '\x7b' :: rest => readContainer n (skipBlank rest)
    | s =>
      some (.literal (.str (String.ofList (Text.strip (s.takeWhile isContentChar)))),
        s.dropWhile isContentChar)

/-- The children of an element or fragment up to and with its closing tag. -/
def readChildren : (steps : Nat) → (tag s : List Char) → Option (List Markup × List Char)
  | 0, _, _ => none
  | n + 1, tag, s =>
    match s with
    | '<' :: '/' :: rest => (afterClosing? tag rest).map fun rest => ([], rest)
    | s => do
      let (child, rest) ← readChild n s
      let (children, rest) ← readChildren n tag rest
      return (child :: children, rest)

end

/-- The tree of a text that holds one expression and nothing else but blanks. -/
def readMarkup (text : List Char) : Option Markup :=
  match readExpression (text.length + 1) (skipBlank text) with
  | some (m, []) => some m
  | _ => none

end PageMarkup
