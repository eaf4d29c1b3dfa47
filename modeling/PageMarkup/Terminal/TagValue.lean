import PageMarkup.Text.Blank
import PageMarkup.Text.LetterClass

/-!
# Values in tags

A tag that stands for an action may carry a value: the name of the action, and behind it, in
parentheses, what it is given. What is given is written as constants: numbers, quoted texts, words
for truth and nothing, and groups of constants, in parentheses or braces. Anything else is not a
value, and neither is a group in which something that can change stands as a key.

## Main definitions

* `isConstant` : whether a text is a constant.
* `isActionValue` : whether a text is the value of an action.
-/

namespace PageMarkup.Terminal

/-- A text without the blanks at its start. -/
def skipBlanks (s : List Char) : List Char :=
  s.dropWhile fun c => c == ' ' || c == '\t' || c == '\n' || c == Char.ofNat 0x0C

/-- A character of a word or number. -/
def isTokenChar (c : Char) : Bool :=
  c.isAlphanum || c == '_'

/-- Whether a text is digits of a kind, between any two of which one underscore may stand. -/
def areDigits (isDigit : Char → Bool) : List Char → Bool
  | [] => false
  | [c] => isDigit c
  | c :: '_' :: cs => isDigit c && areDigits isDigit cs
  | c :: cs => isDigit c && areDigits isDigit cs

/-- A digit of a base up to sixteen, in small letters. -/
def isDigitOf (base : Nat) (c : Char) : Bool :=
  if c.isDigit then c.toNat - 0x30 < base else 'a' ≤ c && c.toNat < 0x61 + base - 10 && 10 < base

/-- The token at the start of a text. Points belong to it, and so does a sign behind the letter of
an exponent. -/
def spanToken (hex : Bool) : List Char → List Char × List Char
  | [] => ([], [])
  | c :: cs =>
    if isTokenChar c || c == '.' then
      let isExponent := !hex && (c == 'e' || c == 'E')
      match cs with
      | d :: ds =>
        if isExponent && (d == '+' || d == '-') && ds.head?.any Char.isDigit then
          let r := spanToken hex ds
          (c :: d :: r.1, r.2)
        else
          let r := spanToken hex (d :: ds)
          (c :: r.1, r.2)
      | [] => ([c], [])
    else ([], c :: cs)

/-- Whether a text is an optional sign and digits. -/
def isExponentText (s : List Char) : Bool :=
  areDigits Char.isDigit (match s with
    | '+' :: ds | '-' :: ds => ds
    | ds => ds)

/-- Whether a text is digits with at most one point among them or beside them. -/
def isMantissa (s : List Char) : Bool :=
  let whole := s.takeWhile (· != '.')
  match s.drop whole.length with
  | [] => areDigits Char.isDigit whole
  | _ :: places =>
    (!whole.isEmpty || !places.isEmpty) &&
      (whole.isEmpty || areDigits Char.isDigit whole) &&
      (places.isEmpty || areDigits Char.isDigit places)

/-- What kind of number a token is, if it is one: whether it is imaginary. -/
def numberKind? (token : List Char) : Option Bool :=
  let inBase (base : Nat) (ds : List Char) : Option Bool :=
    if areDigits (isDigitOf base) (if ds.head? = some '_' then ds.drop 1 else ds) then some false
    else none
  match token.map Char.toLower with
  | '0' :: 'x' :: ds => inBase 16 ds
  | '0' :: 'o' :: ds => inBase 8 ds
  | '0' :: 'b' :: ds => inBase 2 ds
  | s =>
    let imaginary := s.getLast? == some 'j'
    let s := if imaginary then s.dropLast else s
    let front := s.takeWhile (· != 'e')
    let hasExponent := s.contains 'e'
    let isWhole := !imaginary && !hasExponent && !s.contains '.'
    let badZeros := isWhole && s.head? == some '0' && s.any fun c => c != '0' && c != '_'
    if isMantissa front && !badZeros &&
        (!hasExponent || isExponentText (s.drop (front.length + 1))) then some imaginary
    else none

/-- A number without a sign at the start of a text: whether it is imaginary, and the rest. -/
def readNumber? (s : List Char) : Option (Bool × List Char) :=
  let hex := s.head? == some '0' && (s.drop 1).head?.any fun c => c == 'x' || c == 'X'
  let (token, rest) := spanToken hex s
  (numberKind? token).map fun kind => (kind, rest)

/-- What follows a sum of a real and an imaginary number, of which the first part has been read. -/
def afterSum? (imaginary : Bool) (rest : List Char) : Option (List Char) :=
  match skipBlanks rest with
  | '+' :: s | '-' :: s =>
    match readNumber? (skipBlanks s) with
    | some (true, rest) => if imaginary then none else some rest
    | _ => none
  | _ => some rest

/-- What follows the closing quote of a text. A backslash and what follows it belong to the text. -/
def afterQuote? (quote : Char) : List Char → Option (List Char)
  | [] => none
  | [c] => if c = quote then some [] else none
  | c :: d :: cs =>
    if c = quote then some (d :: cs)
    else if c = '\n' then none
    else if c = Char.ofNat 0x5C then afterQuote? quote cs
    else afterQuote? quote (d :: cs)

/-- What follows a quoted text, which may have up to two letters before it. -/
def afterQuoted? (s : List Char) : Option (List Char) :=
  let start := s.takeWhile Char.isAlpha
  let known := ["", "r", "u", "b", "br", "rb"]
  if !known.contains (String.ofList (start.map Char.toLower)) then none
  else match s.drop start.length with
    | '\x27' :: rest => afterQuote? '\x27' rest
    | '\x22' :: rest => afterQuote? '\x22' rest
    | _ => none

/-- What follows quoted texts that stand one behind the other. -/
def afterTexts? : (steps : Nat) → List Char → Option (List Char)
  | 0, _ => none
  | n + 1, s => do
    let rest ← afterQuoted? s
    match afterTexts? n (skipBlanks rest) with
    | some rest => some rest
    | none => some rest

/-- The words that are constants. -/
def constantWords : List String := ["True", "False", "None"]

/-- A constant that is no group, at the start of a text, and the rest. -/
def afterSimple? (s : List Char) : Option (List Char) :=
  let word := s.takeWhile isTokenChar
  if constantWords.contains (String.ofList word) then some (s.drop word.length)
  else if "...".toList.isPrefixOf s then some (s.drop 3)
  else match afterTexts? s.length s with
    | some rest => some rest
    | none => do
      let unsigned := match s with
        | '+' :: s | '-' :: s => skipBlanks s
        | s => s
      let (imaginary, rest) ← readNumber? unsigned
      afterSum? imaginary rest

mutual

/-- A constant at the start of a text: whether it can be a key, and the rest. -/
def readConstant : (steps : Nat) → List Char → Option (Bool × List Char)
  | 0, _ => none
  | n + 1, s =>
    match s with
    | '(' :: rest =>
      match skipBlanks rest with
      | ')' :: rest => some (true, rest)
      | rest => readGroup n ')' rest
    | '\x7b' :: rest =>
      match skipBlanks rest with
      | '\x7d' :: rest => some (false, rest)
      | rest => do
        let (isKey, more) ← readConstant n rest
        if !isKey then none
        else match skipBlanks more with
          | ':' :: _ => (readPairs n rest).map fun rest => (false, rest)
          | _ =>
            let (areKeys, rest) ← readGroup n '\x7d' rest
            if areKeys then some (false, rest) else none
    | s => (afterSimple? s).map fun rest => (true, rest)

/-- Constants with commas between them up to the end of their group: whether all of them can be
keys, and the rest. -/
def readGroup : (steps : Nat) → Char → List Char → Option (Bool × List Char)
  | 0, _, _ => none
  | n + 1, close, s => do
    let (isKey, rest) ← readConstant n s
    match skipBlanks rest with
    | c :: rest =>
      if c = close then some (isKey, rest)
      else if c = ',' then
        match skipBlanks rest with
        | d :: more =>
          if d = close then some (isKey, more)
          else (readGroup n close (d :: more)).map fun r => (isKey && r.1, r.2)
        | [] => none
      else none
    | [] => none

/-- What follows pairs of a key and a constant with commas between them, and their brace. -/
def readPairs : (steps : Nat) → List Char → Option (List Char)
  | 0, _ => none
  | n + 1, s => do
    let (isKey, rest) ← readConstant n s
    match isKey, skipBlanks rest with
    | true, ':' :: rest =>
      let (_, rest) ← readConstant n (skipBlanks rest)
      match skipBlanks rest with
      | '\x7d' :: rest => some rest
      | ',' :: rest =>
        match skipBlanks rest with
        | '\x7d' :: rest => some rest
        | rest => readPairs n rest
      | _ => none
    | _, _ => none

end

/-- Whether a text is a constant, or several with commas between them. -/
def isConstant (s : List Char) : Bool :=
  let grouped := '(' :: s ++ [')']
  match readConstant (grouped.length + 1) grouped with
  | some (_, rest) => rest.isEmpty && !(skipBlanks s).isEmpty
  | none => false

/-- A character of the name of an action. -/
def isActionChar (c : Char) : Bool :=
  isTokenChar c || c == '.' || Text.isCased c

/-- Whether a text is the value of an action: its name, perhaps with what it is given, or a constant
alone. -/
def isActionValue (s : List Char) : Bool :=
  let s := Text.strip s
  let given := s.dropWhile isActionChar
  let isCall := given.head? == some '(' && given.getLast? == some ')' && !given.contains '\n'
  given.isEmpty || isConstant (if isCall then given else s)

end PageMarkup.Terminal
