import PageMarkup.Decimal.Shortest

/-!
# Written decimals

How a double is written: the digits are the shortest ones, and a style decides where positional
notation ends, how the exponent looks and which words stand for the values without digits. Reading
takes a sign, digits with an optional point, and an optional exponent.

## Main definitions

* `DecimalStyle` : the decisions of a written form.
* `DecimalStyle.write` : the text of a double.
* `read?` : the double of a text.
-/

namespace PageMarkup.Decimal

/-- The decisions of a written form: positional notation is used for numbers from
`10 ^ leastPositional` up to, but not including, `10 ^ firstScientific`, and an exponent has at
least `exponentWidth` digits. -/
structure DecimalStyle where
  leastPositional : Int
  firstScientific : Int
  exponentWidth : Nat
  nanText : String
  infinityText : String

/-- The decimal digits of a natural number. -/
def natDigits (n : Nat) : List Char :=
  Nat.toDigits 10 n

def intText (n : Int) : String :=
  String.ofList (if n < 0 then '-' :: natDigits n.natAbs else natDigits n.natAbs)

/-- Digits with a point after the first `point` of them; zeros fill the places that have no digit,
and a number without a fraction ends in a point and a zero. -/
def positional (digits : List Char) (point : Int) : List Char :=
  if point ≤ 0 then '0' :: '.' :: List.replicate (-point).toNat '0' ++ digits
  else
    let whole := digits.take point.toNat
    let fraction := digits.drop point.toNat
    whole ++ List.replicate (point.toNat - digits.length) '0' ++
      '.' :: (if fraction.isEmpty then ['0'] else fraction)

/-- The first digit, the others behind a point where there are any, and the exponent with its
sign. -/
def scientific (style : DecimalStyle) (digits : List Char) (exponent : Int) : List Char :=
  let head := digits.take 1
  let tail := digits.drop 1
  let power := natDigits exponent.natAbs
  head ++ (if tail.isEmpty then [] else '.' :: tail) ++
    ['e', if exponent < 0 then '-' else '+'] ++
    List.replicate (style.exponentWidth - power.length) '0' ++ power

namespace DecimalStyle

/-- The text of a positive number `m · 2 ^ q`. -/
def writePositive (style : DecimalStyle) (m : Nat) (q : Int) : List Char :=
  let d := shortest m q
  let digits := natDigits d.1
  let point := digits.length + d.2
  if style.leastPositional ≤ point - 1 ∧ point - 1 < style.firstScientific then
    positional digits point
  else scientific style digits (point - 1)

def writeBinary (style : DecimalStyle) : Binary → List Char
  | .nan => style.nanText.toList
  | .infinite negative => (if negative then ['-'] else []) ++ style.infinityText.toList
  | .finite negative m q =>
    (if negative then ['-'] else []) ++
      if m = 0 then positional ['0'] 1 else writePositive style m q

/-- The text of a double. -/
def write (style : DecimalStyle) (x : Float) : String :=
  String.ofList (style.writeBinary (.ofFloat x))

end DecimalStyle

/-- The natural number of a text of decimal digits. -/
def digitsValue (ds : List Char) : Nat :=
  ds.foldl (fun n c => n * 10 + (c.toNat - 0x30)) 0

/-- The most digits that an integer may have in a text. -/
def maxDigits : Nat := 4300

/-- Whether an integer has no more digits than may stand in a text. -/
def isShowable (n : Int) : Bool :=
  (natDigits n.natAbs).length ≤ maxDigits

/-- The digits at the start of a text, and the rest. -/
def spanDigits (s : List Char) : List Char × List Char :=
  (s.takeWhile Char.isDigit, s.dropWhile Char.isDigit)

/-- A sign at the start of a text, and the rest. -/
def readSign : List Char → Bool × List Char
  | '-' :: rest => (true, rest)
  | '+' :: rest => (false, rest)
  | s => (false, s)

/-- The exponent at the start of a text, with the rest; a text that does not start with a complete
exponent has none. -/
def readExponent (s : List Char) : Option (Int × List Char) :=
  match s with
  | c :: rest =>
    if c = 'e' ∨ c = 'E' then
      let (negative, rest) := readSign rest
      match spanDigits rest with
      | ([], _) => none
      | (ds, rest) => some (Binary.signed negative (digitsValue ds), rest)
    else none
  | [] => none

/-- The digits behind a point at the start of a text, with the rest. -/
def readFraction (s : List Char) : Option (List Char × List Char) :=
  match s with
  | '.' :: rest =>
    match spanDigits rest with
    | ([], _) => none
    | r => some r
  | _ => none

/-- The double of a text that is one decimal number: digits before the point, after it or both,
and an optional exponent. -/
def read? (text : List Char) : Option Float :=
  let (negative, s) := readSign text
  let (whole, s) := spanDigits s
  let (fraction, s) := match s with
    | '.' :: rest => spanDigits rest
    | _ => ([], s)
  if whole.isEmpty && fraction.isEmpty then none
  else
    let value (e : Int) :=
      ofDecimal negative (digitsValue (whole ++ fraction)) (e - fraction.length)
    match s, readExponent s with
    | [], _ => some (value 0)
    | _, some (e, []) => some (value e)
    | _, _ => none

end PageMarkup.Decimal
