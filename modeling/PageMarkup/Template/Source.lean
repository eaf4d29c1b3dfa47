import PageMarkup.Template.Basic

/-!
# Reading templates

An engine that reads the sources of templates: text, places and statements. A place holds a name, a
number, or a text in double quotes without bars and braces in it, and any number of filters behind
bars, each with what it is given. A statement begins or ends parts that depend on a name. One
newline at the end of a source is dropped, and all line breaks count as newlines. A source in which
something is not closed, or anything else stands in a place or statement, is refused.

## Main definitions

* `Template.ofSource?` : the template of a source.
* `TemplateEngine.reading` : the engine that reads sources.
-/

namespace PageMarkup

/-- A text with a newline for every line break. -/
def unifyNewlines : List Char → List Char
  | [] => []
  | '\r' :: '\n' :: cs => '\n' :: unifyNewlines cs
  | c :: cs => (if c = '\r' then '\n' else c) :: unifyNewlines cs

/-- A text without one newline at its end. -/
def dropLastNewline (s : List Char) : List Char :=
  if s.getLast? = some '\n' then s.dropLast else s

/-- Whether the character behind a brace makes it the opening of a place, statement or remark. -/
def opensTag (c : Char) : Bool :=
  c == '\x7b' || c == '%' || c == '#'

/-- The text before the first opening, and the rest from there on. -/
def spanPlain : List Char → List Char × List Char
  | [] => ([], [])
  | c :: cs =>
    if c = '\x7b' && cs.head?.any opensTag then ([], c :: cs)
    else
      let r := spanPlain cs
      (c :: r.1, r.2)

/-- What stands before a closing brace with a character in front of it, and the rest behind. -/
def spanTag (before : Char) : List Char → Option (List Char × List Char)
  | [] => none
  | [_] => none
  | c :: d :: cs =>
    if c = before ∧ d = '\x7d' then some ([], cs)
    else (spanTag before (d :: cs)).map fun r => (c :: r.1, r.2)

/-- A text cut at every occurrence of a character. -/
def splitAll (mark : Char) : List Char → List (List Char)
  | [] => [[]]
  | c :: cs =>
    if c = mark then [] :: splitAll mark cs
    else
      match splitAll mark cs with
      | [] => [[c]]
      | p :: ps => (c :: p) :: ps

/-- A character of a name in a place. -/
def isPlaceNameChar (c : Char) : Bool :=
  Identifier.isCapital c || Identifier.isSmall c || Identifier.isDecimal c || c == '_' ||
    0x80 ≤ c.toNat

/-- The operand that a text without blanks around it stands for. -/
def operand? (s : List Char) : Option Operand :=
  match s with
  | [] => none
  | '-' :: ds =>
    if ds.all Identifier.isDecimal && !ds.isEmpty then some (.number (-Decimal.digitsValue ds))
    else none
  | c :: cs =>
    if c = Text.quoteMark then
      let inner := cs.dropLast
      let isPlain := inner.all fun d => d != c && d != Text.escapeMark
      if cs.getLast? = some c && isPlain then some (.text (String.ofList inner))
      else none
    else if Identifier.isDecimal c then
      if cs.all Identifier.isDecimal then some (.number (Decimal.digitsValue (c :: cs))) else none
    else if (c :: cs).all isPlaceNameChar then some (.name (String.ofList (c :: cs)))
    else none

/-- The use of a filter of a setup, as it is written behind a bar. -/
def filterCall? (setup : TemplateSetup) (s : List Char) : Option FilterCall :=
  let letters := s.takeWhile isPlaceNameChar
  let name := String.ofList letters
  let rest := Text.strip (s.drop letters.length)
  if (setup.filters.lookup name).isNone then none
  else match rest with
    | [] => some ⟨name, []⟩
    | c :: cs =>
      if c = '(' && cs.getLast? = some ')' then
        match Text.strip cs.dropLast with
        | [] => some ⟨name, []⟩
        | inner => do return ⟨name, ← (splitAll ',' inner).mapM fun s => operand? (Text.strip s)⟩
      else none

/-- The part of a template for what stands in a place. -/
def place? (setup : TemplateSetup) (s : List Char) : Option TemplatePart :=
  match (splitAll '|' s).map Text.strip with
  | [] => none
  | first :: filters => do return .shown (← operand? first) (← filters.mapM (filterCall? setup))

/-- The part of a template for some text, unless it is empty. -/
def textPart (s : List Char) : Template :=
  if s.isEmpty then [] else [.text s]

/-- The text before a statement without the blanks that its last line consists of, if this line
begins in it or `atStart` of it. -/
def beforeStatement (atStart : Bool) (s : List Char) : List Char :=
  let last := s.reverse.takeWhile (· != '\n')
  if last.all Text.isBlank && (atStart || s.contains '\n') then s.take (s.length - last.length)
  else s

/-- The parts of a source, looked for in at most `steps` places and statements, up to its end or to
the end of the statement that they are `inside` of, and the rest of the source. -/
def templateParts? (setup : TemplateSetup) : (steps : Nat) → (inside atStart : Bool) →
    List Char → Option (Template × List Char)
  | 0, _, _, _ => none
  | n + 1, inside, atStart, s =>
    match spanPlain s with
    | (plain, []) => if inside then none else some (textPart plain, [])
    | (plain, '\x7b' :: '\x7b' :: rest) => do
      let (inner, rest) ← spanTag '\x7d' rest
      let part ← place? setup inner
      let (parts, rest) ← templateParts? setup n inside false rest
      return (textPart plain ++ part :: parts, rest)
    | (plain, '\x7b' :: '%' :: rest) => do
      let (inner, rest) ← spanTag '%' rest
      let before := if setup.trimsStatements then beforeStatement atStart plain else plain
      match (splitAll ' ' (Text.strip inner)).map String.ofList with
      | ["endif"] => if inside then some (textPart before, rest) else none
      | ["if", name] => do
        let (body, rest) ← templateParts? setup n true false rest
        let (parts, rest) ← templateParts? setup n inside false rest
        return (textPart before ++ .when name body :: parts, rest)
      | _ => none
    | _ => none

/-- The template of a source. -/
def Template.ofSource? (setup : TemplateSetup) (source : String) : Option Template :=
  let s := dropLastNewline (unifyNewlines source.toList)
  (templateParts? setup (s.length + 1) false true s).map (·.1)

/-- The engine that reads sources. -/
def TemplateEngine.reading : TemplateEngine where
  fill setup name source context :=
    match Template.ofSource? setup source with
    | some template => String.ofList <$> Template.fill setup (setup.escapes name) context template
    | none => .error .refused

end PageMarkup
