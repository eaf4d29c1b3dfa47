import PageMarkup.Decimal.Style
import PageMarkup.Identifier.Words
import PageMarkup.Text.Blank
import PageMarkup.Text.Digit

/-!
# Options of the command line

The words of a command line are options, values of options and at most one operand. Long options may
be cut down to any beginning that no other option shares, and take their value from the next word or
from behind an equals sign; short options take it from the next word or from their own. A word that
looks like a negative number is no option, and behind a double hyphen nothing is. A double hyphen
that is attached to an option as its value is taken away again, so that the option is set, but to
nothing. Of the three sources of a document only one may be named. The request for help ends the
reading of the words as soon as it is met.

## Main definitions

* `OptionName`, `Options` : the options by name, and what they are set to.
* `Assigned` : the value of an option, which may have been taken away.
* `Word`, `classify` : the words of a command line.
* `Options.read` : the options that words set.
-/

namespace PageMarkup

/-- The options by name. -/
inductive OptionName where
  | help
  | url
  | stdin
  | schema
  | target
  | output
  | config
  | componentName
  | frameworkImport
  | preserveIds
  | noKeys
  | indent
  | exportDefault
  | jsxOnly
  | listTargets
  | verbose
  | logLevel
  deriving DecidableEq

namespace OptionName

/-- The long spellings of all options, each without its hyphens. -/
def longSpellings : List (String × OptionName) := [
  ("help", .help), ("url", .url), ("stdin", .stdin), ("schema", .schema), ("target", .target),
  ("output", .output), ("config", .config), ("component-name", .componentName),
  ("framework-import", .frameworkImport), ("preserve-ids", .preserveIds), ("no-keys", .noKeys),
  ("indent", .indent), ("export-default", .exportDefault), ("jsx-only", .jsxOnly),
  ("list-targets", .listTargets), ("verbose", .verbose), ("log-level", .logLevel)]

/-- The option of a letter behind one hyphen. -/
def ofLetter? (c : Char) : Option OptionName :=
  if c = 'h' then some .help
  else if c = 's' then some .schema
  else if c = 't' then some .target
  else if c = 'o' then some .output
  else none

/-- Whether an option takes a value. -/
def takesValue : OptionName → Bool
  | .url | .schema | .target | .output | .config | .componentName | .indent | .logLevel => true
  | _ => false

end OptionName

/-- The value that an option is set to: one of its own kind, or nothing in the place of a double
hyphen. -/
inductive Assigned (α : Type) where
  | value (a : α)
  | nothing

/-- The text that an option is set to, and an empty one if there is none. -/
def Assigned.text : Option (Assigned String) → String
  | some (.value s) => s
  | _ => ""

/-- What options are set to; one that was not given has no value. -/
structure Options where
  file : Option String := none
  url : Option (Assigned String) := none
  stdin : Bool := false
  schema : Option (Assigned String) := none
  target : Assigned String := .value "react"
  output : Option (Assigned String) := none
  config : Option (Assigned String) := none
  componentName : Option (Assigned String) := none
  frameworkImport : Bool := false
  preserveIds : Bool := false
  noKeys : Bool := false
  indent : Option (Assigned Int) := none
  exportDefault : Bool := false
  jsxOnly : Bool := false
  listTargets : Bool := false
  verbose : Bool := false
  logLevel : Assigned String := .value "WARNING"

/-- A word: an operand, the double hyphen, an option with a value of its own or without one, a
letter option likewise, or an option that is not known. -/
inductive Word where
  | operand (text : List Char)
  | separator
  | long (name : OptionName) (attached : Option (List Char))
  | letter (name : OptionName) (attached : List Char)
  | unknown

/-- Why words give no options: they are refused, or help is asked for. -/
inductive Usage where
  | refused
  | help
  deriving DecidableEq

/-- A digit of a negative number. -/
def isNumberDigit (c : Char) : Bool :=
  (Text.decimalValue? c).isSome

/-- Whether the text behind a hyphen makes a negative number: digits, or digits with a point before
the last of them. One newline may follow. -/
def isMagnitude (s : List Char) : Bool :=
  let s := if s.getLast? = some '\n' then s.dropLast else s
  let whole := s.takeWhile isNumberDigit
  match s.drop whole.length with
  | [] => !whole.isEmpty
  | c :: rest => c == '.' && !rest.isEmpty && rest.all isNumberDigit

/-- A text cut at its first equals sign, if it has one. -/
def splitAssignment (s : List Char) : List Char × Option (List Char) :=
  let front := s.takeWhile (· != '=')
  if s.contains '=' then (front, some (s.drop (front.length + 1))) else (front, none)

/-- The long options that a beginning stands for: the one it spells out, or all that it begins. -/
def longOptions (start : List Char) : List OptionName :=
  match OptionName.longSpellings.lookup (String.ofList start) with
  | some name => [name]
  | none =>
    (OptionName.longSpellings.filter fun e => start.isPrefixOf e.1.toList).map (·.2)

/-- A word that no option is known for: one with a space is an operand. -/
def unknownWord (text : List Char) : Word :=
  if text.contains ' ' then .operand text else .unknown

/-- What a word is; the beginning of several options is refused. -/
def classify (text : List Char) : Except Usage Word :=
  match text with
  | ['-', '-'] => .ok .separator
  | '-' :: '-' :: rest =>
    let (start, attached) := splitAssignment rest
    match longOptions start with
    | [] => .ok (unknownWord text)
    | [name] => .ok (.long name attached)
    | _ => .error .refused
  | '-' :: c :: rest =>
    match OptionName.ofLetter? c with
    | some name => .ok (.letter name rest)
    | none => .ok (if isMagnitude (c :: rest) then .operand text else unknownWord text)
  | _ => .ok (.operand text)

/-- What the words are, up to and behind the first double hyphen. -/
def classifyAll : List (List Char) → Except Usage (List Word)
  | [] => .ok []
  | text :: texts => do
    match ← classify text with
    | .separator => return .separator :: texts.map .operand
    | word => return word :: (← classifyAll texts)

/-- The digits of a number in which single underscores may stand between digits. -/
def groupedDigits? : List Char → Option (List Nat)
  | [] => none
  | [c] => (Text.decimalValue? c).map fun d => [d]
  | c :: '_' :: cs => do return (← Text.decimalValue? c) :: (← groupedDigits? cs)
  | c :: cs => do return (← Text.decimalValue? c) :: (← groupedDigits? cs)

/-- The number of a text of grouped digits, of which there may only be so many. -/
def groupedValue? (s : List Char) : Option Nat := do
  let ds ← groupedDigits? s
  if Decimal.maxDigits < ds.length then none else some (ds.foldl (fun n d => n * 10 + d) 0)

/-- The integer that a text stands for: digits of any script behind an optional sign, with blanks
around them. -/
def readInteger? (text : List Char) : Option Int :=
  match Text.strip text with
  | '-' :: s => (groupedValue? s).map fun n => -(n : Int)
  | '+' :: s => (groupedValue? s).map Int.ofNat
  | s => (groupedValue? s).map Int.ofNat

/-- The levels that messages of a run can be asked for. -/
def logLevels : List String := ["DEBUG", "INFO", "WARNING", "ERROR"]

namespace Options

/-- Whether a source of the document other than the given one is named. -/
def namesOther (o : Options) (url stdin : Bool) : Bool :=
  (url && (o.file.isSome || o.stdin)) || (stdin && (o.file.isSome || o.url.isSome))

/-- Sets an option that takes a text. -/
def setText (o : Options) (name : OptionName) (s : Assigned String) : Except Usage Options :=
  match name with
  | .url => if o.namesOther true false then .error .refused else .ok { o with url := some s }
  | .schema => .ok { o with schema := some s }
  | .target => .ok { o with target := s }
  | .output => .ok { o with output := some s }
  | .config => .ok { o with config := some s }
  | .componentName => .ok { o with componentName := some s }
  | .logLevel => .ok { o with logLevel := s }
  | _ => .error .refused

/-- Sets an option that takes a value. -/
def setValue (o : Options) (name : OptionName) (text : List Char) : Except Usage Options :=
  let s := String.ofList text
  match name with
  | .indent =>
    match readInteger? text with
    | some n => .ok { o with indent := some (.value n) }
    | none => .error .refused
  | .logLevel => if logLevels.contains s then o.setText name (.value s) else .error .refused
  | _ => o.setText name (.value s)

/-- Sets an option that takes a value to the text attached to it. -/
def setAttached (o : Options) (name : OptionName) (text : List Char) : Except Usage Options :=
  if text = ['-', '-'] then
    match name with
    | .indent => .ok { o with indent := some .nothing }
    | _ => o.setText name .nothing
  else o.setValue name text

/-- Sets an option that takes no value. -/
def setFlag (o : Options) (name : OptionName) : Except Usage Options :=
  match name with
  | .help => .error .help
  | .stdin => if o.namesOther false true then .error .refused else .ok { o with stdin := true }
  | .frameworkImport => .ok { o with frameworkImport := true }
  | .preserveIds => .ok { o with preserveIds := true }
  | .noKeys => .ok { o with noKeys := true }
  | .exportDefault => .ok { o with exportDefault := true }
  | .jsxOnly => .ok { o with jsxOnly := true }
  | .listTargets => .ok { o with listTargets := true }
  | .verbose => .ok { o with verbose := true }
  | _ => .error .refused

def setFile (o : Options) (text : List Char) : Except Usage Options :=
  if o.url.isSome || o.stdin then .error .refused
  else .ok { o with file := some (String.ofList text) }

/-- What further letters in the word of a request for help mean. One that is no option is refused;
the first other letter than that for help ends the word, and if it is the last, it needs the next
word for its value. -/
def afterHelpLetter (more : List Char) (next : List Word) : Usage :=
  match more with
  | [] => .help
  | c :: cs =>
    match OptionName.ofLetter? c, cs, next with
    | none, _, _ => .refused
    | some .help, cs, next => afterHelpLetter cs next
    | some _, [], .operand _ :: _ => .help
    | some _, [], _ => .refused
    | some _, _ :: _, _ => .help

/-- What a request for help by its letter means with what is attached to it, which may stand behind
an equals sign. -/
def helpLetter (attached : List Char) (next : List Word) : Usage :=
  match attached with
  | ['='] => .refused
  | '=' :: more => afterHelpLetter more next
  | more => afterHelpLetter more next

/-- Reads words one after the other. `taken` tells whether there was an operand already, and `left`
whether a word has been left over. -/
def readWords (o : Options) (taken left : Bool) : List Word → Except Usage Options
  | [] => if left then .error .refused else .ok o
  | .unknown :: ws => readWords o taken true ws
  | .operand text :: .separator :: ws => do
    if taken then readWords o taken true ws else readWords (← o.setFile text) true left ws
  | .operand text :: ws => do
    if taken then readWords o taken true ws else readWords (← o.setFile text) true left ws
  | .separator :: ws => readWords o taken (left || taken) ws
  | .long name (some text) :: ws => do
    if name.takesValue then readWords (← o.setAttached name text) taken left ws
    else .error .refused
  | .long name none :: ws =>
    if name.takesValue then
      match ws with
      | .operand text :: ws => do readWords (← o.setValue name text) taken left ws
      | _ => .error .refused
    else do readWords (← o.setFlag name) taken left ws
  | .letter .help more :: ws => .error (helpLetter more ws)
  | .letter name [] :: ws =>
    match ws with
    | .operand text :: ws => do readWords (← o.setValue name text) taken left ws
    | _ => .error .refused
  | .letter name ('=' :: text) :: ws => do readWords (← o.setAttached name text) taken left ws
  | .letter name text :: ws => do readWords (← o.setAttached name text) taken left ws

/-- The options that the words of a command line set. -/
def read (args : List String) : Except Usage Options := do
  readWords {} false false (← classifyAll (args.map String.toList))

end Options

end PageMarkup
