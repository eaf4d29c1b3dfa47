import PageMarkup.CommandLine.Console
import PageMarkup.Terminal.Layout

/-!
# Terminals

A terminal is a console that reads messages in their notation and breaks them into lines as wide as
it is. Which pictures can be called by name is given with it.

## Main definitions

* `Console.terminal` : the console.
* `Terminal.screenText` : what can be seen of its lines.
-/

namespace PageMarkup

namespace Terminal

variable (pictures : Pictures)

/-- The lines that a notice takes. -/
def noticeLines : Notice → Except Misuse (List (List Char))
  | .message s => (readMessage pictures s).map messageLines
  | .row cells => do
    let texts ← cells.mapM (readMessage pictures)
    return [List.intercalate [' ', ' '] texts]
  | .code s => .ok (codeLines s)

/-- What can be seen of lines: blanks at line ends are not seen, nor are empty lines at the start
and at the end. -/
def screenText (lines : List String) : String :=
  let lines := (lines.map fun s => Text.stripEnd s.toList).dropWhile List.isEmpty
  String.ofList (Text.joinLines (lines.reverse.dropWhile List.isEmpty).reverse)

end Terminal

/-- The console that a terminal is. -/
def Console.terminal (pictures : Terminal.Pictures) : Console where
  announce s := discard (Terminal.readMessage pictures s)
  lines n := List.map String.ofList <$> Terminal.noticeLines pictures n

end PageMarkup
