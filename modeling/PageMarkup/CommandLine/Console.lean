import PageMarkup.Content.Misuse

/-!
# Consoles

What a run shows is a sequence of notices: messages, rows of messages next to each other, and code.
How they look is left to the console. It gives the lines that a notice takes, or refuses a notice
that it cannot read.

## Main definitions

* `Notice` : what is shown.
* `Console` : what a console does.
-/

namespace PageMarkup

/-- Something that is shown. -/
inductive Notice where
  | message (s : String)
  | row (cells : List String)
  | code (s : String)

/-- A console. It announces what is going on, and lays out notices on lines of their own; both may
fail. -/
structure Console where
  announce : String → Except Misuse Unit
  lines : Notice → Except Misuse (List String)

/-- The lines of notices one below the other. -/
def Console.showAll (c : Console) (notices : List Notice) : Except Misuse (List String) :=
  List.flatten <$> notices.mapM c.lines

end PageMarkup
