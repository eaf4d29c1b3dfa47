import PageMarkup.CommandLine.Run
import PageMarkup.Template.Source
import PageMarkup.Terminal.Screen

/-!
# The program

The program looks at the files and folders that its options name, runs the command, and writes and
prints what the command leaves. It does not reach the web, and calls no pictures by name.

## Main definitions

* `main` : the program.
-/

namespace PageMarkup

/-- The contents of a file, if it is there. -/
def readContents (path : String) : IO (Option FileContents) := do
  try
    let bytes ← IO.FS.readBinFile path
    return some (match String.fromUTF8? bytes with
      | some s => .text s
      | none => .undecodable)
  catch _ => return none

/-- Whether a path leads to a folder. -/
def isFolder (path : String) : IO Bool := do
  let here ← IO.currentDir
  (here / path).isDir

/-- The texts that options give for paths. -/
def Options.paths (o : Options) : List String :=
  o.file.toList ++
    ([o.schema, o.config, o.output].map Assigned.text).filter fun s => !s.isEmpty

/-- The files and folders that options name. -/
def lookAround (o : Options) : IO Workspace := do
  let here ← IO.currentDir
  let mut files := []
  let mut folders := []
  for text in o.paths do
    let p := Path.ofText text
    if let some contents ← readContents text then files := files ++ [(p, contents)]
    for q in p :: p.enclosing do
      if ← isFolder q.text then folders := folders ++ [q]
  return .ofFiles (.ofText here.toString) files folders

/-- What the command can see under the given options. -/
def seeSurroundings (o : Options) : IO Surroundings := do
  let files ← lookAround o
  let stdin ← if o.stdin then (← IO.getStdin).readToEnd else pure ""
  return ⟨files, stdin, fun _ => .failed, [], .builtin .reading, .terminal fun _ => none⟩

/-- Writes the output file that options name, if the command has changed it. -/
def writeOutput (o : Options) (before after : Workspace) : IO Unit := do
  let path := Assigned.text o.output
  if let some text := after.text? (.ofText path) then
    if before.text? (.ofText path) != some text then IO.FS.writeFile path text

/-- Empties the output file that options name if the text for it could not be written. -/
def emptyOutput (o : Options) (cause : Fault) : IO Unit := do
  if cause matches .misuse .notEncodable then IO.FS.writeFile (Assigned.text o.output) ""

end PageMarkup

open PageMarkup in
/-- Runs the command with the given words. -/
def main (args : List String) : IO UInt32 := do
  let options : Options := match Options.read args with
    | .ok o => o
    | .error _ => {}
  let env ← seeSurroundings options
  match runCommand args env with
  | .error cause =>
    emptyOutput options cause
    IO.eprintln (failureMessage cause)
    return 1
  | .ok result =>
    writeOutput options env.files result.files
    for text in result.shown do IO.println text
    return result.code.toUInt32
