import PageMarkup.Files.Path
import PageMarkup.Json.Reader
import PageMarkup.Text.Encoding

/-!
# Workspaces

A workspace is what is known of the files around: files, whose bytes are a text or cannot be read as
one, and folders. Paths without a root start in the current folder. A path is followed part by part:
every part before the last one has to be a folder, and two dots lead back to the folder around,
which for the root is the root itself. Paths, and the parts of a path that are looked for in a
folder, can only be so long; a path with a null character in it leads nowhere and cannot be written
to. A file that is to be written is emptied first, and it stays empty if the encoding of files does
not have the text.

## Main definitions

* `Workspace` : the files and folders.
* `Workspace.locate` : what a path leads to.
* `Workspace.read`, `Workspace.write` : the contents of a file.
-/

namespace PageMarkup

/-- The contents of a file: a text, or bytes that are none. -/
inductive FileContents where
  | text (s : String)
  | undecodable

/-- The current folder, the files and folders that are known, each under its path from the root, and
the encoding in which files are written. -/
structure Workspace where
  current : Path
  files : List (Path × FileContents)
  folders : List Path
  encoding : Text.Encoding

/-- What a path leads to, unless it is too long to be followed. -/
inductive Location where
  | folder (p : Path)
  | file (p : Path) (contents : FileContents)
  | nowhere
  | overlong

/-- The contents of what is a file. -/
def Location.contents? : Location → Option FileContents
  | .file _ contents => some contents
  | _ => none


/-- Why a file is not written: there is no place for it, its path cannot be that of a file, or its
encoding does not have the text, and it has been emptied by then. -/
inductive WriteRefusal where
  | refused
  | nullInPath
  | cutShort (left : Workspace)

/-- The files that are left where a file is not written. -/
def WriteRefusal.left (w : Workspace) : WriteRefusal → Workspace
  | .cutShort left => left
  | _ => w

/-- The most bytes that a part of a path may have. -/
def maxPartBytes : Nat := 255

/-- The most bytes that a path may have. -/
def maxPathBytes : Nat := 4095

namespace Workspace

/-- The workspace of the given files and folders, seen from the current folder. Files lie in
folders, which are known with them. -/
def ofFiles (current : Path) (files : List (Path × FileContents)) (folders : List Path) :
    Workspace :=
  let full := fun p : Path => (current.under p).resolved
  let known := current :: folders.map full
  { current := current
    files := files.map fun e => (full e.1, e.2)
    folders := known ++ known.flatMap Path.enclosing ++
      files.flatMap fun e => (full e.1).enclosing
    encoding := .unicode }

/-- The workspace without files. -/
def empty : Workspace := ofFiles .top [] []

/-- What a part leads to from where the parts before it have led. -/
def enter (w : Workspace) (here : Location) (part : List Char) : Location :=
  match here with
  | .folder p =>
    if part = ['.', '.'] then .folder p.parent
    else if maxPartBytes < (String.ofList part).utf8ByteSize then .overlong
    else
      let full : Path := { p with parts := p.parts ++ [part] }
      match w.files.find? fun e => e.1 = full with
      | some e => .file full e.2
      | none => if w.folders.contains full then .folder full else .nowhere
  | .overlong => .overlong
  | _ => .nowhere

/-- What a path leads to. -/
def locate (w : Workspace) (p : Path) : Location :=
  if p.holdsNull then .nowhere
  else if maxPathBytes < p.text.utf8ByteSize then .overlong
  else (w.current.under p).parts.foldl w.enter (.folder .top)

/-- The contents of the file that a path leads to, if it leads to one. -/
def read (w : Workspace) (p : Path) : Except Misuse (Option FileContents) :=
  match w.locate p with
  | .overlong => .error .pathTooLong
  | place => .ok place.contents?

/-- The text of the file that a path leads to. -/
def text? (w : Workspace) (p : Path) : Option String :=
  match (w.locate p).contents? with
  | some (.text s) => some s
  | _ => none

/-- Puts a text into a file: its folder has to be there, and the path must not lead to a folder. -/
def put (w : Workspace) (p : Path) (text : String) : Except WriteRefusal Workspace :=
  if p.holdsNull then .error .nullInPath
  else match w.locate p with
    | .file full _ =>
      .ok { w with files := w.files.map fun e => if e.1 = full then (full, .text text) else e }
    | .nowhere =>
      match w.locate p.parent, p.parts.getLast? with
      | .folder q, some name =>
        .ok { w with files := w.files ++ [({ q with parts := q.parts ++ [name] }, .text text)] }
      | _, _ => .error .refused
    | .folder _ | .overlong => .error .refused

/-- Writes a text to a file, which is empty by then. -/
def write (w : Workspace) (p : Path) (text : String) : Except WriteRefusal Workspace := do
  let emptied ← w.put p ""
  if w.encoding.encodes text.toList then w.put p text
  else throw (.cutShort emptied)

end Workspace

end PageMarkup
