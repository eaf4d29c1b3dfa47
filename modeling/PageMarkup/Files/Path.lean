import PageMarkup.Text.LetterCase

/-!
# Paths

A path is a sequence of parts, perhaps behind a root. Parts of one dot and doubled slashes mean
nothing and are dropped, a part of two dots is kept, and a path without parts is written as a dot.
Two slashes at the start of a path are a root of their own; three and more are the same as one.

## Main definitions

* `Path`, `Path.ofText`, `Path.text` : paths, and how they are read and written.
* `Path.hasSuffix` : whether the name of a file has a suffix.
* `Path.under`, `Path.resolved`, `Path.enclosing` : paths seen from a folder, without double dots,
  and the folders they lie in.
-/

namespace PageMarkup

/-- The root of a path and its parts in order. -/
structure Path where
  root : List Char
  parts : List (List Char)
  deriving DecidableEq

namespace Path

/-- A text cut at every slash. -/
def splitSlashes : List Char → List (List Char)
  | [] => [[]]
  | c :: cs =>
    if c = '/' then [] :: splitSlashes cs
    else
      match splitSlashes cs with
      | [] => [[c]]
      | p :: ps => (c :: p) :: ps

/-- The root of a path that starts with so many slashes. -/
def rootOf (slashes : Nat) : List Char :=
  if slashes = 0 then [] else if slashes = 2 then ['/', '/'] else ['/']

/-- Whether a part means something. -/
def isProper (part : List Char) : Bool :=
  !part.isEmpty && part != ['.']

/-- The path of a text. -/
def ofText (text : String) : Path where
  root := rootOf (text.toList.takeWhile (· == '/')).length
  parts := (splitSlashes text.toList).filter isProper

def joinParts : List (List Char) → List Char
  | [] => []
  | [p] => p
  | p :: q :: ps => p ++ '/' :: joinParts (q :: ps)

/-- The text of a path. -/
def text (p : Path) : String :=
  String.ofList <|
    if p.root.isEmpty && p.parts.isEmpty then ['.'] else p.root ++ joinParts p.parts

/-- The suffix of a name: from its last dot on, unless this is the first or the last character. -/
def suffixOf (name : List Char) : List Char :=
  let tail := (name.reverse.takeWhile (· != '.')).reverse
  if tail.isEmpty || name.length ≤ tail.length + 1 then [] else '.' :: tail

/-- Whether the last part of a path has a suffix, in capitals or small letters. -/
def hasSuffix (p : Path) (suffix : String) : Bool :=
  Text.lower (suffixOf (p.parts.getLast?.getD [])) == suffix.toList

/-- The folder that a path lies in. -/
def parent (p : Path) : Path :=
  { p with parts := p.parts.dropLast }

/-- A path seen from a folder: one with a root stays as it is. -/
def under (folder p : Path) : Path :=
  if p.root.isEmpty then ⟨folder.root, folder.parts ++ p.parts⟩ else p

/-- A path in which every part of two dots has taken away the part before it. -/
def resolved (p : Path) : Path :=
  { p with
    parts := p.parts.foldl
      (fun parts part => if part = ['.', '.'] then parts.dropLast else parts ++ [part]) [] }

/-- The folders that a path lies in, from the root on. -/
def enclosing (p : Path) : List Path :=
  (List.range p.parts.length).map fun n => { p with parts := p.parts.take n }

/-- Whether a null character stands in a path. -/
def holdsNull (p : Path) : Bool :=
  p.parts.any fun part => part.any fun c => c.toNat == 0

def top : Path := ⟨['/'], []⟩

end Path

end PageMarkup
