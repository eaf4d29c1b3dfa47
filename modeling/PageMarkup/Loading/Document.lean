import PageMarkup.Files.Workspace
import PageMarkup.Loading.Address

/-!
# Loading documents

A document is loaded from a file or fetched from a web address, from exactly one of the two. Both
hold a text in JSON.

## Main definitions

* `Fetched` : what comes of fetching from an address.
* `loadFile`, `loadAddress`, `loadDocument` : the source of a document and its value.
-/

namespace PageMarkup

/-- What comes of fetching from an address: an answer with a status, no answer in time, a refusal
that names no status, or another failure. -/
inductive Fetched where
  | answer (status : Int) (body : String)
  | timeout
  | refused
  | failed

/-- Whether a status reports an error. -/
def isErrorStatus (status : Int) : Bool :=
  400 ≤ status && status ≤ 599

/-- A loaded document: the source as it is named in messages, and the value. -/
structure Loaded where
  source : String
  value : Value

/-- The document in a file. -/
def loadFile (w : Workspace) (p : Path) : Except Fault Loaded :=
  match w.read p with
  | .error how => misused how
  | .ok none => .error (.loading (.fileNotFound p.text))
  | .ok (some .undecodable) => misused .malformedText
  | .ok (some (.text s)) =>
    match Json.read s.toList with
    | .ok v => .ok ⟨p.text, v⟩
    | .error .malformed => .error (.loading (.invalidJson p.text))
    | .error .tooManyDigits => misused .tooManyDigits

/-- The document at an address. -/
def loadAddress (fetch : String → Fetched) (url : String) : Except Fault Loaded := do
  let address ← liftMisuse (Address.split url)
  if !address.isFetchable then throw (.loading (.invalidUrl url))
  match fetch url with
  | .timeout => throw (.loading (.timeout url))
  | .refused => throw (Fault.misuse .noEntries)
  | .failed => throw (.loading (.requestFailed url))
  | .answer status body =>
    if isErrorStatus status then throw (.loading (.httpStatus status url))
    match Json.read body.toList with
    | .ok v => return ⟨url, v⟩
    | .error _ => throw (.loading (.invalidResponse url))

/-- The document of exactly one source; an empty name is none. -/
def loadDocument (w : Workspace) (fetch : String → Fetched) (file url : String) :
    Except Fault Loaded :=
  if file.isEmpty == url.isEmpty then .error (.loading .notOneSource)
  else if url.isEmpty then loadFile w (.ofText file)
  else loadAddress fetch url

end PageMarkup
