import PageMarkup.Content.Display
import PageMarkup.Content.Misuse

/-!
# Faults

Every way in which a step can fail is a value of `Fault`: one constructor per family of causes, and
within a family one constructor per cause, with what its message has to name. The wording of all
messages stands here. Where a message ends with the words of another program (a reader, the file
system, the network), only the part before them is given.

## Main definitions

* `Fault` : all causes.
* `Fault.message?` : the message, for every fault but a plain misuse.
-/

namespace PageMarkup

/-- What can be wrong with a component schema. -/
inductive SchemaFault where
  | fieldNotMap (name : Value) (kind : String)
  | fieldsNotMap
  | importWithoutPath (given : String)
  | componentNotMap (type : Value)
  | hookNotCallable (type : Value)
  | schemaNotMap
  | componentsNotMap

/-- What keeps a content tree from becoming code. -/
inductive ContentFault where
  | contentNotList
  | unsupportedContent (kind : String)
  | tooDeep (limit : Value)
  | invalidNode (node : Value)
  | defaultWithoutName (path : Value)
  | namedWithoutName (path : Value)

/-- Two requests for one import path that cannot both be met. -/
inductive ImportConflict where
  | defaults (path first second : Value)
  | aliases (name path first second : Value)

/-- What can be wrong with a settings file. -/
inductive SettingsFault where
  | fileNotFound (path : String)
  | fileNotJson (path : String)
  | invalidJson (path : String)
  | unreadable (path : String)
  | notObject (path : String)
  | unsaved (path : String)

/-- What can go wrong with targets. -/
inductive TargetFault where
  | unsupportedSettings (kind : String)
  | notGenerator
  | aliasTaken (name owner : String)
  | unknownTarget (name : String) (available : List String)
  | notCreated (name cause : String)

/-- What can go wrong while documents and schemas are loaded. -/
inductive LoadFault where
  | invalidJson (source : String)
  | fileNotFound (source : String)
  | unreadable (source : String)
  | invalidUrl (url : String)
  | timeout (url : String)
  | httpStatus (status : Int) (url : String)
  | requestFailed (url : String)
  | invalidResponse (url : String)
  | notOneSource
  | notReference (text : String)
  | importFailed (moduleName : String)
  | noAttribute (moduleName member : String)

/-- A cause of failure. -/
inductive Fault where
  | misuse (how : Misuse)
  | schema (cause : SchemaFault)
  | content (cause : ContentFault)
  | unknownType (type : Value)
  | importConflict (cause : ImportConflict)
  | settings (cause : SettingsFault)
  | target (cause : TargetFault)
  | loading (cause : LoadFault)
  | template (name : String)
  | hook (text : String)

/-- The text of a value between apostrophes. -/
def quotedText (v : Value) : String :=
  "'" ++ v.text ++ "'"

/-- The wording of schema faults. -/
def SchemaFault.message : SchemaFault → String
  | .fieldNotMap name kind => "Field " ++ quotedText name ++ " must be an object, got " ++ kind
  | .fieldsNotMap => "Fields must be an object mapping names to definitions"
  | .importWithoutPath given => "Import must be an object with a 'path': " ++ given
  | .componentNotMap type => "Component " ++ quotedText type ++ " must be an object"
  | .hookNotCallable type => "Props transform for " ++ quotedText type ++ " must be callable"
  | .schemaNotMap => "Schema must be an object mapping component types to configs"
  | .componentsNotMap => "Schema 'components' must be an object"

/-- The wording of content faults. -/
def ContentFault.message : ContentFault → String
  | .contentNotList => "Data 'content' must be a list of content nodes"
  | .unsupportedContent kind => "Unsupported content data: " ++ kind
  | .tooDeep limit => "Content tree exceeds the maximum depth of " ++ limit.text
  | .invalidNode node => "Invalid content node: " ++ node.inspect
  | .defaultWithoutName path => "Default import from " ++ quotedText path ++ " has no local name"
  | .namedWithoutName path => "Named import from " ++ quotedText path ++ " has no exported name"

/-- The wording of import conflicts. -/
def ImportConflict.message : ImportConflict → String
  | .defaults path first second =>
    "Multiple default imports declared for " ++ quotedText path ++ ": " ++ quotedText first ++
      " and " ++ quotedText second
  | .aliases name path first second =>
    "Conflicting aliases declared for " ++ quotedText name ++ " from " ++ quotedText path ++ ": " ++
      first.inspect ++ " and " ++ second.inspect

/-- The wording of settings faults. -/
def SettingsFault.message : SettingsFault → String
  | .fileNotFound path => "Configuration file not found: " ++ path
  | .fileNotJson path => "Configuration file must be JSON: " ++ path
  | .invalidJson path => "Invalid JSON in configuration file " ++ path ++ ": "
  | .unreadable path => "Failed to load configuration file " ++ path ++ ": "
  | .notObject path => "Configuration file must contain a JSON object: " ++ path
  | .unsaved path => "Failed to save configuration to " ++ path ++ ": "

/-- The wording of target faults. -/
def TargetFault.message : TargetFault → String
  | .unsupportedSettings kind => "Unsupported config type: " ++ kind
  | .notGenerator => "Generator class must inherit from CodeGenerator"
  | .aliasTaken name owner => "Alias '" ++ name ++ "' is already used by target '" ++ owner ++ "'"
  | .unknownTarget name available =>
    "No generator registered for target: " ++ name ++ ". Available: " ++ commaSeparated available
  | .notCreated name cause => "Failed to create " ++ name ++ " generator: " ++ cause

/-- The wording of load faults. -/
def LoadFault.message : LoadFault → String
  | .invalidJson source => "Invalid JSON from " ++ source ++ ": "
  | .fileNotFound source => "File not found: " ++ source
  | .unreadable source => "Error reading file " ++ source ++ ": "
  | .invalidUrl url => "Invalid URL: " ++ url
  | .timeout url => "Request timeout for URL: " ++ url
  | .httpStatus status url =>
    "HTTP error " ++ Decimal.intText status ++ " for URL: " ++ url
  | .requestFailed url => "Request error for URL " ++ url ++ ": "
  | .invalidResponse url => "Invalid JSON response from URL " ++ url ++ ": "
  | .notOneSource => "Provide exactly one of file_path or url"
  | .notReference text => "Schema must be a JSON file or a 'module:attribute' reference: " ++ text
  | .importFailed name => "Cannot import schema module '" ++ name ++ "': "
  | .noAttribute name member => "Module '" ++ name ++ "' has no attribute '" ++ member ++ "'"

/-- The message of a fault; a plain misuse has none. -/
def Fault.message? : Fault → Option String
  | .misuse _ => none
  | .schema cause => some cause.message
  | .content cause => some cause.message
  | .unknownType type => some ("No component config found for " ++ quotedText type)
  | .importConflict cause => some cause.message
  | .settings cause => some cause.message
  | .target cause => some cause.message
  | .loading cause => some cause.message
  | .template name => some ("Failed to render template " ++ name ++ ": ")
  | .hook text => some text

/-- The message of a fault, or nothing where it has none. -/
def Fault.text (f : Fault) : String :=
  f.message?.getD ""

/-- A misuse as a fault of a computation. -/
def misused {α : Type} (how : Misuse) : Except Fault α :=
  .error (Fault.misuse how)

/-- A computation that can only be misused, as one with any fault. -/
def liftMisuse {α : Type} (r : Except Misuse α) : Except Fault α :=
  r.mapError Fault.misuse

end PageMarkup
