import Schemata.Config.Decode
import Schemata.Document.Stored
import Schemata.Text.Lines
import Schemata.Yaml.Read

/-!
Options and schemas from the text of a file, by any reader of YAML. A document that is not given
(empty, null, false or zero) counts as one without entries.
-/

namespace Schemata

/-- What gives the value of a document, be it `Yaml.read` or a reader of more than that. Mappings and sequences may be
nested at will; of binary data, sets and values that hold themselves there are no values here. -/
abbrev DocumentReader := Text → Except Yaml.ReadError Value

/-- Why a file gives nothing. The path is that of the file. -/
inductive LoadError
  | malformedOptions (path : Text)
  | optionsNotMapping (path : Text)
  | malformedFile (path : Text)
  | notSchema (path : Text)
  | malformedSchema (path : Text) (cause : AccessError)
  /-- A scalar in the file has the form of a value that there is not. -/
  | scalar (defect : Yaml.ScalarDefect)
  /-- The reader has another error. -/
  | reading (concernsValue : Bool) (message : Text)
  /-- A value in the file could not be taken apart. -/
  | access (cause : AccessError)
deriving Repr

namespace LoadError

def message : LoadError → Text
  | malformedOptions path => "Invalid YAML in ".toList ++ path
  | optionsNotMapping path => "Configuration in ".toList ++ path ++ " must be a mapping".toList
  | malformedFile path => "Invalid schema file ".toList ++ path
  | notSchema path => path ++ " is not a schema document".toList
  | malformedSchema path cause =>
      "Malformed schema document ".toList ++ path ++ ": ".toList ++ cause.message
  | scalar defect => defect.message
  | reading _ message => message
  | access cause => cause.message

/-- The file holds something that it may not hold; other failures are breakdowns. -/
def isRefusal : LoadError → Bool
  | scalar defect => !defect.isOverflow
  | reading concernsValue _ => concernsValue
  | access cause => cause.concernsValue
  | _ => true

/-- A file that breaks the rules of YAML is refused as `malformed` says. Other errors of the reader come
through as they are. -/
def ofRead (malformed : LoadError) : Yaml.ReadError → LoadError
  | .malformed => malformed
  | .scalar defect => .scalar defect
  | .other concernsValue message => .reading concernsValue message

theorem isRefusal_ofRead {malformed : LoadError} (refused : malformed.isRefusal = true)
    (cause : Yaml.ReadError) : (ofRead malformed cause).isRefusal = cause.isRefusal := by
  cases cause with
  | malformed => exact refused
  | scalar defect => rfl
  | other concernsValue message => rfl

/-- A failure to decode a schema; a value that lacks an operation by name is not the file's fault. -/
def ofSchema (path : Text) (cause : AccessError) : LoadError :=
  match cause with
  | .lacks kind operation => .access (.lacks kind operation)
  | cause => .malformedSchema path cause

end LoadError

/-- The document in the text of a file. -/
def documentBy (reader : DocumentReader) (contents : Text) : Except Yaml.ReadError Value :=
  (reader (Text.withLineFeeds contents)).map fun document =>
    if document.isGiven then document else .map []

/-- The options in the text of a file. -/
def Config.loadBy (reader : DocumentReader) (path contents : Text) : Except LoadError Config := do
  match ← (documentBy reader contents).mapError (.ofRead (.malformedOptions path)) with
  | .map entries => (Config.ofValue (.map entries)).mapError .access
  | _ => throw (.optionsNotMapping path)

/-- The schema in the text of a file. -/
def Stored.Result.loadBy (reader : DocumentReader) (path contents : Text) : Except LoadError Stored.Result := do
  match ← (documentBy reader contents).mapError (.ofRead (.malformedFile path)) with
  | .map entries =>
      if (Value.lookup? (.text "tables".toList) entries).isSome then
        (Stored.Result.decode (.map entries)).mapError (.ofSchema path)
      else throw (.notSchema path)
  | _ => throw (.notSchema path)

def Config.load : Text → Text → Except LoadError Config :=
  Config.loadBy Yaml.read

def Stored.Result.load : Text → Text → Except LoadError Stored.Result :=
  Stored.Result.loadBy Yaml.read

end Schemata
