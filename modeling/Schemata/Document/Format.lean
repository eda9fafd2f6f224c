import Schemata.Document.Json
import Schemata.Path
import Schemata.Yaml.Write

/-!
The formats in which documents are written.
-/

namespace Schemata

inductive Format
  | yaml
  | json
deriving DecidableEq, Repr

/-- The name of a format that there is not. -/
structure UnknownFormat where
  name : Text
deriving DecidableEq, Repr

namespace Format

def label : Format → Text
  | yaml => "yaml".toList
  | json => "json".toList

def all : List Format := [yaml, json]

end Format

def UnknownFormat.message (unknown : UnknownFormat) : Text :=
  "Unsupported output format: ".toList ++ unknown.name ++ " (expected one of ".toList ++
    List.intercalate ", ".toList (Format.all.map Format.label) ++ [')']

namespace Format

/-- The format of a name, without regard to case. -/
def ofName (name : Text) : Except UnknownFormat Format :=
  match all.find? fun format => format.label == Text.lower name with
  | some format => return format
  | none => throw ⟨Text.lower name⟩

/-- The format that the suffix of a path asks for. -/
def ofPath (path : Text) : Format :=
  if Text.lower (Path.ofText path).suffix == ".json".toList then json else yaml

/-- The format of a name, and without a name that of the path. -/
def choose (path : Text) (name : Option Text) : Except UnknownFormat Format :=
  match name with
  | some (c :: rest) => ofName (c :: rest)
  | _ => return ofPath path

/-- The text of a document. -/
def render : Format → Value → Text
  | yaml => Yaml.render
  | json => Json.render

end Format

end Schemata
