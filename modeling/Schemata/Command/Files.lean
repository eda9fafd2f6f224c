import Schemata.Path

/-!
What paths lead to. A `Folder` holds files by their parts, and its own folders are those that lie
on the way to a file.
-/

namespace Schemata

/-- What stands at a path. -/
inductive Entry
  | missing
  | folder
  | file (contents : Text)
deriving DecidableEq, Repr

structure StoredFile where
  place : List Text
  contents : Text
deriving DecidableEq, Repr

structure Folder where
  files : List StoredFile := []
deriving DecidableEq, Repr

namespace Folder

/-- A folder with files by their written paths. -/
def ofFiles (files : List (Text × Text)) : Folder :=
  ⟨files.map fun (path, contents) => ⟨(Path.ofText path).parts, contents⟩⟩

/-- What stands at a place below the folder. -/
def entryAt (folder : Folder) (place : List Text) : Entry :=
  match folder.files.find? fun file => file.place == place with
  | some file => .file file.contents
  | none =>
      if place.isEmpty || folder.files.any fun file => place.isPrefixOf file.place then .folder
      else .missing

/-- The place that parts of a path lead to. Only from a folder is there a way on, and none leads
out of the outermost folder. -/
def walk (folder : Folder) (place : List Text) : List Text → Option (List Text)
  | [] => some place
  | part :: rest =>
      if folder.entryAt place ≠ .folder then none
      else if !Path.isPart part then walk folder place rest
      else if part = "..".toList then
        if place.isEmpty then none else walk folder place.dropLast rest
      else walk folder (place ++ [part]) rest

/-- What stands at a written path. -/
def look (folder : Folder) (written : Text) : Entry :=
  if written.isEmpty || written.head? = some '/' then .missing
  else
    match folder.walk [] (written.splitOn '/') with
    | some place => folder.entryAt place
    | none => .missing

end Folder

end Schemata
