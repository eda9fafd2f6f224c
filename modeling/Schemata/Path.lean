import Schemata.Text.Case

/-!
Paths of files: parts between slashes, with a root for absolute paths. Empty parts and parts that
are a single dot do not count.
-/

namespace Schemata

structure Path where
  root : Text := []
  parts : List Text := []
deriving DecidableEq, Repr

namespace Path

/-- Two slashes at the beginning are a root of their own; any other number counts as one. -/
def rootOf (written : Text) : Text :=
  match (written.takeWhile (· == '/')).length with
  | 0 => []
  | 2 => "//".toList
  | _ => "/".toList

def isPart (part : Text) : Bool :=
  !part.isEmpty && part != ['.']

def ofText (written : Text) : Path where
  root := rootOf written
  parts := (written.splitOn '/').filter isPart

/-- The written form; a path without parts is the folder itself. -/
def text (path : Path) : Text :=
  let joined := List.intercalate ['/'] path.parts
  if path.root.isEmpty && joined.isEmpty then ['.'] else path.root ++ joined

/-- The last part. -/
def name (path : Path) : Text :=
  path.parts.getLast?.getD []

def parent (path : Path) : Path :=
  { path with parts := path.parts.dropLast }

/-- The end of a name from its last dot, if something stands before the dot and after it. -/
def suffixOf (name : Text) : Text :=
  let after := (name.reverse.takeWhile (· != '.')).reverse
  let stem := name.take (name.length - after.length - 1)
  if after.isEmpty || stem.isEmpty || after.length == name.length then [] else '.' :: after

def suffix (path : Path) : Text :=
  suffixOf path.name

/-- The parts that remain when two dots take back the part before them; `before` holds those on the
way, the last one first. -/
def withoutDetours (before : List Text) : List Text → List Text
  | [] => before.reverse
  | part :: rest =>
      match before with
      | last :: others =>
          if part = "..".toList ∧ last ≠ "..".toList then withoutDetours others rest
          else withoutDetours (part :: before) rest
      | [] => withoutDetours [part] rest

/-- The direct path to the same place, if all on the way are folders. -/
def resolved (path : Path) : Path :=
  { path with parts := withoutDetours [] path.parts }

/-- The path leads out of the folder that it starts from. -/
def leadsOut (path : Path) : Bool :=
  !path.root.isEmpty || path.resolved.parts.head? = some "..".toList

end Path

end Schemata
