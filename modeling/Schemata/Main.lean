import Schemata.Command.Run

/-!
The program: it looks up the files that its arguments can name, runs the command and writes what it
gives.
-/

namespace Schemata.Program

/-- What stands at a path of the file system. A folder can be opened, but not read. -/
def entryOf (path : Text) : IO Entry := do
  try
    return .file (← IO.FS.readFile (String.ofList path)).toList
  catch error =>
    match error with
    | .inappropriateType _ 21 _ => return .folder
    | _ => return .missing

/-- The paths that an argument can name: itself or what follows its equals sign, and the folders on
the way there. -/
def pathsIn (argument : Text) : List Text :=
  [argument, (argument.dropWhile (· != '=')).drop 1].flatMap fun written =>
    let path := Path.ofText written
    written :: path.text :: path.resolved.text ::
      (Command.foldersTo path).map fun folder => folder.resolved.text

/-- Writes a file, and the folders on the way to it. -/
def write (path : Path) (contents : Text) : IO Unit := do
  IO.FS.createDirAll (String.ofList path.parent.text)
  IO.FS.writeFile (String.ofList path.text) (String.ofList contents)

/-- Runs the command that the arguments name, and gives its exit code. -/
def run (arguments : List Text) : IO UInt32 := do
  let entries ← (arguments.flatMap pathsIn).mapM fun path => return (path, ← entryOf path)
  let look (path : Text) : Entry := (entries.lookup path).getD .missing
  let outcome := Command.run ⟨"ddl-erd".toList, look⟩ arguments
  for (path, contents) in outcome.saved.toList do
    write path contents
  IO.print (String.ofList outcome.output)
  for failure in outcome.failure.toList do
    IO.eprintln (String.ofList failure.message)
  return outcome.exitCode.toUInt32

end Schemata.Program

def main (arguments : List String) : IO UInt32 :=
  Schemata.Program.run (arguments.map String.toList)
