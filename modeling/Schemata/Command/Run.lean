import Schemata.Command.Files
import Schemata.Command.Options
import Schemata.Document.Format
import Schemata.Document.Load
import Schemata.Pipeline
import Schemata.Report

/-!
The commands: `parse` infers the schema of a script, reports it and may save it, and `info` reports
a saved schema. A command sees files through the entries that paths lead to, and gives what is
printed, the exit code and the file to be written.
-/

namespace Schemata

/-- What ends a command that was called rightly. -/
inductive Failure
  | report (cause : ReportError)
  | load (cause : LoadError)
  /-- A file stands where a folder has to be made. -/
  | fileInPlaceOfFolder (path : Text)
  /-- A folder cannot be made below a file. -/
  | folderBelowFile (path : Text)
  /-- A folder stands where a file has to be written. -/
  | folderInPlaceOfFile (path : Text)
deriving Repr

def Failure.message : Failure → Text
  | report cause => cause.message
  | load cause => cause.message
  | fileInPlaceOfFolder path => "File exists: ".toList ++ Text.quoted path
  | folderBelowFile path => "Not a directory: ".toList ++ Text.quoted path
  | folderInPlaceOfFile path => "Is a directory: ".toList ++ Text.quoted path

structure Outcome where
  exitCode : Nat := 0
  output : Text := []
  /-- The path and the contents of the file to be written. -/
  saved : Option (Path × Text) := none
  failure : Option Failure := none

namespace Command

/-- What a command works with: the name it was called by, and what paths lead to. -/
structure Setting where
  program : Text
  look : Text → Entry

def version : Text := "0.1.0".toList

def helpOption : OptionForm := { long := "--help".toList }

def groupOptions : OptionForms where
  forms := [
    { long := "--version".toList }, { long := "--verbose".toList, short := some 'v' }, helpOption]
  interspersed := false

def parseOptions : OptionForms where
  forms := [
    { long := "--config".toList, takesValue := true },
    { long := "--many-to-many".toList, takesValue := true },
    { long := "--no-conventions".toList },
    { long := "--output".toList, takesValue := true },
    { long := "--format".toList, takesValue := true },
    helpOption]

def infoOptions : OptionForms where
  forms := [helpOption]

/-- A value in quotes as a hint to the parameter. -/
def hint (name : Text) : Text :=
  '\'' :: name ++ ['\'']

def isFolderReason (path : Text) : Text :=
  "File ".toList ++ Text.quoted path ++ " is a directory.".toList

/-- The contents of a file that has to be there. -/
def existing (setting : Setting) (name path : Text) : Except UsageError Text :=
  match setting.look path with
  | .file contents => return contents
  | .folder => throw (.invalidValue (hint name) (isFolderReason path))
  | .missing => throw (.invalidValue (hint name)
      ("File ".toList ++ Text.quoted path ++ " does not exist.".toList))

/-- A value that has to be one of several. -/
def oneOf (name : Text) (choices : List Text) (value : Text) : Except UsageError Unit :=
  if choices.contains value then return ()
  else throw (.invalidValue (hint name)
    (Text.quoted value ++ " is not one of ".toList ++
      List.intercalate ", ".toList (choices.map Text.quoted) ++ ['.']))

/-- Checks the value of an option of `parse`. -/
def checkOption (setting : Setting) (given : Given) (name : Text) : Except UsageError Unit := do
  let value := (given.value? name).getD []
  if name = "--config".toList then
    let _ ← existing setting name value
  else if name = "--many-to-many".toList then
    oneOf name (ManyToManyMode.all.map ManyToManyMode.label) value
  else if name = "--format".toList then oneOf name (Format.all.map Format.label) value
  else if name = "--output".toList then
    if setting.look value = .folder then throw (.invalidValue (hint name) (isFolderReason value))

/-- The one argument of a command, a file, with its contents. Options are checked before it, and
arguments beyond it after it. -/
def fileArgument (setting : Setting) (name : Text) (given : Given)
    (check : Text → Except UsageError Unit) : Except UsageError (Text × Text) := do
  given.distinct.forM check
  match given.arguments with
  | [] => throw (.missingArgument name)
  | path :: others =>
      let contents ← existing setting name path
      if others.isEmpty then return (path, contents) else throw (.extraArguments others)

def usageOutcome (command usage before : Text) (error : UsageError) : Outcome :=
  { exitCode := 2, output := before ++ error.report command usage }

def failed (output : Text) (failure : Failure) : Outcome :=
  { exitCode := 1, output, failure := some failure }

/-- A file that cannot be loaded: a mistake in the arguments if its contents are to blame. -/
def loadFailed (command usage before name : Text) (error : LoadError) : Outcome :=
  if error.isRefusal then usageOutcome command usage before (.invalidValue name error.message)
  else failed before (.load error)

/-- What `parse` is asked to do. -/
structure Request where
  path : Text
  script : Text
  config : Config
  output : Option Text := none
  format : Option Format := none

/-- The options of the inference as the arguments change them. -/
def configured (config : Config) (given : Given) : Config :=
  let mode := (given.value? "--many-to-many".toList).bind ManyToManyMode.ofLabel?
  { config with
    manyToMany := mode.getD config.manyToMany
    conventions := config.conventions && !given.has "--no-conventions".toList }

/-- The folders on the way to a path, the nearest one last. -/
def foldersTo (path : Path) : List Path :=
  (List.range path.parts.length).map fun count => { path with parts := path.parts.take count }

/-- What keeps a file from being written: a file on the way to it, or a folder in its place. A folder
cannot be made below a file; but where folders on the way are missing, they are made one by one up to
the file. -/
def obstacle? (setting : Setting) (path : Path) : Option Failure :=
  let entry (place : Path) : Entry := setting.look place.resolved.text
  let isFile (place : Path) : Bool :=
    match entry place with
    | .file _ => true
    | _ => false
  let folders := foldersTo path.parent ++ [path.parent]
  match folders.find? isFile with
  | some place =>
      let before := folders.takeWhile fun folder => !isFile folder
      if place = path.parent || before.any fun folder => entry folder = .missing then
        some (.fileInPlaceOfFolder place.text)
      else some (.folderBelowFile path.parent.text)
  | none => if entry path = .folder then some (.folderInPlaceOfFile path.text) else none

/-- Saves a result after its report. -/
def save (setting : Setting) (output : Text) (result : Stored.Result) (target : Text)
    (format : Option Format) : Outcome :=
  let path := Path.ofText target
  match obstacle? setting path with
  | some failure => failed output failure
  | none =>
      let saved := some (path, (format.getD (Format.ofPath target)).render result.encode)
      match Report.line ("\n[green]Saved schema to: ".toList ++ path.text ++ "[/green]".toList) with
      | .ok line => { output := output ++ line, saved }
      | .error cause => { exitCode := 1, output, saved, failure := some (.report cause) }

def heading : Text := "DDL ERD - Schema Inference\n".toList

def infer (setting : Setting) (request : Request) : Outcome :=
  let result := (inferSchema request.config (Text.withLineFeeds request.script)).stored
  let script := Report.line ("Script: ".toList ++ (Path.ofText request.path).text)
  let printed := Printed.ofSections (.ok heading :: script :: Report.sections result)
  match printed.failure, request.output with
  | some cause, _ => failed printed.text (.report cause)
  | none, none => { output := printed.text }
  | none, some target => save setting printed.text result target request.format

/-- The page that explains a command names its arguments. -/
def helpPage (command usage : Text) : Text :=
  "Usage: ".toList ++ command ++ ' ' :: usage ++ ['\n']

def parse (setting : Setting) (arguments : List Text) : Outcome :=
  let command := setting.program ++ " parse".toList
  let usage := "[OPTIONS] SQL_FILE".toList
  match parseOptions.read arguments with
  | .error error => usageOutcome command usage [] error
  | .ok given =>
      if given.has helpOption.long then { output := helpPage command usage }
      else
        match fileArgument setting "SQL_FILE".toList given (checkOption setting given) with
        | .error error => usageOutcome command usage [] error
        | .ok (path, script) =>
            let request (config : Config) : Request :=
              { path, script, config := configured config given
                output := given.value? "--output".toList
                format := (given.value? "--format".toList).bind fun name => (Format.ofName name).toOption }
            match given.value? "--config".toList with
            | none => infer setting (request {})
            | some file =>
                match setting.look file with
                | .file contents =>
                    match Config.load (Path.ofText file).text contents with
                    | .ok config => infer setting (request config)
                    | .error error => loadFailed command usage [] "--config".toList error
                | _ => infer setting (request {})

def info (setting : Setting) (arguments : List Text) : Outcome :=
  let command := setting.program ++ " info".toList
  let usage := "[OPTIONS] SCHEMA_FILE".toList
  let name := "SCHEMA_FILE".toList
  match infoOptions.read arguments with
  | .error error => usageOutcome command usage [] error
  | .ok given =>
      if given.has helpOption.long then { output := helpPage command usage }
      else
        match fileArgument setting name given (fun _ => return ()) with
        | .error error => usageOutcome command usage [] error
        | .ok (path, contents) =>
            let before := "Schema Information\n".toList
            match Stored.Result.load (Path.ofText path).text contents with
            | .error error => loadFailed command usage before name error
            | .ok result =>
                let printed := Printed.ofSections (.ok before :: Report.sections result)
                { exitCode := if printed.failure.isSome then 1 else 0
                  output := printed.text
                  failure := printed.failure.map .report }

def commands : List Text :=
  ["parse".toList, "info".toList]

/-- Runs the command that the arguments name. -/
def run (setting : Setting) (arguments : List Text) : Outcome :=
  let usage := "[OPTIONS] COMMAND [ARGS]...".toList
  match groupOptions.read arguments with
  | .error error => usageOutcome setting.program usage [] error
  | .ok given =>
      match (given.distinct.filter (· != "--verbose".toList)).head? with
      | some option =>
          if option = helpOption.long then { output := helpPage setting.program usage }
          else { output := "ddl-erd, version ".toList ++ version ++ ['\n'] }
      | none =>
          match given.arguments with
          | [] =>
              if arguments.isEmpty then { exitCode := 2, output := helpPage setting.program usage }
              else usageOutcome setting.program usage [] .missingCommand
          | name :: rest =>
              if name = "parse".toList then parse setting rest
              else if name = "info".toList then info setting rest
              else
                match groupOptions.read (name :: rest) with
                | .error error => usageOutcome setting.program usage [] error
                | .ok _ =>
                    usageOutcome setting.program usage []
                      (.unknownCommand name (Suggestion.closest name commands))

end Command

end Schemata
