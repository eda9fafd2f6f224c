import Schemata.Text.Quoted

/-!
Mistakes in the arguments of a command, and how they are reported.
-/

namespace Schemata

inductive UsageError
  /-- There is no such option; `close` are the names that may be meant. -/
  | unknownOption (name : Text) (close : List Text)
  | missingValue (option : Text)
  | unexpectedValue (option : Text)
  | missingArgument (name : Text)
  | extraArguments (arguments : List Text)
  | unknownCommand (name : Text) (close : List Text)
  | missingCommand
  /-- The value of the parameter that `hint` names is refused. -/
  | invalidValue (hint : Text) (reason : Text)
deriving DecidableEq, Repr

namespace UsageError

/-- The hint to the names that may be meant. -/
def suggestion (kinds : String) : List Text → Text
  | [] => []
  | [name] => " Did you mean ".toList ++ Text.quoted name ++ ['?']
  | names =>
      " (Possible ".toList ++ kinds.toList ++ ": ".toList ++
        List.intercalate ", ".toList (names.map Text.quoted) ++ [')']

def message : UsageError → Text
  | unknownOption name close =>
      "No such option ".toList ++ Text.quoted name ++ '.' :: suggestion "options" close
  | missingValue option => "Option ".toList ++ Text.quoted option ++ " requires an argument.".toList
  | unexpectedValue option =>
      "Option ".toList ++ Text.quoted option ++ " does not take a value.".toList
  | missingArgument name => "Missing argument ".toList ++ Text.quoted name ++ ['.']
  | extraArguments arguments =>
      "Got unexpected extra argument".toList ++ (if arguments.length = 1 then [] else ['s']) ++
        " (".toList ++ List.intercalate [' '] arguments ++ [')']
  | unknownCommand name close =>
      "No such command ".toList ++ Text.quoted name ++ '.' :: suggestion "commands" close
  | missingCommand => "Missing command.".toList
  | invalidValue hint reason => "Invalid value for ".toList ++ hint ++ ": ".toList ++ reason

/-- A mistake about the value of an option is reported on one line. -/
def isBrief : UsageError → Bool
  | missingValue _ => true
  | unexpectedValue _ => true
  | _ => false

/-- The usage of a command, which stands above the mistakes in its arguments. -/
def heading (command usage : Text) : Text :=
  "Usage: ".toList ++ command ++ ' ' :: usage ++ "\nTry '".toList ++ command ++
    " --help' for help.\n\n".toList

/-- The report of a mistake in the arguments of a command. -/
def report (command usage : Text) (error : UsageError) : Text :=
  (if error.isBrief then [] else heading command usage) ++ "Error: ".toList ++ error.message ++ ['\n']

end UsageError

end Schemata
