import Schemata.Command.Suggestion
import Schemata.Command.Usage

/-!
Options among the arguments of a command. Long options take their value after an equals sign or
from the next argument; options of one letter may stand together behind one dash; two dashes end
the options.
-/

namespace Schemata

structure OptionForm where
  long : Text
  short : Option Char := none
  takesValue : Bool := false
deriving DecidableEq, Repr

/-- The options of a command, and whether they may stand between its arguments. -/
structure OptionForms where
  forms : List OptionForm
  interspersed : Bool := true
deriving DecidableEq, Repr

/-- The options as they were given, in their order, and the arguments. -/
structure Given where
  options : List (OptionForm × Text) := []
  arguments : List Text := []
deriving DecidableEq, Repr

namespace Given

def addOption (given : Given) (form : OptionForm) (value : Text) : Given :=
  { given with options := given.options ++ [(form, value)] }

def addArgument (given : Given) (argument : Text) : Given :=
  { given with arguments := given.arguments ++ [argument] }

/-- The last value of an option. -/
def value? (given : Given) (long : Text) : Option Text :=
  (given.options.reverse.find? fun (form, _) => form.long == long).map (·.2)

def has (given : Given) (long : Text) : Bool :=
  (given.value? long).isSome

/-- The options, each once, in the order in which they first occur. -/
def distinct (given : Given) : List Text :=
  given.options.foldl
    (fun found (form, _) => if found.contains form.long then found else found ++ [form.long]) []

end Given

namespace OptionForms

/-- Adds an option that stands in full, and gives the arguments after it. -/
def addLong (given : Given) (form : OptionForm) (attached : Option Text) (rest : List Text) :
    Except UsageError (Given × List Text) :=
  match form.takesValue, attached, rest with
  | true, some value, _ => return (given.addOption form value, rest)
  | true, none, value :: rest => return (given.addOption form value, rest)
  | true, none, [] => throw (.missingValue form.long)
  | false, some _, _ => throw (.unexpectedValue form.long)
  | false, none, _ => return (given.addOption form [], rest)

/-- Adds options of one letter; what follows one that takes a value is its value. -/
def addShort (forms : OptionForms) (given : Given) (rest : List Text) :
    Text → Except UsageError (Given × List Text)
  | [] => return (given, rest)
  | letter :: more =>
      match forms.forms.find? fun form => form.short == some letter with
      | none => throw (.unknownOption ['-', letter] [])
      | some form =>
          if form.takesValue then
            if more.isEmpty then addLong given form none rest
            else return (given.addOption form more, rest)
          else addShort forms (given.addOption form []) rest more

/-- The name of a long option and the value after its equals sign. -/
def splitValue (argument : Text) : Text × Option Text :=
  match argument.span (· != '=') with
  | (name, _ :: value) => (name, some value)
  | (name, []) => (name, none)

/-- Adds the option that an argument stands for, and gives the arguments after it. -/
def addOption (forms : OptionForms) (given : Given) (argument : Text) (rest : List Text) :
    Except UsageError (Given × List Text) :=
  let (name, attached) := splitValue argument
  match forms.forms.find? fun form => form.long == name with
  | some form => addLong given form attached rest
  | none =>
      if "--".toList.isPrefixOf argument then
        throw (.unknownOption name (Suggestion.closest name (forms.forms.map OptionForm.long)))
      else addShort forms given rest (argument.drop 1)

/-- Sorts arguments; every step takes at least one off. -/
def sort (forms : OptionForms) (given : Given) : Nat → List Text → Except UsageError Given
  | 0, _ => return given
  | _, [] => return given
  | count + 1, argument :: rest =>
      if argument = "--".toList then return rest.foldl Given.addArgument given
      else if argument.head? = some '-' ∧ argument ≠ ['-'] then do
        let (given, rest) ← forms.addOption given argument rest
        sort forms given count rest
      else if forms.interspersed then sort forms (given.addArgument argument) count rest
      else return (argument :: rest).foldl Given.addArgument given

/-- The options and arguments among the arguments of a command. -/
def read (forms : OptionForms) (arguments : List Text) : Except UsageError Given :=
  forms.sort {} arguments.length arguments

end OptionForms

end Schemata
