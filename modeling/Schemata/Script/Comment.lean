import Schemata.Script.Quote

/-!
Comments of a script: from `--` to the end of the line, and from a slash with a star to the next
star with a slash. Inside a literal neither begins.
-/

namespace Schemata.Script

/-- Where a scan for comments stands. -/
inductive Mode
  | code
  | literal (quote : Char)
  | line
  | block
deriving DecidableEq, Repr

/-- Drops line comments but not their line ends, and writes one space for each block comment.
A comment that never ends takes the rest of the text with it. -/
def withoutComments : Mode → Text → Text
  | _, [] => []
  | .literal quote, c :: rest =>
      c :: withoutComments (if c = quote then .code else .literal quote) rest
  | .line, '\n' :: rest => '\n' :: withoutComments .code rest
  | .line, _ :: rest => withoutComments .line rest
  | .block, '*' :: '/' :: rest => ' ' :: withoutComments .code rest
  | .block, _ :: rest => withoutComments .block rest
  | .code, '-' :: '-' :: rest => withoutComments .line rest
  | .code, '/' :: '*' :: rest => withoutComments .block rest
  | .code, c :: rest =>
      c :: withoutComments (if isQuote c then .literal c else .code) rest

/-- Where the scan stands after the text. -/
def modeAfter : Mode → Text → Mode
  | mode, [] => mode
  | .literal quote, c :: rest => modeAfter (if c = quote then .code else .literal quote) rest
  | .line, '\n' :: rest => modeAfter .code rest
  | .line, _ :: rest => modeAfter .line rest
  | .block, '*' :: '/' :: rest => modeAfter .code rest
  | .block, _ :: rest => modeAfter .block rest
  | .code, '-' :: '-' :: rest => modeAfter .line rest
  | .code, '/' :: '*' :: rest => modeAfter .block rest
  | .code, c :: rest => modeAfter (if isQuote c then .literal c else .code) rest

def stripComments (text : Text) : Text :=
  withoutComments .code text

/-- A comment mark stands outside the literals of the text. -/
def marksComment : Option Char → Text → Bool
  | _, [] => false
  | none, '-' :: '-' :: _ => true
  | none, '/' :: '*' :: _ => true
  | quote, c :: rest => marksComment (quoteAfter quote c) rest

end Schemata.Script
