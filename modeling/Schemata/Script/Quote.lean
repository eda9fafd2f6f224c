import Schemata.Text.Range

/-!
Quoting in a script. A single, double or backward quote opens a literal, and the same character
closes it; the state of a scan is the quote that is still open, if any.
-/

namespace Schemata.Script

def isQuote (c : Char) : Bool :=
  c == '\'' || c == '"' || c == '\x60'

/-- The open quote after `c`. -/
def quoteAfter (quote : Option Char) (c : Char) : Option Char :=
  match quote with
  | some q => if c = q then none else some q
  | none => if isQuote c then some c else none

/-- The quote that is open at the end of a text. -/
def quoteAtEnd (quote : Option Char) (text : Text) : Option Char :=
  text.foldl quoteAfter quote

@[simp] theorem quoteAtEnd_nil (quote : Option Char) : quoteAtEnd quote [] = quote := rfl

@[simp] theorem quoteAtEnd_cons (quote : Option Char) (c : Char) (rest : Text) :
    quoteAtEnd quote (c :: rest) = quoteAtEnd (quoteAfter quote c) rest := rfl

theorem quoteAtEnd_append (quote : Option Char) (left right : Text) :
    quoteAtEnd quote (left ++ right) = quoteAtEnd (quoteAtEnd quote left) right := by
  simp [quoteAtEnd]

end Schemata.Script
