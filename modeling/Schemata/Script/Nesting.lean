import Schemata.Script.Quote

/-!
Parentheses outside literals. `closing` counts them from a given place to the parenthesis that
closes; `Nesting` is the state of a scan that cuts a list at its outermost commas.
-/

namespace Schemata.Script

/-- The offset of the `)` at which the depth, counted from `depth` on, returns to zero. -/
def closing (quote : Option Char) (depth : Int) : Text → Option Nat
  | [] => none
  | c :: rest =>
      match quote with
      | some q => (closing (if c = q then none else some q) depth rest).map (· + 1)
      | none =>
          if c = '(' then (closing none (depth + 1) rest).map (· + 1)
          else if c = ')' then
            if depth = 1 then some 0 else (closing none (depth - 1) rest).map (· + 1)
          else (closing (if isQuote c then some c else none) depth rest).map (· + 1)

/-- The index of the `)` that closes what opens at `start`; the scan begins there, whatever the
character is. -/
def matchingParen (text : Text) (start : Nat) : Option Nat :=
  (closing none 0 (text.drop start)).map (start + ·)

/-- The same for a start `back` characters before the end; nothing if the text has fewer. The scan
reads that tail and then the whole text; an index within the tail is counted back from the end, too,
and so is negative. -/
def matchingParenFromEnd? (text : Text) (back : Nat) : Option (Option Int) :=
  if text.length < back then none
  else
    let tail := text.drop (text.length - back)
    some ((closing none 0 (tail ++ text)).map fun close => (close : Int) - back)

/-- What stands between the parenthesis at the head of a text and the one that closes it, and what
follows the closing one. -/
def enclosed (text : Text) : Option (Text × Text) :=
  (matchingParen text 0).map fun close => ((text.take close).drop 1, text.drop (close + 1))

/-- The open quote and the number of open parentheses; a surplus `)` is ignored. -/
structure Nesting where
  quote : Option Char
  depth : Nat
deriving DecidableEq, Repr

namespace Nesting

def start : Nesting := ⟨none, 0⟩

def after (nesting : Nesting) (c : Char) : Nesting :=
  let quote := quoteAfter nesting.quote c
  match nesting.quote with
  | some _ => ⟨quote, nesting.depth⟩
  | none =>
      if c = '(' then ⟨quote, nesting.depth + 1⟩
      else if c = ')' then ⟨quote, nesting.depth - 1⟩
      else ⟨quote, nesting.depth⟩

def isOutermost (nesting : Nesting) : Bool :=
  nesting.quote.isNone && nesting.depth == 0

end Nesting

end Schemata.Script
