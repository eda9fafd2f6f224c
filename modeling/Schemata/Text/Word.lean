import Schemata.Text.WordTable

/-!
Characters of words, and whether a text begins with one.
-/

namespace Schemata.Text

/-- The characters that words of a statement are made of: letters, digits and the underscore. -/
def isWordChar (c : Char) : Bool :=
  if c.toNat < 128 then c.isAlphanum || c == '_' else inRanges wordRanges c

def startsWithWord : Text → Bool
  | [] => false
  | c :: _ => isWordChar c

end Schemata.Text
