import Schemata.Text.Range

/-!
Numbers in a base of at most sixteen, as ASCII digits spell them.
-/

namespace Schemata.Text

def isHexDigit (c : Char) : Bool :=
  c.isDigit || ('a' ≤ c && c ≤ 'f') || ('A' ≤ c && c ≤ 'F')

/-- The value of a hexadecimal digit. -/
def hexValue (c : Char) : Nat :=
  if c.isDigit then c.toNat - 48 else c.toLower.toNat - 87

/-- The number that digits spell in a base. -/
def inBase (base : Nat) (digits : Text) : Nat :=
  digits.foldl (fun total c => total * base + hexValue c) 0

@[simp] theorem inBase_nil (base : Nat) : inBase base [] = 0 := rfl

theorem inBase_concat (base : Nat) (digits : Text) (c : Char) :
    inBase base (digits ++ [c]) = inBase base digits * base + hexValue c := by
  simp [inBase]

end Schemata.Text
