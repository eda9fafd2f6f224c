/-!
Texts are lists of characters. A property of characters that Unicode gives as data is a table of
code ranges; a one-to-one case mapping is a table of shifted ranges.
-/

namespace Schemata

abbrev Text := List Char

namespace Text

/-- The code points from the first to the second number, both included. -/
abbrev CodeRange := Nat × Nat

def inRanges (ranges : List CodeRange) (c : Char) : Bool :=
  ranges.any fun range => range.1 ≤ c.toNat && c.toNat ≤ range.2

/-- Every `stride`-th code point from `first` to `last` maps to the one `offset` further on. -/
structure CaseShift where
  first : Nat
  last : Nat
  stride : Nat
  offset : Int

def CaseShift.covers (shift : CaseShift) (c : Char) : Bool :=
  shift.first ≤ c.toNat && c.toNat ≤ shift.last && (c.toNat - shift.first) % shift.stride == 0

def CaseShift.apply (shift : CaseShift) (c : Char) : Char :=
  Char.ofNat ((c.toNat : Int) + shift.offset).toNat

/-- The image under the first shift that covers the character; other characters stay. -/
def shifted (shifts : List CaseShift) (c : Char) : Char :=
  match shifts.find? (·.covers c) with
  | some shift => shift.apply c
  | none => c

theorem inRanges_iff {ranges : List CodeRange} {c : Char} :
    inRanges ranges c = true ↔ ∃ range ∈ ranges, range.1 ≤ c.toNat ∧ c.toNat ≤ range.2 := by
  simp [inRanges]

end Text

end Schemata
