import Schemata.Text.Order

/-!
Names that a misspelled one may stand for. Two names are alike by the characters that they share:
those of their longest common part, and of what stands before it and behind it in both.
-/

namespace Schemata.Suggestion

/-- How many characters two texts share at their beginning. -/
def sharedStart : Text → Text → Nat
  | a :: left, b :: right => if a = b then sharedStart left right + 1 else 0
  | _, _ => 0

/-- A part that two texts have in common: where it begins in each of them, and its length. -/
structure CommonPart where
  left : Nat := 0
  right : Nat := 0
  size : Nat := 0

/-- The longest common part; of several the first one of the left text, and there the first one of
the right text. -/
def longestCommon (left right : Text) : CommonPart :=
  let parts := (List.range left.length).flatMap fun i =>
    (List.range right.length).map fun j => ⟨i, j, sharedStart (left.drop i) (right.drop j)⟩
  parts.foldl (fun found part => if found.size < part.size then part else found) {}

/-- The number of characters that two texts share. -/
def sharedCount : Nat → Text → Text → Nat
  | 0, _, _ => 0
  | fuel + 1, left, right =>
      let part := longestCommon left right
      if part.size = 0 then 0
      else
        sharedCount fuel (left.take part.left) (right.take part.right) + part.size +
          sharedCount fuel (left.drop (part.left + part.size)) (right.drop (part.right + part.size))

/-- A name with the share of characters that it has in common with a word: `shared` in `total`. -/
structure Candidate where
  name : Text
  shared : Nat
  total : Nat

namespace Candidate

def ofName (word name : Text) : Candidate :=
  ⟨name, 2 * sharedCount (name.length + 1) name word, name.length + word.length⟩

/-- At least three fifths of the characters are shared. -/
def isClose (candidate : Candidate) : Bool :=
  3 * candidate.total ≤ 5 * candidate.shared

/-- The closer name, and of two equally close ones the later in order. -/
def precedes (one other : Candidate) : Bool :=
  if one.shared * other.total = other.shared * one.total then Text.le other.name one.name
  else other.shared * one.total < one.shared * other.total

end Candidate

/-- A name of this length may share enough characters with the word. -/
def mayBeClose (word name : Text) : Bool :=
  3 * (name.length + word.length) ≤ 10 * min name.length word.length

/-- The three names closest to a word, in order. -/
def closest (word : Text) (names : List Text) : List Text :=
  let compared := (names.filter (mayBeClose word)).map (Candidate.ofName word)
  let close := compared.filter Candidate.isClose
  ((close.mergeSort Candidate.precedes).take 3).map Candidate.name |>.mergeSort Text.le

end Schemata.Suggestion
