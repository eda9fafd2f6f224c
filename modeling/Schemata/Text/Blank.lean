import Schemata.Text.Range

/-!
White space: trimming, splitting into words, and the one-line excerpt that diagnostics show.
-/

namespace Schemata.Text

def blankCodes : List Nat :=
  [0x09, 0x0a, 0x0b, 0x0c, 0x0d, 0x1c, 0x1d, 0x1e, 0x1f, 0x20, 0x85, 0xa0, 0x1680, 0x2000, 0x2001,
   0x2002, 0x2003, 0x2004, 0x2005, 0x2006, 0x2007, 0x2008, 0x2009, 0x200a, 0x2028, 0x2029, 0x202f,
   0x205f, 0x3000]

/-- White space in the sense of Unicode, the four ASCII information separators included. -/
def isBlank (c : Char) : Bool :=
  blankCodes.contains c.toNat

def trimLeft (text : Text) : Text :=
  text.dropWhile isBlank

def trimRight (text : Text) : Text :=
  (text.reverse.dropWhile isBlank).reverse

def trim (text : Text) : Text :=
  trimRight (trimLeft text)

/-- The maximal runs of characters that are not blank. -/
def words (text : Text) : List Text :=
  (text.splitOnP isBlank).filter fun word => !word.isEmpty

/-- The words with one space between neighbours. -/
def collapse (text : Text) : Text :=
  [' '].intercalate (words text)

/-- The first `count` characters; a negative count leaves out that many at the end. -/
def leading (count : Int) (text : Text) : Text :=
  if 0 ≤ count then text.take count.toNat else text.take (text.length - (-count).toNat)

/-- The text on one line, cut to `limit` characters of which the last three are then dots. -/
def excerpt (limit : Int) (text : Text) : Text :=
  let line := collapse text
  if (line.length : Int) ≤ limit then line else leading (limit - 3) line ++ "...".toList

theorem excerpt_eq_collapse {limit : Int} {text : Text}
    (short : ((collapse text).length : Int) ≤ limit) : excerpt limit text = collapse text := by
  simp [excerpt, short]

theorem excerpt_eq_take (limit : Nat) {text : Text} (long : limit + 3 < (collapse text).length) :
    excerpt (limit + 3) text = (collapse text).take limit ++ "...".toList := by
  have cut : ¬ ((collapse text).length : Int) ≤ limit + 3 := by omega
  have kept : ((limit : Int) + 3 - 3).toNat = limit := by omega
  have nonnegative : (0 : Int) ≤ limit + 3 - 3 := by omega
  rw [excerpt, if_neg cut, leading, if_pos nonnegative, kept]

theorem length_excerpt_le {limit : Int} (room : 3 ≤ limit) (text : Text) :
    ((excerpt limit text).length : Int) ≤ limit := by
  unfold excerpt
  dsimp only
  split
  · assumption
  · have nonnegative : 0 ≤ limit - 3 := by omega
    have cut := List.length_take_le (limit - 3).toNat (collapse text)
    simp only [leading, nonnegative, if_true, List.length_append]
    have dots : "...".toList.length = 3 := rfl
    omega

end Schemata.Text
