import Schemata.Text.CaseTable

/-!
Case mappings of whole texts. They are the full ones of Unicode: one character may become
several, and a capital sigma at the end of a word becomes the final form.
-/

namespace Schemata.Text

def lowerChar (c : Char) : Char :=
  if c.toNat < 128 then c.toLower else shifted lowerShifts c

def isCased (c : Char) : Bool :=
  inRanges casedRanges c

def isCaseIgnorable (c : Char) : Bool :=
  inRanges caseIgnorableRanges c

/-- Whether the nearest character that counts for a sigma is a letter with a case. -/
def startsCased (text : Text) : Bool :=
  match text.dropWhile isCaseIgnorable with
  | [] => false
  | c :: _ => isCased c

/-- The lower-case form of `c` between the text before it, the last character first, and the text
that follows. -/
def lowerAt (before : Text) (c : Char) (rest : Text) : Text :=
  if c = 'Σ' then [if startsCased before && !startsCased rest then 'ς' else 'σ']
  else if c = 'İ' then ['i', Char.ofNat 0x307]
  else [lowerChar c]

def lowerFrom (before : Text) : Text → Text
  | [] => []
  | c :: rest => lowerAt before c rest ++ lowerFrom (c :: before) rest

def lower (text : Text) : Text :=
  lowerFrom [] text

def upperChar (c : Char) : Text :=
  if c.toNat < 128 then [c.toUpper]
  else
    match upperExpansions.lookup c.toNat with
    | some codes => codes.map Char.ofNat
    | none => [shifted upperShifts c]

def upper (text : Text) : Text :=
  text.flatMap upperChar

/-- Letters of a keyword are read in either case; the dotless and the dotted capital I, the long
s and the Kelvin sign stand for the letters that they share a case with. -/
def sameLetter (letter c : Char) : Bool :=
  c.toLower == letter.toLower ||
    match letter.toLower with
    | 'i' => c == 'ı' || c == 'İ'
    | 's' => c == 'ſ'
    | 'k' => c == 'K'
    | _ => false

@[simp] theorem upper_nil : upper [] = [] := rfl

@[simp] theorem upper_append (left right : Text) : upper (left ++ right) = upper left ++ upper right := by
  simp [upper]

theorem sameLetter_toLower (letter c : Char) (same : c.toLower = letter.toLower) :
    sameLetter letter c = true := by
  simp [sameLetter, same]

end Schemata.Text
