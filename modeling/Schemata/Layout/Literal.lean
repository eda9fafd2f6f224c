import Schemata.Text.CodePoint
import Schemata.Text.Digits
import Schemata.Text.Integer
import Schemata.Text.Word

/-!
Literals, which give the actions of a markup their parameters: numbers, texts and bytes in quotes,
truth values, and tuples, sets and dictionaries of literals. A literal is first cut into tokens and
then recognised; only whether a text is a literal matters here, not its value.
-/

namespace Schemata.Layout.Literal

inductive Token
  /-- A number without a sign. -/
  | number (imaginary : Bool)
  | quoted (bytes : Bool)
  | word (name : Text)
  | mark (c : Char)
  | dots
  /-- The end of a line outside of all brackets. -/
  | lineEnd
deriving DecidableEq, Repr

/-! ### Numbers -/

/-- Digits with single underscores between them, and what follows. -/
def digitRun (isDigit : Char → Bool) : Text → Text × Text
  | [] => ([], [])
  | c :: rest =>
      if isDigit c then
        let (digits, left) := digitRun isDigit rest
        (c :: digits, left)
      else
        match c, rest with
        | '_', d :: others =>
            if isDigit d then
              let (digits, left) := digitRun isDigit others
              (d :: digits, left)
            else ([], c :: rest)
        | _, _ => ([], c :: rest)

/-- A run that begins with a digit, if there is one. -/
def decimalRun (s : Text) : Text × Text :=
  if s.head?.any Char.isDigit then digitRun Char.isDigit s else ([], s)

/-- The digits of the base that a letter after a zero marks. -/
def baseDigits? (letter : Char) : Option (Char → Bool) :=
  match letter.toLower with
  | 'x' => some Text.isHexDigit
  | 'o' => some fun c => '0' ≤ c && c ≤ '7'
  | 'b' => some fun c => c == '0' || c == '1'
  | _ => none

/-- What follows an exponent, or the text itself without one. -/
def afterExponent (s : Text) : Bool × Text :=
  match s with
  | e :: rest =>
      let unsigned := match rest with
        | '+' :: more => more
        | '-' :: more => more
        | _ => rest
      match e.toLower, decimalRun unsigned with
      | 'e', (_ :: _, left) => (true, left)
      | _, _ => (false, s)
  | [] => (false, s)

/-- A number in decimal digits. Without a fraction and an exponent it may not begin with a zero,
unless it is zero, and its digits are limited. -/
def decimal (s : Text) : Option (Token × Text) :=
  let (whole, left) := decimalRun s
  let (pointed, fraction, left) : Bool × Text × Text := match left with
    | '.' :: more => let (fraction, left) := decimalRun more; (true, fraction, left)
    | _ => (false, [], left)
  if whole.isEmpty && fraction.isEmpty then none
  else
    let (raised, left) := afterExponent left
    match left with
    | 'j' :: more => some (.number true, more)
    | 'J' :: more => some (.number true, more)
    | _ =>
        let isWhole := !pointed && !raised
        if isWhole && (Text.digitLimit < whole.length ||
            (whole.head? = some '0' && whole.any (· != '0'))) then none
        else some (.number false, left)

def number (s : Text) : Option (Token × Text) :=
  match s with
  | '0' :: letter :: rest =>
      match baseDigits? letter with
      | some isDigit =>
          match digitRun isDigit rest with
          | (_ :: _, left) => some (.number false, left)
          | ([], _) => none
      | none => decimal s
  | _ => decimal s

/-! ### Texts in quotes -/

/-- Letters before a quote: whether bytes are quoted, and whether backslashes stand for
themselves. -/
def quoteForm? (letters : Text) : Option (Bool × Bool) :=
  match String.ofList (letters.map Char.toLower) with
  | "" | "u" => some (false, false)
  | "r" => some (false, true)
  | "b" => some (true, false)
  | "br" | "rb" => some (true, true)
  | _ => none

def isLineBreak (c : Char) : Bool :=
  c == '\n' || c == '\r'

/-- The inside of a text in quotes, and what follows the closing ones. In single quotes a line
break needs a backslash before it. -/
def quotedInside (quote : Char) (triple : Bool) : Text → Option (Text × Text)
  | [] => none
  | '\\' :: c :: rest => do
      let (inside, left) ← quotedInside quote triple rest
      return ('\\' :: c :: inside, left)
  | c :: rest =>
      if c = quote && !triple then some ([], rest)
      else if c = quote && [quote, quote].isPrefixOf rest then some ([], rest.drop 2)
      else if isLineBreak c && !triple then none
      else do
        let (inside, left) ← quotedInside quote triple rest
        return (c :: inside, left)

/-- Hexadecimal digits, so many and not beyond the code points. -/
def startsCode (count : Nat) (s : Text) : Bool :=
  let digits := s.take count
  digits.length = count && digits.all Text.isHexDigit && Text.inBase 16 digits ≤ 0x10ffff

/-- A name of a character in braces. -/
def startsName : Text → Bool
  | '\x7b' :: rest =>
      let (name, left) := rest.span fun c => c.isAlphanum || c == ' ' || c == '-'
      !name.isEmpty && left.head? = some '\x7d'
  | _ => false

/-- Escapes with codes are complete; other escapes always are. -/
def escapesComplete (bytes : Bool) : Text → Bool
  | [] => true
  | '\\' :: c :: rest =>
      (if c = 'x' then startsCode 2 rest
       else if bytes then true
       else if c = 'u' then startsCode 4 rest
       else if c = 'U' then startsCode 8 rest
       else if c = 'N' then startsName rest
       else true) && escapesComplete bytes rest
  | _ :: rest => escapesComplete bytes rest

/-- A text or bytes in quotes, from the first quote on. -/
def quotedToken (bytes raw : Bool) (s : Text) : Option (Token × Text) :=
  match s with
  | quote :: rest => do
      let triple := [quote, quote].isPrefixOf rest
      let (inside, left) ← quotedInside quote triple (if triple then rest.drop 2 else rest)
      if bytes && inside.any (128 ≤ ·.toNat) then none
      else if raw || escapesComplete bytes inside then some (.quoted bytes, left)
      else none
  | [] => none

/-! ### Tokens -/

def isQuote (c : Char) : Bool :=
  c == '\'' || c == '"'

def isOpening (c : Char) : Bool :=
  c == '(' || c == '\x7b'

def isClosing (c : Char) : Bool :=
  c == ')' || c == '\x7d'

def startsNumber (s : Text) : Bool :=
  match s with
  | '.' :: c :: _ => c.isDigit
  | c :: _ => c.isDigit
  | [] => false

/-- The token at the beginning of a text. -/
def token (s : Text) : Option (Token × Text) :=
  if startsNumber s then number s
  else if "...".toList.isPrefixOf s then some (.dots, s.drop 3)
  else
    let (name, left) := s.span Text.isWordChar
    if left.head?.any isQuote then do
      let (bytes, raw) ← quoteForm? name
      quotedToken bytes raw left
    else if !name.isEmpty then some (.word name, left)
    else
      match s with
      | c :: rest =>
          if isOpening c || isClosing c || "+-,:".toList.contains c then some (.mark c, rest) else none
      | [] => none

/-- The most brackets that are open at a time. -/
def nestingLimit : Nat := 200

/-- The tokens of a text inside of `nesting` brackets. A line break inside of brackets, a comment,
and a line break after a backslash do not count. -/
def tokens : Nat → Nat → Text → Option (List Token)
  | 0, _, _ => none
  | _ + 1, _, [] => some []
  | count + 1, nesting, c :: rest =>
      if c = ' ' || c = '\t' || c = '\x0c' then tokens count nesting rest
      else if c = '#' then tokens count nesting (rest.dropWhile fun d => !isLineBreak d)
      else if isLineBreak c then do
        let more ← tokens count nesting rest
        return if nesting = 0 then .lineEnd :: more else more
      else if c = '\\' then
        if rest.head?.any isLineBreak then tokens count nesting (rest.drop 1) else none
      else do
        let (token, left) ← token (c :: rest)
        let inner := if isOpening c then nesting + 1 else if isClosing c then nesting - 1 else nesting
        if nestingLimit < inner then none
        else return token :: (← tokens count inner left)

/-! ### Structure -/

/-- What a part of a literal is, as far as the parts round it depend on that. -/
inductive Kind
  /-- A number without a sign. -/
  | number (imaginary : Bool)
  /-- A real number with a sign. -/
  | signed
  /-- Anything else; only what cannot change may be a member or a key. -/
  | other (fixed : Bool)
deriving DecidableEq, Repr

def Kind.isFixed : Kind → Bool
  | .other fixed => fixed
  | _ => true

/-- Further quoted texts join the one before them; they are all texts, or all bytes. -/
def joinQuoted (bytes : Bool) : List Token → Option (List Token)
  | .quoted more :: rest => if more = bytes then joinQuoted bytes rest else none
  | rest => some rest

def withSign : Kind → Option Kind
  | .number false => some .signed
  | .number true => some (.other true)
  | _ => none

/-- A real number and an imaginary one make a sum. -/
def sum : Kind → Kind → Option Kind
  | .number false, .number true => some (.other true)
  | .signed, .number true => some (.other true)
  | _, _ => none

def isSignMark : Token → Bool
  | .mark c => c == '+' || c == '-'
  | _ => false

/-- Whether parts are fixed, whether there is just one, and whether a comma follows the last. -/
structure Listed where
  fixed : Bool
  kind : Kind
  single : Bool

mutual

/-- One part that is not a sum and has no sign. -/
def atom : Nat → List Token → Option (Kind × List Token)
  | 0, _ => none
  | _ + 1, [] => none
  | count + 1, first :: rest =>
      match first with
      | .number imaginary => some (.number imaginary, rest)
      | .quoted bytes => do return (.other true, ← joinQuoted bytes rest)
      | .dots => some (.other true, rest)
      | .word name =>
          if ["True".toList, "False".toList, "None".toList].contains name then
            some (.other true, rest)
          else if name = "set".toList && [Token.mark '(', .mark ')'].isPrefixOf rest then
            some (.other false, rest.drop 2)
          else none
      | .mark '(' =>
          match rest with
          | .mark ')' :: left => some (.other true, left)
          | _ => do
              let (listed, left) ← parts count rest
              match left with
              | .mark ')' :: left =>
                  return (if listed.single then listed.kind else .other listed.fixed, left)
              | _ => none
      | .mark '\x7b' =>
          match rest with
          | .mark '\x7d' :: left => some (.other false, left)
          | _ => do
              let (member, left) ← part count rest
              if !member.isFixed then none
              else
                match left with
                | .mark ':' :: left => do
                    let (_, left) ← part count left
                    return (.other false, ← entries count left)
                | _ => return (.other false, ← members count left)
      | _ => none

/-- An atom, perhaps with a sign. -/
def signedAtom : Nat → List Token → Option (Kind × List Token)
  | 0, _ => none
  | _ + 1, [] => none
  | count + 1, first :: rest =>
      if isSignMark first then do
        let (kind, left) ← atom count rest
        return (← withSign kind, left)
      else atom count (first :: rest)

/-- A part, perhaps a sum. -/
def part : Nat → List Token → Option (Kind × List Token)
  | 0, _ => none
  | count + 1, tokens => do
      let (kind, left) ← signedAtom count tokens
      match left with
      | next :: rest =>
          if isSignMark next then do
            let (other, left) ← atom count rest
            return (← sum kind other, left)
          else return (kind, left)
      | [] => return (kind, left)

/-- Parts with commas between them, and perhaps one after the last. -/
def parts : Nat → List Token → Option (Listed × List Token)
  | 0, _ => none
  | count + 1, tokens => do
      let (kind, left) ← part count tokens
      match left with
      | .mark ',' :: rest =>
          match rest with
          | [] => return (⟨kind.isFixed, kind, false⟩, rest)
          | .mark ')' :: _ => return (⟨kind.isFixed, kind, false⟩, rest)
          | .lineEnd :: _ => return (⟨kind.isFixed, kind, false⟩, rest)
          | _ =>
              let (listed, left) ← parts count rest
              return (⟨kind.isFixed && listed.fixed, kind, false⟩, left)
      | _ => return (⟨kind.isFixed, kind, true⟩, left)

/-- The further members of a set up to its end. -/
def members : Nat → List Token → Option (List Token)
  | 0, _ => none
  | count + 1, tokens =>
      match tokens with
      | .mark '\x7d' :: left => some left
      | .mark ',' :: .mark '\x7d' :: left => some left
      | .mark ',' :: rest => do
          let (member, left) ← part count rest
          if member.isFixed then members count left else none
      | _ => none

/-- The further entries of a dictionary up to its end. -/
def entries : Nat → List Token → Option (List Token)
  | 0, _ => none
  | count + 1, tokens =>
      match tokens with
      | .mark '\x7d' :: left => some left
      | .mark ',' :: .mark '\x7d' :: left => some left
      | .mark ',' :: rest => do
          let (key, left) ← part count rest
          match left with
          | .mark ':' :: left =>
              let (_, left) ← part count left
              if key.isFixed then entries count left else none
          | _ => none
      | _ => none

end

/-- A text is a literal; at its end there may be line breaks. -/
def accepts (s : Text) : Bool :=
  if s.any Text.standsForHalf then false
  else
    match tokens (s.length + 1) 0 s with
    | none => false
    | some tokens =>
        let tokens := tokens.dropWhile (· = .lineEnd)
        match parts (4 * tokens.length + 4) tokens with
        | some (_, left) => left.all (· = .lineEnd)
        | none => false

end Schemata.Layout.Literal
