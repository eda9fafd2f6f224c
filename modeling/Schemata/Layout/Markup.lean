import Schemata.Layout.Emoji
import Schemata.Layout.Literal
import Schemata.Layout.Style

/-!
Texts with markup: `[name]` opens a style and `[/name]`, or `[/]` for the last one, closes it. A
backslash takes the meaning from the bracket after it, and a name between colons is an emoji. Styles
do not show here, so a text with markup stands for the text without its tags; but they have to be
right.
-/

namespace Schemata.Layout

inductive MarkupError
  /-- A closing tag fits no style that is open. -/
  | unmatched (name : Text)
  /-- A closing tag without a name stands where no style is open. -/
  | nothingOpen
  /-- The parameters of an action are no literal. -/
  | parameters (written : Text)
  | style (defect : StyleDefect)
deriving DecidableEq, Repr

def MarkupError.message : MarkupError → Text
  | unmatched name => "closing tag '[/".toList ++ name ++ "]' doesn't match any open tag".toList
  | nothingOpen => "closing tag '[/]' has nothing to close".toList
  | parameters written => "error parsing ".toList ++ Text.quoted written
  | style defect => defect.message

/-- What a tag says: a name, and perhaps parameters after an equals sign. -/
structure Tag where
  name : Text
  parameters : Option Text
deriving DecidableEq, Repr

namespace Tag

def ofInside (inside : Text) : Tag :=
  let (name, parameters) := inside.span (· != '=')
  match parameters with
  | _ :: parameters => ⟨name, some parameters⟩
  | [] => ⟨name, none⟩

/-- The style that the tag asks for. -/
def style (tag : Tag) : Text :=
  match tag.parameters with
  | some parameters => tag.name ++ ' ' :: parameters
  | none => tag.name

/-- The tag names an action and not a style. -/
def isAction (tag : Tag) : Bool :=
  tag.name.head? = some '@'

end Tag

inductive Piece
  | plain (s : Text)
  | tag (tag : Tag)
deriving DecidableEq, Repr

namespace Markup

/-- A character with which the inside of a tag can begin. -/
def startsTag (c : Char) : Bool :=
  c.isLower || c == '#' || c == '/' || c == '@'

def isBracket (c : Char) : Bool :=
  c == '[' || c == ']'

/-- The inside of the tag whose opening bracket has been read, and what follows the tag. -/
def tagInside : Text → Option (Text × Text)
  | [] => none
  | c :: rest =>
      if startsTag c then
        match rest.dropWhile fun d => !isBracket d with
        | ']' :: left => some (c :: rest.takeWhile fun d => !isBracket d, left)
        | _ => none
      else none

def backslashes (count : Nat) : Text :=
  List.replicate count '\\'

def bracketed (inside : Text) : Text :=
  '[' :: inside ++ [']']

/-- A tag in a text, with the backslashes in front of it. -/
structure Found where
  before : Text
  slashes : Nat
  inside : Text
  after : Text
deriving DecidableEq, Repr

def Found.prepend (s : Text) (found : Found) : Found :=
  { found with before := s ++ found.before }

/-- The first tag of a text behind some backslashes. -/
def findTag (slashes : Nat) : Text → Option Found
  | [] => none
  | c :: rest =>
      if c = '\\' then findTag (slashes + 1) rest
      else
        match if c = '[' then tagInside rest else none with
        | some (inside, after) => some ⟨[], slashes, inside, after⟩
        | none => (findTag 0 rest).map (Found.prepend (backslashes slashes ++ [c]))

theorem length_tagInside {s inside after : Text} (found : tagInside s = some (inside, after)) :
    after.length < s.length := by
  cases s with
  | nil => simp [tagInside] at found
  | cons c rest =>
      have shorter := (List.dropWhile_suffix (l := rest) fun d => !isBracket d).length_le
      simp only [tagInside] at found
      split at found
      · split at found
        · rename_i left ends
          simp only [Option.some.injEq, Prod.mk.injEq] at found
          rw [ends, List.length_cons] at shorter
          rw [List.length_cons, ← found.2]
          omega
        · simp at found
      · simp at found

theorem length_findTag {slashes : Nat} {s : Text} {found : Found}
    (hit : findTag slashes s = some found) : found.after.length < s.length := by
  induction s generalizing slashes found with
  | nil => simp [findTag] at hit
  | cons c rest ih =>
      unfold findTag at hit
      split at hit
      · exact Nat.lt_succ_of_lt (ih hit)
      · split at hit
        · rename_i inside after opened
          split at opened
          · cases hit
            exact Nat.lt_succ_of_lt (length_tagInside opened)
          · simp at opened
        · obtain ⟨further, later, same⟩ := Option.map_eq_some_iff.1 hit
          have shorter := ih later
          rw [← same]
          exact Nat.lt_succ_of_lt shorter

/-- The pieces of a text. Two backslashes before a tag are one that shows; one that is left over
makes the tag plain. -/
def pieces (s : Text) : List Piece :=
  match hit : findTag 0 s with
  | none => [.plain s]
  | some found =>
      let own := if found.slashes % 2 = 0 then .tag (Tag.ofInside found.inside)
        else .plain (bracketed found.inside)
      .plain found.before :: .plain (backslashes (found.slashes / 2)) :: own :: pieces found.after
termination_by s.length
decreasing_by exact length_findTag hit

/-- A backslash before an opening bracket is dropped. -/
def withoutEscapes : Text → Text
  | '\\' :: '[' :: rest => '[' :: withoutEscapes rest
  | c :: rest => c :: withoutEscapes rest
  | [] => []

/-- Characters that move the cursor and are left out. -/
def isControl (c : Char) : Bool :=
  [7, 8, 11, 12, 13].contains c.toNat

/-- How a piece without tags shows. -/
def shownPiece (s : Text) : Text :=
  (withEmoji (withoutEscapes s)).filter fun c => !isControl c

/-- The parameters of an action are a literal, or a name that a literal in brackets may follow. -/
def isCall (parameters : Text) : Bool :=
  let written := Text.trim parameters
  let arguments := written.dropWhile fun c => Text.isWordChar c || c == '.'
  if arguments.isEmpty then true
  else
    Literal.accepts
      (if arguments.head? = some '(' && arguments.getLast? = some ')' && !arguments.contains '\n'
        then arguments else written)

/-- Takes the last tag of a name off the open ones. -/
def close (name : Text) : List Tag → Option (Tag × List Tag)
  | [] => none
  | tag :: rest =>
      if tag.name == name then some (tag, rest)
      else (close name rest).map fun (closed, others) => (closed, tag :: others)

/-- A text without its tags, and the styles that are to be applied to parts of it. -/
structure Marked where
  text : Text := []
  styles : List Text := []
deriving DecidableEq, Repr

def Marked.prepend (s : Text) (marked : Marked) : Marked :=
  { marked with text := s ++ marked.text }

def normalized (style : Text) : Except MarkupError Text :=
  (Style.normalized style).mapError .style

/-- The tag that a closing tag of a written name closes, and those that stay open. -/
def closedBy (written : Text) (opened : List Tag) : Except MarkupError (Tag × List Tag) :=
  if written.isEmpty then
    match opened with
    | tag :: others => return (tag, others)
    | [] => throw .nothingOpen
  else do
    let name ← normalized written
    match close name opened with
    | some closed => return closed
    | none => throw (.unmatched name)

/-- What a tag leaves when it is closed: a style, unless it names an action. -/
def closing (tag : Tag) : Except MarkupError (List Text) :=
  if !tag.isAction then return [tag.style]
  else
    match tag.parameters with
    | some parameters => if isCall parameters then return [] else throw (.parameters parameters)
    | none => return []

/-- The text of pieces under open tags, the last one first. -/
def ofPieces (opened : List Tag) : List Piece → Except MarkupError Marked
  | [] => return { styles := opened.map Tag.style }
  | .plain s :: rest => return (← ofPieces opened rest).prepend (shownPiece s)
  | .tag tag :: rest => do
      match tag.name with
      | '/' :: written =>
          let (closed, others) ← closedBy (Text.trim written) opened
          let styles ← closing closed
          let marked ← ofPieces others rest
          return { marked with styles := styles ++ marked.styles }
      | name => ofPieces ({ tag with name := ← normalized name } :: opened) rest

/-- Reads a text with markup. -/
def read (s : Text) : Except MarkupError Marked :=
  ofPieces [] (pieces s)

/-- Styles are described when they are applied. -/
def Marked.applied (marked : Marked) : Except MarkupError Text := do
  marked.styles.forM fun style => (Style.check style).mapError .style
  return marked.text

/-- The text that a text with markup stands for. -/
def shown (s : Text) : Except MarkupError Text := do
  (← read s).applied

/-- Backslashes before every tag, doubled with the ones that stand there, so that it shows. -/
def escapeTags (s : Text) : Text :=
  match _ : findTag 0 s with
  | none => s
  | some found =>
      found.before ++ backslashes (2 * found.slashes + 1) ++ bracketed found.inside ++
        escapeTags found.after
termination_by s.length
decreasing_by exact length_findTag ‹_›

/-- A text that is to be shown as it is; a single backslash at the end is doubled. -/
def escape (s : Text) : Text :=
  let escaped := escapeTags s
  match escaped.reverse with
  | '\\' :: '\\' :: _ => escaped
  | '\\' :: _ => escaped ++ ['\\']
  | _ => escaped

end Markup

end Schemata.Layout
