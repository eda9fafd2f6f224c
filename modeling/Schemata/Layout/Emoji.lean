import Schemata.Layout.EmojiTable
import Schemata.Text.Case

/-!
Emoji by name: a code of a name between colons stands for the emoji of that name, in either case.
An ending asks for its form as text or as a picture. Colons round anything else show as they are.
-/

namespace Schemata.Layout

/-- The endings of a name, and the variation selector that each adds. -/
def variants : List (Text × Char) :=
  [("-text".toList, '\ufe0e'), ("-emoji".toList, '\ufe0f')]

/-- The emoji that the inside of a code names. -/
def emojiOf? (code : Text) : Option Text :=
  match variants.find? fun variant => variant.1.isSuffixOf code with
  | some (ending, selector) =>
      (emoji.lookup (Text.lower (code.take (code.length - ending.length)))).map (· ++ [selector])
  | none => emoji.lookup (Text.lower code)

def shownCode (code : Text) : Text :=
  (emojiOf? code).getD (':' :: code ++ [':'])

/-- The parts of a text between its colons, put together with the codes among them shown. A part
with white space in it is no code. -/
def showCodes : List Text → Text
  | [] => []
  | [only] => only
  | [first, last] => first ++ ':' :: last
  | first :: code :: next :: rest =>
      if code.any Text.isBlank then first ++ ':' :: showCodes (code :: next :: rest)
      else first ++ shownCode code ++ showCodes (next :: rest)

/-- A text with its emoji in place of their codes. -/
def withEmoji (s : Text) : Text :=
  showCodes (s.splitOn ':')

end Schemata.Layout
