import Schemata.Layout.Color

/-!
Styles of text: effects that are switched on or off, a color, a background and a link. Styles of
the same effect have one normal form.
-/

namespace Schemata.Layout

inductive Effect
  | bold
  | dim
  | italic
  | underline
  | blink
  | blink2
  | reverse
  | conceal
  | strike
  | underline2
  | frame
  | encircle
  | overline
deriving DecidableEq, Repr

namespace Effect

/-- In the order of the normal form. -/
def all : List Effect :=
  [bold, dim, italic, underline, blink, blink2, reverse, conceal, strike, underline2, frame,
    encircle, overline]

def label : Effect → Text
  | bold => "bold".toList
  | dim => "dim".toList
  | italic => "italic".toList
  | underline => "underline".toList
  | blink => "blink".toList
  | blink2 => "blink2".toList
  | reverse => "reverse".toList
  | conceal => "conceal".toList
  | strike => "strike".toList
  | underline2 => "underline2".toList
  | frame => "frame".toList
  | encircle => "encircle".toList
  | overline => "overline".toList

/-- The short word for an effect, if it has one. -/
def abbreviation : Effect → Text
  | bold => ['b']
  | dim => ['d']
  | italic => ['i']
  | underline => ['u']
  | reverse => ['r']
  | conceal => ['c']
  | strike => ['s']
  | underline2 => "uu".toList
  | overline => ['o']
  | _ => []

def ofWord? (word : Text) : Option Effect :=
  all.find? fun effect => effect.label = word || effect.abbreviation = word

end Effect

structure Style where
  /-- What the effects are switched to, the last setting first. -/
  settings : List (Effect × Bool) := []
  color : Option Text := none
  background : Option Text := none
  link : Option Text := none
deriving DecidableEq, Repr

namespace Style

def set (effect : Effect) (on : Bool) (style : Style) : Style :=
  { style with settings := (effect, on) :: style.settings }

def effectWords (style : Style) (effect : Effect) : List Text :=
  match style.settings.lookup effect with
  | some true => [effect.label]
  | some false => ["not".toList, effect.label]
  | none => []

/-- The normal form. -/
def text (style : Style) : Text :=
  let words := Effect.all.flatMap style.effectWords ++ style.color.toList ++
    style.background.toList.flatMap (fun color => ["on".toList, color]) ++
    style.link.toList.flatMap fun address => ["link".toList, address]
  if words.isEmpty then "none".toList else List.intercalate [' '] words

/-- Adds what words say to a style. -/
def ofWords (style : Style) : List Text → Except StyleDefect Style
  | [] => return style
  | written :: rest => do
      let word := Text.lower written
      if word = "on".toList then
        match rest with
        | [] => throw .malformed
        | color :: others => ofWords { style with background := some (← Color.read color) } others
      else if word = "not".toList then
        match rest with
        | [] => throw .malformed
        | name :: others =>
            match Effect.ofWord? name with
            | some effect => ofWords (style.set effect false) others
            | none => throw .malformed
      else if word = "link".toList then
        match rest with
        | [] => throw .malformed
        | address :: others => ofWords { style with link := some address } others
      else
        match Effect.ofWord? word with
        | some effect => ofWords (style.set effect true) rest
        | none => ofWords { style with color := some (← Color.read word) } rest

/-- The style that a text describes. -/
def ofText (written : Text) : Except StyleDefect Style :=
  if Text.trim written = "none".toList then return {} else ofWords {} (Text.words written)

/-- The normal form of a style; a text that describes none stands for itself. -/
def normalized (written : Text) : Except StyleDefect Text :=
  match ofText written with
  | .ok style => return style.text
  | .error .malformed => return Text.lower (Text.trim written)
  | .error defect => throw defect

/-- The description can be applied: it describes a style, or none that matters. -/
def check (written : Text) : Except StyleDefect Unit := do
  let _ ← normalized written

end Style

end Schemata.Layout
