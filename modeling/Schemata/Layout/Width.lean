import Schemata.Layout.WidthTable

/-!
The columns that a text takes on a screen of fixed-width cells. A joiner shows the character after
it together with the one before it, and the emoji selector makes some pictographs wide. A text is
cut only between clusters: a character, and what is shown together with it.
-/

namespace Schemata.Layout

/-- The zero-width joiner. -/
def joiner : Char := '\u200d'

/-- The variation selector that asks for the emoji form of the character before it. -/
def emojiSelector : Char := '\ufe0f'

def charWidth (c : Char) : Nat :=
  if c.toNat < 0x20 then 0
  else if c.toNat < 0x7f then 1
  else if c.toNat < 0xa0 then 0
  else if Text.inRanges zeroWidthRanges c then 0
  else if Text.inRanges wideRanges c then 2
  else 1

/-- What the emoji selector adds to a character. -/
def widening (c : Option Char) : Nat :=
  if c.any (Text.inRanges widenedRanges) then 1 else 0

/-- The columns of a text behind the last character that took some. -/
def widthFrom (measured : Option Char) : Text → Nat
  | [] => 0
  | c :: rest =>
      if c = joiner then
        match rest with
        | [] => 0
        | _ :: others => widthFrom measured others
      else if c = emojiSelector then widening measured + widthFrom none rest
      else
        let own := charWidth c
        own + widthFrom (if own = 0 then measured else some c) rest

def width (s : Text) : Nat :=
  widthFrom none s

/-- The columns of parts that stand side by side. -/
def total (widths : List Nat) : Nat :=
  widths.foldr (· + ·) 0

def blanks (count : Nat) : Text :=
  List.replicate count ' '

/-- A character with what is shown together with it. -/
structure Cluster where
  text : Text
  width : Nat
deriving DecidableEq, Repr

namespace Cluster

/-- Puts characters behind the last of the clusters, which are given with the last one first. -/
def attach (more : Text) (added : Nat) : List Cluster → List Cluster
  | [] => [⟨more, added⟩]
  | cluster :: others => ⟨cluster.text ++ more, cluster.width + added⟩ :: others

end Cluster

/-- Adds the clusters of a text to those before it, the last one first. -/
def clustersFrom (measured : Option Char) (before : List Cluster) : Text → List Cluster
  | [] => before
  | c :: rest =>
      if c = joiner && !before.isEmpty then
        match rest with
        | [] => Cluster.attach [c] 0 before
        | d :: others => clustersFrom measured (Cluster.attach [c, d] 0 before) others
      else if c = emojiSelector && !before.isEmpty then
        clustersFrom none (Cluster.attach [c] (widening measured) before) rest
      else
        let own := charWidth c
        if own = 0 then clustersFrom measured (Cluster.attach [c] 0 before) rest
        else clustersFrom (some c) (⟨[c], own⟩ :: before) rest

def clusters (s : Text) : List Cluster :=
  (clustersFrom none [] s).reverse

/-- The clusters that fit into `room` columns. One that goes beyond the last column leaves a
blank. -/
def fittingClusters : Nat → List Cluster → Text
  | _, [] => []
  | 0, _ => []
  | room + 1, cluster :: rest =>
      if cluster.width ≤ room + 1 then
        cluster.text ++ fittingClusters (room + 1 - cluster.width) rest
      else [' ']

/-- Blanks after a text up to `room` columns. -/
def padded (room : Nat) (s : Text) : Text :=
  s ++ blanks (room - width s)

/-- A text cut or padded to `room` columns. -/
def fitted (room : Nat) (s : Text) : Text :=
  if width s ≤ room then padded room s else fittingClusters room (clusters s)

end Schemata.Layout
