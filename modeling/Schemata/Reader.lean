import Schemata.Text.Blank
import Schemata.Text.Case
import Schemata.Text.Word

/-!
Recognition with alternatives. A reader lists every way to read a beginning of a text, the
preferred way first, with the text that is left after each. A sequence of readers tries the ways of
its first part in order, so a part may give characters back when what follows does not fit.
-/

namespace Schemata

def Reader (α : Type) := Text → List (α × Text)

/-- A stretch of a text, held as the text from its beginning and the text from its end. -/
structure Span where
  start : Text
  stop : Text
deriving DecidableEq, Repr

/-- What stands between the two ends. -/
def Span.text (span : Span) : Text :=
  span.start.take (span.start.length - span.stop.length)

theorem Span.text_append (cs stop : Text) : Span.text ⟨cs ++ stop, stop⟩ = cs := by
  simp [Span.text]

namespace Reader

variable {α β : Type}

def ways (reader : Reader α) (text : Text) : List (α × Text) :=
  reader text

/-- The preferred way to read a beginning of the text. -/
def first (reader : Reader α) (text : Text) : Option (α × Text) :=
  (reader.ways text).head?

def accepts (reader : Reader α) (text : Text) : Bool :=
  (reader.first text).isSome

protected def pure (a : α) : Reader α := fun text => [(a, text)]

protected def bind (reader : Reader α) (next : α → Reader β) : Reader β := fun text =>
  (reader text).flatMap fun (a, left) => next a left

instance : Monad Reader where
  pure := Reader.pure
  bind := Reader.bind

/-- The ways of the first reader, then those of the second. -/
def either (one other : Reader α) : Reader α := fun text => one text ++ other text

def char (accepted : Char → Bool) : Reader Char
  | [] => []
  | c :: rest => if accepted c then [(c, rest)] else []

/-- What each run of accepted characters at the beginning of a text leaves, the longest run first;
before `others`. -/
def afterRuns (accepted : Char → Bool) : Text → List Text → List Text
  | [], others => [] :: others
  | c :: rest, others =>
      if accepted c then afterRuns accepted rest ((c :: rest) :: others) else (c :: rest) :: others

/-- A run of accepted characters, possibly empty, the longest first. -/
def run (accepted : Char → Bool) : Reader Unit := fun text =>
  (afterRuns accepted text []).map fun left => ((), left)

/-- A run of at least one accepted character, the longest first. -/
def run1 (accepted : Char → Bool) : Reader Unit := do
  let _ ← char accepted
  run accepted

def blanks : Reader Unit :=
  run Text.isBlank

def blanks1 : Reader Unit :=
  run1 Text.isBlank

/-- The part if it can be read, and nothing at all as the second choice. -/
def maybe (reader : Reader α) : Reader (Option α) :=
  either (do return some (← reader)) (Reader.pure none)

/-- Between zero and `count` readings in sequence, as many as possible first. -/
def upTo (reader : Reader Unit) : Nat → Reader Unit
  | 0 => Reader.pure ()
  | count + 1 => either (do reader; upTo reader count) (Reader.pure ())

/-- Any number of readings of a part that is never empty, as many as possible first. -/
def repeated (reader : Reader Unit) : Reader Unit := fun text =>
  reader.upTo text.length text

/-- The stretch of the text that a reader passes over. -/
def captured (reader : Reader α) : Reader Span := fun text =>
  (reader text).map fun (_, left) => (⟨text, left⟩, left)

/-- The rest starts with `c`, which is left there. -/
def ahead (c : Char) : Reader Unit := fun text =>
  if text.head? = some c then [((), text)] else []

/-- No further character of a word follows. -/
def wordEnd : Reader Unit := fun text =>
  if Text.startsWithWord text then [] else [((), text)]

/-- The letters of a keyword, each in either case. -/
def keyword : Text → Reader Unit
  | [] => Reader.pure ()
  | letter :: letters => do
      let _ ← char (Text.sameLetter letter)
      keyword letters

/-- The given characters themselves. -/
def exactly : Text → Reader Unit
  | [] => Reader.pure ()
  | c :: cs => do
      let _ ← char (· == c)
      exactly cs

/-- Two keywords with white space between them. -/
def keywords (one other : Text) : Reader Unit := do
  keyword one
  blanks1
  keyword other

/-- The first reading that begins a word; `inWord` tells whether the text follows a character of a
word. -/
def find (reader : Reader α) (inWord : Bool) : Text → Option (α × Text)
  | [] => if inWord then none else reader.first []
  | c :: rest =>
      match if inWord then none else reader.first (c :: rest) with
      | some found => some found
      | none => find reader (Text.isWordChar c) rest

/-- The readings that follow one another, each begun at the first place after the one before. -/
def scan (reader : Reader α) : Nat → Text → List α
  | 0, _ => []
  | _ + 1, [] => []
  | count + 1, c :: rest =>
      match reader.first (c :: rest) with
      | some (a, left) => a :: scan reader count left
      | none => scan reader count rest

/-- All readings in a text, from left to right and without overlap. -/
def all (reader : Reader α) (text : Text) : List α :=
  reader.scan text.length text

/-- At most `count` steps of a replacement from left to right. -/
def replaceUpTo (reader : Reader α) (replacement : Text) : Nat → Text → Text
  | 0, text => text
  | _ + 1, [] => []
  | count + 1, c :: rest =>
      match reader.first (c :: rest) with
      | some (_, left) => replacement ++ replaceUpTo reader replacement count left
      | none => c :: replaceUpTo reader replacement count rest

/-- The text with each reading replaced, from left to right and without overlap. -/
def replaced (reader : Reader α) (replacement text : Text) : Text :=
  reader.replaceUpTo replacement text.length text

@[simp] theorem pure_ways (a : α) (text : Text) : (pure a : Reader α) text = [(a, text)] := rfl

theorem bind_ways (reader : Reader α) (next : α → Reader β) (text : Text) :
    (reader >>= next) text = (reader text).flatMap fun way => next way.1 way.2 := rfl

theorem mem_bind {reader : Reader α} {next : α → Reader β} {text left : Text} {b : β} :
    (b, left) ∈ (reader >>= next) text ↔
      ∃ a mid, (a, mid) ∈ reader text ∧ (b, left) ∈ next a mid := by
  simp [bind_ways]

theorem mem_either {one other : Reader α} {text : Text} {way : α × Text} :
    way ∈ either one other text ↔ way ∈ one text ∨ way ∈ other text := by
  simp [either]

theorem mem_afterRuns {accepted : Char → Bool} {text left : Text} {others : List Text} :
    left ∈ afterRuns accepted text others ↔
      left ∈ others ∨ ∃ cs, text = cs ++ left ∧ ∀ c ∈ cs, accepted c = true := by
  induction text generalizing others with
  | nil =>
      have ends : left = [] ↔ ∃ cs, [] = cs ++ left ∧ ∀ c ∈ cs, accepted c = true :=
        ⟨fun same => ⟨[], by simp [same]⟩, fun ⟨_, joined, _⟩ => (List.append_eq_nil_iff.1 joined.symm).2⟩
      rw [afterRuns, List.mem_cons, ends, or_comm]
  | cons c rest ih =>
      unfold afterRuns
      split
      · rename_i ok
        rw [ih, List.mem_cons]
        constructor
        · rintro ((rfl | found) | ⟨cs, rfl, good⟩)
          · exact .inr ⟨[], by simp⟩
          · exact .inl found
          · exact .inr ⟨c :: cs, by simp, by simpa [ok] using good⟩
        · rintro (found | ⟨_ | ⟨d, cs⟩, joined, good⟩)
          · exact .inl (.inr found)
          · exact .inl (.inl joined.symm)
          · obtain ⟨rfl, rfl⟩ := List.cons.inj joined
            exact .inr ⟨cs, rfl, fun e inside => good e (List.mem_cons_of_mem _ inside)⟩
      · rename_i refused
        rw [List.mem_cons]
        constructor
        · rintro (rfl | found)
          · exact .inr ⟨[], by simp⟩
          · exact .inl found
        · rintro (found | ⟨_ | ⟨d, cs⟩, joined, good⟩)
          · exact .inr found
          · exact .inl joined.symm
          · obtain ⟨rfl, rfl⟩ := List.cons.inj joined
            exact absurd (good c (by simp)) refused

/-- A run may end after any of its characters. -/
theorem mem_run {accepted : Char → Bool} {text left : Text} :
    ((), left) ∈ run accepted text ↔ ∃ cs, text = cs ++ left ∧ ∀ c ∈ cs, accepted c = true := by
  simp [run, mem_afterRuns]

end Reader

end Schemata
