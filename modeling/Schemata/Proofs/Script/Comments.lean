import Schemata.Pipeline
import Schemata.Proofs.Script.Pieces

/-!
Comments leave no trace. What is left of a script has no comment mark outside its literals, and a script
without such a mark is left as it is; so to take the comments out of a script beforehand changes nothing
about its schema. The seams are what has to be looked at: where a comment stood, a line end, a space or
the end of the text is left, and none of these completes a mark.
-/

namespace Schemata

namespace Script

variable {mode : Mode} {quote : Option Char} {c : Char} {text left right rest : Text}

def BeginsComment (text : Text) : Prop :=
  ∃ tail, text = '-' :: '-' :: tail ∨ text = '/' :: '*' :: tail

/-- A comment mark stands outside the literals of the text. -/
def HasComment (text : Text) : Prop :=
  ∃ before after, text = before ++ after ∧ quoteAtEnd none before = none ∧ BeginsComment after

theorem not_beginsComment_cons : ¬ BeginsComment (c :: rest) ↔
    (∀ tail, c = '-' → rest = '-' :: tail → False) ∧ ∀ tail, c = '/' → rest = '*' :: tail → False := by
  simp only [BeginsComment, List.cons.injEq]
  grind

theorem marksComment_cons : marksComment quote (c :: rest) = true ↔
    quote = none ∧ BeginsComment (c :: rest) ∨ marksComment (quoteAfter quote c) rest = true := by
  cases quote with
  | some q => simp [marksComment]
  | none =>
      by_cases begins : BeginsComment (c :: rest)
      · obtain ⟨tail, same | same⟩ := id begins
        · simp [begins, show marksComment none (c :: rest) = true by rw [same]; rfl]
        · simp [begins, show marksComment none (c :: rest) = true by rw [same]; rfl]
      · obtain ⟨line, block⟩ := not_beginsComment_cons.mp begins
        rw [marksComment.eq_4 none c rest (fun tail _ => line tail) (fun tail _ => block tail)]
        simp [begins]

theorem marksComment_iff : marksComment none text = true ↔ HasComment text := by
  suffices general : ∀ quote, marksComment quote text = true ↔ ∃ before after, text = before ++ after ∧
      quoteAtEnd quote before = none ∧ BeginsComment after from general none
  intro quote
  induction text generalizing quote with
  | nil => simp [marksComment, BeginsComment]
  | cons c rest ih =>
      rw [marksComment_cons, ih]
      constructor
      · rintro (⟨outside, begins⟩ | ⟨before, after, rfl, outside, begins⟩)
        · exact ⟨[], c :: rest, rfl, outside, begins⟩
        · exact ⟨c :: before, after, rfl, outside, begins⟩
      · rintro ⟨_ | ⟨d, before⟩, after, split, outside, begins⟩
        · exact .inl ⟨outside, split ▸ begins⟩
        · obtain ⟨rfl, rfl⟩ := List.cons.inj split
          exact .inr ⟨before, after, rfl, outside, begins⟩

namespace Mode

/-- The literal that is open. -/
def openQuote : Mode → Option Char
  | literal q => some q
  | _ => none

/-- The mode outside comments, with an open literal or none. -/
def ofQuote : Option Char → Mode
  | some q => literal q
  | none => code

@[simp] theorem openQuote_ofQuote (quote : Option Char) : (ofQuote quote).openQuote = quote := by
  cases quote <;> rfl

theorem ofQuote_quoteAfter_some (q c : Char) :
    (if c = q then code else literal q) = ofQuote (quoteAfter (some q) c) := by
  by_cases closes : c = q <;> simp [quoteAfter, closes, ofQuote]

theorem ofQuote_quoteAfter_none (c : Char) :
    (if isQuote c then literal c else code) = ofQuote (quoteAfter none c) := by
  cases opens : isQuote c <;> simp [quoteAfter, opens, ofQuote]

end Mode

/-- Outside comments, a character that begins none is kept. -/
theorem withoutComments_cons (plain : quote = none → ¬ BeginsComment (c :: rest)) :
    withoutComments (.ofQuote quote) (c :: rest) = c :: withoutComments (.ofQuote (quoteAfter quote c)) rest := by
  cases quote with
  | some q => rw [Mode.ofQuote, withoutComments, Mode.ofQuote_quoteAfter_some]
  | none =>
      obtain ⟨line, block⟩ := not_beginsComment_cons.mp (plain rfl)
      rw [Mode.ofQuote, withoutComments.eq_9 c rest line block, Mode.ofQuote_quoteAfter_none]

/-- A text without a comment mark stays as it is. -/
theorem withoutComments_eq_self (unmarked : marksComment quote text = false) :
    withoutComments (.ofQuote quote) text = text := by
  induction text generalizing quote with
  | nil => rw [withoutComments]
  | cons c rest ih =>
      rw [← Bool.not_eq_true, marksComment_cons, not_or, not_and, Bool.not_eq_true] at unmarked
      rw [withoutComments_cons unmarked.1, ih unmarked.2]

/-- Where a comment stood, a space or a line end is left. -/
theorem head?_withoutComments (text : Text) :
    ∀ c ∈ (withoutComments .code text).head?, c ∈ text.head? ∨ c = ' ' ∨ c = '\n' := by
  suffices general : ∀ mode : Mode, mode.openQuote = none →
      ∀ c ∈ (withoutComments mode text).head?, mode = .code ∧ c ∈ text.head? ∨ c = ' ' ∨ c = '\n' from
    fun c member => (general .code rfl c member).imp_left And.right
  intro mode outside
  fun_induction withoutComments mode text with
  | case1 mode => simp
  | case2 q c rest ih => cases outside
  | case3 rest ih => simp
  | case4 c rest other ih => exact fun d member => .inr ((ih rfl d member).resolve_left (by simp))
  | case5 rest ih => simp
  | case6 c rest other ih => exact fun d member => .inr ((ih rfl d member).resolve_left (by simp))
  | case7 rest ih => exact fun d member => .inr ((ih rfl d member).resolve_left (by simp))
  | case8 rest ih => exact fun d member => .inr ((ih rfl d member).resolve_left (by simp))
  | case9 c rest line block ih => simp

/-- What is left behind a character that begins no comment does not make it begin one. -/
theorem not_beginsComment_withoutComments (plain : ¬ BeginsComment (c :: rest)) :
    ¬ BeginsComment (c :: withoutComments (.ofQuote (quoteAfter none c)) rest) := by
  obtain ⟨line, block⟩ := not_beginsComment_cons.mp plain
  rintro ⟨tail, same | same⟩
  · obtain ⟨rfl, out⟩ := List.cons.inj same
    have head : '-' ∈ (withoutComments .code rest).head? := congrArg List.head? out
    rcases head?_withoutComments rest '-' head with first | other | other
    · obtain ⟨later, split⟩ := List.head?_eq_some_iff.mp first
      exact line later rfl split
    · exact absurd other (by decide)
    · exact absurd other (by decide)
  · obtain ⟨rfl, out⟩ := List.cons.inj same
    have head : '*' ∈ (withoutComments .code rest).head? := congrArg List.head? out
    rcases head?_withoutComments rest '*' head with first | other | other
    · obtain ⟨later, split⟩ := List.head?_eq_some_iff.mp first
      exact block later rfl split
    · exact absurd other (by decide)
    · exact absurd other (by decide)

/-- What is left of a text has no comment mark. -/
theorem marksComment_withoutComments (mode : Mode) (text : Text) :
    marksComment mode.openQuote (withoutComments mode text) = false := by
  have space : ∀ rest, ¬ BeginsComment (' ' :: rest) := by simp [BeginsComment]
  have lineEnd : ∀ rest, ¬ BeginsComment ('\n' :: rest) := by simp [BeginsComment]
  rw [← Bool.not_eq_true]
  fun_induction withoutComments mode text with
  | case1 mode => simp [marksComment]
  | case2 q c rest ih =>
      rw [Mode.ofQuote_quoteAfter_some, Mode.openQuote_ofQuote] at ih
      rw [marksComment_cons, Mode.ofQuote_quoteAfter_some]
      simpa [Mode.openQuote] using ih
  | case3 rest ih => exact fun marked => (marksComment_cons.mp marked).elim (fun begun => lineEnd _ begun.2) ih
  | case4 c rest other ih => exact ih
  | case5 rest ih => exact fun marked => (marksComment_cons.mp marked).elim (fun begun => space _ begun.2) ih
  | case6 c rest other ih => exact ih
  | case7 rest ih => exact ih
  | case8 rest ih => exact ih
  | case9 c rest line block ih =>
      rw [Mode.ofQuote_quoteAfter_none] at ih ⊢
      rw [Mode.openQuote_ofQuote] at ih
      refine fun marked => (marksComment_cons.mp marked).elim (fun begun => ?_) ih
      exact not_beginsComment_withoutComments (not_beginsComment_cons.mpr ⟨line, block⟩) begun.2

theorem not_hasComment_stripComments (text : Text) : ¬ HasComment (stripComments text) := by
  rw [← marksComment_iff, Bool.not_eq_true]
  exact marksComment_withoutComments .code text

theorem stripComments_eq_self_iff : stripComments text = text ↔ ¬ HasComment text := by
  constructor
  · intro same
    rw [← same]
    exact not_hasComment_stripComments text
  · rw [← marksComment_iff, Bool.not_eq_true]
    exact withoutComments_eq_self

theorem stripComments_stripComments (text : Text) : stripComments (stripComments text) = stripComments text :=
  stripComments_eq_self_iff.mpr (not_hasComment_stripComments text)

/-! ### Seams -/

theorem beginsComment_append_cons (apart : c ≠ '-' ∧ c ≠ '*' ∧ c ≠ '/') :
    BeginsComment (left ++ c :: right) ↔ BeginsComment left := by
  obtain ⟨dash, star, slash⟩ := apart
  match left with
  | [] => simp [BeginsComment, dash, slash]
  | [d] => simp [BeginsComment, dash, star]
  | d :: e :: left => simp [BeginsComment, exists_or]

theorem HasComment.append_right (has : HasComment left) (right : Text) : HasComment (left ++ right) := by
  obtain ⟨before, after, rfl, outside, tail, same | same⟩ := has
  · exact ⟨before, after ++ right, by simp, outside, tail ++ right, .inl (by simp [same])⟩
  · exact ⟨before, after ++ right, by simp, outside, tail ++ right, .inr (by simp [same])⟩

theorem HasComment.append_left (has : HasComment right) (closed : quoteAtEnd none left = none) :
    HasComment (left ++ right) := by
  obtain ⟨before, after, rfl, outside, begins⟩ := has
  exact ⟨left ++ before, after, by simp, by rw [quoteAtEnd_append, closed, outside], begins⟩

/-- A character that no mark has keeps the comments before it from those behind it. -/
theorem hasComment_append_cons (apart : c ≠ '-' ∧ c ≠ '*' ∧ c ≠ '/') (unquoted : isQuote c = false)
    (closed : quoteAtEnd none left = none) :
    HasComment (left ++ c :: right) ↔ HasComment left ∨ HasComment right := by
  have through : quoteAtEnd none (left ++ [c]) = none := by
    rw [quoteAtEnd_append, closed]
    simp [quoteAfter, unquoted]
  constructor
  · rintro ⟨before, after, split, outside, begins⟩
    rcases List.append_eq_append_iff.mp split with ⟨later, rfl, rest⟩ | ⟨later, rfl, rest⟩
    · cases later with
      | nil =>
          rw [List.nil_append] at rest
          rw [← rest, ← List.nil_append (c :: right), beginsComment_append_cons apart] at begins
          simp [BeginsComment] at begins
      | cons d later =>
          obtain ⟨rfl, rfl⟩ := List.cons.inj rest
          refine .inr ⟨later, after, rfl, ?_, begins⟩
          rwa [← List.singleton_append, ← List.append_assoc, quoteAtEnd_append, through] at outside
    · rw [rest, beginsComment_append_cons apart] at begins
      exact .inl ⟨before, later, rfl, outside, begins⟩
  · rintro (has | has)
    · exact has.append_right (c :: right)
    · have whole := has.append_left through
      rwa [List.append_assoc] at whole

/-! ### Where a scan stands -/

/-- The literal that is open at the end of what is left is the one that is open in the text. -/
theorem quoteAtEnd_withoutComments (mode : Mode) (text : Text) :
    quoteAtEnd mode.openQuote (withoutComments mode text) = (modeAfter mode text).openQuote := by
  fun_induction withoutComments mode text with
  | case1 mode => rw [modeAfter]; rfl
  | case2 q c rest ih =>
      rw [modeAfter, ← ih, Mode.ofQuote_quoteAfter_some, Mode.openQuote_ofQuote]
      rfl
  | case3 rest ih => exact ih
  | case4 c rest other ih => rw [ih, modeAfter]; exact other
  | case5 rest ih => exact ih
  | case6 c rest other ih => rw [ih, modeAfter]; exact other
  | case7 rest ih => exact ih
  | case8 rest ih => exact ih
  | case9 c rest line block ih =>
      rw [modeAfter.eq_9 c rest line block, ← ih, Mode.ofQuote_quoteAfter_none, Mode.openQuote_ofQuote]
      rfl

theorem append_ne_cons (other : ∀ tail, rest = c :: tail → False) (apart : c ∉ right.head?) (tail : Text) :
    rest ++ right = c :: tail → False := by
  cases rest with
  | nil => exact fun same => apart (congrArg List.head? same)
  | cons d rest =>
      intro same
      obtain ⟨rfl, _⟩ := List.cons.inj same
      exact other rest rfl

/-- A text is freed of comments in two parts, if no mark lies across the seam. -/
theorem withoutComments_append (apart : ∀ c ∈ right.head?, c ≠ '-' ∧ c ≠ '*' ∧ c ≠ '/') (mode : Mode) (left : Text) :
    withoutComments mode (left ++ right) =
      withoutComments mode left ++ withoutComments (modeAfter mode left) right := by
  fun_induction withoutComments mode left with
  | case1 mode => rw [modeAfter]; rfl
  | case2 q c rest ih => rw [List.cons_append, withoutComments, ih, modeAfter]; rfl
  | case3 rest ih => exact congrArg _ ih
  | case4 c rest other ih =>
      rw [List.cons_append, withoutComments, ih, modeAfter]
      · exact other
      · exact other
  | case5 rest ih => exact congrArg _ ih
  | case6 c rest other ih =>
      rw [List.cons_append, withoutComments, ih, modeAfter]
      · exact other
      · exact fun tail star => append_ne_cons (fun later => other later star) (fun first => (apart _ first).2.2 rfl) tail
  | case7 rest ih => exact ih
  | case8 rest ih => exact ih
  | case9 c rest line block ih =>
      -- No comment begins at the last character of the first part, since its second mark would be in the other part.
      have line' := fun tail dash =>
        append_ne_cons (fun later => line later dash) (fun first => (apart _ first).1 rfl) tail
      have block' := fun tail slash =>
        append_ne_cons (fun later => block later slash) (fun first => (apart _ first).2.1 rfl) tail
      rw [List.cons_append, withoutComments.eq_9 c (rest ++ right) line' block', ih,
        modeAfter.eq_9 c rest line block]
      rfl

theorem statements_stripComments (script : Text) : statements (stripComments script) = statements script := by
  rw [statements, statements, stripComments_stripComments]

end Script

open Script

/-- Comments are invisible: what is left of a script has none, a script without any is left as it is, and
the schema with its diagnostics is that of what is left. -/
theorem inferSchema_stripComments (config : Config) (script : Text) :
    stripComments (stripComments script) = stripComments script ∧
      ¬ HasComment (stripComments script) ∧
      (stripComments script = script ↔ ¬ HasComment script) ∧
      inferSchema config (stripComments script) = inferSchema config script := by
  refine ⟨stripComments_stripComments script, not_hasComment_stripComments script, stripComments_eq_self_iff, ?_⟩
  simp only [inferSchema, Pipeline.run, statements_stripComments]

end Schemata
