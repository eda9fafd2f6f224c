import Schemata.Proofs.Text.Ends
import Schemata.Reader
import Mathlib.Data.List.Forall2

/-!
What a reader reads at the beginning of a text that is known in parts. A sequence follows the preferred
way of its first part as long as the rest can be read from there, and a reader that refuses a text leaves
it to the alternatives.
-/

namespace Schemata

open Text

/-- A stretch up to the end of a text. -/
theorem Span.text_to_end (text : Text) : Span.text ⟨text, []⟩ = text := by
  have whole := Span.text_append text []
  rwa [List.append_nil] at whole

namespace Reader

variable {α β : Type} {reader other : Reader α} {next : α → Reader β} {text left : Text} {a : α}

theorem first_eq_some_iff :
    reader.first text = some (a, left) ↔ ∃ others, reader text = (a, left) :: others :=
  List.head?_eq_some_iff

theorem first_bind {found : β × Text} (one : reader.first text = some (a, left))
    (further : (next a).first left = some found) : (reader >>= next).first text = some found := by
  obtain ⟨others, ways⟩ := first_eq_some_iff.mp one
  obtain ⟨more, onward⟩ := first_eq_some_iff.mp further
  refine first_eq_some_iff.mpr ⟨more ++ others.flatMap fun way => next way.1 way.2, ?_⟩
  rw [bind_ways, ways, List.flatMap_cons, onward]
  rfl

theorem first_pure (a : α) (text : Text) : (pure a : Reader α).first text = some (a, text) := rfl

theorem first_either (one : reader.first text = some (a, left)) :
    (either reader other).first text = some (a, left) := by
  obtain ⟨others, ways⟩ := first_eq_some_iff.mp one
  exact first_eq_some_iff.mpr ⟨others ++ other text, by rw [either, ways]; rfl⟩

theorem first_maybe (one : reader.first text = some (a, left)) :
    (maybe reader).first text = some (some a, left) :=
  first_either (first_bind one (first_pure ..))

theorem first_captured (one : reader.first text = some (a, left)) :
    (captured reader).first text = some (⟨text, left⟩, left) := by
  obtain ⟨others, ways⟩ := first_eq_some_iff.mp one
  exact first_eq_some_iff.mpr ⟨_, by rw [captured, ways, List.map_cons]⟩

/-! ### Refusals -/

/-- No beginning of the text can be read. -/
def Refuses (reader : Reader α) (text : Text) : Prop :=
  reader text = []

namespace Refuses

theorem first (refuses : reader.Refuses text) : reader.first text = none := by
  rw [Reader.first, ways, refuses]
  rfl

theorem accepts (refuses : reader.Refuses text) : reader.accepts text = false := by
  rw [Reader.accepts, refuses.first]
  rfl

theorem bind (refuses : reader.Refuses text) : (reader >>= next).Refuses text := by
  rw [Refuses, bind_ways, refuses]
  rfl

theorem either (refuses : reader.Refuses text) (refuses' : other.Refuses text) :
    (Reader.either reader other).Refuses text := by
  rw [Refuses, Reader.either, refuses, refuses']
  rfl

theorem first_either (refuses : reader.Refuses text) : (Reader.either reader other).first text = other.first text := by
  rw [Reader.first, ways, Reader.either, refuses]
  rfl

theorem first_maybe (refuses : reader.Refuses text) : (maybe reader).first text = some (none, text) :=
  refuses.bind.first_either

theorem first_repeated {reader : Reader Unit} (refuses : reader.Refuses text) :
    reader.repeated.first text = some ((), text) := by
  unfold Reader.first ways repeated
  cases text.length with
  | zero => rfl
  | succ count => exact refuses.bind.first_either

end Refuses

theorem refuses_bind (stuck : ∀ a left, (a, left) ∈ reader text → (next a).Refuses left) :
    (reader >>= next).Refuses text := by
  rw [Refuses, bind_ways, List.flatMap_eq_nil_iff]
  exact fun way member => stuck way.1 way.2 member

theorem bind_bind {γ : Type} (reader : Reader α) (next : α → Reader β) (last : β → Reader γ) :
    (reader >>= next) >>= last = reader >>= fun a => next a >>= last := by
  funext text
  simp only [bind_ways, List.flatMap_assoc]

/-! ### Characters and runs -/

variable {accepted : Char → Bool} {c : Char} {cs rest gap : Text}

theorem first_char (ok : accepted c = true) : (char accepted).first (c :: rest) = some (c, rest) := by
  rw [first, ways, char, if_pos ok]
  rfl

theorem refuses_char (ends : Ends accepted text) : (char accepted).Refuses text := by
  cases text with
  | nil => rfl
  | cons c rest =>
      rw [Refuses, char, ends c rfl]
      rfl

theorem mem_char : (c, left) ∈ char accepted text ↔ accepted c = true ∧ text = c :: left := by
  cases text with
  | nil => simp [char]
  | cons d rest =>
      change (c, left) ∈ (if accepted d then [(d, rest)] else []) ↔ _
      cases ok : accepted d with
      | true =>
          simp only [if_true, List.mem_singleton, Prod.mk.injEq, List.cons.injEq]
          constructor
          · rintro ⟨rfl, rfl⟩
            exact ⟨ok, rfl, rfl⟩
          · rintro ⟨_, rfl, rfl⟩
            exact ⟨rfl, rfl⟩
      | false =>
          simp only [Bool.false_eq_true, if_false, List.not_mem_nil, List.cons.injEq, false_iff]
          rintro ⟨good, rfl, _⟩
          exact absurd good (by rw [ok]; decide)

theorem head?_afterRuns (all : ∀ c ∈ cs, accepted c = true) (ends : Ends accepted left) (others : List Text) :
    (afterRuns accepted (cs ++ left) others).head? = some left := by
  induction cs generalizing others with
  | nil =>
      cases left with
      | nil => rfl
      | cons c rest =>
          rw [List.nil_append, afterRuns, ends c rfl]
          rfl
  | cons c rest ih =>
      rw [List.cons_append, afterRuns, if_pos (all c (List.mem_cons_self ..))]
      exact ih (fun d member => all d (List.mem_cons_of_mem _ member)) _

/-- A run goes on to the first character that it does not accept. -/
theorem first_run (all : ∀ c ∈ cs, accepted c = true) (ends : Ends accepted left) :
    (run accepted).first (cs ++ left) = some ((), left) := by
  rw [first, ways, run, List.head?_map, head?_afterRuns all ends]
  rfl

theorem first_run1 (all : ∀ c ∈ cs, accepted c = true) (some' : cs ≠ []) (ends : Ends accepted left) :
    (run1 accepted).first (cs ++ left) = some ((), left) := by
  obtain ⟨c, more, rfl⟩ := List.exists_cons_of_ne_nil some'
  refine first_bind (first_char (all c (List.mem_cons_self ..))) ?_
  exact first_run (fun d member => all d (List.mem_cons_of_mem _ member)) ends

theorem refuses_run1 (ends : Ends accepted text) : (run1 accepted).Refuses text :=
  (refuses_char ends).bind

theorem first_blanks (blank : ∀ c ∈ gap, isBlank c = true) (ends : Ends isBlank left) :
    blanks.first (gap ++ left) = some ((), left) :=
  first_run blank ends

theorem first_blanks1 (blank : ∀ c ∈ gap, isBlank c = true) (apart : gap ≠ []) (ends : Ends isBlank left) :
    blanks1.first (gap ++ left) = some ((), left) :=
  first_run1 blank apart ends

/-- Blanks may be read up to their end, or up to one of them. -/
theorem ends_of_mem_blanks (member : ((), left) ∈ blanks text) :
    (∃ c ∈ left.head?, isBlank c = true) ∨ left = trimLeft text := by
  obtain ⟨cs, rfl, blank⟩ := mem_run.mp member
  by_cases ends : Ends isBlank left
  · exact .inr (trimLeft_append blank ends).symm
  · simp only [Ends, not_forall, Bool.not_eq_false] at ends
    obtain ⟨c, head, more⟩ := ends
    exact .inl ⟨c, head, more⟩

/-- Nothing can be read behind blanks if neither a blank nor what follows them can be. -/
theorem refuses_blanks {next : Unit → Reader β}
    (solid : ∀ left, (∃ c ∈ left.head?, isBlank c = true) → (next ()).Refuses left)
    (refuses : (next ()).Refuses (trimLeft text)) : (blanks >>= next).Refuses text := by
  refine refuses_bind fun _ left member => ?_
  rcases ends_of_mem_blanks member with more | rfl
  · exact solid left more
  · exact refuses

theorem refuses_blanks1 {next : Unit → Reader β}
    (solid : ∀ left, (∃ c ∈ left.head?, isBlank c = true) → (next ()).Refuses left)
    (refuses : (next ()).Refuses (trimLeft text)) : (blanks1 >>= next).Refuses text := by
  refine refuses_bind fun _ left member => ?_
  obtain ⟨c, mid, begun, more⟩ := mem_bind.mp member
  obtain ⟨blank, rfl⟩ := mem_char.mp begun
  obtain ⟨cs, rfl, all⟩ := mem_run.mp more
  have inside : ((), left) ∈ blanks (c :: (cs ++ left)) := mem_run.mpr ⟨c :: cs, rfl, by simpa [blank] using all⟩
  rcases ends_of_mem_blanks inside with more | last
  · exact solid left more
  · rw [last]
    exact refuses

theorem first_ahead (c : Char) (rest : Text) : (ahead c).first (c :: rest) = some ((), c :: rest) := by
  rw [first, ways, ahead, List.head?_cons, if_pos rfl]
  rfl

theorem refuses_ahead (other : text.head? ≠ some c) : (ahead c).Refuses text := by
  rw [Refuses, ahead, if_neg other]

theorem first_wordEnd (ends : startsWithWord text = false) : wordEnd.first text = some ((), text) := by
  rw [first, ways, wordEnd, ends]
  rfl

theorem refuses_wordEnd (starts : startsWithWord text = true) : wordEnd.Refuses text := by
  rw [Refuses, wordEnd, if_pos starts]

/-! ### Keywords -/

theorem first_keyword (letters rest : Text) : (keyword letters).first (letters ++ rest) = some ((), rest) := by
  induction letters with
  | nil => rfl
  | cons letter letters ih => exact first_bind (first_char (sameLetter_toLower letter letter rfl)) ih

theorem first_exactly (letters rest : Text) : (exactly letters).first (letters ++ rest) = some ((), rest) := by
  induction letters with
  | nil => rfl
  | cons letter letters ih => exact first_bind (first_char (beq_self_eq_true letter)) ih

/-- What the reader reads is made of characters of words, and has a property. -/
def ReadsWord (reader : Reader Unit) (fits : Text → Prop) : Prop :=
  ∀ text left, ((), left) ∈ reader text →
    ∃ read, text = read ++ left ∧ (∀ c ∈ read, isWordChar c = true) ∧ fits read

/-- What is read at the head of a word is a part of it. -/
theorem ReadsWord.exists_more {reader : Reader Unit} {fits : Text → Prop} {word : Text} (reads : reader.ReadsWord fits)
    (ends : Ends isWordChar rest) (member : ((), left) ∈ reader (word ++ rest)) :
    ∃ read more, word = read ++ more ∧ left = more ++ rest ∧ fits read := by
  obtain ⟨read, joined, inWord, fit⟩ := reads _ _ member
  rcases List.append_eq_append_iff.mp joined with ⟨more, rfl, rfl⟩ | ⟨more, rfl, rfl⟩
  · cases more with
    | nil => exact ⟨word, [], by simp, rfl, by simpa using fit⟩
    | cons c more =>
        have inside := inWord c (by simp)
        rw [ends c rfl] at inside
        cases inside
  · exact ⟨read, more, rfl, rfl, fit⟩

/-- A word that is not the one that a reader looks for is refused, although its beginning may be that
word, if what is read next cannot begin inside a word. -/
theorem ReadsWord.refuses {reader : Reader Unit} {fits : Text → Prop} {next : Unit → Reader β} {word : Text}
    (reads : reader.ReadsWord fits) (solid : ∀ left, startsWithWord left = true → (next ()).Refuses left)
    (wordly : ∀ c ∈ word, isWordChar c = true) (ends : Ends isWordChar rest)
    (behind : fits word → (next ()).Refuses rest) : (reader >>= next).Refuses (word ++ rest) := by
  refine refuses_bind fun _ left member => ?_
  obtain ⟨read, more, rfl, rfl, fit⟩ := reads.exists_more ends member
  cases more with
  | nil => exact behind (by simpa using fit)
  | cons c more => exact solid _ (wordly c (by simp))

theorem exactly_readsWord {letters : Text} (wordly : ∀ c ∈ letters, isWordChar c = true) :
    (exactly letters).ReadsWord (· = letters) := by
  have general : ∀ text left, ((), left) ∈ exactly letters text → text = letters ++ left := by
    clear wordly
    induction letters with
    | nil =>
        intro text left member
        exact (Prod.mk.inj (List.mem_singleton.mp member)).2.symm
    | cons letter letters ih =>
        intro text left member
        obtain ⟨c, mid, begun, more⟩ := mem_bind.mp member
        obtain ⟨same, rfl⟩ := mem_char.mp begun
        rw [eq_of_beq same, ih _ _ more]
        rfl
  exact fun text left member => ⟨letters, general text left member, wordly, rfl⟩

theorem isWordChar_of_sameLetter {letter c : Char} (alpha : letter.isAlpha = true)
    (same : sameLetter letter c = true) : isWordChar c = true := by
  have small : isWordChar letter.toLower = true := by
    rw [isWordChar_caseBlind]
    simp [isWordChar, toNat_lt_of_isAlpha alpha, Char.isAlphanum, alpha]
  unfold sameLetter at same
  rw [Bool.or_eq_true, beq_iff_eq] at same
  rcases same with same | special
  · rw [← isWordChar_caseBlind, same]
    exact small
  · split at special
    · simp only [Bool.or_eq_true, beq_iff_eq] at special
      rcases special with rfl | rfl <;> decide
    · rw [beq_iff_eq] at special
      subst special
      decide
    · rw [beq_iff_eq] at special
      subst special
      decide +kernel
    · cases special

theorem keyword_readsWord {letters : Text} (alpha : ∀ c ∈ letters, c.isAlpha = true) :
    (keyword letters).ReadsWord (List.Forall₂ (fun letter c => sameLetter letter c = true) letters) := by
  induction letters with
  | nil =>
      intro text left member
      exact ⟨[], (Prod.mk.inj (List.mem_singleton.mp member)).2.symm, by simp, .nil⟩
  | cons letter letters ih =>
      intro text left member
      obtain ⟨c, mid, begun, more⟩ := mem_bind.mp member
      obtain ⟨same, rfl⟩ := mem_char.mp begun
      obtain ⟨read, rfl, wordly, fits⟩ :=
        ih (fun d inside => alpha d (List.mem_cons_of_mem _ inside)) _ _ more
      refine ⟨c :: read, rfl, ?_, .cons same fits⟩
      simpa [isWordChar_of_sameLetter (alpha letter (List.mem_cons_self ..)) same] using wordly

/-- A text that does not begin a word has no keyword at its beginning. -/
theorem refuses_keyword {letters : Text} (alpha : ∀ c ∈ letters, c.isAlpha = true) (some' : letters ≠ [])
    (ends : Ends isWordChar text) : (keyword letters).Refuses text := by
  refine List.eq_nil_iff_forall_not_mem.mpr fun way member => ?_
  obtain ⟨read, rfl, wordly, fits⟩ := keyword_readsWord alpha _ _ member
  cases fits with
  | nil => exact some' rfl
  | @cons _ c _ read _ _ =>
      have inside := wordly c (List.mem_cons_self ..)
      rw [ends c rfl] at inside
      cases inside

/-! ### What cannot begin inside a word -/

theorem refuses_blanks1_in_word {next : Unit → Reader β} (starts : startsWithWord text = true) :
    (blanks1 >>= next).Refuses text :=
  (refuses_run1 (ends_isBlank_of_word starts)).bind

/-- No parenthesis follows, be it behind blanks. -/
theorem refuses_opening (other : (trimLeft text).head? ≠ some '(') : (blanks >>= fun _ => ahead '(').Refuses text := by
  refine refuses_blanks (fun left blank => refuses_ahead fun opening => ?_) (refuses_ahead other)
  obtain ⟨c, head, blank⟩ := blank
  rw [opening] at head
  cases head
  exact absurd blank (by decide)

theorem refuses_opening_in_word (starts : startsWithWord text = true) :
    (blanks >>= fun _ => ahead '(').Refuses text := by
  refine refuses_opening fun opening => ?_
  rw [trimLeft, (ends_isBlank_of_word starts).dropWhile_eq] at opening
  cases text with
  | nil => cases starts
  | cons c rest =>
      cases opening
      have inside : isWordChar '(' = true := starts
      exact absurd inside (by decide)

/-! ### Searches -/

theorem find_of_first {found : α × Text} (read : reader.first text = some found) :
    reader.find false text = some found := by
  cases text <;> simp [find, read]

theorem find_in_word {word : Text} (wordly : ∀ c ∈ word, isWordChar c = true) (rest : Text) :
    reader.find true (word ++ rest) = reader.find true rest := by
  induction word with
  | nil => rfl
  | cons c word ih =>
      have inside := wordly c (List.mem_cons_self ..)
      have further := ih fun d member => wordly d (List.mem_cons_of_mem _ member)
      simp only [List.cons_append, find, if_true, inside, further]

theorem Refuses.find_word {word : Text} (refuses : reader.Refuses (word ++ rest)) (some' : word ≠ [])
    (wordly : ∀ c ∈ word, isWordChar c = true) : reader.find false (word ++ rest) = reader.find true rest := by
  obtain ⟨c, more, rfl⟩ := List.exists_cons_of_ne_nil some'
  have first := refuses.first
  rw [List.cons_append] at first
  rw [List.cons_append, find, first, wordly c (List.mem_cons_self ..)]
  exact find_in_word (fun d member => wordly d (List.mem_cons_of_mem _ member)) rest

/-- The reader reads nothing but what begins with these letters as a whole word, in either case. -/
def Seeks (reader : Reader α) (letters : Text) : Prop :=
  ∀ word rest, (∀ c ∈ word, isWordChar c = true) → Ends isWordChar rest →
    ¬ List.Forall₂ (fun letter c => sameLetter letter c = true) letters word → reader.Refuses (word ++ rest)

theorem seeks_keyword {letters : Text} {next : Unit → Reader β} (alpha : ∀ c ∈ letters, c.isAlpha = true)
    (solid : ∀ left, startsWithWord left = true → (next ()).Refuses left) :
    (keyword letters >>= next).Seeks letters := fun _ _ wordly ends other =>
  (keyword_readsWord alpha).refuses solid wordly ends fun fits => absurd fits other

namespace Seeks

variable {letters : Text}

theorem bind (seeks : reader.Seeks letters) : (reader >>= next).Seeks letters :=
  fun word rest wordly ends other => (seeks word rest wordly ends other).bind

theorem refuses (seeks : reader.Seeks letters) (some' : letters ≠ []) (ends : Ends isWordChar text) :
    reader.Refuses text := by
  refine seeks [] text (by simp) ends fun fits => ?_
  cases fits
  exact some' rfl

/-- A search passes over a character that is in no word. -/
theorem find_cons (seeks : reader.Seeks letters) (some' : letters ≠ []) (apart : isWordChar c = false)
    (inWord : Bool) (rest : Text) : reader.find inWord (c :: rest) = reader.find false rest := by
  have ends : Ends isWordChar (c :: rest) := by
    intro d member
    cases member
    exact apart
  rw [find, (seeks.refuses some' ends).first, ite_self, apart]

theorem find_nil (seeks : reader.Seeks letters) (some' : letters ≠ []) (inWord : Bool) :
    reader.find inWord [] = none := by
  have ends : Ends isWordChar [] := by
    intro d member
    cases member
  rw [find, (seeks.refuses some' ends).first, ite_self]

end Seeks

end Reader

end Schemata
