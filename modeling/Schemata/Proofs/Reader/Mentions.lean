import Schemata.Proofs.Reader.Settled

/-!
What a text mentions: a reading that begins a word of it. A mark at which a reader stops, and which is in no
word, cuts a text into two that mention what the whole text mentions.
-/

namespace Schemata.Reader

open Text

variable {α β : Type} {reader other : Reader α} {next : α → Reader β} {text left rest : Text} {mark : Char}

theorem accepts_iff : reader.accepts text = true ↔ ∃ way, way ∈ reader text := by
  refine ⟨fun accepted => ?_, fun ⟨way, member⟩ => accepts_of_mem member⟩
  obtain ⟨way, found⟩ := Option.isSome_iff_exists.mp accepted
  exact ⟨way, List.mem_of_mem_head? found⟩

/-- What the reader reads begins a word somewhere in the text. -/
def Mentions (reader : Reader α) (text : Text) : Prop :=
  ∃ before rest, text = before ++ rest ∧ Ends isWordChar before.reverse ∧ reader.accepts rest = true

theorem isSome_find (inWord : Bool) (text : Text) : (reader.find inWord text).isSome = true ↔
    ∃ before rest, text = before ++ rest ∧ (before = [] → inWord = false) ∧ Ends isWordChar before.reverse ∧
      reader.accepts rest = true := by
  -- What stands before the text matters for its first place only, so the rest is searched for any `inWord`.
  induction text generalizing inWord with
  | nil =>
      constructor
      · intro found
        cases inWord with
        | true => cases found
        | false => exact ⟨[], [], rfl, fun _ => rfl, ends_nil, found⟩
      · rintro ⟨before, rest, split, free, _, accepted⟩
        obtain ⟨rfl, rfl⟩ := List.append_eq_nil_iff.mp split.symm
        rw [find, free rfl]
        exact accepted
  | cons c text ih =>
      rw [find]
      cases here : (if inWord then none else reader.first (c :: text)) with
      | some found =>
          refine iff_of_true rfl ⟨[], c :: text, rfl, fun _ => ?_, ends_nil, ?_⟩
          · cases inWord with
            | false => rfl
            | true => cases here
          · cases inWord with
            | false => exact Option.isSome_iff_exists.mpr ⟨found, here⟩
            | true => cases here
      | none =>
          rw [ih]
          constructor
          · rintro ⟨before, rest, rfl, free, clear, accepted⟩
            exact ⟨c :: before, rest, rfl, fun empty => absurd empty (List.cons_ne_nil _ _),
              ends_reverse_cons.mpr ⟨free, clear⟩, accepted⟩
          · rintro ⟨before, rest, split, free, clear, accepted⟩
            cases before with
            | nil =>
                obtain rfl : c :: text = rest := split
                rw [free rfl, if_neg Bool.false_ne_true] at here
                rw [accepts, here] at accepted
                cases accepted
            | cons d before =>
                obtain ⟨rfl, rfl⟩ := List.cons.inj split
                obtain ⟨free, clear⟩ := ends_reverse_cons.mp clear
                exact ⟨before, rest, rfl, free, clear, accepted⟩

/-- A search that begins outside of words finds what the text mentions. -/
theorem isSome_find_iff : (reader.find false text).isSome = true ↔ reader.Mentions text := by
  rw [isSome_find]
  simp only [implies_true, true_and, Mentions]

instance : Decidable (reader.Mentions text) :=
  decidable_of_iff _ isSome_find_iff

theorem find_eq_none_iff : reader.find false text = none ↔ ¬ reader.Mentions text := by
  rw [← isSome_find_iff]
  simp

/-- What a search finds is read at some place of the text. -/
theorem exists_of_find {inWord : Bool} {found : α × Text} (search : reader.find inWord text = some found) :
    ∃ before rest, text = before ++ rest ∧ found ∈ reader rest := by
  have of_first : ∀ {inWord : Bool} {text : Text}, (if inWord then none else reader.first text) = some found →
      found ∈ reader text := by
    intro inWord text read
    cases inWord with
    | true => cases read
    | false => exact List.mem_of_mem_head? read
  induction text generalizing inWord with
  | nil => exact ⟨[], [], rfl, of_first search⟩
  | cons c text ih =>
      rw [find] at search
      cases here : (if inWord then none else reader.first (c :: text)) with
      | some way =>
          rw [here] at search
          obtain rfl := Option.some.inj search
          exact ⟨[], c :: text, rfl, of_first here⟩
      | none =>
          rw [here] at search
          obtain ⟨before, rest, rfl, member⟩ := ih search
          exact ⟨c :: before, rest, rfl, member⟩

/-! ### Marks -/

/-- No reading reaches the mark, or depends on it. -/
def Stops (reader : Reader α) (mark : Char) : Prop :=
  ∀ text rest, reader (text ++ mark :: rest) = (reader text).map fun (a, left) => (a, left ++ mark :: rest)

namespace Stops

theorem pure (a : α) (mark : Char) : (Pure.pure a : Reader α).Stops mark := fun _ _ => rfl

theorem bind (stops : reader.Stops mark) (further : ∀ a, (next a).Stops mark) : (reader >>= next).Stops mark := by
  intro text rest
  rw [bind_ways, bind_ways, stops, List.flatMap_map, List.map_flatMap]
  exact congrArg (List.flatMap · _) (funext fun way => further way.1 way.2 rest)

theorem char {accepted : Char → Bool} (refused : accepted mark = false) : (Reader.char accepted).Stops mark := by
  intro text rest
  cases text with
  | nil =>
      change (if accepted mark then [(mark, rest)] else []) = []
      rw [refused]
      rfl
  | cons c text =>
      rw [List.cons_append, Reader.char, Reader.char]
      cases accepted c <;> rfl

theorem run {accepted : Char → Bool} (refused : accepted mark = false) : (Reader.run accepted).Stops mark := by
  have runs : ∀ (text rest : Text) (others : List Text),
      afterRuns accepted (text ++ mark :: rest) (others.map (· ++ mark :: rest)) =
        (afterRuns accepted text others).map (· ++ mark :: rest) := by
    intro text rest
    induction text with
    | nil =>
        intro others
        rw [List.nil_append, afterRuns, afterRuns, refused]
        rfl
    | cons c text ih =>
        intro others
        rw [List.cons_append, afterRuns, afterRuns]
        split
        · exact ih ((c :: text) :: others)
        · rfl
  intro text rest
  have whole := runs text rest []
  rw [Reader.run, Reader.run, List.map_map, show afterRuns accepted (text ++ mark :: rest) [] = _ from whole,
    List.map_map]
  rfl

theorem run1 {accepted : Char → Bool} (refused : accepted mark = false) : (Reader.run1 accepted).Stops mark :=
  (char refused).bind fun _ => run refused

theorem wordEnd (apart : isWordChar mark = false) : Reader.wordEnd.Stops mark := by
  intro text rest
  have same : startsWithWord (text ++ mark :: rest) = startsWithWord text := by
    cases text with
    | nil => exact apart
    | cons => rfl
  rw [Reader.wordEnd, Reader.wordEnd, same]
  split <;> rfl

theorem ahead {c : Char} (other : mark ≠ c) : (Reader.ahead c).Stops mark := by
  intro text rest
  cases text with
  | nil => simp [Reader.ahead, other]
  | cons d text =>
      rw [List.cons_append, Reader.ahead, Reader.ahead, List.head?_cons, List.head?_cons]
      split <;> rfl

theorem keyword {letters : Text} (alpha : ∀ letter ∈ letters, letter.isAlpha = true) (apart : isWordChar mark = false) :
    (Reader.keyword letters).Stops mark := by
  induction letters with
  | nil => exact pure () mark
  | cons letter letters ih =>
      refine (char ?_).bind fun _ => ih fun d member => alpha d (List.mem_cons_of_mem _ member)
      rw [Bool.eq_false_iff]
      intro same
      rw [isWordChar_of_sameLetter (alpha letter (List.mem_cons_self ..)) same] at apart
      cases apart

theorem accepts_append (stops : reader.Stops mark) (text rest : Text) :
    reader.accepts (text ++ mark :: rest) = reader.accepts text := by
  rw [accepts, accepts, first, first, ways, ways, stops, List.head?_map, Option.isSome_map]

end Stops

/-- A text that is cut at a mark mentions what its parts mention. -/
theorem mentions_append {one behind : Text} (stops : ∀ text, reader.accepts (text ++ mark :: behind) = reader.accepts text)
    (apart : isWordChar mark = false) :
    reader.Mentions (one ++ mark :: behind) ↔ reader.Mentions one ∨ reader.Mentions behind := by
  have ends : ∀ before : Text, Ends isWordChar (one ++ mark :: before).reverse ↔ Ends isWordChar before.reverse := by
    intro before
    rw [ends_reverse_append (List.cons_ne_nil _ _), ends_reverse_cons]
    exact and_iff_right fun _ => apart
  constructor
  · rintro ⟨before, rest, split, clear, accepted⟩
    rcases List.append_eq_append_iff.mp split with ⟨later, rfl, rest'⟩ | ⟨later, rfl, rest'⟩
    · cases later with
      | nil =>
          rw [List.append_nil] at clear
          obtain rfl : mark :: behind = rest := rest'
          exact .inl ⟨one, [], by simp, clear, by rw [← stops []]; exact accepted⟩
      | cons c later =>
          obtain ⟨rfl, rfl⟩ := List.cons.inj rest'
          exact .inr ⟨later, rest, rfl, (ends later).mp clear, accepted⟩
    · obtain rfl : rest = later ++ mark :: behind := rest'
      exact .inl ⟨before, later, rfl, clear, by rw [← stops later]; exact accepted⟩
  · rintro (⟨before, rest, rfl, clear, accepted⟩ | ⟨before, rest, rfl, clear, accepted⟩)
    · exact ⟨before, rest ++ mark :: behind, by simp, clear, by rw [stops]; exact accepted⟩
    · exact ⟨one ++ mark :: before, rest, by simp, (ends before).mpr clear, accepted⟩

end Schemata.Reader
