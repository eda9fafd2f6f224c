import Schemata.Proofs.Ddl.Identifiers
import Schemata.Proofs.Ddl.Written

/-!
Words, names and lists of names are read as they are written. A search for a keyword passes over every
other word, also over one that only begins with the letters of the keyword.
-/

namespace Schemata.Ddl

open Text Script Reader

variable {word text gap rest : Text} {c : Char}

theorem toNat_lt_of_isNameChar (named : isNameChar c = true) : c.toNat < 128 := by
  simp only [isNameChar, Char.isAlphanum, Bool.or_eq_true, beq_iff_eq] at named
  rcases named with (alpha | digit) | rfl
  · exact toNat_lt_of_isAlpha alpha
  · simp only [Char.isDigit, Bool.and_eq_true, decide_eq_true_eq, UInt32.le_iff_toNat_le, ge_iff_le] at digit
    have value : c.toNat = c.val.toNat := rfl
    have nine : '9'.val.toNat = 57 := rfl
    omega
  · decide

theorem of_isNameChar (property : Char → Bool)
    (all : ∀ n : Fin 128, isNameChar (Char.ofNat n) = true → property (Char.ofNat n) = true)
    (named : isNameChar c = true) : property c = true := by
  have here := all ⟨c.toNat, toNat_lt_of_isNameChar named⟩
  simp only [Char.ofNat_toNat] at here
  exact here named

theorem isWordChar_of_isNameChar (named : isNameChar c = true) : isWordChar c = true := by
  simp only [isWordChar, if_pos (toNat_lt_of_isNameChar named)]
  exact named

theorem not_isBlank_of_isNameChar (named : isNameChar c = true) : isBlank c = false := by
  cases blank : isBlank c with
  | false => rfl
  | true =>
      rw [← not_isWordChar_of_isBlank blank]
      exact (isWordChar_of_isNameChar named).symm

theorem isPlain_of_isNameChar (named : isNameChar c = true) : isPlain c = true :=
  of_isNameChar isPlain (by decide) named

/-- A keyword or a name. -/
structure IsWord (word : Text) : Prop where
  some' : word ≠ []
  named : ∀ c ∈ word, isNameChar c = true

instance (word : Text) : Decidable (IsWord word) :=
  decidable_of_iff (word ≠ [] ∧ ∀ c ∈ word, isNameChar c = true)
    ⟨fun ⟨some', named⟩ => ⟨some', named⟩, fun isWord => ⟨isWord.some', isWord.named⟩⟩

namespace IsWord

theorem wordly (isWord : IsWord word) : ∀ c ∈ word, isWordChar c = true :=
  fun c member => isWordChar_of_isNameChar (isWord.named c member)

theorem solid (isWord : IsWord word) : Solid word :=
  .of_unblank isWord.some' fun c member => not_isBlank_of_isNameChar (isWord.named c member)

theorem isLevel (isWord : IsWord word) : IsLevel word :=
  isLevel_of_isPlain fun c member => isPlain_of_isNameChar (isWord.named c member)

theorem not_mark (isWord : IsWord word) : word ∉ marks := by
  intro mark
  rcases mem_marks.mp mark with rfl | rfl | rfl <;>
    exact absurd (isWord.named _ (List.mem_cons_self ..)) (by decide)

/-- A word stands apart from nothing that is written before it. -/
theorem not_isApart (isWord : IsWord word) (rest : Text) : ¬ IsApart (word ++ rest) := by
  obtain ⟨c, more, rfl⟩ := List.exists_cons_of_ne_nil isWord.some'
  have named := isWord.named c (List.mem_cons_self ..)
  intro apart
  rcases apart c rfl with blank | mark
  · rw [not_isBlank_of_isNameChar named] at blank
    cases blank
  · have single : IsWord [c] := ⟨by simp, by simpa using named⟩
    exact single.not_mark mark

/-- A word that differs from the letters in more than case does not match them. -/
theorem not_spelt {letters : Text} (isWord : IsWord word) (other : folded word ≠ folded letters) :
    ¬ List.Forall₂ (fun letter c => sameLetter letter c = true) letters word := by
  intro spelt
  refine other ?_
  have named := isWord.named
  clear isWord other
  induction spelt with
  | nil => rfl
  | @cons letter c letters word same _ ih =>
      have ascii := toNat_lt_of_isNameChar (named c (List.mem_cons_self ..))
      have special : ∀ d : Char, 128 ≤ d.toNat → (c == d) = false := by
        intro d high
        rw [beq_eq_false_iff_ne]
        rintro rfl
        omega
      have dotless := special 'ı' (by decide)
      have dotted := special 'İ' (by decide)
      have long := special 'ſ' (by decide)
      have kelvin := special '\u212a' (by decide)
      have letterwise : c.toLower = letter.toLower := by
        unfold sameLetter at same
        rw [Bool.or_eq_true, beq_iff_eq] at same
        refine same.resolve_right fun special => ?_
        split at special <;> simp [dotless, dotted, long, kelvin] at special
      rw [folded_cons, folded_cons, letterwise, ih fun d member => named d (List.mem_cons_of_mem _ member)]

theorem upper_ne {letters : Text} (isWord : IsWord word) (other : folded word ≠ folded letters) :
    upper word ≠ letters := by
  rintro rfl
  refine other ?_
  have named := isWord.named
  clear isWord other
  induction word with
  | nil => rfl
  | cons c word ih =>
      have here := named c (List.mem_cons_self ..)
      have high : upperChar c = [c.toUpper] := by rw [upperChar, if_pos (toNat_lt_of_isNameChar here)]
      have small : c.toUpper.toLower = c.toLower := by
        exact eq_of_beq (of_isNameChar (fun d => d.toUpper.toLower == d.toLower) (by decide) here)
      have rest := ih fun d member => named d (List.mem_cons_of_mem _ member)
      simp only [upper, List.flatMap_cons, high, List.singleton_append, folded_cons, small] at rest ⊢
      rw [← rest]

end IsWord

/-- Two words at the head of a text, with what stands between and behind them. -/
theorem exists_of_spells_words {one other : Text} {tokens : List Text} (isWord : IsWord one) (isWord' : IsWord other)
    (spelled : Spells (one :: other :: tokens) text) :
    ∃ gap gap' rest, text = one ++ (gap ++ (other ++ (gap' ++ rest))) ∧ (∀ c ∈ gap, isBlank c = true) ∧ gap ≠ [] ∧
      (∀ c ∈ gap', isBlank c = true) ∧ Spells tokens rest ∧ IsApart (gap' ++ rest) ∧
      ((∃ following ∈ tokens.head?, following ∉ marks) → gap' ≠ []) := by
  obtain ⟨gap, rest, rfl, blank, further, _, distinct⟩ := spelled.uncons
  obtain ⟨gap', rest, rfl, blank', further, apart, distinct'⟩ := further.uncons
  exact ⟨gap, gap', rest, rfl, blank, distinct isWord.not_mark ⟨other, rfl, isWord'.not_mark⟩, blank', further,
    apart isWord'.not_mark, distinct' isWord'.not_mark⟩

theorem wordEnds_of_isApart (apart : IsApart rest) : Ends isWordChar rest :=
  apart.ends (fun _ => not_isWordChar_of_isBlank) (by decide)

theorem nameEnds_of_isApart (apart : IsApart rest) : Ends continuesName rest :=
  apart.ends (fun _ => of_isBlank (continuesName · = false) (by decide +kernel)) (by decide)

/-! ### Searches -/

section Search

variable {α : Type} {reader : Reader α} {letters : Text} {tokens others : List Text}

/-- Tokens among which a search for a keyword finds nothing. -/
def Lacks (letters : Text) (tokens : List Text) : Prop :=
  ∀ token ∈ tokens, token ∈ marks ∨ IsWord token ∧ folded token ≠ folded letters

instance : Decidable (Lacks letters tokens) :=
  inferInstanceAs (Decidable (∀ token ∈ tokens, token ∈ marks ∨ IsWord token ∧ folded token ≠ folded letters))

theorem Lacks.append (lacks : Lacks letters tokens) (lacks' : Lacks letters others) :
    Lacks letters (tokens ++ others) :=
  List.forall_mem_append.mpr ⟨lacks, lacks'⟩

theorem find_gap (seeks : reader.Seeks letters) (some' : letters ≠ []) (blank : ∀ c ∈ gap, isBlank c = true)
    (inWord : Bool) : reader.find inWord (gap ++ rest) = reader.find (gap.isEmpty && inWord) rest := by
  induction gap generalizing inWord with
  | nil => rfl
  | cons c gap ih =>
      have here := not_isWordChar_of_isBlank (blank c (List.mem_cons_self ..))
      rw [List.cons_append, seeks.find_cons some' here, ih fun d member => blank d (List.mem_cons_of_mem _ member)]
      cases gap <;> rfl

/-- A search goes on behind tokens that lack its keyword. -/
theorem find_lacking (seeks : reader.Seeks letters) (some' : letters ≠ []) (lacks : Lacks letters tokens)
    (spelled : Spells (tokens ++ others) text) {inWord : Bool} (fits : inWord = true → IsApart text) :
    ∃ inWord' rest, reader.find inWord text = reader.find inWord' rest ∧ Spells others rest ∧
      (inWord' = true → IsApart rest) := by
  -- A search stands within a word only behind one that it has passed, and no word follows that one at once.
  induction tokens generalizing text inWord with
  | nil => exact ⟨inWord, text, rfl, spelled, fits⟩
  | cons token tokens ih =>
      obtain ⟨gap, rest, rfl, blank, further, apart, _⟩ := spelled.uncons
      have lacks' : Lacks letters tokens := fun token member => lacks token (List.mem_cons_of_mem _ member)
      rcases lacks token (List.mem_cons_self ..) with mark | ⟨isWord, other⟩
      · obtain ⟨c, rfl, solid⟩ : ∃ c, token = [c] ∧ isWordChar c = false := by
          rcases mem_marks.mp mark with rfl | rfl | rfl <;> exact ⟨_, rfl, by decide⟩
        have start : false = true → IsApart rest := fun impossible => by cases impossible
        obtain ⟨inWord', after, found, ended, fits'⟩ := ih lacks' further start
        refine ⟨inWord', after, ?_, ended, fits'⟩
        rw [List.singleton_append, seeks.find_cons some' solid, find_gap seeks some' blank, Bool.and_false, found]
      · obtain rfl : inWord = false := Bool.eq_false_iff.mpr fun inside => isWord.not_isApart _ (fits inside)
        have behind := apart isWord.not_mark
        have refuses := seeks token (gap ++ rest) isWord.wordly (wordEnds_of_isApart behind) (isWord.not_spelt other)
        have fits' : (gap.isEmpty && true) = true → IsApart rest := by
          cases gap with
          | nil => exact fun _ => behind
          | cons => exact fun impossible => by cases impossible
        obtain ⟨inWord', after, found, ended, fits''⟩ := ih lacks' further fits'
        refine ⟨inWord', after, ?_, ended, fits''⟩
        rw [refuses.find_word isWord.some' isWord.wordly, find_gap seeks some' blank, found]

theorem find_eq_none (seeks : reader.Seeks letters) (some' : letters ≠ []) (lacks : Lacks letters tokens)
    (spelled : Spells tokens text) : reader.find false text = none := by
  have whole : Spells (tokens ++ []) text := by rwa [List.append_nil]
  have start : false = true → IsApart text := fun impossible => by cases impossible
  obtain ⟨inWord, rest, found, ended, _⟩ := find_lacking seeks some' lacks whole start
  cases ended
  rw [found, seeks.find_nil some']

/-- A search finds what can be read where its keyword stands first. -/
theorem find_eq_first (seeks : reader.Seeks letters) (some' : letters ≠ []) (lacks : Lacks letters tokens)
    {token : Text} (isWord : IsWord token) (spelled : Spells (tokens ++ token :: others) text) :
    ∃ rest, Spells (token :: others) rest ∧
      ∀ found, reader.first rest = some found → reader.find false text = some found := by
  have start : false = true → IsApart text := fun impossible => by cases impossible
  obtain ⟨inWord, rest, found, ended, fits⟩ := find_lacking seeks some' lacks spelled start
  refine ⟨rest, ended, fun result read => ?_⟩
  obtain ⟨gap, after, rfl, _⟩ := ended.uncons
  obtain rfl : inWord = false := Bool.eq_false_iff.mpr fun inside => isWord.not_isApart _ (fits inside)
  rw [found, find_of_first read]

end Search

/-! ### Names -/

namespace WrittenName

variable (written : WrittenName)

theorem isWord : IsWord written.text where
  some' empty := by
    obtain ⟨c, head, _⟩ := written.starts
    rw [empty] at head
    cases head
  named := written.plain

theorem lacks {letters : Text} (keyword : folded letters ∈ reserved) : folded written.text ≠ folded letters := by
  intro same
  exact written.free (same ▸ keyword)

theorem begins {starts : Char → Bool} (more : ∀ c, startsName c = true → starts c = true) :
    ∀ c ∈ written.text.head?, starts c = true ∧ opensQuoted c = false := by
  intro c member
  obtain ⟨d, head, begin⟩ := written.starts
  obtain rfl := Option.some.inj (member.symm.trans head)
  have unquoted : (!opensQuoted c) = true :=
    of_isNameChar (fun c => !opensQuoted c) (by decide)
      (written.plain c (List.mem_of_mem_head? member))
  exact ⟨more c begin, by simpa using unquoted⟩

theorem continues : ∀ c ∈ written.text, continuesName c = true := by
  intro c member
  rw [continuesName, isWordChar_of_isNameChar (written.plain c member)]
  rfl

theorem first_identifier (ends : Ends continuesName rest) :
    (identifier startsName).first (written.text ++ rest) = some ((), rest) :=
  Ddl.first_identifier written.isWord.some' (written.begins fun _ => id) written.continues ends

theorem first_name (ends : Ends continuesName rest) : Ddl.name.first (written.text ++ rest) = some ((), rest) := by
  refine Ddl.first_identifier written.isWord.some' (written.begins fun c begin => ?_) written.continues ends
  rw [startsNameAnyCase, begin]
  rfl

/-- A name without a dot behind it is all of a qualified name. -/
theorem first_qualifiedName (ends : Ends continuesName rest) (alone : (trimLeft rest).head? ≠ some '.') :
    qualifiedName.first (written.text ++ rest) = some ((), rest) :=
  Ddl.first_qualifiedName (written.first_name ends) alone

theorem isIdentifier : IsIdentifier written.text := by
  have read := written.first_identifier ends_nil
  rw [List.append_nil] at read
  exact List.mem_of_mem_head? read

theorem trim_text : trim written.text = written.text :=
  trim_eq_self written.isWord.solid.first written.isWord.solid.last

/-- A written name stands for itself in lower case. -/
theorem normalizeIdentifier_text : normalizeIdentifier written.text = written.name := by
  have unquoted : unquoted written.text = written.text := by
    obtain ⟨c, more, same⟩ := List.exists_cons_of_ne_nil written.isWord.some'
    have opens := (written.begins (fun _ => id) c (by rw [same]; rfl)).2
    rw [same, Ddl.unquoted, opens]
    rfl
  rw [written.isIdentifier.normalizeIdentifier_eq written.trim_text, unquoted, written.trim_text]
  rfl

end WrittenName

/-! ### Lists of names -/

theorem IsWord.isTidy (isWord : IsWord word) : IsTidy [word] :=
  isTidy_singleton isWord.solid isWord.isLevel

theorem isItem_name (written : WrittenName) : IsItem [written.text] :=
  { written.isWord.isTidy with some' := by simp }

theorem trim_of_spells_name {written : WrittenName} (spelled : Spells [written.text] text) :
    trim text = written.text := by
  obtain ⟨gap, rest, rfl, blank, ended, _⟩ := spelled.uncons
  cases ended
  have solid := written.isWord.solid
  have whole := trim_append (List.forall_mem_nil _) blank solid.first solid.last
  rwa [List.nil_append, ← List.append_nil gap] at whole

/-- The names of a list are read in their order, each in lower case. -/
theorem columnList_of_spells {names : List WrittenName}
    (spelled : Spells ([[',']].intercalate (names.map fun written => [written.text])) text)
    (blank : ∀ c ∈ gap, isBlank c = true) : columnList (gap ++ text) = names.map WrittenName.name := by
  have items := spelled.items (List.forall_mem_map.mpr fun written _ => isItem_name written) blank
  rw [List.forall₂_map_left_iff] at items
  rw [columnList_eq_filterMap]
  generalize Script.items (gap ++ text) = list at items
  clear spelled
  induction items with
  | nil => rfl
  | @cons written item names list head _ ih =>
      have trimmed : trim item = written.text ++ [] := by rw [trim_of_spells_name head, List.append_nil]
      rw [List.map_cons, ← ih, ← written.normalizeIdentifier_text]
      exact List.filterMap_cons_some (columnOf_eq trimmed (written.first_identifier ends_nil))

theorem isTidy_listTokens (names : List WrittenName) : IsTidy (listTokens names) :=
  isTidy_list (List.forall_mem_map.mpr fun written _ => written.isWord.isTidy)

theorem solid_of_mem_names (names : List WrittenName) :
    ∀ token ∈ [[',']].intercalate (names.map fun written => [written.text]), Solid token := by
  refine forall_mem_intercalate ?_ (List.forall_mem_map.mpr fun written _ => (isItem_name written).solid)
  simpa using solid_mark [','] (by decide)

theorem isInner_names (names : List WrittenName) :
    IsInner ([[',']].intercalate (names.map fun written => [written.text])).flatten :=
  isInner_intercalate (List.forall_mem_map.mpr fun written _ => (isItem_name written).level)

end Schemata.Ddl
