import Schemata.Proofs.Ddl.WrittenColumns
import Schemata.Proofs.Reader.Mentions

/-!
What the text behind a type gives a column. The clauses are searched one by one in all of the text, so a
column has the marks that the text mentions, be it within another clause.
-/

namespace Schemata.Ddl

open Text Script Reader

variable {α : Type} {reader : Reader α} {letters word text : Text} {mark : Char}

attribute [ext] ColumnDefinition

/-- The flags of the column are those that the text mentions. -/
structure ColumnDefinition.IsMarkedBy (column : ColumnDefinition) (text : Text) : Prop where
  notNull : column.notNull = true ↔ (wholeKeywords "NOT".toList "NULL".toList).Mentions text
  primaryKey : column.primaryKey = true ↔ (wholeKeywords "PRIMARY".toList "KEY".toList).Mentions text
  unique : column.unique = true ↔ (do keyword "UNIQUE".toList; wordEnd : Reader Unit).Mentions text

theorem isMarkedBy_readColumnConstraints (name type text : Text) :
    (readColumnConstraints name type text).IsMarkedBy text :=
  ⟨isSome_find_iff, isSome_find_iff, isSome_find_iff⟩

/-- A search goes on behind a word that is not its keyword. -/
theorem find_behind_word (seeks : reader.Seeks letters) (some' : letters ≠ []) (isWord : IsWord word)
    (other : folded word ≠ folded letters) (text : Text) :
    reader.find false (' ' :: (word ++ ' ' :: text)) = reader.find false text := by
  have blank : isWordChar ' ' = false := by decide
  have refuses := seeks word (' ' :: text) isWord.wordly (ends_cons.mpr blank) (isWord.not_spelt other)
  rw [seeks.find_cons some' blank, refuses.find_word isWord.some' isWord.wordly, seeks.find_cons some' blank]

/-- A text mentions a keyword behind a character that is in no word if its rest mentions it. -/
theorem mentions_cons {c : Char} (seeks : reader.Seeks letters) (some' : letters ≠ []) (apart : isWordChar c = false)
    (text : Text) : reader.Mentions (c :: text) ↔ reader.Mentions text := by
  rw [← isSome_find_iff, ← isSome_find_iff, seeks.find_cons some' apart]

/-! ### Marks between clauses -/

theorem stops_wholeKeywords {one other : Text} (alpha : ∀ c ∈ one, c.isAlpha = true) (alpha' : ∀ c ∈ other, c.isAlpha = true)
    (unblank : isBlank mark = false) (apart : isWordChar mark = false) : (wholeKeywords one other).Stops mark :=
  ((Stops.keyword alpha apart).bind fun _ => (Stops.run1 unblank).bind fun _ => .keyword alpha' apart).bind fun _ =>
    .wordEnd apart

theorem stops_unique (apart : isWordChar mark = false) :
    (do keyword "UNIQUE".toList; wordEnd : Reader Unit).Stops mark :=
  (Stops.keyword (by decide) apart).bind fun _ => .wordEnd apart

/-- No name that begins before a mark at the end of a text reaches it, if the mark does not close names. -/
theorem accepts_identifier_append {starts : Char → Bool} (other : starts mark = false)
    (open' : ∀ opening, ¬ IsPair opening mark) (text : Text) :
    (identifier starts).accepts (text ++ [mark]) = (identifier starts).accepts text := by
  rw [Bool.eq_iff_iff, accepts_iff, accepts_iff]
  constructor
  · rintro ⟨way, member⟩
    rcases mem_identifier.mp member with ⟨opening, closing, inner, pair, some', free, split⟩ | ⟨c, more, split, start, _⟩
    · rcases List.eq_nil_or_concat way.2 with last | ⟨left, d, last⟩
      · rw [last] at split
        obtain rfl : mark = closing := (List.cons.inj (List.append_inj' split rfl).2).1
        exact absurd pair (open' opening)
      · have split' : text ++ [mark] = opening :: inner ++ closing :: left ++ [d] := by
          rw [split, last]
          simp
        obtain rfl := (List.append_inj' split' rfl).1
        exact ⟨((), left), mem_identifier.mpr (.inl ⟨opening, closing, inner, pair, some', free, rfl⟩)⟩
    · cases text with
      | nil =>
          obtain rfl : mark = c := (List.cons.inj split).1
          rw [other] at start
          cases start
      | cons d text =>
          obtain rfl : d = c := (List.cons.inj split).1
          exact ⟨((), text), mem_identifier.mpr (.inr ⟨d, [], rfl, start, by simp⟩)⟩
  · rintro ⟨way, member⟩
    refine ⟨((), way.2 ++ [mark]), mem_identifier.mpr ?_⟩
    rcases mem_identifier.mp member with ⟨opening, closing, inner, pair, some', free, split⟩ | ⟨c, more, split, start, named⟩
    · exact .inl ⟨opening, closing, inner, pair, some', free, by rw [split]; simp⟩
    · exact .inr ⟨c, more, by rw [split]; simp, start, named⟩

theorem mem_repeated_self (reader : Reader Unit) (text : Text) : ((), text) ∈ reader.repeated text := by
  rw [repeated]
  cases text.length with
  | zero => exact List.mem_singleton_self _
  | succ => exact mem_either.mpr (.inr (List.mem_singleton_self _))

/-- Where a name begins behind the keyword, a reference can be read, whatever follows. -/
theorem accepts_inlineReference_iff : inlineReference.accepts text = true ↔
    ∃ left, ((), left) ∈ keywordThenBlanks "REFERENCES".toList text ∧ Ddl.name.accepts left = true := by
  rw [accepts_iff]
  constructor
  · rintro ⟨way, member⟩
    obtain ⟨_, left, begun, onward⟩ := mem_bind.mp member
    obtain ⟨span, _, named, _⟩ := mem_bind.mp onward
    obtain ⟨_, _, read⟩ := mem_captured.mp named
    obtain ⟨_, _, first, _⟩ := mem_bind.mp read
    exact ⟨left, begun, accepts_of_mem first⟩
  · rintro ⟨left, begun, named⟩
    obtain ⟨⟨_, after⟩, first⟩ := accepts_iff.mp named
    have read : ((), after) ∈ qualifiedName left := mem_bind.mpr ⟨(), after, first, mem_repeated_self _ after⟩
    have blank : ((), after) ∈ blanks after := mem_run.mpr ⟨[], rfl, by simp⟩
    have unlisted : (none, after) ∈ maybe parenthesized after := mem_either.mpr (.inr (List.mem_singleton_self _))
    exact ⟨_, mem_bind.mpr ⟨(), left, begun, mem_bind.mpr ⟨_, after, mem_captured.mpr ⟨rfl, (), read⟩,
      mem_bind.mpr ⟨(), after, blank, mem_bind.mpr ⟨none, after, unlisted, List.mem_singleton_self _⟩⟩⟩⟩⟩

theorem accepts_inlineReference_append (text : Text) :
    inlineReference.accepts (text ++ [')']) = inlineReference.accepts text := by
  have stops : (keywordThenBlanks "REFERENCES".toList).Stops ')' :=
    (Stops.keyword (by decide) (by decide)).bind fun _ => .run1 (by decide)
  have named : ∀ text, Ddl.name.accepts (text ++ [')']) = Ddl.name.accepts text :=
    accepts_identifier_append (by decide) (by simp [IsPair])
  have ways := stops text []
  rw [Bool.eq_iff_iff, accepts_inlineReference_iff, accepts_inlineReference_iff, ways]
  simp only [List.mem_map, Prod.mk.injEq]
  constructor
  · rintro ⟨_, ⟨way, member, _, rfl⟩, accepted⟩
    exact ⟨way.2, member, by rw [← named]; exact accepted⟩
  · rintro ⟨left, member, accepted⟩
    exact ⟨left ++ [')'], ⟨((), left), member, trivial, rfl⟩, by rw [named]; exact accepted⟩

end Schemata.Ddl
