import Schemata.Proofs.Yaml.Quoted
import Schemata.Proofs.Yaml.Storable
import Schemata.Yaml.Read

/-!
Values that are written on the line of their key or dash: scalars and collections without entries. In a
block each reads as the value that it was written for, up to the line end behind it.
-/

namespace Schemata.Yaml

/-- What is read is a node that stands for the value, before what is left. -/
def Gives (value : Value) (left : Text) (read : Except ReadError (Ended Node)) : Prop :=
  ∃ node after, read = .ok (node, after) ∧ node.StandsFor value ∧ after.rest = left

/-- What is written before a line end is the value, below a parent that stands at `column`. -/
structure LeafReads (column : Nat) (tail written : Text) (value : Value) : Prop where
  begins : ∃ c rest, written = c :: rest ∧ beginsToken c = true
  unmarked : ∀ line place, ∀ mark ∈ ['-', '?'],
    (⟨line, place, written ++ '\n' :: tail⟩ : Cursor).isMark mark = false
  gives : ∀ fuel line place, 2 ≤ fuel → 0 < place →
    Gives value ('\n' :: tail) (blockLeaf fuel column ⟨line, place, written ++ '\n' :: tail⟩)

variable {column : Nat} {tail : Text}

/-! ### Plain -/

theorem isMark_of_startsPlain {c : Char} {rest : Text} (starts : startsPlain false (c :: rest) = true)
    (line place : Nat) {mark : Char} (member : mark ∈ ['-', '?']) :
    (⟨line, place, c :: rest⟩ : Cursor).isMark mark = false := by
  change (c == mark && separatedNext rest) = false
  rw [Bool.and_eq_false_iff, beq_eq_false_iff_ne]
  by_cases same : c = mark
  · subst same
    right
    simp only [List.mem_cons, List.not_mem_nil, or_false] at member
    rcases member with rfl | rfl
    · simpa [startsPlain] using starts
    · simpa [startsPlain] using starts
  · exact Or.inl same

/-- A plain scalar does not begin with an indicator. -/
theorem ne_of_startsPlain {inFlow : Bool} {c : Char} {rest : Text}
    (starts : startsPlain inFlow (c :: rest) = true) {d : Char} (indicator : isIndicator d = true) :
    c ≠ d := by
  rintro rfl
  have dash : (c == '-') = false := by
    rw [beq_eq_false_iff_ne]
    rintro rfl
    exact absurd indicator (by decide)
  have mark : (c == '?' || c == ':') = false := by
    rw [Bool.or_eq_false_iff, beq_eq_false_iff_ne, beq_eq_false_iff_ne]
    constructor <;> rintro rfl <;> exact absurd indicator (by decide)
  rw [startsPlain, dash, if_neg Bool.false_ne_true, mark, if_neg Bool.false_ne_true, indicator] at starts
  exact Bool.false_ne_true starts

theorem readScalar_plain {inFlow : Bool} {limit : Int} {cursor : Cursor} {s left : Text}
    (starts : startsPlain inFlow cursor.rest = true) (unmarked : cursor.isMarker = false)
    (read : readPlain inFlow limit cursor.rest = (s, left)) :
    readScalar inFlow limit cursor = .ok (.plain s, cursor.reaching left) := by
  obtain ⟨line, place, rest⟩ := cursor
  cases rest with
  | nil => exact absurd starts Bool.false_ne_true
  | cons c rest =>
      have single : c ≠ '\'' := ne_of_startsPlain starts (by decide)
      have double : c ≠ '"' := ne_of_startsPlain starts (by decide)
      rw [readScalar]
      dsimp only at starts read ⊢
      rw [if_neg (by simp [single, double]), if_pos (by simp [starts, unmarked]), read]
      rfl

theorem readScalar_quoted {inFlow : Bool} {limit : Int} {cursor : Cursor} {quote : Char} {rest s left : Text}
    (mark : quote = '"' ∨ quote = '\'') (here : cursor.rest = quote :: rest)
    (read : readQuoted quote rest = .ok (s, left)) :
    readScalar inFlow limit cursor = .ok (.quoted s, cursor.reaching left) := by
  rw [readScalar, here]
  dsimp only
  rw [if_pos (by simpa using mark), read]
  rfl

theorem beginsToken_of_startsPlain {c : Char} {rest : Text}
    (starts : startsPlain false (c :: rest) = true) : beginsToken c = true := by
  have number : c ≠ '#' := ne_of_startsPlain starts (by decide)
  have solid : isSeparator c = false := by
    by_cases special : c = '-' ∨ c = '?' ∨ c = ':'
    · rcases special with rfl | rfl | rfl <;> decide
    · rw [not_or, not_or] at special
      rw [startsPlain, if_neg (by simpa using special.1), if_neg (by simpa using special.2),
        Bool.and_eq_true, Bool.not_eq_true', Bool.not_eq_true'] at starts
      exact starts.2
  simp only [isSeparator, Bool.or_eq_false_iff, beq_eq_false_iff_ne] at solid
  simp [beginsToken, solid, number]

/-- A plain scalar that is read up to a line end. -/
theorem leafReads_plain {c : Char} {rest s : Text} {value : Value}
    (starts : startsPlain false (c :: rest ++ '\n' :: tail) = true)
    (read : readPlain false (column + 1 : Nat) (c :: rest ++ '\n' :: tail) = (s, '\n' :: tail))
    (stands : plainValue s = .ok value) : LeafReads column tail (c :: rest) value where
  begins := ⟨c, rest, rfl, beginsToken_of_startsPlain starts⟩
  unmarked := fun line place mark member => isMark_of_startsPlain starts line place member
  gives := by
    intro fuel line place _ inside
    have bracket : c ≠ '[' := ne_of_startsPlain starts (by decide)
    have brace : c ≠ '\x7b' := ne_of_startsPlain starts (by decide)
    refine ⟨.plain s, (⟨line, place, c :: rest ++ '\n' :: tail⟩ : Cursor).reaching ('\n' :: tail), ?_,
      Node.standsFor_plain stands, Cursor.reaching_rest rfl⟩
    rw [blockLeaf, if_neg (by simp [Cursor.isAt, bracket, brace])]
    exact readScalar_plain starts (by simp [Cursor.isMarker, Nat.ne_of_gt inside]) read

theorem startsPlain_name {c : Char} (letter : isNameChar c = true) (inFlow : Bool) (rest : Text) :
    startsPlain inFlow (c :: rest) = true := by
  have checked := of_isNameChar
    (fun c => c != '-' && c != '?' && c != ':' && !isIndicator c && !isSeparator c) (by decide) letter
  simp only [Bool.and_eq_true, Bool.not_eq_true', bne_iff_ne] at checked
  simp [startsPlain, checked]

theorem leafReads_word {name : Text} {value : Value} (outside : Outside (column + 1) tail)
    (filled : name ≠ []) (letters : ∀ c ∈ name, isNameChar c = true) (stands : plainValue name = .ok value) :
    LeafReads column tail name value := by
  have read := readPlain_word (Nat.succ_pos column) outside filled letters
  obtain ⟨c, rest, rfl⟩ := List.exists_cons_of_ne_nil filled
  exact leafReads_plain (startsPlain_name (letters c (List.mem_cons_self ..)) false _) read stands

theorem startsPlain_plainFrom {s : Text} (plain : mayBePlain s = true) (indent place : Nat) :
    ∃ c rest, plainFrom indent place false s = c :: rest ∧
      startsPlain false (c :: rest ++ '\n' :: tail) = true := by
  have goes := goesPlain_of_mayBePlain plain
  obtain ⟨c, rest, rfl⟩ := List.exists_cons_of_ne_nil goes.filled
  have filled : c ≠ ' ' := fun same => goes.first (congrArg some same)
  obtain ⟨shown, inside⟩ := goes.flat c (List.mem_cons_self ..)
  refine ⟨c, _, plainFrom_filled filled indent place false rest, ?_⟩
  simp only [mayBePlain, hasIndicator, startsWithIndicator, Bool.and_eq_true, Bool.not_eq_true',
    Bool.or_eq_false_iff] at plain
  obtain ⟨⟨_, ⟨_, indicator, mark⟩, _⟩, _⟩ := plain
  rw [List.cons_append, startsPlain, separatedNext_plainFrom, indicator,
    not_isSeparator shown inside filled]
  split
  · rename_i dash
    rw [dash, Bool.or_true, Bool.true_and] at mark
    rw [mark]
    rfl
  · split
    · rename_i special
      rw [special, Bool.true_or, Bool.true_and] at mark
      rw [mark]
      rfl
    · rfl

/-! ### Quoted -/

theorem leafReads_quoted {quote : Char} {rest s : Text} (mark : quote = '"' ∨ quote = '\'')
    (read : readQuoted quote (rest ++ '\n' :: tail) = .ok (s, '\n' :: tail)) :
    LeafReads column tail (quote :: rest) (.text s) where
  begins := ⟨quote, rest, rfl, by rcases mark with rfl | rfl <;> decide⟩
  unmarked := by
    intro line place other member
    simp only [List.mem_cons, List.not_mem_nil, or_false] at member
    rcases mark with rfl | rfl <;> rcases member with rfl | rfl <;> rfl
  gives := by
    intro fuel line place _ _
    obtain ⟨passed, split⟩ : ∃ passed, quote :: rest ++ '\n' :: tail = passed ++ '\n' :: tail := ⟨_, rfl⟩
    refine ⟨.quoted s, (⟨line, place, quote :: rest ++ '\n' :: tail⟩ : Cursor).reaching ('\n' :: tail), ?_,
      Node.standsFor_quoted s, Cursor.reaching_rest split⟩
    rw [blockLeaf, if_neg (by rcases mark with rfl | rfl <;> simp [Cursor.isAt])]
    exact readScalar_quoted mark rfl read

theorem leafReads_text (room : column + 2 < width) (outside : Outside (column + 1) tail) (place : Nat)
    (s : Text) : LeafReads column tail (scalar (column + 2) place s) (.text s) := by
  unfold scalar
  cases style : styleOf s with
  | plain =>
      have plain := mayBePlain_of_styleOf style
      have unknown : implicitKind? s = none := by
        simp only [mayBePlain, Bool.and_eq_true, Option.isNone_iff_eq_none] at plain
        exact plain.2
      have read := readPlain_plainFrom (Nat.le_succ (column + 1)) (Nat.succ_pos column) outside plain place
      obtain ⟨c, rest, written, starts⟩ := startsPlain_plainFrom plain (column + 2) place
      dsimp only
      rw [written] at read ⊢
      exact leafReads_plain starts read (plainValue_text unknown)
  | singleQuoted =>
      refine leafReads_quoted (Or.inr rfl) ?_
      change readQuoted '\'' (_ ++ ['\''] ++ '\n' :: tail) = _
      rw [List.append_assoc]
      exact readQuoted_singleFrom (by simp) (mayBeSingleQuoted_of_styleOf style) (place + 1)
  | doubleQuoted =>
      refine leafReads_quoted (Or.inl rfl) ?_
      change readQuoted '"' (_ ++ ['"'] ++ '\n' :: tail) = _
      rw [List.append_assoc]
      exact readQuoted_doubleFrom room _ s (place + 1)

/-! ### Collections without entries -/

theorem leafReads_emptyList : LeafReads column tail "[]".toList (.list []) where
  begins := ⟨'[', _, rfl, by decide⟩
  unmarked := by
    intro line place mark member
    simp only [List.mem_cons, List.not_mem_nil, or_false] at member
    rcases member with rfl | rfl <;> rfl
  gives := by
    intro fuel line place enough _
    obtain ⟨fuel, rfl⟩ := Nat.exists_eq_add_of_le' enough
    refine ⟨.list [], ⟨line, place + 1 + 1, '\n' :: tail⟩, ?_, Node.itemsStandFor_nil.list, rfl⟩
    rw [blockLeaf, if_pos (by simp [Cursor.isAt]), flowNode, if_pos (by simp [Cursor.isAt])]
    rfl

theorem leafReads_emptyMap : LeafReads column tail "\x7b\x7d".toList (.map []) where
  begins := ⟨'\x7b', _, rfl, by decide⟩
  unmarked := by
    intro line place mark member
    simp only [List.mem_cons, List.not_mem_nil, or_false] at member
    rcases member with rfl | rfl <;> rfl
  gives := by
    intro fuel line place enough _
    obtain ⟨fuel, rfl⟩ := Nat.exists_eq_add_of_le' enough
    refine ⟨.map [], ⟨line, place + 1 + 1, '\n' :: tail⟩, ?_, Node.entriesStandFor_nil.map List.nodup_nil,
      rfl⟩
    rw [blockLeaf, if_pos (by simp [Cursor.isAt]), flowNode, if_neg (by simp [Cursor.isAt]),
      if_pos (by simp [Cursor.isAt])]
    rfl

/-- What is written on the line of a key or a dash reads as its value. -/
theorem leafReads_inline {depth place : Nat} {value : Value} {written : Text} (storable : value.Storable depth)
    (inLine : inline (column + 2) place value = some written) (room : column + 2 < width)
    (outside : Outside (column + 1) tail) : LeafReads column tail written value := by
  cases storable with
  | null =>
      cases inLine
      exact leafReads_word outside (by decide) (isNameChar_of_word true 0).1 plainValue_null
  | bool b =>
      cases inLine
      exact leafReads_word outside (by cases b <;> decide) (isNameChar_of_word b 0).2.1 (plainValue_bool b)
  | int short =>
      rename_i n
      cases inLine
      rw [integerText_natCast]
      exact leafReads_word outside (digits_filled n) (isNameChar_of_word true n).2.2 (plainValue_digits short)
  | text s =>
      cases inLine
      exact leafReads_text room outside place s
  | list each =>
      rename_i items
      cases items with
      | nil =>
          cases inLine
          exact leafReads_emptyList
      | cons item rest => cases inLine
  | map names distinct each =>
      rename_i fields
      cases fields with
      | nil =>
          cases inLine
          exact leafReads_emptyMap
      | cons field rest => cases inLine

end Schemata.Yaml
