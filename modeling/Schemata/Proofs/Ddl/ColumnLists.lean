import Schemata.Proofs.Ddl.QualifiedNames
import Schemata.Proofs.Ddl.QuotedNames
import Schemata.Proofs.Ddl.Signs
import Schemata.Proofs.Ddl.WrittenNames
import Schemata.Proofs.Text.Parts

/-!
Lists of columns. Each column is an identifier, and a number in parentheses or an order may stand behind it. The
list is cut by a scan that knows quotes but no brackets, so it is read column by column if the scan goes through
each name in brackets as if there were nothing in it. If it does not, a column is lost: the columns hold as many
commas as their names, and a name has no more commas than the item that it is read from, so if all names are read
then the items are the columns as they are written.
-/

namespace Schemata.Ddl

open Text Script Reader

/-! ### Columns -/

/-- What stands behind a column of a list: nothing, a number in parentheses, or the order in either case. -/
inductive IsNote : Text → Prop
  | none : IsNote []
  | length {gap digits : Text} (blank : ∀ c ∈ gap, isBlank c = true) (some' : digits ≠ [])
      (digital : ∀ c ∈ digits, c.isDigit = true) : IsNote (gap ++ '(' :: (digits ++ [')']))
  | order {gap word : Text} (blank : ∀ c ∈ gap, isBlank c = true)
      (ordering : folded word ∈ ["asc".toList, "desc".toList]) : IsNote (gap ++ word)

/-- A column of a list as it is written. What stands behind a bare name does not go on with it. -/
structure ListedColumn where
  written : Text
  note : Text
  identified : IsIdentifier written := by decide
  noted : IsNote note
  apart : Ends opensQuoted written → Ends continuesName note

namespace ListedColumn

def text (column : ListedColumn) : Text :=
  column.written ++ column.note

def name (column : ListedColumn) : Text :=
  normalizeIdentifier column.written

def IsBracketed (column : ListedColumn) : Prop :=
  column.written.head? = some '['

end ListedColumn

/-- The columns with commas and blanks between. -/
def joined (columns : List ListedColumn) : Text :=
  [',', ' '].intercalate (columns.map ListedColumn.text)

/-- In no name in brackets is there a comma at which a list is cut, and none but the last leaves a quote or a
parenthesis open. -/
structure Legible (columns : List ListedColumn) : Prop where
  uncut : ∀ column ∈ columns, column.IsBracketed → Uncut Nesting.after endsItem .start column.written
  closed : columns.Pairwise fun column _ => column.IsBracketed → column.written.foldl Nesting.after .start = .start

variable {text note word : Text}

/-! ### Notes -/

namespace IsNote

theorem isPlain_of_folded (ordering : folded word ∈ ["asc".toList, "desc".toList]) :
    ∀ c ∈ word, isPlain c = true := by
  have plain : ∀ order ∈ ["asc".toList, "desc".toList], ∀ c ∈ order, isPlain c = true := by decide
  have blind : CaseBlind isPlain := caseBlind_of_capitals (by decide)
  intro c member
  rw [← blind]
  exact plain _ ordering _ (List.mem_map_of_mem member)

theorem isPlain_of_isDigit {c : Char} (digit : c.isDigit = true) : isPlain c = true := by
  refine isPlain_of_isNameChar ?_
  simp [isNameChar, Char.isAlphanum, digit]

/-- But for one pair of parentheses, the characters of a note have no part in the structure of a list. -/
theorem exists_plain (noted : IsNote note) : ∃ front inner, (∀ c ∈ front, isPlain c = true) ∧
    (∀ c ∈ inner, isPlain c = true) ∧ (note = front ∨ note = front ++ '(' :: (inner ++ [')'])) := by
  cases noted with
  | none => exact ⟨[], [], List.forall_mem_nil _, List.forall_mem_nil _, .inl rfl⟩
  | length blank _ digital =>
      exact ⟨_, _, fun c member => isPlain_of_isBlank (blank c member),
        fun c member => isPlain_of_isDigit (digital c member), .inr rfl⟩
  | order blank ordering =>
      refine ⟨_, [], List.forall_mem_append.mpr ⟨?_, isPlain_of_folded ordering⟩, List.forall_mem_nil _, .inl rfl⟩
      exact fun c member => isPlain_of_isBlank (blank c member)

/-- Behind a note, a scan is where it was. -/
theorem foldl_after (noted : IsNote note) {nesting : Nesting} (marks : ∀ q ∈ nesting.quote, isQuote q = true) :
    note.foldl Nesting.after nesting = nesting := by
  obtain ⟨front, inner, plain, inside, rfl | rfl⟩ := noted.exists_plain
  · exact Nesting.foldl_of_isPlain marks plain
  · rw [List.foldl_append, Nesting.foldl_of_isPlain marks plain]
    exact Nesting.foldl_parenthesized marks inside

theorem not_mem (noted : IsNote note) : ',' ∉ note := by
  have free : ∀ {part : Text}, (∀ c ∈ part, isPlain c = true) → ',' ∉ part := fun plain member =>
    absurd (plain _ member) (by decide)
  obtain ⟨front, inner, plain, inside, rfl | rfl⟩ := noted.exists_plain
  · exact free plain
  · simp [free plain, free inside]

end IsNote

/-! ### Identifiers -/

namespace IsIdentifier

theorem isName (identified : IsIdentifier text) : IsName text := by
  refine mem_identifier.mpr ((mem_identifier.mp identified).imp_right ?_)
  rintro ⟨c, more, same, start, further⟩
  exact ⟨c, more, same, by simp [startsNameAnyCase, start], further⟩

theorem solid (identified : IsIdentifier text) : Solid text :=
  identified.isName.solid

/-- The name has the commas of the identifier, as there are none in its marks. -/
theorem count_normalizeIdentifier (identified : IsIdentifier text) :
    (normalizeIdentifier text).count ',' = text.count ',' := by
  have comma : IsSign ',' := by decide
  rw [identified.normalizeIdentifier_eq identified.solid.trim_eq, comma.count_lower, comma.count_trim]
  rcases mem_identifier.mp identified with ⟨opening, closing, inner, pair, _, _, rfl⟩ | ⟨c, more, rfl, start, _⟩
  · rcases pair with same | same | same <;> cases same <;> simp [unquoted, opensQuoted]
  · simp [unquoted, (of_startsName start).2.1]

theorem isPlain_of_continuesName {c : Char} (continues : continuesName c = true) : isPlain c = true := by
  rw [isPlain, isQuote]
  by_contra other
  simp only [Bool.and_eq_true, Bool.not_eq_true', Bool.or_eq_false_iff, beq_eq_false_iff_ne, bne_iff_ne, not_and_or,
    ne_eq, not_not] at other
  rcases other with ((((rfl | rfl) | rfl) | rfl) | rfl) | rfl <;> exact absurd continues (by decide)

/-- A scan goes through a name that is not in brackets. -/
theorem scan (identified : IsIdentifier text) (unbracketed : text.head? ≠ some '[') :
    Uncut Nesting.after endsItem .start text ∧ text.foldl Nesting.after .start = .start := by
  rcases mem_identifier.mp identified with
    ⟨opening, closing, inner, pair, some', free, rfl⟩ | ⟨c, more, rfl, start, further⟩
  · have marked : (opening = '"' ∨ opening = '\x60') ∧ closing = opening := by
      rcases pair with same | same | same <;> cases same
      · exact ⟨.inl rfl, rfl⟩
      · exact ⟨.inr rfl, rfl⟩
      · exact absurd rfl unbracketed
    obtain ⟨isMark, rfl⟩ := marked
    let quoted : QuotedName := ⟨closing, inner, isMark, some', free⟩
    exact ⟨quoted.uncut_items, quoted.foldl_text⟩
  · have plain : ∀ d ∈ c :: more ++ [], isPlain d = true := by
      rw [List.append_nil]
      exact List.forall_mem_cons.mpr ⟨isPlain_of_continuesName (of_startsName start).1, fun d member =>
        isPlain_of_continuesName (further d member)⟩
    have free : ',' ∉ c :: more ++ [] := fun member => absurd (plain _ member) (by decide)
    exact ⟨endsItem_separates.uncut_of_not_mem free, Nesting.foldl_of_isPlain (by simp [Nesting.start]) plain⟩

end IsIdentifier

/-! ### Items -/

namespace ListedColumn

variable (column : ListedColumn)

/-- The column with the blank in front of it. -/
def item : Text :=
  ' ' :: column.text

theorem count_item : column.item.count ',' = column.name.count ',' := by
  have noted := List.count_eq_zero.mpr column.noted.not_mem
  rw [name, column.identified.count_normalizeIdentifier, item, text, List.count_cons_of_ne (by decide),
    List.count_append, noted, Nat.add_zero]

theorem count_flatten_items (columns : List ListedColumn) :
    (columns.map item).flatten.count ',' = (columns.map name).flatten.count ',' := by
  induction columns with
  | nil => rfl
  | cons column columns ih =>
      rw [List.map_cons, List.map_cons, List.flatten_cons, List.flatten_cons, List.count_append, List.count_append,
        column.count_item, ih]

theorem foldl_item : column.item.foldl Nesting.after .start = column.written.foldl Nesting.after .start := by
  rw [item, text, List.foldl_cons, List.foldl_append]
  exact column.noted.foldl_after (Nesting.isQuote_of_mem_foldl column.written)

theorem uncut_item : Uncut Nesting.after endsItem .start column.item ↔
    Uncut Nesting.after endsItem .start column.written := by
  rw [item, text, uncut_cons, uncut_append]
  exact ⟨fun ⟨_, uncut, _⟩ => uncut, fun uncut =>
    ⟨rfl, uncut, endsItem_separates.uncut_of_not_mem column.noted.not_mem⟩⟩

/-- A column that is an item of a list gives its name. -/
theorem columnOf_item : columnOf column.item = some column.name := by
  have solid := column.identified.solid
  have trimmed : trim column.item = column.written ++ trimRight column.note := by
    have left : trimLeft column.item = column.text :=
      trimLeft_append (by decide : ∀ c ∈ [' '], isBlank c = true) (column.identified.ends.append solid.some' _)
    rw [trim, left, text, trimRight_append solid.last]
  exact columnOf_eq trimmed (column.identified.first_apart fun bare => (column.apart bare).trimRight)

end ListedColumn

theorem parted_items {columns : List ListedColumn} :
    Parted Nesting.after endsItem .start (columns.map ListedColumn.item) ↔ Legible columns := by
  constructor
  · rintro ⟨uncut, closed⟩
    refine ⟨fun column member _ => ?_, (List.pairwise_map.mp closed).imp fun {column _} closed _ => ?_⟩
    · exact column.uncut_item.mp (uncut _ (List.mem_map_of_mem member))
    · exact column.foldl_item.symm.trans closed
  · rintro ⟨uncut, closed⟩
    refine ⟨List.forall_mem_map.mpr fun column member => column.uncut_item.mpr ?_,
      List.pairwise_map.mpr (closed.imp fun {column _} closed => column.foldl_item.trans ?_)⟩
    · by_cases bracketed : column.IsBracketed
      · exact uncut column member bracketed
      · exact (column.identified.scan bracketed).1
    · by_cases bracketed : column.IsBracketed
      · exact closed bracketed
      · exact (column.identified.scan bracketed).2

/-! ### Lists -/

theorem blank_joined {columns : List ListedColumn} (some' : columns ≠ []) :
    ' ' :: joined columns = [','].intercalate (columns.map ListedColumn.item) := by
  induction columns with
  | nil => exact absurd rfl some'
  | cons column columns ih =>
      cases columns with
      | nil => simp [joined, ListedColumn.item]
      | cons next columns =>
          have further := ih (List.cons_ne_nil _ _)
          rw [joined, List.map_cons, List.map_cons] at further
          rw [joined, List.map_cons, List.map_cons, List.map_cons, List.map_cons, List.intercalate_cons_cons,
            List.intercalate_cons_cons, ← List.map_cons, ← further, ListedColumn.item]
          simp

theorem columnOf_trim (raw : Text) : columnOf (trim raw) = columnOf raw := by
  rw [columnOf, trim_trim]
  rfl

theorem columnOf_blank (raw : Text) : columnOf (' ' :: raw) = columnOf raw :=
  rfl

/-- Each segment gives the name that it begins with; those of blanks, which are no items, have none. -/
theorem columnList_segments (list : Text) : columnList list = (itemSegments list).filterMap columnOf := by
  have named : ∀ raw, (if !(trim raw).isEmpty then columnOf (trim raw) else none) = columnOf raw := by
    intro raw
    cases empty : (trim raw).isEmpty with
    | false => exact columnOf_trim raw
    | true =>
        rw [← columnOf_trim raw, List.isEmpty_iff.mp empty]
        rfl
  rw [columnList_eq_filterMap, items, pieces, List.filterMap_filter, List.filterMap_map]
  exact congrArg (List.filterMap · _) (funext named)

theorem columnList_blank (list : Text) : columnList (' ' :: list) = columnList list := by
  obtain ⟨first, others, cut⟩ := List.exists_cons_of_ne_nil (segments_ne_nil Nesting.after endsItem .start list)
  have further : itemSegments (' ' :: list) = (' ' :: first) :: others := by
    have outer : endsItem .start ' ' = false := rfl
    have still : Nesting.after .start ' ' = .start := rfl
    rw [itemSegments, segments, if_neg (by simp [outer]), still, cut]
  rw [columnList_segments, columnList_segments, further, itemSegments, cut, List.filterMap_cons, List.filterMap_cons,
    columnOf_blank]

section Counts

variable {sign : Char} {f : Text → Option Text} {list : List Text}

theorem count_filterMap_le (fewer : ∀ item name, f item = some name → name.count sign ≤ item.count sign)
    (list : List Text) : (list.filterMap f).flatten.count sign + (list.filterMap f).length ≤
      list.flatten.count sign + list.length := by
  induction list with
  | nil => exact Nat.le_refl 0
  | cons item list ih =>
      rw [List.flatten_cons, List.count_append, List.length_cons]
      cases found : f item with
      | none =>
          rw [List.filterMap_cons_none found]
          omega
      | some name =>
          have here := fewer item name found
          rw [List.filterMap_cons_some found, List.flatten_cons, List.count_append, List.length_cons]
          omega

/-- If what is found in a list has as many signs and members as the list, then something with as many signs as it
is found in each member. -/
theorem forall₂_filterMap (fewer : ∀ item name, f item = some name → name.count sign ≤ item.count sign)
    (total : list.flatten.count sign + list.length =
      (list.filterMap f).flatten.count sign + (list.filterMap f).length) :
    List.Forall₂ (fun item name => item.count sign = name.count sign) list (list.filterMap f) := by
  induction list with
  | nil => exact .nil
  | cons item list ih =>
      have further := count_filterMap_le fewer list
      rw [List.flatten_cons, List.count_append, List.length_cons] at total
      cases found : f item with
      | none =>
          rw [List.filterMap_cons_none found] at total
          omega
      | some name =>
          have here := fewer item name found
          rw [List.filterMap_cons_some found] at total ⊢
          rw [List.flatten_cons, List.count_append, List.length_cons] at total
          exact .cons (by omega) (ih (by omega))

end Counts

variable {columns : List ListedColumn}

/-- If all columns are read, then the list is cut where they were joined. -/
theorem itemSegments_of_columnList (some' : columns ≠ [])
    (read : columnList (joined columns) = columns.map ListedColumn.name) :
    itemSegments (' ' :: joined columns) = columns.map ListedColumn.item := by
  have comma : IsSign ',' := by decide
  have names : (itemSegments (' ' :: joined columns)).filterMap columnOf = columns.map ListedColumn.name := by
    rw [← columnList_segments, columnList_blank, read]
  have restored : [','].intercalate (itemSegments (' ' :: joined columns)) =
      [','].intercalate (columns.map ListedColumn.item) := by
    rw [← blank_joined some']
    exact endsItem_separates.intercalate_segments _
  have total : (itemSegments (' ' :: joined columns)).flatten.count ',' + (itemSegments (' ' :: joined columns)).length =
      (columns.map ListedColumn.name).flatten.count ',' + (columns.map ListedColumn.name).length := by
    have cut : itemSegments (' ' :: joined columns) ≠ [] := segments_ne_nil _ _ _ _
    rw [← count_intercalate cut, restored, count_intercalate (by simpa using some'), List.length_map, List.length_map,
      ListedColumn.count_flatten_items]
  rw [← names] at total
  have alike := forall₂_filterMap (fun _ _ named => count_columnOf_le comma named) total
  rw [names, List.forall₂_map_right_iff] at alike
  refine eq_of_intercalate_eq (List.forall₂_map_right_iff.mpr (alike.imp fun segment column same => ?_)) restored
  exact same.trans column.count_item.symm

/-- Every name of a list of columns is read, in the order of the list, exactly if the list is legible. -/
theorem columnList_joined (columns : List ListedColumn) :
    columnList (joined columns) = columns.map ListedColumn.name ↔ Legible columns := by
  by_cases empty : columns = []
  · subst empty
    exact iff_of_true rfl ⟨by simp, .nil⟩
  rw [← parted_items]
  constructor
  · intro read
    rw [← itemSegments_of_columnList empty read]
    exact endsItem_separates.parted_segments _
  · intro parted
    have cut := endsItem_separates.segments_intercalate parted (by simpa using empty)
    rw [← columnList_blank, columnList_segments, blank_joined empty, itemSegments, cut, List.filterMap_map]
    rw [← List.filterMap_eq_map]
    exact List.filterMap_congr fun column _ => column.columnOf_item

/-- A comma in quotes in brackets, and a comma and a parenthesis in quotes. -/
theorem columnList_joined_mixed :
    let columns : List ListedColumn := [⟨"a".toList, "(10)".toList, by decide,
        .length (List.forall_mem_nil _) (by decide : "10".toList ≠ []) (by decide), fun _ => ends_cons.mpr (by decide)⟩,
      ⟨"[d 'e,f']".toList, [], by decide, .none, fun _ => ends_nil⟩,
      ⟨"\"b,(c\"".toList, "DESC".toList, by decide, .order (List.forall_mem_nil _) (by decide), fun bare =>
        absurd (ends_cons.mp bare) (by decide)⟩]
    Legible columns ∧ columnList (joined columns) = ["a".toList, "d 'e,f'".toList, "b,(c".toList] := by
  intro columns
  have legible : Legible columns := by
    constructor
    case uncut =>
      intro column member _
      simp only [columns, List.mem_cons, List.not_mem_nil, or_false] at member
      rcases member with rfl | rfl | rfl <;> decide
    case closed =>
      simp only [columns, ListedColumn.IsBracketed, List.pairwise_cons]
      decide
  refine ⟨legible, ((columnList_joined columns).mpr legible).trans ?_⟩
  decide +kernel

/-- The comma of a name in brackets cuts the name. -/
theorem columnList_joined_bracketedComma :
    let column : ListedColumn := ⟨"[a,b]".toList, [], by decide, .none, fun _ => ends_nil⟩
    columnList (joined [column]) = ["b".toList] ∧ [column].map ListedColumn.name = ["a,b".toList] := by
  decide +kernel

end Schemata.Ddl
