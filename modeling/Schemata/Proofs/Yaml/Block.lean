import Schemata.Proofs.Yaml.Leaf

/-!
Blocks as they are written and read. What is written for a value reads as the value, line by line: an item
behind its dash, and a field behind the colon of its key. Each reader is given fuel by the length of what it
reads.
-/

namespace Schemata.Yaml

/-! ### Lines -/

theorem startsMarker_name {c : Char} (letter : isNameChar c = true) (indent : Nat) (more : Text) :
    startsMarker (blanks indent ++ c :: more) = false := by
  have checked := of_isNameChar (fun c => c != '-' && c != '.') (by decide) letter
  simp only [Bool.and_eq_true, bne_iff_ne] at checked
  cases indent with
  | zero => simp [blanks, startsMarker, Ne.symm checked.1, Ne.symm checked.2]
  | succ indent => exact startsMarker_blank _

theorem startsMarker_dash (indent : Nat) (more : Text) :
    startsMarker (blanks indent ++ '-' :: ' ' :: more) = false := by
  cases indent with
  | zero => rfl
  | succ indent => exact startsMarker_blank _

theorem isEnd_line {indent : Nat} {c : Char} {more : Text}
    (unmarked : startsMarker (blanks indent ++ c :: more) = false) (line : Nat) :
    (⟨line, indent, c :: more⟩ : Cursor).isEnd = false := by
  cases indent with
  | zero => exact unmarked
  | succ indent => rfl

theorem isMark_name {c : Char} (letter : isNameChar c = true) {mark : Char} (other : isNameChar mark = false)
    (line column : Nat) (rest : Text) : (⟨line, column, c :: rest⟩ : Cursor).isMark mark = false := by
  have differs : (c == mark) = false := by
    rw [beq_eq_false_iff_ne]
    rintro rfl
    exact Bool.false_ne_true (other.symm.trans letter)
  change (c == mark && separatedNext rest) = false
  rw [differs, Bool.false_and]

/-- Where a list ends whose dashes stand at `column`: before a line further out, and below a key also
before the next key. -/
inductive EndsItems (belowKey : Bool) (column : Nat) : Text → Prop
  | outside {tail : Text} (outside : Outside column tail) : EndsItems belowKey column tail
  | key {c : Char} {more : Text} (below : belowKey = true) (letter : isNameChar c = true) :
      EndsItems belowKey column (blanks column ++ c :: more)

variable {belowKey : Bool} {column : Nat} {tail : Text}

theorem EndsItems.wider (ends : EndsItems belowKey column tail) : Outside (column + 1) tail := by
  cases ends with
  | outside outside => exact outside.mono (Nat.le_succ column)
  | key _ letter =>
      exact .line (Nat.lt_succ_self column) (beginsToken_of_isNameChar letter) (startsMarker_name letter _ _)

theorem outside_dash (column : Nat) (more : Text) :
    Outside (column + 1) (blanks column ++ '-' :: ' ' :: more) :=
  .line (Nat.lt_succ_self column) (by decide) (startsMarker_dash column more)

/-- The next place after a block is the end or further out. -/
theorem Outside.ends (outside : Outside column tail) {after : Cursor} (left : after.rest = '\n' :: tail) :
    (after.next.isEnd || decide (after.next.column < column)) = true := by
  cases outside with
  | done =>
      rw [Cursor.next_done left]
      rfl
  | line before begins _ =>
      rw [Cursor.next_line begins left]
      simp [before]

/-! ### Leaves -/

variable {written : Text} {value : Value} {fuel : Nat}

theorem LeafReads.blockNode (reads : LeafReads column tail written value)
    (outside : Outside (column + 1) tail) (enough : 2 ≤ fuel) {place : Nat} (inside : 0 < place)
    (opens : Bool) (line : Nat) :
    Gives value ('\n' :: tail) (blockNode (fuel + 1) column opens ⟨line, place, written ++ '\n' :: tail⟩) := by
  obtain ⟨node, after, read, stands, left⟩ := reads.gives fuel line place enough inside
  refine ⟨node, after, ?_, stands, left⟩
  rw [Yaml.blockNode, reads.unmarked line place '-' (by simp), if_neg Bool.false_ne_true,
    reads.unmarked line place '?' (by simp), if_neg Bool.false_ne_true, read]
  have ends : (after.next.rest.isEmpty || decide (after.line < after.next.line)) = true := by
    cases outside with
    | done =>
        rw [Cursor.next_done left]
        rfl
    | line _ begins _ =>
        rw [Cursor.next_line begins left]
        simp
  change (if (after.next.rest.isEmpty || decide (after.line < after.next.line)) = true then _ else _) = _
  rw [if_pos ends]
  rfl

/-! ### Lists -/

/-- A value reads behind a dash at `column`. -/
structure ItemReads (column : Nat) (value : Value) : Prop where
  begins : ∃ c rest, writeItem column value = c :: rest ∧ beginsToken c = true
  gives : ∀ ⦃fuel : Nat⦄ (line : Nat) (tail : Text), 4 * (writeItem column value).length + 2 ≤ fuel →
    Outside (column + 1) tail →
    Gives value ('\n' :: tail)
      (blockNode fuel column true ⟨line, column + 2, writeItem column value ++ tail⟩)

/-- The items of a list read with their dashes at `column`. -/
def ItemsRead (column : Nat) (items : List Value) : Prop :=
  ∀ ⦃fuel : Nat⦄ ⦃belowKey : Bool⦄ (line : Nat) (tail : Text),
    4 * (writeItems column true items).length ≤ fuel → EndsItems belowKey column tail →
    ∃ nodes after,
      blockItems fuel column belowKey ⟨line, column, writeItems column true items ++ tail⟩ =
          .ok (nodes, after) ∧
        Node.ItemsStandFor nodes items ∧ after.rest = '\n' :: tail

/-- What is read behind a dash, before the next line is looked at. -/
theorem blockItems_dash {line : Nat} {c : Char} {rest : Text} {item : Node} {after : Cursor}
    (begins : beginsToken c = true)
    (read : blockNode fuel column true ⟨line, column + 2, c :: rest⟩ = .ok (item, after)) :
    blockItems (fuel + 1) column belowKey ⟨line, column, '-' :: ' ' :: c :: rest⟩ =
      if after.next.isEnd || after.next.column < column then .ok ([item], after)
      else if column < after.next.column then .error .malformed
      else if after.next.isMark '-' then
        blockItems fuel column belowKey after.next >>= fun (others, after) => .ok (item :: others, after)
      else if belowKey then .ok ([item], after) else .error .malformed := by
  have place : ((⟨line, column, '-' :: ' ' :: c :: rest⟩ : Cursor).forward 1).next =
      ⟨line, column + 2, c :: rest⟩ := Cursor.next_token begins 1 rest
  rw [blockItems]
  dsimp only
  rw [place, if_neg (by simp [Cursor.isEnd, Cursor.isMarker]), read]
  by_cases inside : column < after.next.column
  · rw [if_pos inside]
    change (if _ then _ else if column < after.next.column then _ else _) = _
    rw [if_pos inside]
    rfl
  · rw [if_neg inside]
    change (if _ then _ else if column < after.next.column then _ else _) = _
    rw [if_neg inside]
    rfl

/-- The last item of a list. -/
theorem blockItems_last {line : Nat} {c : Char} {rest : Text} {item : Node} {after : Cursor}
    (begins : beginsToken c = true)
    (read : blockNode fuel column true ⟨line, column + 2, c :: rest⟩ = .ok (item, after))
    (ends : EndsItems belowKey column tail) (left : after.rest = '\n' :: tail) :
    blockItems (fuel + 1) column belowKey ⟨line, column, '-' :: ' ' :: c :: rest⟩ = .ok ([item], after) := by
  rw [blockItems_dash begins read]
  cases ends with
  | outside outside => rw [if_pos (outside.ends left)]
  | key below letter =>
      rw [Cursor.next_line (beginsToken_of_isNameChar letter) left, isEnd_line (startsMarker_name letter _ _),
        isMark_name letter (by decide)]
      simp [below]

/-- An item with another one on the next line. -/
theorem blockItems_further {line : Nat} {c : Char} {rest more : Text} {item : Node} {nodes : List Node}
    {after last : Cursor} (begins : beginsToken c = true)
    (read : blockNode fuel column true ⟨line, column + 2, c :: rest⟩ = .ok (item, after))
    (left : after.rest = '\n' :: (blanks column ++ '-' :: ' ' :: more))
    (others : blockItems fuel column belowKey ⟨after.line + 1, column, '-' :: ' ' :: more⟩ =
      .ok (nodes, last)) :
    blockItems (fuel + 1) column belowKey ⟨line, column, '-' :: ' ' :: c :: rest⟩ =
      .ok (item :: nodes, last) := by
  have following : after.next = ⟨after.line + 1, column, '-' :: ' ' :: more⟩ :=
    Cursor.next_line (by decide) left
  have unended : after.next.isEnd = false := by
    rw [following]
    exact isEnd_line (startsMarker_dash column _) _
  have dash : after.next.isMark '-' = true := by
    rw [following]
    rfl
  rw [blockItems_dash begins read, unended, dash, following, others]
  simp [bind, Except.bind]

theorem writeItems_first (column : Nat) (value : Value) (rest : List Value) :
    writeItems column true (value :: rest) =
      '-' :: ' ' :: (writeItem column value ++ writeItems column false rest) := by
  rw [writeItems]
  rfl

theorem writeItems_further (column : Nat) (value : Value) (rest : List Value) :
    writeItems column false (value :: rest) = blanks column ++ writeItems column true (value :: rest) := by
  rw [writeItems, writeItems]
  simp

/-- A list reads item by item. -/
theorem itemsRead {items : List Value} (filled : items ≠ []) (each : ∀ item ∈ items, ItemReads column item) :
    ItemsRead column items := by
  induction items with
  | nil => exact absurd rfl filled
  | cons value rest ih =>
      intro fuel belowKey line tail enough ends
      obtain ⟨first, others⟩ := List.forall_mem_cons.mp each
      obtain ⟨c, more, written, begins⟩ := first.begins
      rw [writeItems_first, List.length_cons, List.length_cons, List.length_append] at enough
      obtain ⟨fuel, rfl⟩ := Nat.exists_eq_add_of_le' (by omega : 1 ≤ fuel)
      have small : 4 * (writeItem column value).length + 2 ≤ fuel := by omega
      rw [writeItems_first, List.cons_append, List.cons_append, List.append_assoc]
      -- The last item ends where the list does, and any other one at the dash of the next.
      cases rest with
      | nil =>
          obtain ⟨node, after, read, stands, left⟩ := first.gives line tail small ends.wider
          refine ⟨[node], after, ?_, Node.itemsStandFor_nil.cons stands, left⟩
          rw [writeItems, List.nil_append]
          rw [written, List.cons_append] at read ⊢
          exact blockItems_last begins read ends left
      | cons second more =>
          rw [writeItems_further] at enough ⊢
          rw [List.length_append] at enough
          rw [List.append_assoc]
          obtain ⟨node, after, read, stands, left⟩ := first.gives line
            (blanks column ++ (writeItems column true (second :: more) ++ tail)) small
            (by rw [writeItems_first]; exact outside_dash column _)
          obtain ⟨nodes, last, readRest, standRest, leftRest⟩ :=
            ih (by simp) others (after.line + 1) tail (by omega : _ ≤ fuel) ends
          refine ⟨node :: nodes, last, ?_, standRest.cons stands, leftRest⟩
          rw [writeItems_first] at left readRest
          rw [written, List.cons_append] at read ⊢
          exact blockItems_further begins read left readRest

/-! ### Mappings -/

theorem holdsIndicator_name {name : Text} (letters : ∀ c ∈ name, isNameChar c = true) (before : Bool) :
    holdsIndicator before name = false := by
  induction name generalizing before with
  | nil => rfl
  | cons c rest ih =>
      rw [List.forall_mem_cons] at letters
      have checked := of_isNameChar (fun c => c != ':' && c != '#') (by decide) letters.1
      simp only [Bool.and_eq_true, bne_iff_ne] at checked
      rw [holdsIndicator, ih letters.2]
      simp [checked]

theorem hasIndicator_name {name : Text} (letters : ∀ c ∈ name, isNameChar c = true) :
    hasIndicator name = false := by
  cases name with
  | nil => rfl
  | cons c rest =>
      rw [List.forall_mem_cons] at letters
      have checked := of_isNameChar
        (fun c => c != '-' && c != '.' && c != '?' && c != ':' && !isIndicator c) (by decide) letters.1
      simp only [Bool.and_eq_true, bne_iff_ne, Bool.not_eq_true'] at checked
      obtain ⟨⟨⟨⟨dash, dot⟩, question⟩, colon⟩, indicator⟩ := checked
      have marker : startsWithMarker (c :: rest) = false := by
        simp [startsWithMarker, List.isPrefixOf, Ne.symm dash, Ne.symm dot]
      have start : startsWithIndicator (c :: rest) = false := by
        simp [startsWithIndicator, indicator, dash, question, colon]
      rw [hasIndicator, marker, start]
      exact holdsIndicator_name letters.2 _

theorem mayBePlain_name {name : Text} (named : IsName name) : mayBePlain name = true := by
  have flat (c : Char) (member : c ∈ name) := needsEscape_of_isNameChar (named.letters c member)
  have shown : name.any needsEscape = false := by
    rw [List.any_eq_false]
    exact fun c member => by simp [(flat c member).1]
  have unbroken : name.any isBreak = false := by
    rw [List.any_eq_false]
    exact fun c member => by simp [not_isBreak_of_ne (flat c member).1 (flat c member).2]
  have first : name.head? ≠ some ' ' := head?_ne_of_letters named.letters (by decide)
  have last : name.getLast? ≠ some ' ' := fun same =>
    absurd (named.letters ' ' (List.mem_of_getLast? same)) (by decide)
  simp [mayBePlain, named.filled, shown, unbroken, first, last, hasIndicator_name named.letters, named.unknown]

theorem isSimpleKey_name {name : Text} (named : IsName name) : isSimpleKey (.text name) = true := by
  have filled : name.isEmpty = false := by simpa using named.filled
  have unbroken : name.any isBreak = false := by
    rw [List.any_eq_false]
    intro c member
    obtain ⟨shown, inside⟩ := needsEscape_of_isNameChar (named.letters c member)
    simp [not_isBreak_of_ne shown inside]
  have short : name.length + 5 < 128 := by
    have limit := named.short
    omega
  change (!name.isEmpty && !name.any isBreak && decide (name.length + 5 < 128)) = true
  rw [filled, unbroken]
  exact decide_eq_true short

theorem keyText_name {name : Text} (named : IsName name) : keyText (.text name) = name := by
  rw [keyText, keyScalar, styleOf, if_pos (mayBePlain_name named)]

theorem writeEntries_first (column : Nat) {field : Text × Value} (named : IsName field.1)
    (rest : List (Text × Value)) :
    writeEntries column true ((field :: rest).map Value.ofField) =
      field.1 ++ ':' :: (writeField column (column + field.1.length + 2) field.2 ++
        writeEntries column false (rest.map Value.ofField)) := by
  rw [List.map_cons, Value.ofField, writeEntries, keyText_name named, isSimpleKey_name named]
  simp

theorem writeEntries_begins (column : Nat) {field : Text × Value} (named : IsName field.1)
    (rest : List (Text × Value)) :
    ∃ c more, writeEntries column true ((field :: rest).map Value.ofField) = c :: more ∧
      isNameChar c = true := by
  obtain ⟨c, more, written⟩ := List.exists_cons_of_ne_nil named.filled
  have letter : isNameChar c = true := named.letters c (written ▸ List.mem_cons_self ..)
  rw [writeEntries_first column named, written]
  exact ⟨c, _, rfl, letter⟩

theorem writeEntries_further (column : Nat) (entry : Value × Value) (rest : List (Value × Value)) :
    writeEntries column false (entry :: rest) = blanks column ++ writeEntries column true (entry :: rest) := by
  rw [writeEntries, writeEntries]
  simp

theorem isAt_name {c : Char} (letter : isNameChar c = true) {cursor : Cursor} {rest : Text}
    (here : cursor.rest = c :: rest) {d : Char} (other : isNameChar d = false) : cursor.isAt d = false := by
  refine Cursor.isAt_of_rest here ?_
  rintro rfl
  exact Bool.false_ne_true (other.symm.trans letter)

theorem isMarker_name {c : Char} (letter : isNameChar c = true) {cursor : Cursor} {rest : Text}
    (here : cursor.rest = c :: rest) : cursor.isMarker = false := by
  rw [Cursor.isMarker, here, Bool.and_eq_false_iff]
  exact Or.inr (startsMarker_name letter 0 rest)

/-- A key is a leaf of its own, up to the colon. -/
theorem blockLeaf_key {name rest : Text} (named : IsName name) (separated : separatedNext rest = true)
    (fuel : Nat) (parent : Int) (line column : Nat) :
    blockLeaf fuel parent ⟨line, column, name ++ ':' :: rest⟩ =
      .ok (.plain name, ⟨line, column + name.length, ':' :: rest⟩) := by
  have flat (c : Char) (member : c ∈ name) := needsEscape_of_isNameChar (named.letters c member)
  have read : readPlain false (parent + 1) (name ++ ':' :: rest) = (name, ':' :: rest) :=
    readPlain_key named.filled named.letters separated
  obtain ⟨c, more, rfl⟩ := List.exists_cons_of_ne_nil named.filled
  have letter := named.letters c (List.mem_cons_self ..)
  rw [blockLeaf, isAt_name letter rfl (by decide), isAt_name letter rfl (by decide), Bool.or_self,
    if_neg Bool.false_ne_true,
    readScalar_plain (startsPlain_name letter false _) (isMarker_name letter rfl) read,
    Cursor.reaching_line flat]

theorem next_colon (line column : Nat) (rest : Text) :
    (⟨line, column, ':' :: rest⟩ : Cursor).next = ⟨line, column, ':' :: rest⟩ :=
  Cursor.skipFrom_token (by decide) rest

theorem isKeyPlace_name {name : Text} (named : IsName name) (line column place : Nat) (rest : Text) :
    isKeyPlace ⟨line, column, name ++ ':' :: rest⟩ ⟨line, place, ':' :: rest⟩ = true := by
  have short : name.length ≤ keyLimit := Nat.le_trans named.short (by decide)
  simp [isKeyPlace, short]

theorem isMark_of_named {name : Text} (named : IsName name) {mark : Char} (other : isNameChar mark = false)
    (line column : Nat) (rest : Text) :
    (⟨line, column, name ++ rest⟩ : Cursor).isMark mark = false := by
  obtain ⟨c, more, rfl⟩ := List.exists_cons_of_ne_nil named.filled
  exact isMark_name (named.letters c (List.mem_cons_self ..)) other line column _

theorem separatedNext_writeField (column place : Nat) (value : Value) (rest : Text) :
    separatedNext (writeField column place value ++ rest) = true := by
  unfold writeField
  split <;> rfl

/-- A value reads behind the colon of a key at `column`. -/
def FieldReads (column : Nat) (value : Value) : Prop :=
  ∀ ⦃fuel : Nat⦄ (line place start : Nat) (tail : Text),
    4 * (writeField column place value).length ≤ fuel → EndsItems true column tail →
    Gives value ('\n' :: tail)
      (blockField fuel column false ⟨line, start, writeField column place value ++ tail⟩)

/-- The entries of a mapping read with their keys at `column`. -/
def EntriesRead (column : Nat) (fields : List (Text × Value)) : Prop :=
  ∀ ⦃fuel : Nat⦄ (line : Nat) (tail : Text),
    4 * (writeEntries column true (fields.map Value.ofField)).length + 1 ≤ fuel → Outside column tail →
    ∃ nodes after,
      blockEntries fuel column ⟨line, column, writeEntries column true (fields.map Value.ofField) ++ tail⟩ =
          .ok (nodes, after) ∧
        Node.EntriesStandFor nodes fields ∧ after.rest = '\n' :: tail

theorem blockEntry_name {name rest : Text} {line : Nat} {node : Node} {after : Cursor} (named : IsName name)
    (separated : separatedNext rest = true)
    (read : blockField fuel column false ⟨line, column + name.length + 1, rest⟩ = .ok (node, after)) :
    blockEntry (fuel + 1) column ⟨line, column, name ++ ':' :: rest⟩ = .ok ((.plain name, node), after) := by
  have forward : (⟨line, column + name.length, ':' :: rest⟩ : Cursor).forward 1 =
      ⟨line, column + name.length + 1, rest⟩ := rfl
  have mark : (⟨line, column + name.length, ':' :: rest⟩ : Cursor).isMark ':' = true := separated
  rw [blockEntry, isMark_of_named named (by decide), if_neg Bool.false_ne_true, blockLeaf_key named separated]
  simp only [bind, Except.bind, next_colon, mark, isKeyPlace_name named, forward, read]
  rfl

/-- What is read of an entry, before the next line is looked at. -/
theorem blockEntries_entry {cursor after : Cursor} {entry : Node × Node}
    (read : blockEntry fuel column cursor = .ok (entry, after)) :
    blockEntries (fuel + 1) column cursor =
      if after.next.isEnd || after.next.column < column then .ok ([entry], after)
      else if column < after.next.column || after.next.isMark '-' then .error .malformed
      else blockEntries fuel column after.next >>= fun (others, after) => .ok (entry :: others, after) := by
  rw [blockEntries, read]
  simp only [bind, Except.bind, pure, Except.pure]
  split
  · rfl
  · split
    · rfl
    · rfl

/-- An entry with another one on the next line. -/
theorem blockEntries_further {cursor after last : Cursor} {entry : Node × Node} {nodes : List (Node × Node)}
    {c : Char} {more : Text} (letter : isNameChar c = true)
    (read : blockEntry fuel column cursor = .ok (entry, after))
    (left : after.rest = '\n' :: (blanks column ++ c :: more))
    (others : blockEntries fuel column ⟨after.line + 1, column, c :: more⟩ = .ok (nodes, last)) :
    blockEntries (fuel + 1) column cursor = .ok (entry :: nodes, last) := by
  have following : after.next = ⟨after.line + 1, column, c :: more⟩ :=
    Cursor.next_line (beginsToken_of_isNameChar letter) left
  have unended : after.next.isEnd = false := by
    rw [following]
    exact isEnd_line (startsMarker_name letter _ _) _
  have undashed : after.next.isMark '-' = false := by
    rw [following]
    exact isMark_name letter (by decide) _ _ _
  rw [blockEntries_entry read, unended, undashed, following, others]
  simp [bind, Except.bind]

/-- A mapping reads entry by entry. -/
theorem entriesRead {fields : List (Text × Value)} (filled : fields ≠ [])
    (names : ∀ field ∈ fields, IsName field.1) (each : ∀ field ∈ fields, FieldReads column field.2) :
    EntriesRead column fields := by
  induction fields with
  | nil => exact absurd rfl filled
  | cons field rest ih =>
      intro fuel line tail enough outside
      obtain ⟨named, otherNames⟩ := List.forall_mem_cons.mp names
      obtain ⟨first, others⟩ := List.forall_mem_cons.mp each
      rw [writeEntries_first column named, List.length_append, List.length_cons, List.length_append] at enough
      obtain ⟨fuel, rfl⟩ := Nat.exists_eq_add_of_le' (by omega : 2 ≤ fuel)
      have small : 4 * (writeField column (column + field.1.length + 2) field.2).length ≤ fuel := by omega
      rw [writeEntries_first column named, List.append_assoc, List.cons_append, List.append_assoc]
      have isKey : (Node.plain field.1).IsKey field.1 := Node.isKey_plain named
      -- The last entry ends where the mapping does, and any other one at the name of the next.
      cases rest with
      | nil =>
          obtain ⟨node, after, read, stands, left⟩ :=
            first line (column + field.1.length + 2) (column + field.1.length + 1) tail small (.outside outside)
          have entry := blockEntry_name named (separatedNext_writeField _ _ _ _) read
          refine ⟨[(.plain field.1, node)], after, ?_, Node.entriesStandFor_nil.cons isKey stands, left⟩
          rw [List.map_nil, writeEntries, List.nil_append, blockEntries_entry entry,
            if_pos (outside.ends left)]
      | cons second more =>
          obtain ⟨c, written, begins, letter⟩ :=
            writeEntries_begins column (otherNames second (List.mem_cons_self ..)) more
          have further : writeEntries column false ((second :: more).map Value.ofField) ++ tail =
              blanks column ++ (c :: written ++ tail) := by
            rw [List.map_cons, writeEntries_further, ← List.map_cons, begins, List.append_assoc]
          have length := congrArg List.length further
          simp only [List.length_append, List.length_cons] at length
          rw [further]
          obtain ⟨node, after, read, stands, left⟩ :=
            first line (column + field.1.length + 2) (column + field.1.length + 1)
              (blanks column ++ (c :: written ++ tail)) small (.key rfl letter)
          have entry := blockEntry_name named (separatedNext_writeField _ _ _ _) read
          obtain ⟨nodes, last, readRest, standRest, leftRest⟩ :=
            ih (by simp) otherNames others (after.line + 1) tail
              (by rw [begins, List.length_cons]; omega : _ ≤ fuel + 1) outside
          refine ⟨(.plain field.1, node) :: nodes, last, ?_, standRest.cons isKey stands, leftRest⟩
          rw [begins] at readRest
          exact blockEntries_further letter entry left readRest

/-! ### Values -/

theorem writeItem_inline (inLine : inline (column + 2) (column + 2) value = some written) :
    writeItem column value = written ++ ['\n'] := by
  unfold writeItem
  split
  · cases inLine
  · cases inLine
  · rw [inLine]
    rfl

theorem writeField_inline {place : Nat} (inLine : inline (column + 2) place value = some written) :
    writeField column place value = ' ' :: written ++ ['\n'] := by
  unfold writeField
  split
  · cases inLine
  · cases inLine
  · rw [inLine]
    rfl

theorem itemReads_inline {depth : Nat} (storable : value.Storable depth) (room : column + 2 < width)
    (inLine : inline (column + 2) (column + 2) value = some written) : ItemReads column value where
  begins := by
    obtain ⟨c, rest, begins, token⟩ := (leafReads_inline storable inLine room .done).begins
    rw [writeItem_inline inLine, begins]
    exact ⟨c, _, rfl, token⟩
  gives := by
    intro fuel line tail enough outside
    obtain ⟨fuel, rfl⟩ := Nat.exists_eq_add_of_le' (by omega : 1 ≤ fuel)
    have reads := leafReads_inline storable inLine room outside
    rw [writeItem_inline inLine, List.length_append, List.length_singleton] at enough
    rw [writeItem_inline inLine, List.append_assoc]
    exact reads.blockNode outside (by omega) (Nat.succ_pos _) true line

theorem blockField_sameLine {line place : Nat} {c : Char} {rest : Text} (begins : beginsToken c = true) :
    blockField (fuel + 1) column false ⟨line, place, ' ' :: c :: rest⟩ =
      blockNode fuel column false ⟨line, place + 1, c :: rest⟩ := by
  have next : (⟨line, place, ' ' :: c :: rest⟩ : Cursor).next = ⟨line, place + 1, c :: rest⟩ :=
    Cursor.next_token begins 1 rest
  rw [blockField, next]
  dsimp only
  rw [if_neg (by simp [Cursor.isEnd, Cursor.isMarker]), if_pos (by simp)]

theorem fieldReads_inline {depth : Nat} (storable : value.Storable depth) (room : column + 2 < width)
    (inLine : ∀ place, ∃ written, inline (column + 2) place value = some written) :
    FieldReads column value := by
  intro fuel line place start tail enough ends
  obtain ⟨written, inLine⟩ := inLine place
  have reads := leafReads_inline storable inLine room ends.wider
  obtain ⟨c, rest, begins, token⟩ := reads.begins
  rw [writeField_inline inLine] at enough ⊢
  rw [List.length_append, List.length_cons, List.length_singleton] at enough
  obtain ⟨fuel, rfl⟩ := Nat.exists_eq_add_of_le' (by omega : 2 ≤ fuel)
  have gives := reads.blockNode ends.wider (by omega : 2 ≤ fuel) (Nat.succ_pos start) false line
  have whole : ' ' :: written ++ ['\n'] ++ tail = ' ' :: (written ++ '\n' :: tail) := by simp
  rw [whole]
  rw [begins, List.cons_append] at gives ⊢
  rwa [blockField_sameLine token]

theorem blockNode_dash (fuel : Nat) (parent : Int) (line : Nat) (rest : Text) :
    blockNode (fuel + 1) parent true ⟨line, column, '-' :: ' ' :: rest⟩ =
      blockItems fuel column false ⟨line, column, '-' :: ' ' :: rest⟩ >>= fun (items, after) =>
        .ok (.list items, after) := by
  have mark : (⟨line, column, '-' :: ' ' :: rest⟩ : Cursor).isMark '-' = true := rfl
  rw [blockNode, mark, if_pos rfl]
  rfl

theorem blockNode_name {name rest : Text} (named : IsName name) (separated : separatedNext rest = true)
    (fuel : Nat) (parent : Int) (line : Nat) :
    blockNode (fuel + 1) parent true ⟨line, column, name ++ ':' :: rest⟩ =
      blockEntries fuel column ⟨line, column, name ++ ':' :: rest⟩ >>= fun (entries, after) =>
        .ok (.map entries, after) := by
  have mark : (⟨line, column + name.length, ':' :: rest⟩ : Cursor).isMark ':' = true := separated
  rw [blockNode, isMark_of_named named (by decide), if_neg Bool.false_ne_true,
    isMark_of_named named (by decide), if_neg Bool.false_ne_true, blockLeaf_key named separated]
  simp only [bind, Except.bind, next_colon, mark, isKeyPlace_name named]
  simp
  rfl

theorem ItemsRead.item {v : Value} {rest : List Value} (read : ItemsRead (column + 2) (v :: rest)) :
    ItemReads column (.list (v :: rest)) where
  begins := by
    rw [writeItem, writeItems_first]
    exact ⟨'-', _, rfl, by decide⟩
  gives := by
    intro fuel line tail enough outside
    obtain ⟨fuel, rfl⟩ := Nat.exists_eq_add_of_le' (by omega : 1 ≤ fuel)
    rw [writeItem] at enough ⊢
    obtain ⟨nodes, after, reads, stands, left⟩ := read line tail (by omega : _ ≤ fuel)
      (.outside (outside.mono (Nat.le_succ _)) : EndsItems false (column + 2) tail)
    refine ⟨.list nodes, after, ?_, stands.list, left⟩
    rw [writeItems_first] at reads ⊢
    rw [List.cons_append, List.cons_append] at reads ⊢
    rw [blockNode_dash, reads]
    rfl

/-- A mapping that may begin on this line. -/
theorem EntriesRead.blockNode {field : Text × Value} {rest : List (Text × Value)}
    (read : EntriesRead column (field :: rest)) (named : IsName field.1)
    (distinct : ((field :: rest).map Prod.fst).Nodup)
    (enough : 4 * (writeEntries column true ((field :: rest).map Value.ofField)).length + 2 ≤ fuel)
    (outside : Outside column tail) (parent : Int) (line : Nat) :
    Gives (.map ((field :: rest).map Value.ofField)) ('\n' :: tail) (blockNode fuel parent true
      ⟨line, column, writeEntries column true ((field :: rest).map Value.ofField) ++ tail⟩) := by
  obtain ⟨fuel, rfl⟩ := Nat.exists_eq_add_of_le' (by omega : 1 ≤ fuel)
  obtain ⟨nodes, after, reads, stands, left⟩ := read line tail (by omega : _ ≤ fuel) outside
  refine ⟨.map nodes, after, ?_, stands.map distinct, left⟩
  rw [writeEntries_first column named, List.append_assoc, List.cons_append, List.append_assoc] at reads ⊢
  rw [blockNode_name named (separatedNext_writeField _ _ _ _), reads]
  rfl

theorem EntriesRead.item {field : Text × Value} {rest : List (Text × Value)}
    (read : EntriesRead (column + 2) (field :: rest)) (named : IsName field.1)
    (distinct : ((field :: rest).map Prod.fst).Nodup) :
    ItemReads column (.map ((field :: rest).map Value.ofField)) where
  begins := by
    obtain ⟨c, more, begins, letter⟩ := writeEntries_begins (column + 2) named rest
    rw [List.map_cons, writeItem, ← List.map_cons, begins]
    exact ⟨c, more, rfl, beginsToken_of_isNameChar letter⟩
  gives := by
    intro fuel line tail enough outside
    rw [List.map_cons, writeItem, ← List.map_cons] at enough ⊢
    exact read.blockNode named distinct enough (outside.mono (Nat.le_succ _)) column line

/-- Further in, on a new line, stands the node itself. -/
theorem blockField_deeper {indent : Nat} {c : Char} {rest : Text} (begins : beginsToken c = true)
    (unmarked : startsMarker (blanks indent ++ c :: rest) = false) (deeper : column < indent)
    (line place : Nat) :
    blockField (fuel + 1) column false ⟨line, place, '\n' :: (blanks indent ++ c :: rest)⟩ =
      blockNode fuel column true ⟨line + 1, indent, c :: rest⟩ := by
  have next : (⟨line, place, '\n' :: (blanks indent ++ c :: rest)⟩ : Cursor).next =
      ⟨line + 1, indent, c :: rest⟩ := Cursor.next_line begins rfl
  rw [blockField, next]
  dsimp only
  rw [isEnd_line unmarked, if_neg Bool.false_ne_true, if_neg (by simp), if_pos deeper]

/-- The dashes of a list stand below its key. -/
theorem blockField_dash (line place : Nat) (rest : Text) :
    blockField (fuel + 1) column false ⟨line, place, '\n' :: (blanks column ++ '-' :: ' ' :: rest)⟩ =
      blockItems fuel column true ⟨line + 1, column, '-' :: ' ' :: rest⟩ >>= fun (items, after) =>
        .ok (.list items, after) := by
  have next : (⟨line, place, '\n' :: (blanks column ++ '-' :: ' ' :: rest)⟩ : Cursor).next =
      ⟨line + 1, column, '-' :: ' ' :: rest⟩ := Cursor.next_line (by decide) rfl
  have mark : (⟨line + 1, column, '-' :: ' ' :: rest⟩ : Cursor).isMark '-' = true := rfl
  rw [blockField, next]
  dsimp only
  rw [isEnd_line (startsMarker_dash column rest), if_neg Bool.false_ne_true, if_neg (by simp),
    if_neg (Nat.lt_irrefl column), mark, if_pos (by simp)]
  rfl

theorem ItemsRead.field {v : Value} {rest : List Value} (read : ItemsRead column (v :: rest)) :
    FieldReads column (.list (v :: rest)) := by
  intro fuel line place start tail enough ends
  rw [writeField, List.length_append, List.length_cons] at enough
  rw [writeField, List.append_assoc, List.cons_append]
  obtain ⟨fuel, rfl⟩ := Nat.exists_eq_add_of_le' (by omega : 1 ≤ fuel)
  obtain ⟨nodes, after, reads, stands, left⟩ := read (line + 1) tail (by omega : _ ≤ fuel) ends
  refine ⟨.list nodes, after, ?_, stands.list, left⟩
  rw [writeItems_first, List.cons_append, List.cons_append] at reads ⊢
  rw [blockField_dash, reads]
  rfl

theorem EntriesRead.field {field : Text × Value} {rest : List (Text × Value)}
    (read : EntriesRead (column + 2) (field :: rest)) (named : IsName field.1)
    (distinct : ((field :: rest).map Prod.fst).Nodup) :
    FieldReads column (.map ((field :: rest).map Value.ofField)) := by
  intro fuel line place start tail enough ends
  rw [List.map_cons, writeField, ← List.map_cons, List.length_append, List.length_cons] at enough
  rw [List.map_cons, writeField, ← List.map_cons, List.append_assoc, List.cons_append]
  obtain ⟨fuel, rfl⟩ := Nat.exists_eq_add_of_le' (by omega : 1 ≤ fuel)
  obtain ⟨c, more, begins, letter⟩ := writeEntries_begins (column + 2) named rest
  have gives := read.blockNode named distinct (by omega : _ ≤ fuel) (ends.wider.mono (Nat.le_succ _))
    column (line + 1)
  rw [begins, List.cons_append] at gives ⊢
  rwa [blockField_deeper (beginsToken_of_isNameChar letter) (startsMarker_name letter _ _) (by omega)]

theorem reads_inline {depth : Nat} (storable : value.Storable depth) (room : column + 2 < width)
    (inLine : ∀ place, ∃ written, inline (column + 2) place value = some written) :
    ItemReads column value ∧ FieldReads column value :=
  ⟨itemReads_inline storable room (inLine (column + 2)).choose_spec, fieldReads_inline storable room inLine⟩

/-- What is written for a value reads as the value, behind a dash and behind a colon. Each level of nesting
may take two columns. -/
theorem reads_of_storable {depth : Nat} (storable : value.Storable depth) (column : Nat)
    (room : column + 2 * depth + 2 < width) : ItemReads column value ∧ FieldReads column value := by
  induction storable generalizing column with
  | null => exact reads_inline (.null : Value.Storable 0 _) (by omega) fun _ => ⟨_, rfl⟩
  | bool b => exact reads_inline (.bool b : Value.Storable 0 _) (by omega) fun _ => ⟨_, rfl⟩
  | int short => exact reads_inline (.int short : Value.Storable 0 _) (by omega) fun _ => ⟨_, rfl⟩
  | text s => exact reads_inline (.text s : Value.Storable 0 _) (by omega) fun _ => ⟨_, rfl⟩
  | list each ih =>
      rename_i depth items
      cases items with
      | nil => exact reads_inline (.list each) (by omega) fun _ => ⟨_, rfl⟩
      | cons value rest =>
          have read (column : Nat) (room : column + 2 * depth + 2 < width) :
              ItemsRead column (value :: rest) :=
            itemsRead (by simp) fun item member => (ih item member column room).1
          exact ⟨(read (column + 2) (by omega)).item, (read column (by omega)).field⟩
  | map names distinct each ih =>
      rename_i depth fields
      cases fields with
      | nil => exact reads_inline (.map names distinct each) (by omega) fun _ => ⟨_, rfl⟩
      | cons field rest =>
          have named := names field (List.mem_cons_self ..)
          have read : EntriesRead (column + 2) (field :: rest) :=
            entriesRead (by simp) names fun field member => (ih field member (column + 2) (by omega)).2
          exact ⟨read.item named distinct, read.field named distinct⟩

end Schemata.Yaml
