import Schemata.Proofs.Document.Texts
import Schemata.Proofs.Yaml.Strings

/-!
Documents of JSON as they are read: lists and mappings between brackets and braces. Each value reads as
itself with its texts in units of sixteen bits.
-/

namespace Schemata.Yaml

/-- What follows a value between brackets or braces. -/
inductive EndsFlow : Text → Prop
  | comma (more : Text) : EndsFlow (',' :: more)
  | closing {c : Char} (mark : c = ']' ∨ c = '\x7d') (count : Nat) (more : Text) :
      EndsFlow ('\n' :: (blanks count ++ c :: more))

variable {tail : Text} {fuel : Nat}

theorem next_comma {cursor : Cursor} {more : Text} (here : cursor.rest = ',' :: more) :
    cursor.next = cursor := by
  obtain ⟨line, column, rest⟩ := cursor
  dsimp only at here
  subst here
  exact Cursor.skipFrom_token (by decide) more

theorem next_closing {cursor : Cursor} {c : Char} (mark : c = ']' ∨ c = '\x7d') {count : Nat} {more : Text}
    (here : cursor.rest = '\n' :: (blanks count ++ c :: more)) :
    cursor.next = ⟨cursor.line + 1, count, c :: more⟩ :=
  Cursor.next_line (by rcases mark with rfl | rfl <;> decide) here

theorem EndsFlow.not_colon (ends : EndsFlow tail) {after : Cursor} (left : after.rest = tail) :
    after.next.isAt ':' = false := by
  cases ends with
  | comma more =>
      rw [next_comma left, Cursor.isAt, left]
      rfl
  | closing mark count more =>
      rw [next_closing mark left]
      rcases mark with rfl | rfl <;> rfl

/-! ### Words -/

theorem plainRest_closing {c : Char} (mark : c = ']' ∨ c = '\x7d') (indent : Nat) (more : Text) (limit : Int)
    (count : Nat) (part : Text) :
    plainRest true limit count part ('\n' :: (blanks indent ++ c :: more)) =
      (part, '\n' :: (blanks indent ++ c :: more)) := by
  have begins : beginsToken c = true := by rcases mark with rfl | rfl <;> decide
  have unmarked : startsMarker (blanks indent ++ c :: more) = false := by
    cases indent with
    | zero => rcases mark with rfl | rfl <;> rfl
    | succ indent => exact startsMarker_blank _
  have stops : plainParts true limit count (c :: more) = ([], c :: more) := by
    cases count with
    | zero => rfl
    | succ count => rcases mark with rfl | rfl <;> rfl
  unfold plainRest
  rw [plainGap_break, emptyLines_line begins unmarked]
  dsimp only
  rw [stops]
  rfl

theorem readPlain_flowWord {name : Text} (filled : name ≠ []) (letters : ∀ c ∈ name, isNameChar c = true)
    (ends : EndsFlow tail) : readPlain true 0 (name ++ tail) = (name, tail) := by
  have first : name.head? ≠ some '#' := head?_ne_of_letters letters (by decide)
  cases ends with
  | comma more =>
      exact (wordReads_name filled letters (plainRun_nil rfl)
        (plainRest_token (by decide) more)).readPlain filled first
  | closing mark count more =>
      exact (wordReads_name filled letters (plainRun_separator (by decide) true _)
        (plainRest_closing mark count more 0)).readPlain filled first

/-! ### Values -/

/-- The units of sixteen bits as which the texts of a value are read. -/
def halved (value : Value) : Value :=
  value.mapTexts Text.halved

/-- A value between brackets or braces begins with this character. -/
def beginsFlow (c : Char) : Bool :=
  beginsToken c && c != ']' && c != '\x7d' && c != ',' && c != ':' && c != '?'

theorem beginsToken_of_beginsFlow {c : Char} (begins : beginsFlow c = true) : beginsToken c = true := by
  simp only [beginsFlow, Bool.and_eq_true] at begins
  exact begins.1.1.1.1.1

theorem ne_of_beginsFlow {c d : Char} (begins : beginsFlow c = true) (other : beginsFlow d = false) :
    c ≠ d := by
  rintro rfl
  exact Bool.false_ne_true (other.symm.trans begins)

/-- A value reads between brackets or braces. -/
structure FlowReads (level : Nat) (value : Value) : Prop where
  begins : ∃ c rest, Json.write level value = c :: rest ∧ beginsFlow c = true
  gives : ∀ ⦃fuel : Nat⦄ (cursor : Cursor) (tail : Text), 4 * (Json.write level value).length ≤ fuel →
    cursor.rest = Json.write level value ++ tail → EndsFlow tail →
    Gives (halved value) tail (flowNode fuel cursor)

/-- Whatever is read of what is not empty has fuel for a few steps. -/
theorem exists_fuel {written : Text} (filled : written ≠ []) (enough : 4 * written.length ≤ fuel) :
    ∃ less, fuel = less + 4 := by
  have positive := List.length_pos_iff.mpr filled
  exact Nat.exists_eq_add_of_le' (by omega)

theorem flowReads_word {level : Nat} {name : Text} {value : Value} (filled : name ≠ [])
    (letters : ∀ c ∈ name, isNameChar c = true) (written : Json.write level value = name)
    (stands : plainValue name = .ok (halved value)) : FlowReads level value where
  begins := by
    obtain ⟨c, rest, rfl⟩ := List.exists_cons_of_ne_nil filled
    have letter := letters c (List.mem_cons_self ..)
    exact ⟨c, rest, written, of_isNameChar beginsFlow (by decide) letter⟩
  gives := by
    intro fuel cursor tail enough here ends
    have read := readPlain_flowWord filled letters ends
    rw [written] at here enough
    obtain ⟨c, rest, rfl⟩ := List.exists_cons_of_ne_nil filled
    have letter := letters c (List.mem_cons_self ..)
    obtain ⟨fuel, rfl⟩ := exists_fuel filled enough
    refine ⟨.plain (c :: rest), cursor.reaching tail, ?_, Node.standsFor_plain stands,
      Cursor.reaching_rest here⟩
    rw [flowNode, isAt_name letter here (by decide), if_neg Bool.false_ne_true,
      isAt_name letter here (by decide), if_neg Bool.false_ne_true]
    exact readScalar_plain (here ▸ startsPlain_name letter true _) (isMarker_name letter here) (here ▸ read)

theorem flowReads_text (level : Nat) (s : Text) : FlowReads level (.text s) where
  begins := ⟨'"', _, rfl, by decide⟩
  gives := by
    intro fuel cursor tail enough here _
    have quoted : cursor.rest = '"' :: (s.flatMap Json.escapedChar ++ '"' :: tail) := by
      rw [here]
      change '"' :: (s.flatMap Json.escapedChar ++ ['"']) ++ tail = _
      simp
    obtain ⟨fuel, rfl⟩ := exists_fuel (by simp [Json.write, Json.scalarText, Json.quoted]) enough
    refine ⟨.quoted (Text.halved s), cursor.reaching tail, ?_, Node.standsFor_quoted _,
      Cursor.reaching_rest here⟩
    rw [flowNode, Cursor.isAt_of_rest quoted (by decide), if_neg Bool.false_ne_true,
      Cursor.isAt_of_rest quoted (by decide), if_neg Bool.false_ne_true]
    exact readScalar_quoted (Or.inl rfl) quoted (readQuoted_json tail s)

/-! ### Entries -/

/-- What is written reads as an entry of which something holds. -/
structure EntryReads (closing : Char) (written : Text) (Holds : FlowEntry → Prop) : Prop where
  begins : ∃ c rest, written = c :: rest ∧ beginsToken c = true ∧ c ≠ closing
  gives : ∀ ⦃fuel : Nat⦄ (line column : Nat) (tail : Text), 4 * written.length + 2 ≤ fuel → EndsFlow tail →
    ∃ entry after, flowEntry fuel closing ⟨line, column, written ++ tail⟩ = .ok (entry, after) ∧
      Holds entry ∧ after.rest = tail

theorem flowEntries_first {closing : Char} {place after last : Cursor} {entry : FlowEntry}
    {others : List FlowEntry} (opens : place.isAt closing = false)
    (read : flowEntry fuel closing place = .ok (entry, after))
    (rest : flowEntries fuel closing false after.next = .ok (others, last)) :
    flowEntries (fuel + 1) closing true place = .ok (entry :: others, last) := by
  rw [flowEntries, opens, if_neg Bool.false_ne_true]
  simp [opens, read, rest, bind, Except.bind, pure, Except.pure]

theorem flowEntries_comma {closing : Char} {cursor place after last : Cursor} {entry : FlowEntry}
    {others : List FlowEntry} (goes : cursor.isAt closing = false) (comma : cursor.isAt ',' = true)
    (reached : (cursor.forward 1).next = place) (opens : place.isAt closing = false)
    (read : flowEntry fuel closing place = .ok (entry, after))
    (rest : flowEntries fuel closing false after.next = .ok (others, last)) :
    flowEntries (fuel + 1) closing false cursor = .ok (entry :: others, last) := by
  rw [flowEntries, goes, if_neg Bool.false_ne_true]
  simp [comma, reached, opens, read, rest, bind, Except.bind, pure, Except.pure]

theorem flowEntries_end {closing : Char} (line column : Nat) (tail : Text) (first : Bool) :
    flowEntries (fuel + 1) closing first ⟨line, column, closing :: tail⟩ =
      .ok ([], (⟨line, column, closing :: tail⟩ : Cursor).forward 1) := by
  rw [flowEntries, if_pos (by simp [Cursor.isAt])]
  rfl

section Run

variable {α : Type} {closing : Char} {Holds : FlowEntry → α → Prop} (level : Nat) (write : α → Text)

/-- The entries after the first one, each behind a comma on a line of its own. -/
def writeRest (list : List α) : Text :=
  list.flatMap fun a => ',' :: Json.line level ++ write a

theorem writeRest_cons (a : α) (rest : List α) (left : Text) :
    writeRest level write (a :: rest) ++ left =
      ',' :: '\n' :: (blanks (2 * level) ++ (write a ++ (writeRest level write rest ++ left))) := by
  simp [writeRest, Json.line, blanks]

theorem endsFlow_writeRest (mark : closing = ']' ∨ closing = '\x7d') (list : List α) (count : Nat)
    (tail : Text) : EndsFlow (writeRest level write list ++ '\n' :: (blanks count ++ closing :: tail)) := by
  cases list with
  | nil => exact .closing mark count tail
  | cons a rest =>
      rw [writeRest_cons]
      exact .comma _

variable {level} {write}

/-- The entries after the first one read up to the mark that closes their collection. -/
theorem flowEntries_rest (mark : closing = ']' ∨ closing = '\x7d') {list : List α}
    (each : ∀ a ∈ list, EntryReads closing (write a) (Holds · a)) {after : Cursor} {count : Nat} {tail : Text}
    (enough : 4 * (writeRest level write list).length + 1 ≤ fuel)
    (here : after.rest = writeRest level write list ++ '\n' :: (blanks count ++ closing :: tail)) :
    ∃ entries last, flowEntries fuel closing false after.next = .ok (entries, last) ∧
      List.Forall₂ Holds entries list ∧ last.rest = tail := by
  have comma : closing ≠ ',' := by rcases mark with rfl | rfl <;> decide
  -- What is written for an entry bounds the fuel that reading it takes; its comma takes one more.
  induction list generalizing fuel after with
  | nil =>
      obtain ⟨fuel, rfl⟩ := Nat.exists_eq_add_of_le' (by omega : 1 ≤ fuel)
      rw [next_closing mark here, flowEntries_end]
      refine ⟨[], _, rfl, .nil, ?_⟩
      rw [Cursor.forward_rest]
      rfl
  | cons a rest ih =>
      obtain ⟨first, others⟩ := List.forall_mem_cons.mp each
      obtain ⟨c, more, written, begins, opens⟩ := first.begins
      have whole := congrArg List.length (writeRest_cons level write a rest [])
      simp only [List.append_nil, List.length_cons, List.length_append] at whole
      obtain ⟨fuel, rfl⟩ := Nat.exists_eq_add_of_le' (by omega : 1 ≤ fuel)
      obtain ⟨line, column, text⟩ := after
      dsimp only at here
      subst here
      obtain ⟨entry, between, read, holds, left⟩ := first.gives (line + 1) (2 * level) _
        (by omega : _ ≤ fuel) (endsFlow_writeRest level write mark rest count tail)
      obtain ⟨entries, last, readRest, holdRest, leftRest⟩ := ih others (by omega : _ ≤ fuel) left
      refine ⟨entry :: entries, last, ?_, .cons holds holdRest, leftRest⟩
      rw [written] at read
      rw [writeRest_cons, written, next_comma rfl]
      exact flowEntries_comma (Cursor.isAt_of_rest rfl comma.symm) (by simp [Cursor.isAt])
        (Cursor.next_line begins rfl) (Cursor.isAt_of_rest rfl opens) read readRest

variable (write) in
/-- A collection with entries, each on a line of its own. -/
theorem flowEntries_filled (mark : closing = ']' ∨ closing = '\x7d') {a : α} {rest : List α}
    (each : ∀ b ∈ a :: rest, EntryReads closing (write b) (Holds · b)) {cursor : Cursor} {count : Nat}
    {tail : Text} (enough : 4 * (write a).length + 4 * (writeRest level write rest).length + 3 ≤ fuel)
    (here : cursor.rest = '\n' :: (blanks (2 * level) ++
      (write a ++ (writeRest level write rest ++ '\n' :: (blanks count ++ closing :: tail))))) :
    ∃ entries last, flowEntries fuel closing true cursor.next = .ok (entries, last) ∧
      List.Forall₂ Holds entries (a :: rest) ∧ last.rest = tail := by
  obtain ⟨first, others⟩ := List.forall_mem_cons.mp each
  obtain ⟨c, more, written, begins, opens⟩ := first.begins
  obtain ⟨fuel, rfl⟩ := Nat.exists_eq_add_of_le' (by omega : 1 ≤ fuel)
  obtain ⟨entry, between, read, holds, left⟩ := first.gives (cursor.line + 1) (2 * level) _
    (by omega : _ ≤ fuel) (endsFlow_writeRest level write mark rest count tail)
  obtain ⟨entries, last, readRest, holdRest, leftRest⟩ :=
    flowEntries_rest mark others (by omega : _ ≤ fuel) left
  refine ⟨entry :: entries, last, ?_, .cons holds holdRest, leftRest⟩
  rw [written] at here read
  rw [Cursor.next_line begins here]
  exact flowEntries_first (Cursor.isAt_of_rest rfl opens) read readRest

end Run

theorem entryReads_item {level : Nat} {value : Value} (reads : FlowReads level value) :
    EntryReads ']' (Json.write level value) fun entry => entry.item.StandsFor (halved value) where
  begins := by
    obtain ⟨c, rest, written, begins⟩ := reads.begins
    exact ⟨c, rest, written, beginsToken_of_beginsFlow begins, ne_of_beginsFlow begins (by decide)⟩
  gives := by
    intro fuel line column tail enough ends
    obtain ⟨c, rest, written, begins⟩ := reads.begins
    obtain ⟨fuel, rfl⟩ := Nat.exists_eq_add_of_le' (by omega : 2 ≤ fuel)
    obtain ⟨node, after, read, stands, left⟩ :=
      reads.gives ⟨line, column, Json.write level value ++ tail⟩ tail (by omega : _ ≤ fuel + 1) rfl ends
    refine ⟨⟨node, none⟩, after, ?_, stands, left⟩
    have key : (⟨line, column, Json.write level value ++ tail⟩ : Cursor).isAt '?' = false := by
      rw [written]
      exact Cursor.isAt_of_rest rfl (ne_of_beginsFlow begins (by decide))
    rw [flowEntry, key, if_neg Bool.false_ne_true, read]
    simp [bind, Except.bind, pure, Except.pure, flowValue, ends.not_colon left]

theorem halved_name {name : Text} (named : IsName name) : Text.halved name = name := by
  rw [Text.halved_eq_self_iff]
  intro c member
  have low := of_isNameChar (fun c => decide (c.toNat < 0x10000)) (by decide) (named.letters c member)
  exact Nat.lt_of_le_of_lt (Text.codeOf_le_toNat c) (of_decide_eq_true low)

theorem quoted_name {name : Text} (named : IsName name) : Json.quoted name = '"' :: name ++ ['"'] := by
  have letters := named.letters
  have each : name.flatMap Json.escapedChar = name := by
    have same : ∀ c ∈ name, Json.escapedChar c = [c] := by
      intro c member
      have checked := of_isNameChar (fun c => Json.escapedChar c == [c]) (by decide) (letters c member)
      exact beq_iff_eq.mp checked
    rw [List.flatMap_congr same]
    exact List.flatMap_singleton' name
  rw [Json.quoted, each]

/-- A key between quotes, up to its colon. -/
theorem flowNode_key {name : Text} (named : IsName name) (fuel line column : Nat) (rest : Text) :
    flowNode (fuel + 1) ⟨line, column, Json.quoted name ++ ':' :: rest⟩ =
      .ok (.quoted name, ⟨line, column + (Json.quoted name).length, ':' :: rest⟩) := by
  have flat : ∀ c ∈ Json.quoted name, needsEscape c = false ∧ c ≠ '\n' := by
    rw [quoted_name named, List.cons_append, List.forall_mem_cons, List.forall_mem_append,
      List.forall_mem_singleton]
    exact ⟨by decide, fun c member => needsEscape_of_isNameChar (named.letters c member), by decide⟩
  have read := readQuoted_json (':' :: rest) name
  rw [halved_name named] at read
  have here : (⟨line, column, Json.quoted name ++ ':' :: rest⟩ : Cursor).rest =
      '"' :: (name.flatMap Json.escapedChar ++ '"' :: ':' :: rest) := by
    simp [Json.quoted]
  rw [flowNode, Cursor.isAt_of_rest here (by decide), if_neg Bool.false_ne_true,
    Cursor.isAt_of_rest here (by decide), if_neg Bool.false_ne_true, readScalar_quoted (Or.inl rfl) here read, Cursor.reaching_line flat]

theorem flowValue_colon {closing : Char} {line column : Nat} {c : Char} {rest : Text} {node : Node}
    {after : Cursor} (begins : beginsToken c = true) (comma : c ≠ ',') (opens : c ≠ closing)
    (read : flowNode fuel ⟨line, column + 2, c :: rest⟩ = .ok (node, after)) :
    flowValue (fuel + 2) closing ⟨line, column, ':' :: ' ' :: c :: rest⟩ = .ok (some node, after) := by
  have colon : (⟨line, column, ':' :: ' ' :: c :: rest⟩ : Cursor).isAt ':' = true := by simp [Cursor.isAt]
  have reached : ((⟨line, column, ':' :: ' ' :: c :: rest⟩ : Cursor).forward 1).next =
      ⟨line, column + 2, c :: rest⟩ := Cursor.next_token begins 1 rest
  have place {d : Char} (differs : c ≠ d) : (⟨line, column + 2, c :: rest⟩ : Cursor).isAt d = false :=
    Cursor.isAt_of_rest rfl differs
  have goes : ([',', closing].any (⟨line, column + 2, c :: rest⟩ : Cursor).isAt) = false := by
    rw [List.any_cons, List.any_cons, List.any_nil, place comma, place opens]
    rfl
  rw [flowValue]
  simp only [next_colon, colon, if_true, reached]
  rw [flowPart, goes, if_neg Bool.false_ne_true, read]
  rfl

/-- What is written for a field of a mapping. -/
def writeMember (level : Nat) (field : Text × Value) : Text :=
  Json.quoted field.1 ++ ": ".toList ++ Json.write level field.2

theorem isKeyPlace_quoted {name : Text} (named : IsName name) (line column place : Nat) (rest : Text) :
    isKeyPlace ⟨line, column, Json.quoted name ++ ':' :: rest⟩ ⟨line, place, ':' :: rest⟩ = true := by
  have limit : name.length + 2 ≤ keyLimit := Nat.le_trans (Nat.add_le_add_right named.short 2) (by decide)
  have short : (Json.quoted name).length ≤ keyLimit := by
    rw [quoted_name named, List.length_append]
    exact limit
  simp [isKeyPlace, short]

theorem entryReads_field {level : Nat} {field : Text × Value} (named : IsName field.1)
    (reads : FlowReads level field.2) :
    EntryReads '\x7d' (writeMember level field) fun entry =>
      entry.pair.1.IsKey field.1 ∧ entry.pair.2.StandsFor (halved field.2) where
  begins := ⟨'"', _, rfl, by decide, by decide⟩
  gives := by
    intro fuel line column tail enough ends
    obtain ⟨c, rest, written, begins⟩ := reads.begins
    have room : 4 * (Json.write level field.2).length + 8 ≤ fuel := by
      simp only [writeMember, Json.quoted, List.length_append, List.length_cons] at enough
      omega
    obtain ⟨fuel, rfl⟩ := Nat.exists_eq_add_of_le' (by omega : 3 ≤ fuel)
    have whole : writeMember level field ++ tail =
        Json.quoted field.1 ++ ':' :: ' ' :: (Json.write level field.2 ++ tail) := by
      simp [writeMember]
    obtain ⟨node, after, read, stands, left⟩ := reads.gives
      ⟨line, column + (Json.quoted field.1).length + 2, Json.write level field.2 ++ tail⟩ tail
      (by omega : _ ≤ fuel) rfl ends
    refine ⟨⟨.quoted field.1, some node⟩, after, ?_, ⟨Node.isKey_quoted field.1, stands⟩, left⟩
    have key : (⟨line, column, writeMember level field ++ tail⟩ : Cursor).isAt '?' = false :=
      Cursor.isAt_of_rest rfl (by decide)
    rw [flowEntry, key, if_neg Bool.false_ne_true, whole, flowNode_key named]
    rw [written, List.cons_append] at read ⊢
    have value := flowValue_colon (beginsToken_of_beginsFlow begins) (ne_of_beginsFlow begins (by decide))
      (ne_of_beginsFlow begins (by decide) : c ≠ '\x7d') read
    simp only [bind, Except.bind, next_colon, isKeyPlace_quoted named, Bool.not_true, Bool.and_false,
      if_neg Bool.false_ne_true, pure, Except.pure, value]

end Schemata.Yaml
