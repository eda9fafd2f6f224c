import Schemata.Ddl.Identifier
import Schemata.Proofs.Reader.Mentions
import Schemata.Proofs.Script.Balanced

/-!
Whole identifiers. A bare one goes on as far as it can and a quoted one up to its closing mark, so each is
read to its end and stands for what is written in it.
-/

namespace Schemata.Ddl

open Text Script Reader

variable {text rest left : Text} {c : Char}

/-! ### Names between marks -/

section Delimited

variable {opening closing : Char} {inner : Text}

theorem mem_delimited : ((), left) ∈ delimited opening closing text ↔
    ∃ inner, text = opening :: inner ++ closing :: left ∧ inner ≠ [] ∧ closing ∉ inner := by
  constructor
  · intro member
    obtain ⟨_, _, begun, onward⟩ := mem_bind.mp member
    obtain ⟨same, rfl⟩ := mem_char.mp begun
    obtain rfl := eq_of_beq same
    obtain ⟨_, _, inside, ended⟩ := mem_bind.mp onward
    obtain ⟨d, _, first, further⟩ := mem_bind.mp inside
    obtain ⟨other, rfl⟩ := mem_char.mp first
    obtain ⟨cs, rfl, others⟩ := mem_run.mp further
    obtain ⟨_, _, last, finish⟩ := mem_bind.mp ended
    obtain ⟨same, rfl⟩ := mem_char.mp last
    obtain rfl := eq_of_beq same
    obtain ⟨_, rfl⟩ := Prod.mk.inj (List.mem_singleton.mp finish)
    exact ⟨d :: cs, rfl, List.cons_ne_nil _ _, forall_bne_iff.mp (List.forall_mem_cons.mpr ⟨other, others⟩)⟩
  · rintro ⟨inner, rfl, some', free⟩
    obtain ⟨d, cs, rfl⟩ := List.exists_cons_of_ne_nil some'
    obtain ⟨other, others⟩ := List.forall_mem_cons.mp (forall_bne_iff.mpr free)
    refine mem_bind.mpr ⟨opening, _, mem_char.mpr ⟨beq_self_eq_true _, rfl⟩, ?_⟩
    refine mem_bind.mpr ⟨(), closing :: left, ?_, ?_⟩
    · exact mem_bind.mpr ⟨d, _, mem_char.mpr ⟨other, rfl⟩, mem_run.mpr ⟨cs, rfl, others⟩⟩
    · exact mem_bind.mpr ⟨closing, _, mem_char.mpr ⟨beq_self_eq_true _, rfl⟩, List.mem_singleton_self _⟩

theorem first_delimited (some' : inner ≠ []) (free : closing ∉ inner) (rest : Text) :
    (delimited opening closing).first (opening :: inner ++ closing :: rest) = some ((), rest) := by
  have others : ∀ d ∈ inner, (d != closing) = true := forall_bne_iff.mpr free
  refine first_bind (first_char (beq_self_eq_true opening)) (first_bind (first_run1 others some' ?_) ?_)
  · exact ends_cons.mpr (by simp)
  · exact first_bind (first_char (beq_self_eq_true closing)) (first_pure ..)

theorem refuses_delimited (other : text.head? ≠ some opening) : (delimited opening closing).Refuses text := by
  refine (refuses_char fun c member => ?_).bind
  rw [beq_eq_false_iff_ne]
  rintro rfl
  exact other member

end Delimited

/-! ### Identifiers -/

section Starts

variable {starts : Char → Bool}

/-- A bare name goes on to the first character that cannot be in one. -/
theorem first_identifier (written : text ≠ [])
    (begins : ∀ c ∈ text.head?, starts c = true ∧ opensQuoted c = false)
    (named : ∀ c ∈ text, continuesName c = true) (ends : Ends continuesName rest) :
    (identifier starts).first (text ++ rest) = some ((), rest) := by
  obtain ⟨c, more, rfl⟩ := List.exists_cons_of_ne_nil written
  obtain ⟨begin, unquoted⟩ := begins c rfl
  simp only [opensQuoted, Bool.or_eq_false_iff, beq_eq_false_iff_ne] at unquoted
  obtain ⟨⟨double, backward⟩, bracket⟩ := unquoted
  have other : ∀ d : Char, c ≠ d → ((c :: more) ++ rest).head? ≠ some d :=
    fun d different same => different (Option.some.inj same)
  rw [identifier, (refuses_delimited (other _ double)).first_either,
    (refuses_delimited (other _ backward)).first_either, (refuses_delimited (other _ bracket)).first_either]
  refine first_bind (first_char begin) ?_
  exact first_run (fun d member => named d (List.mem_cons_of_mem _ member)) ends

theorem refuses_identifier
    (other : ∀ c ∈ text.head?, starts c = false ∧ opensQuoted c = false) : (identifier starts).Refuses text := by
  have unquoted : ∀ d : Char, opensQuoted d = true → text.head? ≠ some d := by
    intro d opens head
    rw [(other d head).2] at opens
    cases opens
  refine (refuses_delimited (unquoted _ rfl)).either ((refuses_delimited (unquoted _ rfl)).either
    ((refuses_delimited (unquoted _ rfl)).either (refuses_char fun c member => (other c member).1).bind))

/-- The pairs of marks that a name can stand between. -/
def IsPair (opening closing : Char) : Prop :=
  (opening, closing) = ('"', '"') ∨ (opening, closing) = ('\x60', '\x60') ∨ (opening, closing) = ('[', ']')

instance (opening closing : Char) : Decidable (IsPair opening closing) :=
  inferInstanceAs (Decidable (_ ∨ _ ∨ _))

/-- A name between marks is read to its closing mark, whatever follows. -/
theorem first_identifier_delimited {opening closing : Char} {inner : Text} (pair : IsPair opening closing)
    (some' : inner ≠ []) (free : closing ∉ inner) (rest : Text) :
    (identifier starts).first (opening :: inner ++ closing :: rest) = some ((), rest) := by
  have read : (delimited opening closing).first (opening :: inner ++ closing :: rest) = some ((), rest) :=
    first_delimited some' free rest
  have refuses : ∀ {other other' : Char}, opening ≠ other →
      (delimited other other').Refuses (opening :: inner ++ closing :: rest) := fun different =>
    refuses_delimited fun same => different (Option.some.inj same)
  rcases pair with same | same | same <;> cases same
  · exact first_either read
  · rw [identifier, (refuses (by decide)).first_either]
    exact first_either read
  · rw [identifier, (refuses (by decide)).first_either, (refuses (by decide)).first_either]
    exact first_either read

end Starts

/-- An identifier stands between marks or is bare. -/
theorem mem_identifier {starts : Char → Bool} : ((), left) ∈ identifier starts text ↔
    (∃ opening closing inner, IsPair opening closing ∧ inner ≠ [] ∧ closing ∉ inner ∧
      text = opening :: inner ++ closing :: left) ∨
    ∃ c more, text = c :: more ++ left ∧ starts c = true ∧ ∀ d ∈ more, continuesName d = true := by
  have marked : ∀ {opening closing : Char}, IsPair opening closing → ((), left) ∈ delimited opening closing text →
      ∃ opening closing inner, IsPair opening closing ∧ inner ≠ [] ∧ closing ∉ inner ∧
        text = opening :: inner ++ closing :: left := by
    intro opening closing pair member
    obtain ⟨inner, split, some', free⟩ := mem_delimited.mp member
    exact ⟨opening, closing, inner, pair, some', free, split⟩
  rw [identifier, mem_either, mem_either, mem_either]
  constructor
  · rintro (double | backward | bracket | bare)
    · exact .inl (marked (by decide) double)
    · exact .inl (marked (by decide) backward)
    · exact .inl (marked (by decide) bracket)
    · obtain ⟨c, _, begun, more⟩ := mem_bind.mp bare
      obtain ⟨start, rfl⟩ := mem_char.mp begun
      obtain ⟨cs, rfl, named⟩ := mem_run.mp more
      exact .inr ⟨c, cs, rfl, start, named⟩
  · rintro (⟨opening, closing, inner, pair, some', free, rfl⟩ | ⟨c, more, rfl, start, named⟩)
    · have member : ((), left) ∈ delimited opening closing (opening :: inner ++ closing :: left) :=
        mem_delimited.mpr ⟨inner, rfl, some', free⟩
      rcases pair with same | same | same <;> cases same
      · exact .inl member
      · exact .inr (.inl member)
      · exact .inr (.inr (.inl member))
    · exact .inr (.inr (.inr (mem_bind.mpr ⟨c, _, mem_char.mpr ⟨start, rfl⟩, mem_run.mpr ⟨more, rfl, named⟩⟩)))

/-- The text is one identifier and nothing else. -/
def IsIdentifier (text : Text) : Prop :=
  ((), []) ∈ identifier startsName text

instance (text : Text) : Decidable (IsIdentifier text) :=
  inferInstanceAs (Decidable (((), []) ∈ identifier startsName text))

theorem of_startsName (start : startsName c = true) :
    continuesName c = true ∧ opensQuoted c = false ∧ isBlank c = false := by
  have ascii : c.toNat < 128 := by
    simp only [startsName, Bool.or_eq_true, beq_iff_eq] at start
    rcases start with alpha | rfl
    · exact toNat_lt_of_isAlpha alpha
    · decide
  have all : ∀ n : Fin 128, startsName (Char.ofNat n) = true → continuesName (Char.ofNat n) = true ∧
      opensQuoted (Char.ofNat n) = false ∧ isBlank (Char.ofNat n) = false := by decide
  have here := all ⟨c.toNat, ascii⟩
  simp only [Char.ofNat_toNat] at here
  exact here start

namespace IsIdentifier

/-- An identifier is read whole if it stands between marks or no character behind it could be in it. -/
theorem first_apart (identified : IsIdentifier text) (apart : Ends opensQuoted text → Ends continuesName rest) :
    (identifier startsName).first (text ++ rest) = some ((), rest) := by
  rcases mem_identifier.mp identified with
    ⟨opening, closing, inner, pair, some', free, rfl⟩ | ⟨c, more, rfl, start, named⟩
  · rw [List.append_assoc]
    exact first_identifier_delimited pair some' free rest
  · obtain ⟨continues, unquoted, _⟩ := of_startsName start
    rw [List.append_nil] at apart ⊢
    refine first_identifier (List.cons_ne_nil _ _) (fun d head => ?_) (List.forall_mem_cons.mpr ⟨continues, named⟩)
      (apart (ends_cons.mpr unquoted))
    cases head
    exact ⟨start, unquoted⟩

theorem first (identified : IsIdentifier text) (ends : Ends continuesName rest) :
    (identifier startsName).first (text ++ rest) = some ((), rest) :=
  identified.first_apart fun _ => ends

theorem some' (identified : IsIdentifier text) : text ≠ [] := by
  rcases mem_identifier.mp identified with ⟨_, _, _, _, _, _, rfl⟩ | ⟨_, _, rfl, _⟩ <;> exact List.cons_ne_nil _ _

theorem ends (identified : IsIdentifier text) : Ends isBlank text := by
  rcases mem_identifier.mp identified with ⟨_, _, _, pair, _, _, rfl⟩ | ⟨_, _, rfl, start, _⟩
  · rcases pair with same | same | same <;> cases same <;> exact ends_cons.mpr (by decide)
  · exact ends_cons.mpr (of_startsName start).2.2

/-- An identifier is all that there is to read in it. -/
theorem all_eq (identified : IsIdentifier text) :
    (captured (identifier startsName)).all text = [⟨text, []⟩] := by
  obtain ⟨c, more, rfl⟩ := List.exists_cons_of_ne_nil identified.some'
  have read := first_captured (identified.first ends_nil)
  rw [List.append_nil] at read
  rw [all, List.length_cons, scan, read]
  cases more.length <;> rfl

theorem normalizeIdentifier_eq (identified : IsIdentifier text) (trimmed : trim text = text) :
    normalizeIdentifier text = lower (trim (unquoted text)) := by
  rw [normalizeIdentifier, trimmed, identified.all_eq, List.getLast?_singleton, Option.map_some,
    Option.getD_some, Span.text_to_end]

end IsIdentifier

/-- The name of the identifier that an item of a list begins with. -/
def columnOf (item : Text) : Option Text :=
  ((captured (identifier startsName)).first (trim item)).map fun (written, _) => normalizeIdentifier written.text

theorem columnList_eq_filterMap (list : Text) : columnList list = (items list).filterMap columnOf :=
  rfl

theorem columnOf_eq {item written : Text} (trimmed : trim item = written ++ left)
    (read : (identifier startsName).first (written ++ left) = some ((), left)) :
    columnOf item = some (normalizeIdentifier written) := by
  rw [columnOf, trimmed, first_captured read]
  exact congrArg (some ∘ normalizeIdentifier) (Span.text_append ..)

/-- A name without a dot behind it is all of a qualified name. -/
theorem first_qualifiedName (read : name.first text = some ((), rest)) (alone : (trimLeft rest).head? ≠ some '.') :
    qualifiedName.first text = some ((), rest) := by
  refine first_bind read (Refuses.first_repeated ?_)
  have dot : ∀ {left : Text} {next : Char → Reader Unit}, left.head? ≠ some '.' →
      (char (· == '.') >>= next).Refuses left := by
    intro left next other
    refine (refuses_char fun c member => ?_).bind
    rw [beq_eq_false_iff_ne]
    rintro rfl
    exact other member
  refine refuses_blanks (fun left blank => dot ?_) (dot alone)
  obtain ⟨c, head, blank⟩ := blank
  intro same
  rw [same] at head
  cases head
  exact absurd blank (by decide)

end Schemata.Ddl
