import Schemata.Ddl.Dialect
import Schemata.Proofs.Ddl.Identifiers
import Schemata.Proofs.Ddl.Names
import Schemata.Proofs.Ddl.TableHeads
import Schemata.Proofs.Outcomes
import Schemata.Proofs.Reader.Readings
import Schemata.Proofs.Text.Lower

/-!
The name of the table of a statement. The head of the statement captures a chain of names, and the table is
called what the last identifier that is found in the chain stands for. Next to keywords a bare name may begin
with a letter that shares a case with an ASCII one; an identifier that is looked for in the chain may not, and
so it is found without its first letters.
-/

namespace Schemata.Ddl

open Text Script Reader

variable {text left rest part last written statement : Text} {parts others : List Text} {c : Char}

/-! ### Names -/

/-- The text is one name of a statement and nothing else. -/
def IsName (text : Text) : Prop :=
  ((), []) ∈ name text

instance (text : Text) : Decidable (IsName text) :=
  inferInstanceAs (Decidable (((), []) ∈ name text))

theorem mem_name : ((), left) ∈ name text ↔ ∃ part, text = part ++ left ∧ IsName part := by
  constructor
  · intro member
    rcases mem_identifier.mp member with ⟨opening, closing, inner, pair, some', free, rfl⟩ | ⟨c, more, rfl, start, named⟩
    · refine ⟨opening :: inner ++ [closing], by simp, mem_identifier.mpr (.inl ?_)⟩
      exact ⟨opening, closing, inner, pair, some', free, rfl⟩
    · exact ⟨c :: more, rfl, mem_identifier.mpr (.inr ⟨c, more, by simp, start, named⟩)⟩
  · rintro ⟨part, rfl, named⟩
    rcases mem_identifier.mp named with ⟨opening, closing, inner, pair, some', free, rfl⟩ | ⟨c, more, rfl, start, named⟩
    · exact mem_identifier.mpr (.inl ⟨opening, closing, inner, pair, some', free, by simp⟩)
    · exact mem_identifier.mpr (.inr ⟨c, more, by simp, start, named⟩)

theorem unblank_of_continuesName (continues : continuesName c = true) : isBlank c = false := by
  cases blank : isBlank c with
  | false => rfl
  | true =>
      rw [(not_named_of_isBlank blank).2.2] at continues
      cases continues

theorem continuesName_of_startsNameAnyCase (starts : startsNameAnyCase c = true) : continuesName c = true := by
  simp only [startsNameAnyCase, Bool.or_eq_true] at starts
  rcases starts with ((ascii | same) | same) | same
  · exact (of_startsName ascii).1
  all_goals
    have word := isWordChar_of_sameLetter (by decide) same
    simp [continuesName, word]

theorem IsName.solid (named : IsName part) : Solid part := by
  rcases mem_identifier.mp named with ⟨opening, closing, inner, pair, _, _, rfl⟩ | ⟨c, more, rfl, start, further⟩
  · have unblank : isBlank opening = false ∧ isBlank closing = false := by
      rcases pair with same | same | same <;> cases same <;> decide
    refine ⟨List.cons_ne_nil _ _, ends_cons.mpr unblank.1, ?_⟩
    rw [ends_reverse_append (List.cons_ne_nil _ _)]
    exact ends_cons.mpr unblank.2
  · have all : ∀ d ∈ c :: more, isBlank d = false := by
      refine List.forall_mem_cons.mpr ⟨?_, fun d member => unblank_of_continuesName (further d member)⟩
      exact unblank_of_continuesName (continuesName_of_startsNameAnyCase start)
    rw [List.append_nil]
    refine ⟨List.cons_ne_nil _ _, ends_cons.mpr (all c (List.mem_cons_self ..)), fun d member => ?_⟩
    exact all d (List.mem_reverse.mp (List.mem_of_mem_head? member))

/-- Two names at the beginning of a text are the same if no character behind either could be in it. -/
theorem IsName.unique {other rest' : Text} (named : IsName part) (named' : IsName other)
    (ends : Ends continuesName rest) (ends' : Ends continuesName rest') (same : part ++ rest = other ++ rest') :
    part = other ∧ rest = rest' := by
  have read : ((), rest) ∈ name (part ++ rest) := mem_name.mpr ⟨part, rfl, named⟩
  have read' : ((), rest') ∈ name (part ++ rest) := mem_name.mpr ⟨other, same, named'⟩
  obtain ⟨_, rfl⟩ := Prod.mk.inj (settles_name _ _ _ read read' ends ends')
  exact ⟨List.append_cancel_right same, rfl⟩

/-! ### Chains -/

/-- The text is a chain of names with dots between, and possibly blanks round the dots. -/
inductive IsChain : List Text → Text → Prop
  | single {part : Text} (named : IsName part) : IsChain [part] part
  | cons {part gap gap' rest : Text} {parts : List Text} (named : IsName part) (before : ∀ c ∈ gap, isBlank c = true)
      (behind : ∀ c ∈ gap', isBlank c = true) (chain : IsChain parts rest) :
      IsChain (part :: parts) (part ++ (gap ++ '.' :: (gap' ++ rest)))

theorem ends_dot {gap : Text} (blank : ∀ c ∈ gap, isBlank c = true) (rest : Text) :
    Ends continuesName (gap ++ '.' :: rest) := by
  cases gap with
  | nil => exact ends_cons.mpr (by decide)
  | cons c gap => exact ends_cons.mpr (not_named_of_isBlank (blank c (List.mem_cons_self ..))).2.2

theorem exists_of_mem_qualifiedName (member : ((), left) ∈ qualifiedName text) :
    ∃ parts written, text = written ++ left ∧ IsChain parts written := by
  have more : ∀ {count : Nat} {part mid : Text}, IsName part → ((), left) ∈ (component.upTo count) mid →
      ∃ parts written, part ++ mid = written ++ left ∧ IsChain parts written := by
    intro count
    induction count with
    | zero =>
        intro part mid named stay
        obtain ⟨_, rfl⟩ := Prod.mk.inj (List.mem_singleton.mp stay)
        exact ⟨[part], part, rfl, .single named⟩
    | succ count ih =>
        intro part mid named member
        rcases mem_either.mp member with again | stay
        · obtain ⟨_, after, component, further⟩ := mem_bind.mp again
          obtain ⟨_, fromDot, blank, component⟩ := mem_bind.mp component
          obtain ⟨_, behindDot, dot, component⟩ := mem_bind.mp component
          obtain ⟨_, fromName, blank', named'⟩ := mem_bind.mp component
          obtain ⟨gap, rfl, before⟩ := mem_run.mp blank
          obtain ⟨isDot, rfl⟩ := mem_char.mp dot
          obtain rfl := eq_of_beq isDot
          obtain ⟨gap', rfl, behind⟩ := mem_run.mp blank'
          obtain ⟨next, rfl, isName⟩ := mem_name.mp named'
          obtain ⟨parts, written, split, chain⟩ := ih isName further
          exact ⟨part :: parts, part ++ (gap ++ '.' :: (gap' ++ written)), by simp [split], .cons named before behind chain⟩
        · obtain ⟨_, rfl⟩ := Prod.mk.inj (List.mem_singleton.mp stay)
          exact ⟨[part], part, rfl, .single named⟩
  obtain ⟨_, mid, named, repeats⟩ := mem_bind.mp member
  obtain ⟨part, rfl, isName⟩ := mem_name.mp named
  exact more isName repeats

namespace IsChain

theorem solid (chain : IsChain parts text) : Solid text := by
  induction chain with
  | single named => exact named.solid
  | cons named before behind chain ih =>
      refine ⟨List.append_ne_nil_of_left_ne_nil named.solid.some' _, named.solid.first.append named.solid.some' _, ?_⟩
      rw [ends_reverse_append (by simp), ends_reverse_append (List.cons_ne_nil _ _), ends_reverse_cons]
      exact ⟨fun _ => by decide, (ends_reverse_append ih.some').mpr ih.last⟩

/-- A text is a chain of one list of names only. -/
theorem unique (chain : IsChain parts text) (chain' : IsChain others text) : others = parts := by
  have behindDot : ∀ {gap gap' inner inner' rest rest' : Text}, (∀ c ∈ gap, isBlank c = true) →
      (∀ c ∈ gap', isBlank c = true) → (∀ c ∈ inner, isBlank c = true) → (∀ c ∈ inner', isBlank c = true) →
      Ends isBlank rest → Ends isBlank rest' → gap ++ '.' :: (inner ++ rest) = gap' ++ '.' :: (inner' ++ rest') →
        rest = rest' := by
    intro gap gap' inner inner' rest rest' blank blank' blank'' blank''' ends ends' same
    have dot := congrArg trimLeft same
    rw [trimLeft_append blank (ends_cons.mpr (by decide)), trimLeft_append blank' (ends_cons.mpr (by decide))] at dot
    have rests := congrArg trimLeft (List.cons.inj dot).2
    rwa [trimLeft_append blank'' ends, trimLeft_append blank''' ends'] at rests
  induction chain generalizing others with
  | @single part named =>
      generalize whole : part = text at chain'
      cases chain' with
      | single => rfl
      | cons named' before =>
          have split := named.unique named' ends_nil (ends_dot before _) ((List.append_nil part).trans whole)
          simp at split
  | @cons part gap gap' rest parts named before behind chain ih =>
      generalize whole : part ++ (gap ++ '.' :: (gap' ++ rest)) = text at chain'
      cases chain' with
      | single named' =>
          have split := named.unique named' (ends_dot before _) ends_nil (whole.trans (List.append_nil _).symm)
          simp at split
      | cons named' before' behind' further =>
          obtain ⟨rfl, same⟩ := named.unique named' (ends_dot before _) (ends_dot before' _) whole
          obtain rfl := behindDot before before' behind behind' chain.solid.first further.solid.first same
          rw [ih further]

end IsChain

/-! ### What is found in a chain -/

/-- Characters that begin an identifier. -/
def opensName (c : Char) : Bool :=
  startsName c || opensQuoted c

/-- What is left of a name from the first character on that begins an identifier. -/
def heard (part : Text) : Text :=
  part.dropWhile fun c => !opensName c

/-- What a name stands for as a whole: without its quotes or brackets, trimmed and in lower case. -/
def wholeName (part : Text) : Text :=
  lower (trim (unquoted part))

theorem unquoted_of_continuesName (continues : continuesName c = true) : opensQuoted c = false := by
  rw [Bool.eq_false_iff]
  intro opens
  simp only [opensQuoted, Bool.or_eq_true, beq_iff_eq] at opens
  rcases opens with (rfl | rfl) | rfl <;> exact absurd continues (by decide)

theorem not_opensName_of_isBlank (blank : isBlank c = true) : opensName c = false := by
  obtain ⟨bare, quoted, _⟩ := not_named_of_isBlank blank
  simp only [startsNameAnyCase, Bool.or_eq_false_iff] at bare
  rw [opensName, bare.1.1.1, quoted]
  rfl

theorem begins_identifier : (identifier startsName).Begins (opensName · = true) := by
  intro text way member
  rcases mem_identifier.mp member with ⟨opening, _, _, pair, _, _, rfl⟩ | ⟨c, _, rfl, start, _⟩
  · refine ⟨opening, rfl, ?_⟩
    rcases pair with same | same | same <;> cases same <;> decide
  · exact ⟨c, rfl, by simp [opensName, start]⟩

theorem identifier_shortens : (identifier startsName).Shortens := by
  intro text way member
  rcases mem_identifier.mp member with ⟨_, _, _, _, _, _, rfl⟩ | ⟨_, _, rfl, _⟩ <;>
    simp only [List.length_append, List.length_cons] <;> omega

theorem IsIdentifier.heard_eq (identified : IsIdentifier text) : heard text = text := by
  obtain ⟨c, head, begins⟩ := begins_identifier _ _ identified
  refine Ends.dropWhile_eq fun d head' => ?_
  obtain rfl := Option.some.inj (head.symm.trans head')
  exact congrArg (!·) begins

/-- What is heard of a name is an identifier, unless it is nothing. -/
theorem IsName.heard_cases (named : IsName part) : heard part = [] ∨ IsIdentifier (heard part) := by
  rcases mem_identifier.mp named with ⟨opening, closing, inner, pair, some', free, rfl⟩ | ⟨c, more, rfl, start, further⟩
  · have identified : IsIdentifier (opening :: inner ++ [closing]) :=
      mem_identifier.mpr (.inl ⟨opening, closing, inner, pair, some', free, rfl⟩)
    exact .inr (by rwa [identified.heard_eq])
  · have all : ∀ d ∈ c :: more, continuesName d = true :=
      List.forall_mem_cons.mpr ⟨continuesName_of_startsNameAnyCase start, further⟩
    rw [List.append_nil]
    cases found : heard (c :: more) with
    | nil => exact .inl rfl
    | cons d rest =>
        have suffix : d :: rest <:+ c :: more := found ▸ List.dropWhile_suffix _
        obtain ⟨continues, within⟩ := List.forall_mem_cons.mp fun e member => all e (suffix.mem member)
        have opens : (!opensName d) = false := ends_dropWhile (fun c => !opensName c) (c :: more) d
          (by rw [show (c :: more).dropWhile (fun c => !opensName c) = d :: rest from found]; rfl)
        rw [opensName, unquoted_of_continuesName continues, Bool.or_false, Bool.not_eq_false'] at opens
        exact .inr (mem_identifier.mpr (.inr ⟨d, rest, by simp, opens, within⟩))

/-- Of each name, what is heard of it is found, unless it is nothing. -/
theorem IsName.all_eq (named : IsName part) (ends : Ends continuesName rest) :
    ((captured (identifier startsName)).all (part ++ rest)).map Span.text =
      [heard part].filter (fun found => !found.isEmpty) ++ ((captured (identifier startsName)).all rest).map Span.text := by
  have split : part = part.takeWhile (fun c => !opensName c) ++ heard part := List.takeWhile_append_dropWhile.symm
  have passed : (captured (identifier startsName)).all (part ++ rest) =
      (captured (identifier startsName)).all (heard part ++ rest) := by
    conv_lhs => rw [split, List.append_assoc]
    refine begins_identifier.captured.all_append (fun c member begins => ?_) _
    have other := List.mem_takeWhile_imp member
    rw [begins] at other
    cases other
  rw [passed]
  rcases named.heard_cases with nothing | identified
  · rw [nothing]
    rfl
  · rw [identifier_shortens.captured.all_of_first (first_captured (identified.first ends)), List.map_cons,
      Span.text_append, List.filter_cons_of_pos (by simpa using identified.some')]
    rfl

/-- What is found in a chain is what is heard of its names. -/
theorem IsChain.all_eq (chain : IsChain parts text) : ((captured (identifier startsName)).all text).map Span.text =
    (parts.map heard).filter fun found => !found.isEmpty := by
  induction chain with
  | @single part named =>
      have whole := named.all_eq ends_nil
      rw [List.append_nil] at whole
      rw [whole]
      exact List.append_nil _
  | @cons part gap gap' rest parts named before behind chain ih =>
      have dot : (captured (identifier startsName)).all (gap ++ '.' :: (gap' ++ rest)) =
          (captured (identifier startsName)).all rest := by
        have blanks : ∀ {gap : Text}, (∀ c ∈ gap, isBlank c = true) → ∀ c ∈ gap, ¬ opensName c = true := by
          intro gap blank c member
          rw [not_opensName_of_isBlank (blank c member)]
          exact Bool.false_ne_true
        have between : ∀ c ∈ gap ++ '.' :: gap', ¬ opensName c = true :=
          List.forall_mem_append.mpr ⟨blanks before, List.forall_mem_cons.mpr ⟨by decide, blanks behind⟩⟩
        rw [← begins_identifier.captured.all_append between rest]
        simp
      rw [named.all_eq (ends_dot before _), dot, ih, List.map_cons]
      exact (List.filter_append [heard part] (parts.map heard)).symm

/-- A chain stands for what is heard last, or for itself if nothing is heard. -/
theorem IsChain.normalizeIdentifier_eq (chain : IsChain parts written) : normalizeIdentifier written =
    wholeName (((parts.map heard).filter fun found => !found.isEmpty).getLast?.getD written) := by
  rw [normalizeIdentifier, chain.solid.trim_eq, ← List.getLast?_map, chain.all_eq]
  rfl

/-! ### Whole names -/

/-- A bare name stands for itself in lower case. -/
theorem wholeName_of_continuesName (continues : ∀ c ∈ text, continuesName c = true) : wholeName text = lower text := by
  have bare : unquoted text = text := by
    cases text with
    | nil => rfl
    | cons c rest => rw [unquoted, unquoted_of_continuesName (continues c (List.mem_cons_self ..))]; rfl
  have unblank : ∀ c ∈ text, isBlank c = false := fun c member => unblank_of_continuesName (continues c member)
  have trimmed : trim text = text := trim_eq_self
    (fun c head => unblank c (List.mem_of_mem_head? head))
    (fun c head => unblank c (List.mem_reverse.mp (List.mem_of_mem_head? head)))
  rw [wholeName, bare, trimmed]

/-- A name of which not all is heard is longer than what is heard of it stands for. -/
theorem IsName.length_wholeName_heard (named : IsName part) (other : heard part ≠ part) :
    (wholeName (heard part)).length < (wholeName part).length := by
  rcases mem_identifier.mp named with ⟨opening, closing, inner, pair, some', free, rfl⟩ | ⟨c, more, rfl, start, further⟩
  · have identified : IsIdentifier (opening :: inner ++ [closing]) :=
      mem_identifier.mpr (.inl ⟨opening, closing, inner, pair, some', free, rfl⟩)
    exact absurd identified.heard_eq other
  · rw [List.append_nil] at other ⊢
    have all : ∀ d ∈ c :: more, continuesName d = true :=
      List.forall_mem_cons.mpr ⟨continuesName_of_startsNameAnyCase start, further⟩
    have suffix : heard (c :: more) <:+ c :: more := List.dropWhile_suffix _
    have shorter : (heard (c :: more)).length < (c :: more).length :=
      Nat.lt_of_le_of_ne suffix.length_le fun same => other (suffix.eq_of_length same)
    have fewer := suffix.sublist.count_le 'İ'
    rw [wholeName_of_continuesName all, wholeName_of_continuesName fun d member => all d (suffix.mem member),
      length_lower, length_lower]
    omega

/-- The name that is read of a chain: what is heard last. It is the whole last name of the chain exactly if all
of that name is heard, unless nothing of it is. -/
structure Names (parts : List Text) (last written table : Text) : Prop where
  chain : ∀ others, IsChain others written ↔ others = parts ++ [last]
  read : table = wholeName ((((parts ++ [last]).map heard).filter fun found => !found.isEmpty).getLast?.getD written)
  whole_iff : heard last ≠ [] → (table = wholeName last ↔ heard last = last)
  alone : parts = [] → heard last = [] → table = wholeName last

theorem IsChain.exists_names (chain : IsChain parts written) :
    ∃ front last, Names front last written (normalizeIdentifier written) := by
  have named : parts ≠ [] ∧ ∀ part ∈ parts, IsName part := by
    induction chain with
    | single named => exact ⟨List.cons_ne_nil _ _, by simpa using named⟩
    | cons named _ _ _ ih => exact ⟨List.cons_ne_nil _ _, List.forall_mem_cons.mpr ⟨named, ih.2⟩⟩
  obtain rfl | ⟨front, last, rfl⟩ := List.eq_nil_or_concat' parts
  · exact absurd rfl named.1
  refine ⟨front, last, fun others => ⟨chain.unique, fun same => same ▸ chain⟩, chain.normalizeIdentifier_eq, ?_, ?_⟩
  · intro some'
    have isName := named.2 last (by simp)
    have found : normalizeIdentifier written = wholeName (heard last) := by
      rw [chain.normalizeIdentifier_eq, List.map_append, List.filter_append, List.map_singleton,
        List.filter_cons_of_pos (by simpa using some')]
      simp
    rw [found]
    refine ⟨fun same => ?_, fun same => by rw [same]⟩
    by_contra other
    exact absurd (congrArg List.length same) (Nat.ne_of_lt (isName.length_wholeName_heard other))
  · rintro rfl nothing
    have whole : written = last := by
      cases chain with
      | single => rfl
      | cons _ _ _ further => cases further
    rw [chain.normalizeIdentifier_eq, whole, List.nil_append, List.map_singleton, nothing]
    rfl

/-! ### Statements -/

theorem exists_of_mem_captured {span : Span} (member : (span, left) ∈ captured qualifiedName text) :
    ∃ parts, IsChain parts span.text := by
  obtain ⟨rfl, _, read⟩ := mem_captured.mp member
  obtain ⟨parts, written, rfl, chain⟩ := exists_of_mem_qualifiedName read
  exact ⟨parts, by rwa [Span.text_append]⟩

theorem exists_of_createTableHead (member : (written, left) ∈ createTableHead text) : ∃ parts, IsChain parts written := by
  obtain ⟨_, _, _, member⟩ := mem_bind.mp member
  obtain ⟨_, _, _, member⟩ := mem_bind.mp member
  obtain ⟨_, _, _, member⟩ := mem_bind.mp member
  obtain ⟨table, _, named, member⟩ := mem_bind.mp member
  obtain ⟨_, _, _, member⟩ := mem_bind.mp member
  obtain ⟨_, _, _, member⟩ := mem_bind.mp member
  obtain ⟨rfl, _⟩ := Prod.mk.inj (List.mem_singleton.mp member)
  exact exists_of_mem_captured named

theorem exists_of_alterTableHead (member : (written, left) ∈ alterTableHead text) : ∃ parts, IsChain parts written := by
  obtain ⟨_, _, _, member⟩ := mem_bind.mp member
  obtain ⟨_, _, _, member⟩ := mem_bind.mp member
  obtain ⟨_, _, _, member⟩ := mem_bind.mp member
  obtain ⟨table, _, named, member⟩ := mem_bind.mp member
  obtain ⟨_, _, _, member⟩ := mem_bind.mp member
  obtain ⟨rfl, _⟩ := Prod.mk.inj (List.mem_singleton.mp member)
  exact exists_of_mem_captured named

theorem exists_of_createIndexHead {head : IndexHead} (member : (head, left) ∈ createIndexHead text) :
    ∃ parts, IsChain parts head.table := by
  obtain ⟨_, _, _, member⟩ := mem_bind.mp member
  obtain ⟨_, _, _, member⟩ := mem_bind.mp member
  obtain ⟨_, _, _, member⟩ := mem_bind.mp member
  obtain ⟨_, _, _, member⟩ := mem_bind.mp member
  obtain ⟨_, _, _, member⟩ := mem_bind.mp member
  obtain ⟨_, _, _, member⟩ := mem_bind.mp member
  obtain ⟨_, _, _, member⟩ := mem_bind.mp member
  obtain ⟨table, _, named, member⟩ := mem_bind.mp member
  obtain ⟨_, _, _, member⟩ := mem_bind.mp member
  obtain ⟨_, _, _, member⟩ := mem_bind.mp member
  obtain ⟨_, _, _, member⟩ := mem_bind.mp member
  obtain ⟨rfl, _⟩ := Prod.mk.inj (List.mem_singleton.mp member)
  exact exists_of_mem_captured named

/-- The name of the table that a statement creates, changes or gives an index is read of the chain of names that
the head of the statement captures. -/
theorem names_table (statement : Text) :
    (∀ table body, Dialect.standard.createTable statement = .ok (table, body) → ∃ written left parts last,
      createTableHead.first (trim statement) = some (written, left) ∧ Names parts last written table) ∧
    (∀ change, Dialect.standard.alterTable statement = .ok change → ∃ written left parts last,
      alterTableHead.first (trim statement) = some (written, left) ∧ Names parts last written change.table) ∧
    (∀ creation, Dialect.standard.createIndex statement = .ok creation → ∃ head left parts last,
      createIndexHead.first (trim statement) = some (head, left) ∧ Names parts last head.table creation.table) := by
  refine ⟨fun table body read => ?_, fun change read => ?_, fun creation read => ?_⟩
  · obtain ⟨written, left, _, head, _, _, rfl⟩ := readCreateTable_eq_ok.mp (ofDefect_eq_ok.mp read)
    obtain ⟨_, chain⟩ := exists_of_createTableHead (List.mem_of_mem_head? head)
    obtain ⟨parts, last, names⟩ := chain.exists_names
    exact ⟨written, left, parts, last, head, names⟩
  · obtain ⟨written, left, _, head, _, rfl⟩ := readAlterTable_eq_ok.mp read
    obtain ⟨_, chain⟩ := exists_of_alterTableHead (List.mem_of_mem_head? head)
    obtain ⟨parts, last, names⟩ := chain.exists_names
    exact ⟨written, left, parts, last, head, names⟩
  · obtain ⟨head, left, _, _, found, _, rfl⟩ := readCreateIndex_eq_ok.mp (ofDefect_eq_ok.mp read)
    obtain ⟨_, chain⟩ := exists_of_createIndexHead (List.mem_of_mem_head? found)
    obtain ⟨parts, last, names⟩ := chain.exists_names
    exact ⟨head, left, parts, last, found, names⟩

theorem names_table_longS : ∃ last, (∀ others, IsChain others "ſtaff".toList ↔ others = [last]) ∧
    wholeName last = "ſtaff".toList ∧ ("taff".toList = wholeName last ↔ heard last = last) ∧
    Dialect.standard.createTable "CREATE TABLE ſtaff (id INT)".toList = .ok ("taff".toList, "id INT".toList) := by
  have read : Dialect.standard.createTable "CREATE TABLE ſtaff (id INT)".toList =
      .ok ("taff".toList, "id INT".toList) := by decide +kernel
  have head : createTableHead.first (trim "CREATE TABLE ſtaff (id INT)".toList) =
      some ("ſtaff".toList, "(id INT)".toList) := by decide +kernel
  obtain ⟨written, left, parts, last, captured, names⟩ := (names_table "CREATE TABLE ſtaff (id INT)".toList).1 _ _ read
  obtain ⟨rfl, _⟩ := Prod.mk.inj (Option.some.inj (head.symm.trans captured))
  have single := (names.chain ["ſtaff".toList]).mp (.single (by decide +kernel))
  obtain ⟨rfl, same⟩ := List.append_eq_singleton_iff.mp single.symm |>.resolve_right (by simp)
  obtain rfl : last = "ſtaff".toList := (List.cons.inj same).1
  exact ⟨_, names.chain, by decide +kernel, names.whole_iff (by decide +kernel), read⟩

end Schemata.Ddl
