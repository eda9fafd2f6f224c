import Schemata.Ddl.Statement
import Schemata.Proofs.Reader.Settled

/-!
The head of a `CREATE TABLE` statement can be read in one way only, and what stands behind the
parenthesis of the body has no part in it.
-/

namespace Schemata.Ddl

open Text Reader

variable {text : Text}

/-! ### Characters -/

theorem toLower_of_sameLetter {letter c : Char} (plain : letter.toLower ∉ ['i', 's', 'k'])
    (same : sameLetter letter c = true) : c.toLower = letter.toLower := by
  simp only [List.mem_cons, List.not_mem_nil, or_false, not_or] at plain
  unfold sameLetter at same
  rw [Bool.or_eq_true, beq_iff_eq] at same
  rcases same with same | special
  · exact same
  · split at special
    · exact absurd ‹_› plain.1
    · exact absurd ‹_› plain.2.1
    · exact absurd ‹_› plain.2.2
    · cases special

/-- No blank can stand in a name, and neither can a mark that stands behind one. -/
theorem not_named_of_isBlank {c : Char} : isBlank c = true →
    startsNameAnyCase c = false ∧ opensQuoted c = false ∧ continuesName c = false :=
  of_isBlank (fun c => startsNameAnyCase c = false ∧ opensQuoted c = false ∧ continuesName c = false) (by decide +kernel)

/-! ### Keywords -/

section Keywords

variable {letter : Char} {letters : Text}

theorem begins_letter {among : List Char} (plain : letter.toLower ∉ ['i', 's', 'k'])
    (member : letter.toLower ∈ among) : (keyword (letter :: letters)).Begins (·.toLower ∈ among) :=
  Begins.keyword.mono fun _ same => toLower_of_sameLetter plain same ▸ member

theorem spans_keywordThenBlanks (letters : Text) : (keywordThenBlanks letters).Spans :=
  (Spans.keyword letters).bind (.run1 isBlank)

theorem settles_keywordThenBlanks (letters : Text) : (keywordThenBlanks letters).Settles (Ends isBlank) :=
  (Settles.keyword letters).bind (fun _ => .run1 isBlank) fun _ _ => trivial

theorem more_letters {α : Type} {reader : Reader α} {among more : List Char} (begins : reader.Begins (·.toLower ∈ among))
    (wider : ∀ c ∈ among, c ∈ more) : reader.Begins (·.toLower ∈ more) :=
  begins.mono fun c => wider c.toLower

theorem ends_of_letters {α : Type} {reader : Reader α} {among : List Char} (solid : ∀ c ∈ among, isBlank c = false)
    (begins : reader.Begins (·.toLower ∈ among)) {way : α × Text} (member : way ∈ reader text) :
    Ends isBlank text :=
  begins.ends (fun c letter => by rw [← isBlank_caseBlind c]; exact solid _ letter) member

/-- Two readers that begin with different letters do not read the same text. -/
theorem apart_of_letters {α β : Type} {one : Reader α} {other : Reader β} {first second : List Char}
    (begins : one.Begins (·.toLower ∈ first)) (begins' : other.Begins (·.toLower ∈ second))
    (disjoint : ∀ c ∈ first, c ∉ second) {way : α × Text} {way' : β × Text} (member : way ∈ one text)
    (member' : way' ∈ other text) : False :=
  begins.apart begins' (fun c => disjoint c.toLower) member member'

theorem mem_keyword_cons {way : Unit × Text} (member : way ∈ keyword (letter :: letters) text) :
    ∃ c rest, text = c :: rest ∧ sameLetter letter c = true ∧ way ∈ keyword letters rest := by
  obtain ⟨c, rest, begun, ended⟩ := mem_bind.mp member
  obtain ⟨same, rfl⟩ := mem_char.mp begun
  exact ⟨c, rest, rfl, same, ended⟩

theorem mem_blanks1 {left : Text} (member : ((), left) ∈ blanks1 text) :
    ∃ gap, text = gap ++ left ∧ gap ≠ [] ∧ ∀ c ∈ gap, isBlank c = true := by
  obtain ⟨c, rest, begun, ended⟩ := mem_bind.mp member
  obtain ⟨blank, rfl⟩ := mem_char.mp begun
  obtain ⟨gap, rfl, all⟩ := mem_run.mp ended
  exact ⟨c :: gap, rfl, List.cons_ne_nil _ _, List.forall_mem_cons.mpr ⟨blank, all⟩⟩

theorem begins_blanks1 : blanks1.Begins (isBlank · = true) :=
  Begins.char.bind

end Keywords

/-! ### The keywords of the head -/

theorem spans_temporary : temporary.Spans :=
  ((Spans.keyword _).bind ((Spans.keyword _).maybe.bind (.run1 isBlank))).either (spans_keywordThenBlanks _)

theorem begins_temporary : temporary.Begins (·.toLower ∈ ['t', 'u']) := by
  have temp : (keyword "TEMP".toList).Begins (·.toLower ∈ ['t', 'u']) :=
      begins_letter (by decide) (by decide)
  have unlogged : (keyword "UNLOGGED".toList).Begins (·.toLower ∈ ['t', 'u']) :=
      begins_letter (by decide) (by decide)
  exact temp.bind.either unlogged.bind

theorem settles_temporary : temporary.Settles (Ends isBlank) := by
  have orary : (keyword "ORARY".toList).Begins (·.toLower ∈ ['o']) := begins_letter (by decide) (by decide)
  refine Settles.either ?_ (settles_keywordThenBlanks _) ?_
  · refine (Settles.keyword _).bind (fun _ => ?_) fun _ _ => trivial
    refine (Settles.keyword _).maybe_bind (fun _ => .run1 isBlank) (fun _ => trivial) ?_
    intro text way way' member member'
    obtain ⟨c, head, blank⟩ := begins_blanks1 _ _ member'
    rw [ends_of_letters (by decide) orary member c head] at blank
    cases blank
  · intro text way way' member member' _ _
    have temp : (keyword "TEMP".toList).Begins (·.toLower ∈ ['t']) :=
      begins_letter (by decide) (by decide)
    have unlogged : (keyword "UNLOGGED".toList).Begins (·.toLower ∈ ['u']) :=
      begins_letter (by decide) (by decide)
    exact apart_of_letters temp.bind unlogged.bind (by decide) member member'

/-- `TABLE` begins like `TEMP` and goes on otherwise. -/
theorem temporary_apart {way way' : Unit × Text} (member : way ∈ temporary text)
    (member' : way' ∈ keyword "TABLE".toList text) : False := by
  have able : (keyword "ABLE".toList).Begins (·.toLower ∈ ['a']) :=
      begins_letter (by decide) (by decide)
  rcases mem_either.mp member with temp | unlogged
  · obtain ⟨_, _, begun, _⟩ := mem_bind.mp temp
    obtain ⟨c, rest, rfl, _, emp⟩ := mem_keyword_cons begun
    obtain ⟨d, rest', same, _, later⟩ := mem_keyword_cons member'
    obtain ⟨rfl, rfl⟩ := List.cons.inj same
    have emp' : (keyword "EMP".toList).Begins (·.toLower ∈ ['e']) :=
      begins_letter (by decide) (by decide)
    exact apart_of_letters emp' able (by decide) emp later
  · obtain ⟨_, _, begun, _⟩ := mem_bind.mp unlogged
    have unlogged' : (keyword "UNLOGGED".toList).Begins (·.toLower ∈ ['u']) :=
      begins_letter (by decide) (by decide)
    have table : (keyword "TABLE".toList).Begins (·.toLower ∈ ['t']) :=
      begins_letter (by decide) (by decide)
    exact apart_of_letters unlogged' table (by decide) begun member'

theorem begins_table : (keyword "TABLE".toList).Begins (·.toLower ∈ ['t']) :=
  begins_letter (by decide) (by decide)

theorem begins_scope :
    (either (keywordThenBlanks "GLOBAL".toList) (keywordThenBlanks "LOCAL".toList)).Begins
      (·.toLower ∈ ['g', 'l']) := by
  have global : (keyword "GLOBAL".toList).Begins (·.toLower ∈ ['g', 'l']) :=
    begins_letter (by decide) (by decide)
  have local' : (keyword "LOCAL".toList).Begins (·.toLower ∈ ['g', 'l']) :=
    begins_letter (by decide) (by decide)
  exact global.bind.either local'.bind

theorem settles_scope :
    (either (keywordThenBlanks "GLOBAL".toList) (keywordThenBlanks "LOCAL".toList)).Settles (Ends isBlank) := by
  refine (settles_keywordThenBlanks _).either (settles_keywordThenBlanks _) fun member member' _ _ => ?_
  have global : (keyword "GLOBAL".toList).Begins (·.toLower ∈ ['g']) :=
    begins_letter (by decide) (by decide)
  have local' : (keyword "LOCAL".toList).Begins (·.toLower ∈ ['l']) :=
    begins_letter (by decide) (by decide)
  exact apart_of_letters global.bind local'.bind (by decide) member member'

theorem spans_createTableKeywords : createTableKeywords.Spans := by
  refine (spans_keywordThenBlanks _).bind ?_
  refine ((spans_keywordThenBlanks _).bind (spans_keywordThenBlanks _)).maybe.bind ?_
  refine ((spans_keywordThenBlanks _).either (spans_keywordThenBlanks _)).maybe.bind ?_
  exact spans_temporary.maybe.bind (.keyword _)

/-- The modifiers of `CREATE TABLE` can be told by their first letters, and `TEMP` by its second one. -/
theorem settles_createTableKeywords : createTableKeywords.Settles fun _ => True := by
  let kind : Reader Unit := keyword "TABLE".toList
  let lasting : Reader Unit := maybe temporary >>= fun _ => kind
  let located : Reader Unit :=
    maybe (either (keywordThenBlanks "GLOBAL".toList) (keywordThenBlanks "LOCAL".toList)) >>= fun _ => lasting
  let replacing : Reader Unit := maybe (keywordsThenBlanks "OR".toList "REPLACE".toList) >>= fun _ => located
  have lastingBegins : lasting.Begins (·.toLower ∈ ['t', 'u']) :=
    begins_temporary.maybe_bind fun _ => more_letters begins_table (by decide)
  have locatedBegins : located.Begins (·.toLower ∈ ['g', 'l', 't', 'u']) :=
    (more_letters begins_scope (by decide)).maybe_bind fun _ => more_letters lastingBegins (by decide)
  have or : (keyword "OR".toList).Begins (·.toLower ∈ ['o']) := begins_letter (by decide) (by decide)
  have replace : (keyword "REPLACE".toList).Begins (·.toLower ∈ ['r']) := begins_letter (by decide) (by decide)
  have replacingBegins : replacing.Begins (·.toLower ∈ ['o', 'g', 'l', 't', 'u']) :=
    (more_letters or.bind.bind (by decide)).maybe_bind fun _ => more_letters locatedBegins (by decide)
  have lastingSettles : lasting.Settles fun _ => True :=
    settles_temporary.maybe_bind (fun _ => .keyword _) (ends_of_letters (by decide) begins_table) temporary_apart
  have locatedSettles : located.Settles fun _ => True :=
    settles_scope.maybe_bind (fun _ => lastingSettles) (ends_of_letters (by decide) lastingBegins)
      (apart_of_letters begins_scope lastingBegins (by decide))
  have twoWords : (keywordsThenBlanks "OR".toList "REPLACE".toList).Settles (Ends isBlank) :=
    (settles_keywordThenBlanks _).bind (fun _ => settles_keywordThenBlanks _)
      fun member _ => ends_of_letters (by decide) replace.bind member
  have replacingSettles : replacing.Settles fun _ => True :=
    twoWords.maybe_bind (fun _ => locatedSettles) (ends_of_letters (by decide) locatedBegins)
      (apart_of_letters or.bind.bind locatedBegins (by decide))
  exact (settles_keywordThenBlanks _).bind (fun _ => replacingSettles)
    fun member _ => ends_of_letters (by decide) replacingBegins member

theorem spans_ifNotExists : ifNotExists.Spans :=
  (spans_keywordThenBlanks _).bind ((spans_keywordThenBlanks _).bind (spans_keywordThenBlanks _))

theorem settles_ifNotExists : ifNotExists.Settles (Ends isBlank) := by
  have not : (keyword "NOT".toList).Begins (·.toLower ∈ ['n']) := begins_letter (by decide) (by decide)
  have exists' : (keyword "EXISTS".toList).Begins (·.toLower ∈ ['e']) := begins_letter (by decide) (by decide)
  refine (settles_keywordThenBlanks _).bind (fun _ => ?_) fun member _ => ends_of_letters (by decide) not.bind.bind member
  exact (settles_keywordThenBlanks _).bind (fun _ => settles_keywordThenBlanks _)
    fun member _ => ends_of_letters (by decide) exists'.bind member

/-! ### Names -/

section Names

variable {opening closing : Char} {starts : Char → Bool}

theorem spans_delimited (opening closing : Char) : (delimited opening closing).Spans :=
  (Spans.char _).bind ((Spans.run1 _).bind ((Spans.char _).map fun _ => ()))

theorem begins_delimited : (delimited opening closing).Begins (· = opening) :=
  Begins.char.bind.mono fun _ => eq_of_beq

/-- A delimited name ends at the first closing mark. -/
theorem settles_delimited : (delimited opening closing).Settles fun _ => True := by
  refine (Settles.char _).bind (fun _ => ?_) fun _ _ => trivial
  refine (Settles.run1 _).bind (fun _ => (Settles.char _).bind (fun _ => .pure ()) fun _ _ => trivial) ?_
  intro _ text way member _
  have closes : (char (· == closing)).Begins (· = closing) := Begins.char.mono fun _ => eq_of_beq
  exact closes.bind.ends (by simp) member

theorem spans_name : name.Spans :=
  (spans_delimited _ _).either ((spans_delimited _ _).either ((spans_delimited _ _).either
    ((Spans.char _).bind (.run _))))

theorem begins_name : name.Begins fun c => startsNameAnyCase c = true ∨ opensQuoted c = true := by
  have quoted : ∀ {opening closing : Char}, opensQuoted opening = true →
      (delimited opening closing).Begins fun c => startsNameAnyCase c = true ∨ opensQuoted c = true :=
    fun opens => begins_delimited.mono fun c same => .inr (same ▸ opens)
  have bare : (bareName startsNameAnyCase).Begins fun c => startsNameAnyCase c = true ∨ opensQuoted c = true :=
    Begins.char.bind.mono fun c starts => .inl starts
  exact (quoted rfl).either ((quoted rfl).either ((quoted rfl).either bare))

theorem settles_name : name.Settles (Ends continuesName) := by
  have distinct : ∀ {one other : Char} {closing closing' : Char}, one ≠ other → ∀ {text : Text} {way way' : Unit × Text},
      way ∈ delimited one closing text → way' ∈ delimited other closing' text → False :=
    fun different => begins_delimited.apart begins_delimited fun c same same' => different (same.symm.trans same')
  have quoted : ∀ {opening closing : Char}, startsNameAnyCase opening = false → ∀ {text : Text} {way way' : Unit × Text},
      way ∈ delimited opening closing text → way' ∈ bareName startsNameAnyCase text → False := by
    intro opening closing apart text way way' member member'
    refine begins_delimited.apart Begins.char.bind (fun c same starts => ?_) member member'
    rw [same, apart] at starts
    cases starts
  have any : ∀ {opening closing : Char}, (delimited opening closing).Settles (Ends continuesName) :=
    settles_delimited.mono fun _ _ => trivial
  have bare : (bareName startsNameAnyCase).Settles (Ends continuesName) :=
    (Settles.char _).bind (fun _ => .run _) fun _ _ => trivial
  refine any.either (any.either (any.either bare ?_) ?_) ?_
  · exact fun member member' _ _ => quoted (by decide) member member'
  · intro text way way' member member' _ _
    rcases mem_either.mp member' with other | other
    · exact distinct (by decide) member other
    · exact quoted (by decide) member other
  · intro text way way' member member' _ _
    rcases mem_either.mp member' with other | other
    · exact distinct (by decide) member other
    · rcases mem_either.mp other with other | other
      · exact distinct (by decide) member other
      · exact quoted (by decide) member other

end Names

/-! ### Qualified names -/

theorem begins_blanks {β : Type} {next : Unit → Reader β} {starts : Char → Prop} (begins : (next ()).Begins starts) :
    (blanks >>= next).Begins fun c => isBlank c = true ∨ starts c := by
  intro text way member
  obtain ⟨_, left, begun, ended⟩ := mem_bind.mp member
  obtain ⟨gap, rfl, blank⟩ := mem_run.mp begun
  cases gap with
  | nil =>
      obtain ⟨c, head, start⟩ := begins _ _ ended
      exact ⟨c, head, .inr start⟩
  | cons c gap => exact ⟨c, rfl, .inl (blank c (List.mem_cons_self ..))⟩

/-- Blanks that end at the same place or at another one leave the same, if nothing blank follows them. -/
theorem eq_of_mem_blanks {one other : Text} (member : ((), one) ∈ blanks text) (member' : ((), other) ∈ blanks text)
    (ends : Ends isBlank one) (ends' : Ends isBlank other) : one = other :=
  (Prod.mk.inj (Settles.run isBlank _ _ _ member member' ends ends')).2

theorem begins_ahead (c : Char) : (ahead c).Begins (· = c) := by
  intro text way member
  exact ⟨c, (mem_ahead.mp member).2, rfl⟩

/-- A parenthesis follows, possibly behind blanks. -/
def Opens (text : Text) : Prop :=
  ∃ way, way ∈ (blanks >>= fun _ => ahead '(') text

/-- One more component of a qualified name. -/
def component : Reader Unit := do
  blanks
  let _ ← char (· == '.')
  blanks
  name

theorem begins_dot {β : Type} {next : Char → Reader β} : (char (· == '.') >>= next).Begins (· = '.') :=
  Begins.char.bind.mono fun _ => eq_of_beq

theorem spans_component : component.Spans :=
  (Spans.run _).bind ((Spans.char _).bind ((Spans.run _).bind spans_name))

theorem ends_name {way : Unit × Text} (member : way ∈ name text) : Ends isBlank text := by
  refine begins_name.ends (fun c begins => ?_) member
  cases blank : isBlank c with
  | false => rfl
  | true =>
      obtain ⟨bare, quoted, _⟩ := not_named_of_isBlank blank
      rw [bare, quoted] at begins
      simp at begins

theorem ends_of_begins_blanks {starts : Char → Prop} {reader : Reader Unit}
    (begins : reader.Begins fun c => isBlank c = true ∨ starts c) (solid : ∀ c, starts c → continuesName c = false)
    {way : Unit × Text} (member : way ∈ reader text) : Ends continuesName text := by
  refine begins.ends (fun c begins => ?_) member
  rcases begins with blank | start
  · exact (not_named_of_isBlank blank).2.2
  · exact solid c start

theorem ends_of_component {way : Unit × Text} (member : way ∈ component text) : Ends continuesName text :=
  ends_of_begins_blanks (begins_blanks begins_dot) (by rintro _ rfl; decide) member

theorem Opens.ends (opens : Opens text) : Ends continuesName text := by
  obtain ⟨way, member⟩ := opens
  exact ends_of_begins_blanks (begins_blanks (begins_ahead '(')) (by rintro _ rfl; decide) member

theorem settles_component : component.Settles (Ends continuesName) := by
  refine (Settles.run isBlank).bind (fun _ => (Settles.char _).bind (fun _ => ?_) fun _ _ => trivial) ?_
  · exact (Settles.run isBlank).bind (fun _ => settles_name) fun member _ => ends_name member
  · intro _ text way member _
    exact begins_dot.ends (by rintro _ rfl; decide) member

/-- Behind a name, either a dot follows or a parenthesis. -/
theorem not_opens_of_component {way : Unit × Text} (member : way ∈ component text) : ¬ Opens text := by
  rintro ⟨way', member'⟩
  obtain ⟨_, left, begun, ended⟩ := mem_bind.mp member
  obtain ⟨_, left', begun', ended'⟩ := mem_bind.mp member'
  obtain rfl := eq_of_mem_blanks begun begun' (begins_dot.ends (by rintro _ rfl; decide) ended)
    ((begins_ahead '(').ends (by rintro _ rfl; decide) ended')
  exact begins_dot.apart (begins_ahead '(') (by rintro _ rfl; decide) ended ended'

theorem spans_qualifiedName : qualifiedName.Spans :=
  spans_name.bind spans_component.repeated

theorem settles_qualifiedName : qualifiedName.Settles Opens := by
  have repeats : (repeated component).Settles Opens :=
    settles_component.repeated (fun _ => Opens.ends) ends_of_component not_opens_of_component
  refine settles_name.bind (fun _ => repeats) ?_
  intro _ text way member opens
  rcases mem_upTo member with rfl | ⟨begun, again⟩
  · exact Opens.ends opens
  · exact ends_of_component again

/-! ### The head -/

/-- What can be read of the head behind the words `IF NOT EXISTS`. -/
def namedBody : Reader Text := do
  let table ← captured qualifiedName
  blanks
  ahead '('
  return table.text

theorem settles_namedBody : namedBody.Settles fun _ => True := by
  refine settles_qualifiedName.captured.bind (fun table => ?_) ?_
  · refine (Settles.run isBlank).bind (fun _ => (Settles.ahead '(').bind (fun _ => .pure _) fun _ _ => trivial) ?_
    intro _ text way member _
    exact (begins_ahead '(').bind.ends (by rintro _ rfl; decide) member
  · intro table text way member _
    obtain ⟨_, left, begun, ended⟩ := mem_bind.mp member
    obtain ⟨_, _, opening, _⟩ := mem_bind.mp ended
    exact ⟨_, mem_bind.mpr ⟨(), left, begun, opening⟩⟩

/-- Behind its first name, what is read goes on with a dot or a parenthesis. -/
theorem exists_mark_of_namedBody {way : Text × Text} (member : way ∈ namedBody text) :
    ∃ behind left, ((), behind) ∈ name text ∧ Ends continuesName behind ∧ ((), left) ∈ blanks behind ∧
      ∃ c ∈ left.head?, c = '.' ∨ c = '(' := by
  obtain ⟨_, rest, written, opening⟩ := mem_bind.mp member
  obtain ⟨_, _, read⟩ := mem_captured.mp written
  obtain ⟨_, behind, named, repeats⟩ := mem_bind.mp read
  rcases mem_upTo repeats with stay | ⟨begun, again⟩
  · obtain ⟨_, rfl⟩ := Prod.mk.inj stay
    obtain ⟨_, left, blank, ended⟩ := mem_bind.mp opening
    obtain ⟨_, _, ahead', _⟩ := mem_bind.mp ended
    obtain ⟨c, head, mark⟩ := begins_ahead '(' _ _ ahead'
    exact ⟨_, left, named, Opens.ends ⟨_, mem_bind.mpr ⟨(), left, blank, ahead'⟩⟩, blank, c, head, .inr mark⟩
  · obtain ⟨_, left, blank, ended⟩ := mem_bind.mp again
    obtain ⟨c, head, mark⟩ := begins_dot _ _ ended
    exact ⟨_, left, named, ends_of_component again, blank, c, head, .inl mark⟩

/-- A text with the words `IF NOT EXISTS` does not go on with a name and a parenthesis, since no name
there reaches beyond `IF`. -/
theorem ifNotExists_apart {way : Unit × Text} {way' : Text × Text} (member : way ∈ ifNotExists text)
    (member' : way' ∈ namedBody text) : False := by
  obtain ⟨_, afterGap, if', negated⟩ := mem_bind.mp member
  obtain ⟨_, afterWord, word, gap⟩ := mem_bind.mp if'
  obtain ⟨i, _, rfl, (isI : sameLetter 'I' i = true), further⟩ := mem_keyword_cons word
  obtain ⟨f, _, rfl, (isF : sameLetter 'F' f = true), done⟩ := mem_keyword_cons further
  obtain ⟨_, rfl⟩ := Prod.mk.inj (List.mem_singleton.mp done)
  obtain ⟨behind, left, named, ends, blank, c, head, mark⟩ := exists_mark_of_namedBody member'
  have not : (keyword "NOT".toList).Begins (·.toLower ∈ ['n']) := begins_letter (by decide) (by decide)
  have solid := ends_of_letters (by decide) not.bind.bind negated
  obtain ⟨d, blankHead, isBlank'⟩ := begins_blanks1 _ _ gap
  have wordEnds : Ends continuesName afterWord :=
    begins_blanks1.ends (fun _ blank => (not_named_of_isBlank blank).2.2) gap
  have ifNamed : ((), afterWord) ∈ name (i :: f :: afterWord) := by
    have starts : startsNameAnyCase i = true := by simp [startsNameAnyCase, isI]
    have continues : continuesName f = true := by simp [continuesName, isWordChar_of_sameLetter (by decide) isF]
    refine mem_either.mpr (.inr (mem_either.mpr (.inr (mem_either.mpr (.inr ?_)))))
    exact mem_bind.mpr ⟨i, _, mem_char.mpr ⟨starts, rfl⟩, mem_run.mpr ⟨[f], rfl, by simpa using continues⟩⟩
  obtain ⟨_, rfl⟩ := Prod.mk.inj (settles_name _ _ _ named ifNamed ends wordEnds)
  have gap' : ((), afterGap) ∈ blanks behind := by
    obtain ⟨read, rfl, _, all⟩ := mem_blanks1 gap
    exact mem_run.mpr ⟨read, rfl, all⟩
  have leftEnds : Ends isBlank left := by
    intro e head'
    obtain rfl := Option.some.inj (head.symm.trans head')
    rcases mark with rfl | rfl <;> decide
  obtain rfl := eq_of_mem_blanks blank gap' leftEnds solid
  obtain ⟨e, head', letter⟩ := not.bind.bind _ _ negated
  obtain rfl := Option.some.inj (head.symm.trans head')
  rcases mark with rfl | rfl <;> exact absurd letter (by decide)

/-- The head of a table statement can be read in one way at most. -/
theorem settles_createTableHead : createTableHead.Settles fun _ => True := by
  have solid : ∀ {way : Text × Text} {text : Text}, way ∈ namedBody text → Ends isBlank text := by
    intro way text member
    obtain ⟨_, _, named, _⟩ := exists_mark_of_namedBody member
    exact ends_name named
  have conditional : (maybe ifNotExists >>= fun _ => namedBody).Settles fun _ => True :=
    settles_ifNotExists.maybe_bind (fun _ => settles_namedBody) solid ifNotExists_apart
  refine settles_createTableKeywords.bind (fun _ => ?_) fun _ _ => trivial
  refine (Settles.run1 isBlank).bind (fun _ => conditional) ?_
  intro _ text way member _
  obtain ⟨_, _, begun, ended⟩ := mem_bind.mp member
  rcases mem_either.mp begun with present | absent
  · obtain ⟨_, _, read, _⟩ := mem_bind.mp present
    have if' : (keyword "IF".toList).Begins (sameLetter 'I' · = true) := Begins.keyword
    refine if'.bind.bind.ends (fun c same => ?_) read
    cases blank : isBlank c with
    | false => rfl
    | true =>
        have apart := not_isWordChar_of_isBlank blank
        rw [isWordChar_of_sameLetter (by decide) same] at apart
        cases apart
  · obtain ⟨_, rfl⟩ := Prod.mk.inj (List.mem_singleton.mp absent)
    exact solid ended

/-- The keywords before the name. -/
def beforeName : Reader (Option Unit) := do
  createTableKeywords
  blanks1
  maybe ifNotExists

theorem createTableHead_eq : createTableHead = beforeName >>= fun _ => namedBody := by
  simp only [beforeName, bind_bind]
  rfl

theorem spans_beforeName : beforeName.Spans :=
  spans_createTableKeywords.bind ((Spans.run1 _).bind spans_ifNotExists.maybe)

/-- What stands behind the parenthesis of the body has no part in the head. -/
theorem createTableHead_first_of_longer {head rest other written : Text}
    (read : createTableHead.first (head ++ '(' :: rest) = some (written, '(' :: rest))
    (longer : rest.length ≤ other.length) :
    createTableHead.first (head ++ '(' :: other) = some (written, '(' :: other) := by
  obtain ⟨_, ways⟩ := first_eq_some_iff.mp read
  have member : (written, '(' :: rest) ∈ createTableHead (head ++ '(' :: rest) := ways ▸ List.mem_cons_self ..
  rw [createTableHead_eq] at member
  obtain ⟨_, fromName, before, named⟩ := mem_bind.mp member
  obtain ⟨span, behind, name', opening⟩ := mem_bind.mp named
  obtain ⟨rfl, _, qualified⟩ := mem_captured.mp name'
  obtain ⟨_, opened, blank, ended⟩ := mem_bind.mp opening
  obtain ⟨_, _, parenthesis, last⟩ := mem_bind.mp ended
  obtain ⟨same, _⟩ := mem_ahead.mp parenthesis
  obtain ⟨_, rfl⟩ := Prod.mk.inj same
  obtain ⟨text, rfl⟩ := Prod.mk.inj (List.mem_singleton.mp last)
  obtain ⟨keywords, split, any⟩ := spans_beforeName _ _ _ before
  obtain ⟨name, rfl, any'⟩ := spans_qualifiedName _ _ _ qualified
  obtain ⟨gap, rfl, all⟩ := mem_run.mp blank
  have whole : head = keywords ++ (name ++ gap) := by
    have joined : head ++ '(' :: rest = (keywords ++ (name ++ gap)) ++ '(' :: rest := by simpa using split
    exact List.append_cancel_right joined
  obtain ⟨_, qualified'⟩ := any' (gap ++ '(' :: other) (by simpa using longer)
  obtain ⟨_, before'⟩ := any (name ++ (gap ++ '(' :: other)) (by simpa using longer)
  refine first_of_mem settles_createTableHead ?_
  rw [createTableHead_eq, whole]
  refine mem_bind.mpr ⟨_, name ++ (gap ++ '(' :: other), by simpa using before', ?_⟩
  refine mem_bind.mpr ⟨_, _, mem_captured.mpr ⟨rfl, _, qualified'⟩, ?_⟩
  refine mem_bind.mpr ⟨(), '(' :: other, mem_run.mpr ⟨gap, rfl, all⟩, ?_⟩
  refine mem_bind.mpr ⟨(), '(' :: other, mem_ahead.mpr ⟨rfl, rfl⟩, ?_⟩
  rw [Span.text_append] at text ⊢
  exact List.mem_singleton.mpr (Prod.ext text rfl)

theorem classify_of_createTableHead {way : Text × Text} (solid : Ends isBlank text)
    (read : createTableHead.first text = some way) : classify text = .createTable := by
  obtain ⟨_, ways⟩ := first_eq_some_iff.mp read
  have member : way ∈ createTableHead text := ways ▸ List.mem_cons_self ..
  obtain ⟨_, left, begun, further⟩ := mem_bind.mp member
  obtain ⟨_, _, gap, _⟩ := mem_bind.mp further
  have ends : Ends isWordChar left := begins_blanks1.ends (fun _ => not_isWordChar_of_isBlank) gap
  have whole : ((), left) ∈ (do createTableKeywords; wordEnd : Reader Unit) text := by
    refine mem_bind.mpr ⟨_, left, begun, ?_⟩
    rw [wordEnd, startsWithWord_eq_false_iff.mpr ends]
    exact List.mem_singleton_self _
  rw [classify, trimLeft, solid.dropWhile_eq, if_pos (accepts_of_mem whole)]

end Schemata.Ddl
