import Schemata.Proofs.Reader.First

/-!
Readers that read what they read whatever follows it, and readers that have no choice. A beginning that a
reader of the first sort reads, it reads before any other rest, too; and if it is one of the second sort,
that is what it reads there first.
-/

namespace Schemata.Reader

open Text

variable {α β : Type} {reader other : Reader α} {next : α → Reader β}

/-- What the reader reads, it reads before any rest that is at least as long. -/
def Spans (reader : Reader α) : Prop :=
  ∀ text a left, (a, left) ∈ reader text → ∃ read, text = read ++ left ∧
    ∀ rest : Text, left.length ≤ rest.length → ∃ b, (b, rest) ∈ reader (read ++ rest)

/-- What the reader reads, it reads before any rest that begins with the same character. -/
def Peeks (reader : Reader α) : Prop :=
  ∀ text a left, (a, left) ∈ reader text → ∃ read, text = read ++ left ∧
    ∀ rest : Text, rest.head? = left.head? → ∃ b, (b, rest) ∈ reader (read ++ rest)

/-- Of all ways to read a text, at most one leaves a rest that fits. -/
def Settles (reader : Reader α) (fits : Text → Prop) : Prop :=
  ∀ text one other, one ∈ reader text → other ∈ reader text → fits one.2 → fits other.2 → one = other

/-- What the reader reads begins with one of these characters. -/
def Begins (reader : Reader α) (starts : Char → Prop) : Prop :=
  ∀ text way, way ∈ reader text → ∃ c ∈ text.head?, starts c

theorem first_of_mem {way : α × Text} {text : Text} (settles : reader.Settles fun _ => True)
    (member : way ∈ reader text) : reader.first text = some way := by
  cases ways : reader text with
  | nil =>
      rw [ways] at member
      cases member
  | cons found others =>
      have head : found ∈ reader text := ways ▸ List.mem_cons_self ..
      rw [settles _ _ _ member head trivial trivial]
      exact first_eq_some_iff.mpr ⟨others, ways⟩

theorem accepts_of_mem {way : α × Text} {text : Text} (member : way ∈ reader text) : reader.accepts text = true := by
  obtain ⟨found, others, ways⟩ := List.exists_cons_of_ne_nil (List.ne_nil_of_mem member)
  rw [accepts, first_eq_some_iff.mpr ⟨others, ways⟩]
  rfl

theorem mem_ahead {c : Char} {text : Text} {way : Unit × Text} :
    way ∈ ahead c text ↔ way = ((), text) ∧ text.head? = some c := by
  unfold ahead
  split <;> simp_all

theorem mem_captured {span : Span} {text left : Text} :
    (span, left) ∈ captured reader text ↔ span = ⟨text, left⟩ ∧ ∃ a, (a, left) ∈ reader text := by
  simp only [captured, List.mem_map, Prod.exists, Prod.mk.injEq]
  constructor
  · rintro ⟨a, _, read, rfl, rfl⟩
    exact ⟨rfl, a, read⟩
  · rintro ⟨rfl, a, read⟩
    exact ⟨a, left, read, rfl, rfl⟩

/-- Repetitions read nothing, or begin with the part that they repeat. -/
theorem mem_upTo {reader : Reader Unit} {count : Nat} {text : Text} {way : Unit × Text}
    (member : way ∈ reader.upTo count text) : way = ((), text) ∨ ∃ begun, begun ∈ reader text := by
  cases count with
  | zero => exact .inl (List.mem_singleton.mp member)
  | succ =>
      rcases mem_either.mp member with again | done
      · obtain ⟨_, _, begun, _⟩ := mem_bind.mp again
        exact .inr ⟨_, begun⟩
      · exact .inl (List.mem_singleton.mp done)

/-! ### What is left -/

/-- What a reader leaves is the end of the text. -/
def LeavesEnd (reader : Reader α) : Prop :=
  ∀ text way, way ∈ reader text → way.2 <:+ text

theorem leavesEnd_pure (a : α) : LeavesEnd (pure a : Reader α) := by
  intro text way member
  obtain rfl := List.mem_singleton.mp member
  exact List.suffix_refl text

theorem leavesEnd_bind {reader : Reader α} {next : α → Reader β} (first : LeavesEnd reader)
    (second : ∀ a, LeavesEnd (next a)) : LeavesEnd (reader >>= next) := by
  rintro text ⟨b, left⟩ member
  obtain ⟨a, middle, here, there⟩ := mem_bind.mp member
  exact (second a middle _ there).trans (first text _ here)

theorem leavesEnd_either {one other : Reader α} (first : LeavesEnd one) (second : LeavesEnd other) :
    LeavesEnd (either one other) := by
  intro text way member
  exact (mem_either.mp member).elim (first text way) (second text way)

theorem leavesEnd_char (accepted : Char → Bool) : LeavesEnd (char accepted) := by
  intro text way member
  cases text with
  | nil => cases member
  | cons c rest =>
      rw [char] at member
      split at member
      · obtain rfl := List.mem_singleton.mp member
        exact List.suffix_cons c rest
      · cases member

theorem leavesEnd_run (accepted : Char → Bool) : LeavesEnd (run accepted) := by
  rintro text ⟨⟨⟩, left⟩ member
  obtain ⟨cs, rfl, _⟩ := mem_run.mp member
  exact List.suffix_append cs left

theorem leavesEnd_maybe {reader : Reader α} (leaves : LeavesEnd reader) : LeavesEnd (maybe reader) :=
  leavesEnd_either (leavesEnd_bind leaves fun a => leavesEnd_pure (some a)) (leavesEnd_pure none)

theorem leavesEnd_upTo {reader : Reader Unit} (leaves : LeavesEnd reader) (count : Nat) :
    LeavesEnd (upTo reader count) := by
  induction count with
  | zero => exact leavesEnd_pure ()
  | succ count ih => exact leavesEnd_either (leavesEnd_bind leaves fun _ => ih) (leavesEnd_pure ())

theorem leavesEnd_repeated {reader : Reader Unit} (leaves : LeavesEnd reader) :
    LeavesEnd (repeated reader) :=
  fun text => leavesEnd_upTo leaves text.length text

/-! ### What stands before any rest -/

namespace Spans

theorem pure (a : α) : (Pure.pure a : Reader α).Spans := by
  intro text b left member
  obtain ⟨rfl, rfl⟩ := Prod.mk.inj (List.mem_singleton.mp member)
  exact ⟨[], rfl, fun rest _ => ⟨b, List.mem_singleton_self _⟩⟩

theorem bind {next : Reader β} (spans : reader.Spans) (further : next.Spans) : (reader >>= fun _ => next).Spans := by
  intro text b left member
  obtain ⟨a, mid, begun, ended⟩ := mem_bind.mp member
  obtain ⟨first, rfl, any⟩ := spans _ _ _ begun
  obtain ⟨second, rfl, any'⟩ := further _ _ _ ended
  refine ⟨first ++ second, by simp, fun rest longer => ?_⟩
  obtain ⟨c, ended⟩ := any' rest longer
  obtain ⟨d, begun⟩ := any (second ++ rest) (by simpa using longer)
  exact ⟨c, mem_bind.mpr ⟨d, second ++ rest, by rwa [List.append_assoc], ended⟩⟩

theorem either (spans : reader.Spans) (spans' : other.Spans) : (Reader.either reader other).Spans := by
  intro text a left member
  rcases mem_either.mp member with one | one
  · obtain ⟨read, split, any⟩ := spans _ _ _ one
    refine ⟨read, split, fun rest longer => ?_⟩
    obtain ⟨b, member⟩ := any rest longer
    exact ⟨b, mem_either.mpr (.inl member)⟩
  · obtain ⟨read, split, any⟩ := spans' _ _ _ one
    refine ⟨read, split, fun rest longer => ?_⟩
    obtain ⟨b, member⟩ := any rest longer
    exact ⟨b, mem_either.mpr (.inr member)⟩

theorem map (spans : reader.Spans) (f : α → β) : (reader >>= fun a => Pure.pure (f a)).Spans := by
  intro text b left member
  obtain ⟨a, mid, begun, ended⟩ := mem_bind.mp member
  obtain ⟨rfl, rfl⟩ := Prod.mk.inj (List.mem_singleton.mp ended)
  obtain ⟨read, split, any⟩ := spans _ _ _ begun
  refine ⟨read, split, fun rest longer => ?_⟩
  obtain ⟨b, member⟩ := any rest longer
  exact ⟨f b, mem_bind.mpr ⟨b, rest, member, List.mem_singleton_self _⟩⟩

theorem maybe (spans : reader.Spans) : (Reader.maybe reader).Spans :=
  (spans.map some).either (.pure none)

theorem char (accepted : Char → Bool) : (Reader.char accepted).Spans := by
  intro text c left member
  obtain ⟨ok, rfl⟩ := mem_char.mp member
  exact ⟨[c], rfl, fun rest _ => ⟨c, mem_char.mpr ⟨ok, rfl⟩⟩⟩

theorem run (accepted : Char → Bool) : (Reader.run accepted).Spans := by
  intro text _ left member
  obtain ⟨read, split, all⟩ := mem_run.mp member
  exact ⟨read, split, fun rest _ => ⟨(), mem_run.mpr ⟨read, rfl, all⟩⟩⟩

theorem run1 (accepted : Char → Bool) : (Reader.run1 accepted).Spans :=
  (char accepted).bind (run accepted)

theorem keyword (letters : Text) : (Reader.keyword letters).Spans := by
  induction letters with
  | nil => exact .pure ()
  | cons letter letters ih => exact (char _).bind ih

/-- The count of repetitions that a text allows grows with its length. -/
theorem repeated {reader : Reader Unit} (spans : reader.Spans) : reader.repeated.Spans := by
  have stay : ∀ (more : Nat) (rest : Text), ((), rest) ∈ reader.upTo more rest := by
    intro more rest
    cases more with
    | zero => exact List.mem_singleton_self _
    | succ => exact mem_either.mpr (.inr (List.mem_singleton_self _))
  have upTo : ∀ {count text a left}, (a, left) ∈ reader.upTo count text → ∃ read, text = read ++ left ∧
      ∀ (more : Nat) (rest : Text), count ≤ more → left.length ≤ rest.length →
        (a, rest) ∈ reader.upTo more (read ++ rest) := by
    intro count
    -- A larger count is used up to the same number of repetitions, and then the reader stays where it is.
    induction count with
    | zero =>
        intro text a left member
        obtain ⟨rfl, rfl⟩ := Prod.mk.inj (List.mem_singleton.mp member)
        exact ⟨[], rfl, fun more rest _ _ => stay more rest⟩
    | succ count ih =>
        intro text a left member
        rcases mem_either.mp member with again | done
        · obtain ⟨_, mid, begun, ended⟩ := mem_bind.mp again
          obtain ⟨first, rfl, any⟩ := spans _ _ _ begun
          obtain ⟨second, rfl, any'⟩ := ih ended
          refine ⟨first ++ second, by simp, fun more rest enough longer => ?_⟩
          obtain ⟨more, rfl⟩ := Nat.exists_eq_add_of_lt (Nat.lt_of_lt_of_le (Nat.succ_pos count) enough)
          obtain ⟨b, begun⟩ := any (second ++ rest) (by simpa using longer)
          rw [Nat.zero_add] at enough ⊢
          refine mem_either.mpr (.inl (mem_bind.mpr ⟨b, second ++ rest, by rwa [List.append_assoc], ?_⟩))
          exact any' more rest (Nat.le_of_succ_le_succ enough) longer
        · obtain ⟨rfl, rfl⟩ := Prod.mk.inj (List.mem_singleton.mp done)
          exact ⟨[], rfl, fun more rest _ _ => stay more rest⟩
  intro text a left member
  obtain ⟨read, split, any⟩ := upTo member
  refine ⟨read, split, fun rest longer => ⟨a, any _ rest ?_ longer⟩⟩
  rw [split, List.length_append, List.length_append]
  exact Nat.add_le_add_left longer _

end Spans

namespace Peeks

theorem pure (a : α) : (Pure.pure a : Reader α).Peeks := by
  intro text b left member
  obtain ⟨rfl, rfl⟩ := Prod.mk.inj (List.mem_singleton.mp member)
  exact ⟨[], rfl, fun rest _ => ⟨b, List.mem_singleton_self _⟩⟩

theorem bind {next : Reader β} (peeks : reader.Peeks) (further : next.Peeks) : (reader >>= fun _ => next).Peeks := by
  intro text b left member
  obtain ⟨a, mid, begun, ended⟩ := mem_bind.mp member
  obtain ⟨first, rfl, any⟩ := peeks _ _ _ begun
  obtain ⟨second, rfl, any'⟩ := further _ _ _ ended
  refine ⟨first ++ second, by simp, fun rest same => ?_⟩
  obtain ⟨c, ended⟩ := any' rest same
  obtain ⟨d, begun⟩ := any (second ++ rest) (by rw [List.head?_append, List.head?_append, same])
  exact ⟨c, mem_bind.mpr ⟨d, second ++ rest, by rwa [List.append_assoc], ended⟩⟩

theorem either (peeks : reader.Peeks) (peeks' : other.Peeks) : (Reader.either reader other).Peeks := by
  have widened : ∀ {one : Reader α}, one.Peeks → (∀ text way, way ∈ one text → way ∈ Reader.either reader other text) →
      ∀ text a left, (a, left) ∈ one text → ∃ read, text = read ++ left ∧
        ∀ rest : Text, rest.head? = left.head? → ∃ b, (b, rest) ∈ Reader.either reader other (read ++ rest) := by
    intro one peeks wider text a left member
    obtain ⟨read, split, any⟩ := peeks _ _ _ member
    exact ⟨read, split, fun rest same => (any rest same).imp fun b => wider _ _⟩
  intro text a left member
  rcases mem_either.mp member with here | here
  · exact widened peeks (fun _ _ => mem_either.mpr ∘ .inl) _ _ _ here
  · exact widened peeks' (fun _ _ => mem_either.mpr ∘ .inr) _ _ _ here

theorem maybe (peeks : reader.Peeks) : (Reader.maybe reader).Peeks := by
  refine Peeks.either ?_ (.pure none)
  intro text b left member
  obtain ⟨a, mid, begun, ended⟩ := mem_bind.mp member
  obtain ⟨rfl, rfl⟩ := Prod.mk.inj (List.mem_singleton.mp ended)
  obtain ⟨read, split, any⟩ := peeks _ _ _ begun
  refine ⟨read, split, fun rest same => ?_⟩
  obtain ⟨c, member⟩ := any rest same
  exact ⟨some c, mem_bind.mpr ⟨c, rest, member, List.mem_singleton_self _⟩⟩

theorem char (accepted : Char → Bool) : (Reader.char accepted).Peeks := by
  intro text c left member
  obtain ⟨ok, rfl⟩ := mem_char.mp member
  exact ⟨[c], rfl, fun rest _ => ⟨c, mem_char.mpr ⟨ok, rfl⟩⟩⟩

theorem run (accepted : Char → Bool) : (Reader.run accepted).Peeks := by
  intro text _ left member
  obtain ⟨read, split, all⟩ := mem_run.mp member
  exact ⟨read, split, fun rest _ => ⟨(), mem_run.mpr ⟨read, rfl, all⟩⟩⟩

theorem run1 (accepted : Char → Bool) : (Reader.run1 accepted).Peeks :=
  (char accepted).bind (run accepted)

theorem keyword (letters : Text) : (Reader.keyword letters).Peeks := by
  induction letters with
  | nil => exact .pure ()
  | cons letter letters ih => exact (char _).bind ih

theorem ahead (c : Char) : (Reader.ahead c).Peeks := by
  intro text _ left member
  obtain ⟨same, head⟩ := mem_ahead.mp member
  obtain rfl := (Prod.mk.inj same).2
  exact ⟨[], rfl, fun rest same => ⟨(), mem_ahead.mpr ⟨rfl, same.trans head⟩⟩⟩

end Peeks

/-! ### First characters -/

namespace Begins

variable {starts starts' : Char → Prop}

theorem mono (begins : reader.Begins starts) (more : ∀ c, starts c → starts' c) : reader.Begins starts' := by
  intro text way member
  obtain ⟨c, head, start⟩ := begins _ _ member
  exact ⟨c, head, more c start⟩

theorem bind (begins : reader.Begins starts) : (reader >>= next).Begins starts := by
  intro text way member
  obtain ⟨a, mid, begun, _⟩ := mem_bind.mp member
  exact begins _ _ begun

theorem either (begins : reader.Begins starts) (begins' : other.Begins starts) :
    (Reader.either reader other).Begins starts := by
  intro text way member
  exact (mem_either.mp member).elim (begins _ _) (begins' _ _)

/-- A part that may be missing begins like a text, or what follows it does. -/
theorem maybe_bind {next : Option α → Reader β} (begins : reader.Begins starts)
    (further : ∀ a, (next a).Begins starts) : (Reader.maybe reader >>= next).Begins starts := by
  intro text way member
  obtain ⟨a, mid, begun, ended⟩ := mem_bind.mp member
  rcases mem_either.mp begun with some' | none'
  · exact begins.bind _ _ some'
  · obtain ⟨rfl, rfl⟩ := Prod.mk.inj (List.mem_singleton.mp none')
    exact further _ _ _ ended

theorem char {accepted : Char → Bool} : (Reader.char accepted).Begins (accepted · = true) := by
  intro text way member
  obtain ⟨ok, rfl⟩ := mem_char.mp member
  exact ⟨way.1, rfl, ok⟩

theorem keyword {letter : Char} {letters : Text} :
    (Reader.keyword (letter :: letters)).Begins (sameLetter letter · = true) :=
  char.bind

theorem captured (begins : reader.Begins starts) : (Reader.captured reader).Begins starts := by
  intro text way member
  obtain ⟨_, a, read⟩ := mem_captured.mp member
  exact begins _ _ read

/-- A text that begins with none of these characters. -/
theorem ends (begins : reader.Begins starts) {accepted : Char → Bool} (apart : ∀ c, starts c → accepted c = false)
    {text : Text} {way : α × Text} (member : way ∈ reader text) : Ends accepted text := by
  intro d member'
  obtain ⟨c, head, start⟩ := begins _ _ member
  cases head.symm.trans member'
  exact apart _ start

theorem apart {starts' : Char → Prop} {other : Reader β} (begins : reader.Begins starts)
    (begins' : other.Begins starts') (disjoint : ∀ c, starts c → starts' c → False) {text : Text}
    {way : α × Text} {way' : β × Text} (member : way ∈ reader text) (member' : way' ∈ other text) : False := by
  obtain ⟨c, head, start⟩ := begins _ _ member
  obtain ⟨d, head', start'⟩ := begins' _ _ member'
  cases head.symm.trans head'
  exact disjoint c start start'

end Begins

/-! ### Readers without a choice -/

namespace Settles

variable {fits fits' : Text → Prop}

theorem mono (settles : reader.Settles fits) (fewer : ∀ text, fits' text → fits text) : reader.Settles fits' :=
  fun _ _ _ member member' fit fit' => settles _ _ _ member member' (fewer _ fit) (fewer _ fit')

theorem pure (a : α) : (Pure.pure a : Reader α).Settles fits := by
  intro text one other member member' _ _
  exact (List.mem_singleton.mp member).trans (List.mem_singleton.mp member').symm

/-- A sequence has no choice if its first part has none among the rests that the second part can go on
with. -/
theorem bind (settles : reader.Settles fits) (further : ∀ a, (next a).Settles fits')
    (leads : ∀ {a text way}, way ∈ next a text → fits' way.2 → fits text) : (reader >>= next).Settles fits' := by
  intro text one other member member' fit fit'
  obtain ⟨a, mid, begun, ended⟩ := mem_bind.mp member
  obtain ⟨b, mid', begun', ended'⟩ := mem_bind.mp member'
  obtain ⟨rfl, rfl⟩ := Prod.mk.inj (settles _ _ _ begun begun' (leads ended fit) (leads ended' fit'))
  exact further a _ _ _ ended ended' fit fit'

theorem either (settles : reader.Settles fits) (settles' : other.Settles fits)
    (apart : ∀ {text way way'}, way ∈ reader text → way' ∈ other text → fits way.2 → fits way'.2 → False) :
    (Reader.either reader other).Settles fits := by
  intro text one another member member' fit fit'
  rcases mem_either.mp member with here | there
  · rcases mem_either.mp member' with here' | there'
    · exact settles _ _ _ here here' fit fit'
    · exact (apart here there' fit fit').elim
  · rcases mem_either.mp member' with here' | there'
    · exact (apart here' there fit' fit).elim
    · exact settles' _ _ _ there there' fit fit'

/-- A part may be missing if what it begins with is not read without it. -/
theorem maybe_bind {next : Option α → Reader β} (settles : reader.Settles fits)
    (further : ∀ a, (next a).Settles fits') (leads : ∀ {a text way}, way ∈ next a text → fits text)
    (apart : ∀ {text way way'}, way ∈ reader text → way' ∈ next none text → False) :
    (Reader.maybe reader >>= next).Settles fits' := by
  have present : (reader >>= fun a => (Pure.pure (some a) : Reader (Option α))).Settles fits :=
    bind settles (fun _ => pure _) fun member fit => by rwa [List.mem_singleton.mp member] at fit
  intro text one other member member' fit fit'
  obtain ⟨a, mid, begun, ended⟩ := mem_bind.mp member
  obtain ⟨b, mid', begun', ended'⟩ := mem_bind.mp member'
  have same : (a, mid) = (b, mid') := by
    rcases mem_either.mp begun with here | absent
    · rcases mem_either.mp begun' with here' | absent'
      · exact present _ _ _ here here' (leads ended) (leads ended')
      · obtain ⟨rfl, rfl⟩ := Prod.mk.inj (List.mem_singleton.mp absent')
        obtain ⟨_, _, read, _⟩ := mem_bind.mp here
        exact (apart read ended').elim
    · obtain ⟨rfl, rfl⟩ := Prod.mk.inj (List.mem_singleton.mp absent)
      rcases mem_either.mp begun' with here' | absent'
      · obtain ⟨_, _, read, _⟩ := mem_bind.mp here'
        exact (apart read ended).elim
      · exact (List.mem_singleton.mp absent').symm
  obtain ⟨rfl, rfl⟩ := Prod.mk.inj same
  exact further a _ _ _ ended ended' fit fit'

theorem char (accepted : Char → Bool) : (Reader.char accepted).Settles fun _ => True := by
  intro text one other member member' _ _
  obtain ⟨_, rfl⟩ := mem_char.mp member
  obtain ⟨_, same⟩ := mem_char.mp member'
  obtain ⟨first, rest⟩ := List.cons.inj same
  exact Prod.ext first rest

theorem run (accepted : Char → Bool) : (Reader.run accepted).Settles (Ends accepted) := by
  have all : ∀ {text : Text} {way : Unit × Text}, way ∈ Reader.run accepted text → Ends accepted way.2 →
      way.2 = text.dropWhile accepted := by
    intro text way member ends
    obtain ⟨read, rfl, inside⟩ := mem_run.mp member
    rw [List.dropWhile_append_of_pos inside, ends.dropWhile_eq]
  intro text one other member member' fit fit'
  exact Prod.ext rfl ((all member fit).trans (all member' fit').symm)

theorem run1 (accepted : Char → Bool) : (Reader.run1 accepted).Settles (Ends accepted) :=
  bind (char accepted) (fun _ => run accepted) fun _ _ => trivial

theorem keyword (letters : Text) : (Reader.keyword letters).Settles fun _ => True := by
  induction letters with
  | nil => exact pure ()
  | cons letter letters ih => exact bind (char _) (fun _ => ih) fun _ _ => trivial

theorem ahead (c : Char) : (Reader.ahead c).Settles fun _ => True := by
  intro text one other member member' _ _
  exact (mem_ahead.mp member).1.trans (mem_ahead.mp member').1.symm

theorem captured (settles : reader.Settles fits) : (Reader.captured reader).Settles fits := by
  rintro text ⟨span, left⟩ ⟨span', left'⟩ member member' fit fit'
  obtain ⟨rfl, a, read⟩ := mem_captured.mp member
  obtain ⟨rfl, b, read'⟩ := mem_captured.mp member'
  obtain ⟨_, rfl⟩ := Prod.mk.inj (settles _ _ _ read read' fit fit')
  rfl

/-- Repetitions have no choice if a text at which they may end is not one that they can go on with. -/
theorem repeated {reader : Reader Unit} {done : Text → Prop} (settles : reader.Settles fits)
    (ends : ∀ text, done text → fits text) (more : ∀ {text way}, way ∈ reader text → fits text)
    (apart : ∀ {text way}, way ∈ reader text → ¬ done text) : reader.repeated.Settles done := by
  have upTo : ∀ count, (reader.upTo count).Settles done := by
    intro count
    induction count with
    | zero => exact pure ()
    | succ count ih =>
        refine either (bind settles (fun _ => ih) ?_) (pure ()) ?_
        · intro _ text way member fit
          rcases mem_upTo member with rfl | ⟨begun, again⟩
          · exact ends _ fit
          · exact more again
        · intro text way way' member member' _ fit'
          obtain ⟨_, _, begun, _⟩ := mem_bind.mp member
          obtain rfl := List.mem_singleton.mp member'
          exact apart begun fit'
  exact fun text => upTo text.length text

end Settles

end Schemata.Reader
