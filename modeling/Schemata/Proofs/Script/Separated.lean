import Schemata.Proofs.Script.Pieces
import Schemata.Proofs.Text.Ends
import Schemata.Proofs.Text.Parts

/-!
Texts that are cut at one character where a scan is at its start: a script at its semicolons, a list at
its commas. The segments hold no cut, and each but the last leaves the scan at its start; joined, they
are cut where they were joined. The same holds of the pieces, since trimming takes nothing that the scan
sees.
-/

namespace Schemata.Script

open Text

/-- The scan cuts at the separator, and only where it is at its start. Blanks leave it where it is. -/
structure Separates {σ : Type} (next : σ → Char → σ) (cuts : σ → Char → Bool) (start : σ)
    (separator : Char) : Prop where
  cuts_iff : ∀ state c, cuts state c = true ↔ state = start ∧ c = separator
  steady : next start separator = start
  blank : ∀ (text : Text) c, isBlank c = true → next (text.foldl next start) c = text.foldl next start

/-- Characters that have no part in the structure of a list. -/
def isPlain (c : Char) : Bool :=
  !isQuote c && c != '(' && c != ')' && c != ','

theorem isPlain_of_isBlank {c : Char} : isBlank c = true → isPlain c = true :=
  of_isBlank (isPlain · = true) (by decide)

theorem isQuote_of_mem_quoteAtEnd {quote : Option Char} (marks : ∀ q ∈ quote, isQuote q = true) (text : Text) :
    ∀ q ∈ quoteAtEnd quote text, isQuote q = true := by
  induction text generalizing quote with
  | nil => exact marks
  | cons c rest ih =>
      refine ih fun q member => ?_
      cases quote with
      | some held =>
          simp only [quoteAfter, Option.mem_def, Option.ite_none_left_eq_some, Option.some.injEq] at member
          exact member.2 ▸ marks held rfl
      | none =>
          simp only [quoteAfter, Option.mem_def, Option.ite_none_right_eq_some, Option.some.injEq] at member
          exact member.2 ▸ member.1

theorem not_isQuote_of_isPlain {c : Char} (plain : isPlain c = true) : isQuote c = false := by
  simp only [isPlain, Bool.and_eq_true, Bool.not_eq_true'] at plain
  exact plain.1.1.1

theorem quoteAfter_of_not_isQuote {quote : Option Char} (marks : ∀ q ∈ quote, isQuote q = true) {c : Char}
    (unquoted : isQuote c = false) : quoteAfter quote c = quote := by
  cases quote with
  | none => simp [quoteAfter, unquoted]
  | some q =>
      refine if_neg ?_
      rintro rfl
      rw [marks c rfl] at unquoted
      cases unquoted

theorem endsStatement_separates : Separates quoteAfter endsStatement none ';' where
  cuts_iff quote c := by simp [endsStatement]
  steady := rfl
  blank text _ blank := quoteAfter_of_not_isQuote (isQuote_of_mem_quoteAtEnd (by simp) text)
    (not_isQuote_of_isPlain (isPlain_of_isBlank blank))

theorem Nesting.foldl_after_quote (nesting : Nesting) (text : Text) :
    (text.foldl after nesting).quote = quoteAtEnd nesting.quote text := by
  induction text generalizing nesting with
  | nil => rfl
  | cons c rest ih => rw [List.foldl_cons, ih, after_quote, quoteAtEnd_cons]

theorem Nesting.isQuote_of_mem_foldl (text : Text) : ∀ q ∈ (text.foldl after start).quote, isQuote q = true := by
  rw [foldl_after_quote]
  exact isQuote_of_mem_quoteAtEnd (by simp [start]) text

section Nesting

variable {nesting : Nesting} (marks : ∀ q ∈ nesting.quote, isQuote q = true)
include marks

theorem Nesting.after_of_isPlain {c : Char} (plain : isPlain c = true) : nesting.after c = nesting := by
  obtain ⟨quote, depth⟩ := nesting
  have same : quoteAfter quote c = quote := quoteAfter_of_not_isQuote marks (not_isQuote_of_isPlain plain)
  simp only [isPlain, Bool.and_eq_true, bne_iff_ne] at plain
  cases quote <;> simp [after, same, plain]

/-- Plain characters leave a scan where it is. -/
theorem Nesting.foldl_of_isPlain {text : Text} (plain : ∀ c ∈ text, isPlain c = true) :
    text.foldl after nesting = nesting := by
  induction text with
  | nil => rfl
  | cons c text ih =>
      obtain ⟨here, further⟩ := List.forall_mem_cons.mp plain
      rw [List.foldl_cons, after_of_isPlain marks here, ih further]

/-- So do plain characters in parentheses, within a literal or not. -/
theorem Nesting.foldl_parenthesized {inner : Text} (plain : ∀ c ∈ inner, isPlain c = true) :
    ('(' :: (inner ++ [')'])).foldl after nesting = nesting := by
  obtain ⟨quote, depth⟩ := nesting
  rw [List.foldl_cons, List.foldl_append]
  cases quote with
  | none =>
      have opened : after ⟨none, depth⟩ '(' = ⟨none, depth + 1⟩ := rfl
      rw [opened, foldl_of_isPlain (by simp) plain]
      rfl
  | some q =>
      have held : ∀ c, isQuote c = false → after ⟨some q, depth⟩ c = ⟨some q, depth⟩ := fun c unquoted =>
        congrArg (Nesting.mk · depth) (quoteAfter_of_not_isQuote marks unquoted)
      rw [held '(' rfl, foldl_of_isPlain marks plain, List.foldl_cons, held ')' rfl]
      rfl

end Nesting

theorem endsItem_separates : Separates Nesting.after endsItem .start ',' where
  cuts_iff nesting c := by
    obtain ⟨quote, depth⟩ := nesting
    simp [endsItem, Nesting.isOutermost, Nesting.start]
  steady := rfl
  blank text _ blank := Nesting.after_of_isPlain (Nesting.isQuote_of_mem_foldl text) (isPlain_of_isBlank blank)

section Scan

variable {σ : Type} {next : σ → Char → σ} {cuts : σ → Char → Bool} {start state : σ} {separator c : Char}
  {text left right gap : Text} {parts : List Text}

variable (next cuts) in
/-- Nowhere in the text does the scan cut. -/
def Uncut (state : σ) (text : Text) : Prop :=
  ∀ before c after, text = before ++ c :: after → cuts (before.foldl next state) c = false

theorem uncut_nil : Uncut next cuts state [] := by
  intro before c after empty
  simp at empty

theorem uncut_append : Uncut next cuts state (left ++ right) ↔
    Uncut next cuts state left ∧ Uncut next cuts (left.foldl next state) right := by
  constructor
  · refine fun uncut => ⟨fun before c after split => ?_, fun before c after split => ?_⟩
    · exact uncut before c (after ++ right) (by rw [split]; simp)
    · rw [← List.foldl_append]
      exact uncut (left ++ before) c after (by rw [split]; simp)
  · rintro ⟨one, other⟩ before c after split
    rcases List.append_eq_append_iff.mp split with ⟨later, rfl, rest⟩ | ⟨later, rfl, rest⟩
    · rw [List.foldl_append]
      exact other later c after rest
    · cases later with
      | nil =>
          simp only [List.append_nil, List.nil_append] at one other rest
          exact other [] c after rest.symm
      | cons d later =>
          obtain ⟨rfl, rfl⟩ := List.cons.inj rest
          exact one before c later rfl

theorem uncut_cons : Uncut next cuts state (c :: right) ↔ cuts state c = false ∧ Uncut next cuts (next state c) right := by
  rw [← List.singleton_append, uncut_append]
  refine and_congr_left' ⟨fun uncut => uncut [] c [] rfl, fun free before d after split => ?_⟩
  obtain ⟨rfl, rfl, rfl⟩ : before = [] ∧ c = d ∧ after = [] := by
    cases before with
    | nil => simpa [eq_comm] using split
    | cons => simp at split
  exact free

theorem segments_of_uncut (uncut : Uncut next cuts state text) : segments next cuts state text = [text] := by
  induction text generalizing state with
  | nil => rfl
  | cons c rest ih =>
      obtain ⟨free, further⟩ := uncut_cons.mp uncut
      rw [segments, if_neg (by simp [free]), ih further]

/-- The last segment grows by a character that is not cut at. -/
theorem exists_last_segment (free : ∀ state, cuts state c = false) (state : σ) (text : Text) :
    ∃ others last, segments next cuts state text = others ++ [last] ∧
      segments next cuts state (text ++ [c]) = others ++ [last ++ [c]] := by
  induction text generalizing state with
  | nil => exact ⟨[], [], rfl, by simp [segments, free]⟩
  | cons d rest ih =>
      cases cut : cuts state d with
      | true =>
          obtain ⟨others, last, whole, longer⟩ := ih state
          exact ⟨[] :: others, last, by simp [segments, cut, whole], by simp [segments, cut, longer]⟩
      | false =>
          obtain ⟨others, last, whole, longer⟩ := ih (next state d)
          cases others with
          | nil => exact ⟨[], d :: last, by simp [segments, cut, whole], by simp [segments, cut, longer]⟩
          | cons first others =>
              exact ⟨(d :: first) :: others, last, by simp [segments, cut, whole], by simp [segments, cut, longer]⟩

variable (next cuts start) in
/-- Parts without a cut, each of which leaves the scan at its start if another one follows. -/
structure Parted (parts : List Text) : Prop where
  uncut : ∀ part ∈ parts, Uncut next cuts start part
  closed : parts.Pairwise fun part _ => part.foldl next start = start

theorem Parted.cons {part : Text} (uncut : Uncut next cuts start part)
    (closed : parts ≠ [] → part.foldl next start = start) (parted : Parted next cuts start parts) :
    Parted next cuts start (part :: parts) where
  uncut := List.forall_mem_cons.mpr ⟨uncut, parted.uncut⟩
  closed := by
    refine List.pairwise_cons.mpr ⟨fun other member => closed ?_, parted.closed⟩
    exact List.ne_nil_of_mem member

theorem Parted.closed_of_append_cons {before after : List Text} {part : Text}
    (parted : Parted next cuts start (before ++ part :: after)) (further : after ≠ []) :
    part.foldl next start = start := by
  obtain ⟨other, member⟩ := List.exists_mem_of_ne_nil after further
  exact (List.pairwise_cons.mp (List.pairwise_append.mp parted.closed).2.1).1 other member

variable (next start separator) in
/-- The state of the scan behind these parts, with a separator behind each. -/
def stateBehind (parts : List Text) : σ :=
  (parts.flatMap fun part => part ++ [separator]).foldl next start

variable (separates : Separates next cuts start separator)
include separates

namespace Separates

theorem cut : cuts start separator = true :=
  (separates.cuts_iff start separator).mpr ⟨rfl, rfl⟩

/-- A text without the separator has no cut. -/
theorem uncut_of_not_mem (free : separator ∉ text) : Uncut next cuts state text := by
  rintro before c after rfl
  rw [← Bool.not_eq_true, separates.cuts_iff]
  rintro ⟨_, rfl⟩
  exact free (List.mem_append_right _ (List.mem_cons_self ..))

/-- A text with a cut is cut there. -/
theorem segments_append (closed : left.foldl next state = start) :
    segments next cuts state (left ++ separator :: right) =
      segments next cuts state left ++ segments next cuts start right := by
  induction left generalizing state with
  | nil =>
      obtain rfl : state = start := closed
      simp [segments, separates.cut]
  | cons c rest ih =>
      rw [List.cons_append, segments, segments]
      split
      · rename_i cut
        obtain ⟨rfl, rfl⟩ := (separates.cuts_iff state c).mp cut
        have still : rest.foldl next state = state := by
          simpa only [List.foldl_cons, separates.steady] using closed
        rw [ih still, List.cons_append]
      · rw [ih closed]
        cases tail : segments next cuts (next state c) rest with
        | nil => exact absurd tail (segments_ne_nil next cuts (next state c) rest)
        | cons => rfl

theorem parted_segments (text : Text) : Parted next cuts start (segments next cuts start text) := by
  suffices general : ∀ state, ∃ first others, segments next cuts state text = first :: others ∧
      Uncut next cuts state first ∧ (others ≠ [] → first.foldl next state = start) ∧
        Parted next cuts start others by
    obtain ⟨first, others, whole, uncut, closed, parted⟩ := general start
    rw [whole]
    exact parted.cons uncut closed
  intro state
  induction text generalizing state with
  | nil => exact ⟨[], [], rfl, uncut_nil, fun none => absurd rfl none, ⟨by simp, .nil⟩⟩
  | cons c rest ih =>
      cases cut : cuts state c with
      | true =>
          obtain ⟨rfl, rfl⟩ := (separates.cuts_iff state c).mp cut
          obtain ⟨first, others, whole, uncut, closed, parted⟩ := ih state
          exact ⟨[], first :: others, by simp [segments, cut, whole], uncut_nil, fun _ => rfl, parted.cons uncut closed⟩
      | false =>
          obtain ⟨first, others, whole, uncut, closed, parted⟩ := ih (next state c)
          exact ⟨c :: first, others, by simp [segments, cut, whole], uncut_cons.mpr ⟨cut, uncut⟩, closed, parted⟩

/-- Parts are cut where they were joined. -/
theorem segments_intercalate (parted : Parted next cuts start parts) (some' : parts ≠ []) :
    segments next cuts start ([separator].intercalate parts) = parts := by
  induction parts with
  | nil => exact absurd rfl some'
  | cons part parts ih =>
      have whole := segments_of_uncut (parted.uncut part (List.mem_cons_self ..))
      obtain ⟨first, later⟩ := List.pairwise_cons.mp parted.closed
      cases parts with
      | nil => rw [List.intercalate_singleton, whole]
      | cons other parts =>
          have rest : Parted next cuts start (other :: parts) :=
            ⟨fun part member => parted.uncut part (List.mem_cons_of_mem _ member), later⟩
          rw [List.intercalate_cons_cons, List.append_assoc, List.singleton_append,
            separates.segments_append (first other (List.mem_cons_self ..)), whole, ih rest (List.cons_ne_nil _ _)]
          rfl

theorem stateBehind_eq {before after : List Text} {part : Text}
    (parted : Parted next cuts start (before ++ part :: after)) : stateBehind next start separator before = start := by
  induction before with
  | nil => rfl
  | cons first before ih =>
      obtain ⟨closed, later⟩ := List.pairwise_cons.mp parted.closed
      have through : first.foldl next start = start := closed part (by simp)
      have rest := ih ⟨fun part member => parted.uncut part (List.mem_cons_of_mem _ member), later⟩
      rw [stateBehind] at rest ⊢
      rw [List.flatMap_cons, List.foldl_append, List.foldl_append, through, List.foldl_cons, separates.steady,
        List.foldl_nil, rest]

/-- A part stands behind a text that leaves the scan at its start, and before another part or the end. -/
theorem exists_place {part : Text} (parted : Parted next cuts start parts) (member : part ∈ parts) :
    ∃ left right, [separator].intercalate parts = left ++ (part ++ right) ∧ left.foldl next start = start ∧
      (part.foldl next start = start ∨ right = []) := by
  obtain ⟨before, after, rfl⟩ := List.append_of_mem member
  refine ⟨before.flatMap fun other => other ++ [separator], [separator].intercalate ([] :: after), ?_,
    separates.stateBehind_eq parted, ?_⟩
  · rw [intercalate_append_cons]
    cases after <;> simp
  · by_cases last : after = []
    · exact .inr (by rw [last, List.intercalate_singleton])
    · exact .inl (parted.closed_of_append_cons last)

theorem foldl_blanks (text : Text) (blank : ∀ c ∈ gap, isBlank c = true) :
    gap.foldl next (text.foldl next start) = text.foldl next start := by
  induction gap with
  | nil => rfl
  | cons c gap ih =>
      rw [List.foldl_cons, separates.blank text c (blank c (List.mem_cons_self ..))]
      exact ih fun d member => blank d (List.mem_cons_of_mem _ member)

theorem foldl_trim (text : Text) : (trim text).foldl next start = text.foldl next start := by
  obtain ⟨gap, trail, whole, before, after, _⟩ := exists_trim text
  have begun : gap.foldl next start = start := separates.foldl_blanks [] before
  rw [congrArg (List.foldl next start) whole, List.foldl_append, begun, List.foldl_append,
    separates.foldl_blanks _ after]

theorem uncut_trim (uncut : Uncut next cuts start text) : Uncut next cuts start (trim text) := by
  obtain ⟨gap, trail, whole, before, -⟩ := exists_trim text
  have begun : gap.foldl next start = start := separates.foldl_blanks [] before
  rw [whole, uncut_append, uncut_append, begun] at uncut
  exact uncut.2.1

theorem intercalate_segments (text : Text) : [separator].intercalate (segments next cuts start text) = text :=
  Script.intercalate_segments next cuts separator (fun state c cut => ((separates.cuts_iff state c).mp cut).2) start text

/-- A piece stands behind a text that leaves the scan at its start; if all of the text leads back to the start,
so does the piece. -/
theorem exists_place_of_mem_pieces {piece : Text} (member : piece ∈ pieces (segments next cuts start text)) :
    ∃ left right, text = left ++ (piece ++ right) ∧ left.foldl next start = start ∧
      (text.foldl next start = start → piece.foldl next start = start) := by
  obtain ⟨part, inside, rfl⟩ := List.mem_map.mp (List.mem_filter.mp member).1
  obtain ⟨left, right, whole, before, behind⟩ := separates.exists_place (separates.parted_segments text) inside
  rw [separates.intercalate_segments] at whole
  obtain ⟨gap, trail, split, blank, _⟩ := exists_trim part
  refine ⟨left ++ gap, trail ++ right, ?_, ?_, fun closed => ?_⟩
  · rw [whole, congrArg (· ++ right) split]
    simp
  · rw [List.foldl_append, before]
    exact separates.foldl_blanks [] blank
  · rw [separates.foldl_trim]
    rcases behind with through | rfl
    · exact through
    · rwa [whole, List.foldl_append, before, List.append_nil] at closed

theorem parted_pieces (parted : Parted next cuts start parts) : Parted next cuts start (pieces parts) where
  uncut piece member := by
    obtain ⟨part, present, rfl⟩ := List.mem_map.mp (List.mem_filter.mp member).1
    exact separates.uncut_trim (parted.uncut part present)
  closed := by
    refine List.Pairwise.filter _ (List.pairwise_map.mpr (parted.closed.imp fun closed => ?_))
    rwa [separates.foldl_trim]

end Separates

end Scan

/-- The token is not empty, and its ends are not blank. -/
structure Solid (token : Text) : Prop where
  some' : token ≠ []
  first : Ends isBlank token
  last : Ends isBlank token.reverse

theorem Solid.of_unblank {token : Text} (some' : token ≠ []) (unblank : ∀ c ∈ token, isBlank c = false) :
    Solid token where
  some' := some'
  first c member := unblank c (List.mem_of_mem_head? member)
  last c member := unblank c (List.mem_reverse.mp (List.mem_of_mem_head? member))

theorem solid_trim {text : Text} (some' : trim text ≠ []) : Solid (trim text) := by
  obtain ⟨_, _, _, _, _, first, last⟩ := exists_trim text
  exact ⟨some', first, last⟩

theorem Solid.trim_eq {token : Text} (solid : Solid token) : trim token = token :=
  trim_eq_self solid.first solid.last

theorem solid_of_mem_pieces {raw : List Text} {piece : Text} (member : piece ∈ pieces raw) : Solid piece := by
  obtain ⟨trimmed, _⟩ := List.mem_filter.mp member
  obtain ⟨part, _, rfl⟩ := List.mem_map.mp trimmed
  exact solid_trim (mem_pieces_ne_nil member)

theorem pieces_append (one other : List Text) : pieces (one ++ other) = pieces one ++ pieces other := by
  rw [pieces, List.map_append, List.filter_append]
  rfl

/-- Pieces have nothing left to trim. -/
theorem pieces_of_solid {parts : List Text} (solid : ∀ part ∈ parts, Solid part) : pieces parts = parts := by
  have trimmed : parts.map trim = parts := by
    rw [List.map_congr_left fun part member => (solid part member).trim_eq, List.map_id']
  rw [pieces, trimmed, List.filter_eq_self]
  intro part member
  simpa using (solid part member).some'

/-- Joined parts with nothing to trim are cut into themselves. -/
theorem Separates.pieces_intercalate {σ : Type} {next : σ → Char → σ} {cuts : σ → Char → Bool} {start : σ}
    {separator : Char} {parts : List Text} (separates : Separates next cuts start separator)
    (parted : Parted next cuts start parts) (solid : ∀ part ∈ parts, Solid part) :
    pieces (segments next cuts start ([separator].intercalate parts)) = parts := by
  by_cases none' : parts = []
  · rw [none']
    rfl
  · rw [separates.segments_intercalate parted none']
    exact pieces_of_solid solid

end Schemata.Script
