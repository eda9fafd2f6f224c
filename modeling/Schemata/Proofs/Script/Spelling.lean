import Schemata.Proofs.Script.Nested

/-!
Tokens with white space between them. What a text spells tells how it can be trimmed, cut at its commas
and taken out of its parentheses.
-/

namespace Schemata.Script

open Text

/-- Tokens next to which white space may be missing. -/
def marks : List Text := [['('], [')'], [',']]

theorem mem_marks {token : Text} : token ∈ marks ↔ token = ['('] ∨ token = [')'] ∨ token = [','] := by
  simp [marks]

/-- The text is made of these tokens, with white space between them and possibly after the last one. -/
inductive Spells : List Text → Text → Prop
  | nil : Spells [] []
  | cons {token gap rest : Text} {tokens : List Text} (blank : ∀ c ∈ gap, isBlank c = true)
      (apart : gap = [] → token ∈ marks ∨ ∀ following ∈ tokens.head?, following ∈ marks)
      (further : Spells tokens rest) : Spells (token :: tokens) (token ++ (gap ++ rest))

/-- What may stand behind a word: nothing, a blank or a mark. -/
def IsApart (rest : Text) : Prop :=
  ∀ c ∈ rest.head?, isBlank c = true ∨ [c] ∈ marks

variable {tokens one other : List Text} {token text gap rest : Text}

theorem IsApart.ends (apart : IsApart rest) {accepted : Char → Bool} (blanks : ∀ c, isBlank c = true → accepted c = false)
    (others : ∀ mark ∈ marks, ∀ c ∈ mark, accepted c = false) : Ends accepted rest := by
  intro c member
  rcases apart c member with blank | mark
  · exact blanks c blank
  · exact others [c] mark c (List.mem_cons_self ..)

theorem isApart_gap (blank : ∀ c ∈ gap, isBlank c = true) (some' : gap ≠ []) (rest : Text) : IsApart (gap ++ rest) := by
  obtain ⟨c, more, rfl⟩ := List.exists_cons_of_ne_nil some'
  intro d member
  cases member
  exact .inl (blank c (List.mem_cons_self ..))

namespace Spells

theorem singleton (token : Text) : Spells [token] token := by
  have whole : Spells [token] (token ++ ([] ++ [])) := .cons (List.forall_mem_nil _) (fun _ => .inr (by simp)) .nil
  rwa [List.append_nil, List.append_nil] at whole

/-- Tokens may have a space between them each. -/
theorem of_spaces : (tokens : List Text) → Spells tokens ([' '].intercalate tokens)
  | [] => .nil
  | [token] => by
      rw [List.intercalate_singleton]
      exact singleton token
  | token :: next :: tokens => by
      rw [List.intercalate_cons_cons, List.append_assoc]
      exact .cons (by decide) (fun missing => absurd missing (List.cons_ne_nil _ _)) (of_spaces (next :: tokens))

/-- Behind a token that is no mark there is nothing, a blank or a mark. -/
theorem uncons (spelled : Spells (token :: tokens) text) :
    ∃ gap rest, text = token ++ (gap ++ rest) ∧ (∀ c ∈ gap, isBlank c = true) ∧ Spells tokens rest ∧
      (token ∉ marks → IsApart (gap ++ rest)) ∧
      (token ∉ marks → (∃ following ∈ tokens.head?, following ∉ marks) → gap ≠ []) := by
  cases spelled with
  | @cons _ gap rest _ blank apart further =>
      refine ⟨gap, rest, rfl, blank, further, fun word c member => ?_, fun word following missing => ?_⟩
      · cases gap with
        | cons =>
            cases member
            exact .inl (blank c (List.mem_cons_self ..))
        | nil =>
            cases further with
            | nil => cases member
            | cons _ _ _ =>
                rcases mem_marks.mp ((apart rfl).resolve_left word _ rfl) with rfl | rfl | rfl <;>
                  · cases member
                    exact .inr (by decide)
      · obtain ⟨next, head, other⟩ := following
        exact other ((apart missing).resolve_left word next head)

theorem ends (spelled : Spells tokens text) (solid : ∀ token ∈ tokens, Solid token) : Ends isBlank text := by
  cases spelled with
  | nil =>
      intro c member
      cases member
  | @cons token gap rest _ _ _ _ =>
      obtain ⟨some', first, _⟩ := solid token (List.mem_cons_self ..)
      obtain ⟨c, more, rfl⟩ := List.exists_cons_of_ne_nil some'
      exact first

theorem split (spelled : Spells (one ++ other) text) :
    ∃ left right, text = left ++ right ∧ Spells one left ∧ Spells other right := by
  induction one generalizing text with
  | nil => exact ⟨[], text, rfl, .nil, spelled⟩
  | cons token one ih =>
      cases spelled with
      | @cons _ gap rest _ blank apart further =>
          obtain ⟨left, right, rfl, begun, ended⟩ := ih further
          refine ⟨token ++ (gap ++ left), right, by simp, .cons blank (fun missing => ?_) begun, ended⟩
          refine (apart missing).imp_right fun marked following head => marked following ?_
          cases one with
          | nil => cases head
          | cons => exact head

theorem ne_nil (spelled : Spells (token :: tokens) text) (solid : Solid token) : text ≠ [] := by
  cases spelled with
  | cons => exact fun empty => solid.some' (List.append_eq_nil_iff.mp empty).1

/-- A text without the blanks at its end spells the same. -/
theorem exists_core (spelled : Spells tokens text) (solid : ∀ token ∈ tokens, Solid token) :
    ∃ core gap, text = core ++ gap ∧ (∀ c ∈ gap, isBlank c = true) ∧ Spells tokens core ∧
      Ends isBlank core.reverse := by
  induction spelled with
  | nil => exact ⟨[], [], rfl, by simp, .nil, fun c member => by cases member⟩
  | @cons token gap rest tokens blank apart further ih =>
      obtain ⟨core, trail, rfl, blanks, spelled, last⟩ :=
        ih fun token member => solid token (List.mem_cons_of_mem _ member)
      cases tokens with
      | nil =>
          cases spelled
          exact ⟨token, gap ++ trail, by simp, List.forall_mem_append.mpr ⟨blank, blanks⟩, singleton token,
            (solid token (List.mem_cons_self ..)).last⟩
      | cons next tokens =>
          refine ⟨token ++ (gap ++ core), trail, by simp, blanks, .cons blank apart spelled, ?_⟩
          have some' := spelled.ne_nil (solid next (by simp))
          rw [List.reverse_append, List.reverse_append, List.append_assoc]
          intro c member
          rw [List.head?_append_of_ne_nil _ (by simpa using some')] at member
          exact last c member

/-- Trimming a text does not change what it spells. -/
theorem trim (spelled : Spells tokens text) (solid : ∀ token ∈ tokens, Solid token)
    (blank : ∀ c ∈ gap, isBlank c = true) : Spells tokens (Text.trim (gap ++ text)) := by
  obtain ⟨core, trail, rfl, blanks, spelled, last⟩ := spelled.exists_core solid
  rw [trim_append blank blanks (spelled.ends solid) last]
  exact spelled

theorem trimmed (spelled : Spells tokens text) (solid : ∀ token ∈ tokens, Solid token) :
    Spells tokens (Text.trim text) := by
  have core := spelled.trim solid (List.forall_mem_nil _)
  rwa [List.nil_append] at core

theorem nests_append (spelled : Spells tokens text) (commas : Bool) (depth : Nat) (rest : Text) :
    nests commas depth (text ++ rest) = nests commas depth (tokens.flatten ++ rest) := by
  induction spelled generalizing depth with
  | nil => rfl
  | @cons token gap text tokens blank _ _ ih =>
      have level : IsLevel gap := isLevel_of_isPlain fun c member => isPlain_of_isBlank (blank c member)
      rw [List.append_assoc, List.append_assoc, List.flatten_cons, List.append_assoc]
      exact nests_append_congr (fun depth => (level commas depth _).trans (ih depth)) depth token

theorem isLevel (spelled : Spells tokens text) (level : IsLevel tokens.flatten) : IsLevel text := by
  intro commas depth rest
  rw [spelled.nests_append, level]

theorem isInner (spelled : Spells tokens text) (inner : IsInner tokens.flatten) : IsInner text := by
  intro commas depth rest allowed
  rw [spelled.nests_append, inner _ _ _ allowed]

/-- What stands in parentheses is what their tokens enclose. -/
theorem enclosed {after : List Text} (spelled : Spells (['('] :: tokens ++ [')'] :: after) text)
    (inner : IsInner tokens.flatten) :
    ∃ gap body gap' rest, Script.enclosed text = some (gap ++ body, gap' ++ rest) ∧
      (∀ c ∈ gap, isBlank c = true) ∧ (∀ c ∈ gap', isBlank c = true) ∧ Spells tokens body ∧
      Spells after rest := by
  obtain ⟨gap, rest, rfl, blank, spelled, _⟩ := spelled.uncons
  obtain ⟨body, right, rfl, inside, outside⟩ := spelled.split
  obtain ⟨gap', rest, rfl, blank', further, _⟩ := outside.uncons
  have level : IsLevel gap := isLevel_of_isPlain fun c member => isPlain_of_isBlank (blank c member)
  have nested := (level.isInner.append (inside.isInner inner)).nests
  refine ⟨gap, body, gap', rest, ?_, blank, blank', inside, further⟩
  rw [← enclosed_of_balanced (balanced_of_nests nested)]
  simp

end Spells

/-- The tokens can be told by their ends, and their parentheses match. -/
structure IsTidy (tokens : List Text) : Prop where
  solid : ∀ token ∈ tokens, Solid token
  level : IsLevel tokens.flatten

theorem isTidy_nil : IsTidy [] where
  solid := List.forall_mem_nil _
  level := isLevel_nil

theorem isTidy_singleton (solid : Solid token) (level : IsLevel token) : IsTidy [token] where
  solid := by simpa using solid
  level := by simpa using level

theorem IsTidy.append (tidy : IsTidy one) (tidy' : IsTidy other) : IsTidy (one ++ other) where
  solid := List.forall_mem_append.mpr ⟨tidy.solid, tidy'.solid⟩
  level := by
    rw [List.flatten_append]
    exact tidy.level.append tidy'.level

theorem IsTidy.cons (tidy : IsTidy [token]) (tidy' : IsTidy other) : IsTidy (token :: other) :=
  tidy.append tidy'

theorem solid_mark : ∀ mark ∈ marks, Solid mark := by
  have all : ∀ mark ∈ marks, mark ≠ [] ∧ ∀ c ∈ mark, isBlank c = false := by decide
  exact fun mark member => .of_unblank (all mark member).1 (all mark member).2

theorem isInner_intercalate {groups : List (List Text)} (level : ∀ group ∈ groups, IsLevel group.flatten) :
    IsInner ([[',']].intercalate groups).flatten := by
  induction groups with
  | nil => exact isLevel_nil.isInner
  | cons group groups ih =>
      have here := (level group (List.mem_cons_self ..)).isInner
      cases groups with
      | nil =>
          rw [List.intercalate_singleton]
          exact here
      | cons next groups =>
          rw [List.intercalate_cons_cons, List.flatten_append, List.flatten_append]
          refine (here.append isInner_comma).append ?_
          exact ih fun group member => level group (List.mem_cons_of_mem _ member)

/-- Groups of tokens in parentheses, with commas between them. -/
theorem isTidy_list {groups : List (List Text)} (tidy : ∀ group ∈ groups, IsTidy group) :
    IsTidy (['('] :: [[',']].intercalate groups ++ [[')']]) where
  solid := by
    rw [List.cons_append]
    refine List.forall_mem_cons.mpr ⟨solid_mark _ (by decide), List.forall_mem_append.mpr ⟨?_, ?_⟩⟩
    · refine forall_mem_intercalate ?_ fun group member => (tidy group member).solid
      simpa using solid_mark [','] (by decide)
    · simpa using solid_mark [')'] (by decide)
  level := by
    have inside := (isInner_intercalate fun group member => (tidy group member).level).isLevel
    simpa using inside

/-- Tokens that make up an item of a list. -/
structure IsItem (tokens : List Text) : Prop extends IsTidy tokens where
  some' : tokens ≠ []

theorem Spells.trim_ne_nil (spelled : Spells tokens text) (item : IsItem tokens)
    (blank : ∀ c ∈ gap, isBlank c = true) : Text.trim (gap ++ text) ≠ [] := by
  obtain ⟨token, more, rfl⟩ := List.exists_cons_of_ne_nil item.some'
  exact (spelled.trim item.solid blank).ne_nil (item.solid token (List.mem_cons_self ..))

theorem items_of_isBlank (blank : ∀ c ∈ gap, isBlank c = true) : items gap = [] := by
  have level : IsLevel gap := isLevel_of_isPlain fun c member => isPlain_of_isBlank (blank c member)
  have none : Text.trim gap = [] := by
    have whole := trim_append blank (List.forall_mem_nil _) ends_nil ends_nil
    rwa [List.append_nil, List.append_nil] at whole
  rw [items, itemSegments_of_nests (level.nests false), pieces, List.map_singleton, none]
  rfl

/-- A list is cut at the commas between its items. -/
theorem Spells.items {groups : List (List Text)} (whole : ∀ group ∈ groups, IsItem group)
    (spelled : Spells ([[',']].intercalate groups) text) (blank : ∀ c ∈ gap, isBlank c = true) :
    List.Forall₂ Spells groups (Script.items (gap ++ text)) := by
  -- White space behind a comma stands in front of the next item, so the gap is not fixed.
  induction groups generalizing gap text with
  | nil =>
      cases spelled
      rw [List.append_nil, items_of_isBlank blank]
      exact .nil
  | cons group groups ih =>
      have item := whole group (List.mem_cons_self ..)
      have level : IsLevel gap := isLevel_of_isPlain fun c member => isPlain_of_isBlank (blank c member)
      cases groups with
      | nil =>
          rw [List.intercalate_singleton] at spelled
          have nested := (level.append (spelled.isLevel item.level)).nests false
          rw [items_of_nests nested (spelled.trim_ne_nil item blank)]
          exact .cons (spelled.trim item.solid blank) .nil
      | cons next groups =>
          rw [List.intercalate_cons_cons, List.append_assoc] at spelled
          obtain ⟨left, right, rfl, begun, ended⟩ := spelled.split
          obtain ⟨gap', rest, rfl, blank', further, _⟩ := ended.uncons
          have nested := (level.append (begun.isLevel item.level)).nests false
          rw [← List.append_assoc, List.singleton_append, items_cons nested (begun.trim_ne_nil item blank)]
          refine .cons (begun.trim item.solid blank) ?_
          exact ih (fun group member => whole group (List.mem_cons_of_mem _ member)) further blank'

end Schemata.Script
