import Schemata.Proofs.Script.Comments
import Schemata.Proofs.Script.Separated

/-!
The statements of scripts that are put together. Two scripts with a line end and a semicolon between them
have the statements of both, and statements that are joined with semicolons come apart again.
-/

namespace Schemata.Script

open Text

variable {left right : Text}

/-- A blank at the end of a text is not seen in its pieces. -/
theorem pieces_append_blank {σ : Type} {next : σ → Char → σ} {cuts : σ → Char → Bool} {c : Char}
    (blank : isBlank c = true) (free : ∀ state, cuts state c = false) (state : σ) (text : Text) :
    pieces (segments next cuts state (text ++ [c])) = pieces (segments next cuts state text) := by
  obtain ⟨others, last, whole, longer⟩ := exists_last_segment free state text
  have trimmed : trim (last ++ [c]) = trim last := by
    obtain ⟨gap, trail, split, before, after, first, ends⟩ := exists_trim last
    have after' : ∀ d ∈ trail ++ [c], isBlank d = true :=
      List.forall_mem_append.mpr ⟨after, by simpa using blank⟩
    rw [congrArg (· ++ [c]) split, List.append_assoc, List.append_assoc, trim_append before after' first ends]
  rw [whole, longer, pieces_append, pieces_append]
  simp [pieces, trimmed]

/-- The scan for comments stands outside literals and block comments. -/
def Mode.IsOutside (mode : Mode) : Prop :=
  mode = .code ∨ mode = .line

/-- A script that leaves no literal and no block comment open can be followed by another one, after a
line end and a semicolon. -/
theorem statements_append (outside : (modeAfter .code left).IsOutside) :
    statements (left ++ '\n' :: ';' :: right) = statements left ++ statements right := by
  have lineEnd : isBlank '\n' = true := by decide
  have stripped : stripComments (left ++ '\n' :: ';' :: right) =
      (stripComments left ++ ['\n']) ++ ';' :: stripComments right := by
    have rest : withoutComments (modeAfter .code left) ('\n' :: ';' :: right) =
        '\n' :: ';' :: withoutComments .code right := by
      rcases outside with mode | mode <;> rw [mode] <;> rfl
    rw [stripComments, withoutComments_append (by simp), rest]
    simp [stripComments]
  have closed : (stripComments left ++ ['\n']).foldl quoteAfter none = none := by
    have same := quoteAtEnd_withoutComments .code left
    have open' : (modeAfter .code left).openQuote = none := by
      rcases outside with mode | mode <;> rw [mode] <;> rfl
    rw [open'] at same
    rw [List.foldl_append, show (stripComments left).foldl quoteAfter none = none from same]
    rfl
  rw [statements, stripped, statementSegments, endsStatement_separates.segments_append closed, pieces_append,
    pieces_append_blank lineEnd fun _ => by simp [endsStatement]]
  rfl

/-- The first script ends in a line comment with a quote in it. -/
theorem statements_append_remark :
    (modeAfter .code "a 'x;y' /*;*/ -- it's".toList).IsOutside ∧
      statements ("a 'x;y' /*;*/ -- it's".toList ++ '\n' :: ';' :: "b;; c".toList) =
        ["a 'x;y'".toList, "b".toList, "c".toList] := by
  have outside : (modeAfter .code "a 'x;y' /*;*/ -- it's".toList).IsOutside := .inr (by decide)
  refine ⟨outside, (statements_append outside).trans ?_⟩
  decide

/-! ### Joined statements -/

/-- A text that a script can hold as one statement. -/
structure IsStatement (text : Text) : Prop where
  solid : Solid text
  uncut : Uncut quoteAfter endsStatement none text
  plain : ¬ HasComment text

/-- Statements of one script: each closes its literals if another one follows. -/
structure AreStatements (texts : List Text) : Prop where
  each : ∀ text ∈ texts, IsStatement text
  closed : texts.Pairwise fun text _ => quoteAtEnd none text = none

theorem AreStatements.parted {texts : List Text} (are : AreStatements texts) :
    Parted quoteAfter endsStatement none texts where
  uncut text member := (are.each text member).uncut
  closed := are.closed

/-- Statements have a comment mark between them exactly if one of them has. -/
theorem hasComment_intercalate {texts : List Text} (closed : texts.Pairwise fun text _ => quoteAtEnd none text = none) :
    HasComment ([';'].intercalate texts) ↔ ∃ text ∈ texts, HasComment text := by
  induction texts with
  | nil => simp [HasComment, BeginsComment]
  | cons text texts ih =>
      obtain ⟨first, later⟩ := List.pairwise_cons.mp closed
      cases texts with
      | nil => simp
      | cons next texts =>
          rw [List.intercalate_cons_cons, List.append_assoc, List.singleton_append,
            hasComment_append_cons (by decide) (by decide) (first next (List.mem_cons_self ..)), ih later]
          simp

theorem HasComment.of_trim {text : Text} (has : HasComment (trim text)) : HasComment text := by
  obtain ⟨gap, trail, split, before, -⟩ := exists_trim text
  have closed : quoteAtEnd none gap = none := endsStatement_separates.foldl_blanks [] before
  rw [split]
  exact (has.append_right trail).append_left closed

/-- What a script is cut into can be joined again. -/
theorem areStatements_statements (script : Text) : AreStatements (statements script) := by
  have parted : Parted quoteAfter endsStatement none (statementSegments (stripComments script)) :=
    endsStatement_separates.parted_segments _
  have whole := endsStatement_separates.parted_pieces parted
  refine ⟨fun text member => ⟨solid_of_mem_pieces member, whole.uncut text member, fun has => ?_⟩, whole.closed⟩
  obtain ⟨segment, inside, rfl⟩ := List.mem_map.mp (List.mem_filter.mp member).1
  refine not_hasComment_stripComments script ?_
  have joined : [';'].intercalate (statementSegments (stripComments script)) = stripComments script :=
    endsStatement_separates.intercalate_segments _
  rw [← joined, hasComment_intercalate parted.closed]
  exact ⟨segment, inside, has.of_trim⟩

/-- Joined statements come apart again. -/
theorem statements_intercalate {texts : List Text} (are : AreStatements texts) :
    statements ([';'].intercalate texts) = texts := by
  have plain : ¬ HasComment ([';'].intercalate texts) := by
    rw [hasComment_intercalate are.closed]
    rintro ⟨text, member, has⟩
    exact (are.each text member).plain has
  rw [statements, stripComments_eq_self_iff.mpr plain, statementSegments]
  exact endsStatement_separates.pieces_intercalate are.parted fun text member => (are.each text member).solid

/-! ### Statements with a part put in -/

variable {definition tail : Text}

/-- A statement stays one if a part is put into it, outside literals, that could be a statement itself. -/
theorem IsStatement.insert (is : IsStatement (left ++ ')' :: tail)) (closed : quoteAtEnd none left = none)
    (solid : Solid (left ++ ',' :: ' ' :: (definition ++ ')' :: tail)))
    (uncut : Uncut quoteAfter endsStatement none definition) (plain : ¬ HasComment definition)
    (closed' : quoteAtEnd none definition = none) :
    IsStatement (left ++ ',' :: ' ' :: (definition ++ ')' :: tail)) where
  solid := solid
  uncut := by
    obtain ⟨before, after⟩ := uncut_append.mp is.uncut
    rw [show left.foldl quoteAfter none = none from closed] at after
    refine uncut_append.mpr ⟨before, ?_⟩
    rw [show left.foldl quoteAfter none = none from closed]
    refine uncut_cons.mpr ⟨rfl, uncut_cons.mpr ⟨rfl, uncut_append.mpr ⟨uncut, ?_⟩⟩⟩
    rw [show definition.foldl quoteAfter (quoteAfter (quoteAfter none ',') ' ') = none from closed']
    exact after
  plain := by
    have apart := is.plain
    rw [hasComment_append_cons (by decide) (by decide) closed, not_or] at apart
    rw [hasComment_append_cons (by decide) (by decide) closed, ← List.nil_append (' ' :: _),
      hasComment_append_cons (by decide) (by decide) rfl, hasComment_append_cons (by decide) (by decide) closed']
    have empty : ¬ HasComment [] := by simp [HasComment, BeginsComment]
    exact not_or.mpr ⟨apart.1, not_or.mpr ⟨empty, not_or.mpr ⟨plain, apart.2⟩⟩⟩

theorem quoteAtEnd_insert (closed : quoteAtEnd none left = none) (closed' : quoteAtEnd none definition = none) :
    quoteAtEnd none (left ++ ',' :: ' ' :: (definition ++ ')' :: tail)) = quoteAtEnd none (left ++ ')' :: tail) := by
  have inside : quoteAtEnd none (',' :: ' ' :: (definition ++ ')' :: tail)) = quoteAtEnd none (')' :: tail) := by
    have unquoted : quoteAfter (quoteAfter none ',') ' ' = none := rfl
    rw [quoteAtEnd_cons, quoteAtEnd_cons, unquoted, quoteAtEnd_append, closed']
  rw [quoteAtEnd_append, quoteAtEnd_append, closed, inside]

theorem AreStatements.sublist {texts fewer : List Text} (are : AreStatements texts) (sub : fewer.Sublist texts) :
    AreStatements fewer :=
  ⟨fun text member => are.each text (sub.subset member), are.closed.sublist sub⟩

/-- One statement may stand for another one that leaves the same literal open. -/
theorem AreStatements.replace {before after : List Text} {text other : Text}
    (are : AreStatements (before ++ text :: after)) (is : IsStatement other)
    (same : quoteAtEnd none other = quoteAtEnd none text) : AreStatements (before ++ other :: after) := by
  obtain ⟨first, further, across⟩ := List.pairwise_append.mp are.closed
  obtain ⟨here, later⟩ := List.pairwise_cons.mp further
  refine ⟨fun part member => ?_, List.pairwise_append.mpr ⟨first, List.pairwise_cons.mpr ⟨?_, later⟩, ?_⟩⟩
  · rcases List.mem_append.mp member with inside | inside
    · exact are.each part (List.mem_append_left _ inside)
    · rcases List.mem_cons.mp inside with rfl | inside
      · exact is
      · exact are.each part (List.mem_append_right _ (List.mem_cons_of_mem _ inside))
  · rwa [same]
  · intro part inside _ _
    exact across part inside text (List.mem_cons_self ..)

end Schemata.Script
