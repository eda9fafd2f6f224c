import Schemata.Proofs.Script.Statements

/-!
What a text is cut into. The segments make up the text with a separator between each two; they have no further
cut, and every separator between them is one. So nothing but separators, blanks round them and empty pieces is
lost, and the pieces are normal forms: each is cut into itself, and all of them, joined, are cut into
themselves again, whatever quotes and parentheses the text left open.
-/

namespace Schemata.Script

open Text

section Cuts

variable {σ : Type} (next : σ → Char → σ) (cuts : σ → Char → Bool) (start : σ) (separator : Char)

/-- The text is cut into these segments. The scan goes over the whole text from its beginning. -/
structure IsCutInto (text : Text) (segments : List Text) : Prop where
  joined : [separator].intercalate segments = text
  inside : ∀ before segment after, segments = before ++ segment :: after →
    Uncut next cuts (stateBehind next start separator before) segment
  between : ∀ before segment after, segments = before ++ segment :: after → after ≠ [] →
    cuts (segment.foldl next (stateBehind next start separator before)) separator = true

/-- What a way to cut gives for a text whose separators stand in `source`: trimmed segments that are not empty,
each of which is cut into itself, and so are all of them when they are joined. -/
structure CutsNormally (cut : Text → List Text) (source text : Text) : Prop where
  segments : ∃ segments, IsCutInto next cuts start separator source segments ∧
    cut text = (segments.map trim).filter (· ≠ [])
  each : ∀ piece ∈ cut text, cut piece = [piece]
  again : cut ([separator].intercalate (cut text)) = cut text

variable {next cuts start separator}

theorem Separates.isCutInto (separates : Separates next cuts start separator) (text : Text) :
    IsCutInto next cuts start separator text (segments next cuts start text) := by
  have parted := separates.parted_segments text
  refine ⟨separates.intercalate_segments text, fun before segment after split => ?_,
    fun before segment after split further => ?_⟩
  · rw [split] at parted
    rw [separates.stateBehind_eq parted]
    exact parted.uncut segment (by simp)
  · rw [split] at parted
    rw [separates.stateBehind_eq parted, parted.closed_of_append_cons further, separates.cut]

end Cuts

theorem pieces_eq_filter (raw : List Text) : pieces raw = (raw.map trim).filter (· ≠ []) := by
  rw [pieces]
  refine List.filter_congr fun piece _ => ?_
  cases piece <;> rfl

/-! ### Statements -/

theorem statements_of_mem {script statement : Text} (member : statement ∈ statements script) :
    statements statement = [statement] := by
  have one := (areStatements_statements script).sublist (List.singleton_sublist.mpr member)
  have joined := statements_intercalate one
  rwa [List.intercalate_singleton] at joined

/-! ### Items -/

theorem items_intercalate {parts : List Text} (parted : Parted Nesting.after endsItem .start parts)
    (solid : ∀ part ∈ parts, Solid part) : items ([','].intercalate parts) = parts :=
  endsItem_separates.pieces_intercalate parted solid

theorem parted_items (list : Text) : Parted Nesting.after endsItem .start (items list) :=
  endsItem_separates.parted_pieces (endsItem_separates.parted_segments list)

theorem items_of_mem {list item : Text} (member : item ∈ items list) : items item = [item] := by
  have one : Parted Nesting.after endsItem .start [item] :=
    ⟨by simpa using (parted_items list).uncut item member, List.pairwise_singleton _ _⟩
  have joined := items_intercalate one (by simpa using solid_of_mem_pieces member)
  rwa [List.intercalate_singleton] at joined

/-- A script is cut at the semicolons outside literals, once its comments are gone, and a list at the commas
outside literals and parentheses. Both lose nothing, and give normal forms. -/
theorem statements_items_cutNormally (text : Text) :
    CutsNormally quoteAfter endsStatement none ';' statements (stripComments text) text ∧
      CutsNormally Nesting.after endsItem .start ',' items text text := by
  constructor
  · refine ⟨⟨_, endsStatement_separates.isCutInto _, pieces_eq_filter _⟩, fun piece member => ?_, ?_⟩
    · exact statements_of_mem member
    · exact statements_intercalate (areStatements_statements text)
  · refine ⟨⟨_, endsItem_separates.isCutInto _, pieces_eq_filter _⟩, fun piece member => ?_, ?_⟩
    · exact items_of_mem member
    · exact items_intercalate (parted_items text) fun item member => solid_of_mem_pieces member

/-- A text with an empty piece, a parenthesis that closes none and a literal that is not closed. -/
theorem statements_items_cutNormally_open :
    let text := " a) ;; b, 'c;d, ".toList
    statements text = ["a)".toList, "b, 'c;d,".toList] ∧ statements "b, 'c;d,".toList = ["b, 'c;d,".toList] ∧
      items text = ["a) ;; b".toList, "'c;d,".toList] ∧ items "'c;d,".toList = ["'c;d,".toList] := by
  intro text
  have cut : statements text = ["a)".toList, "b, 'c;d,".toList] := by decide
  have cut' : items text = ["a) ;; b".toList, "'c;d,".toList] := by decide
  obtain ⟨script, list⟩ := statements_items_cutNormally text
  exact ⟨cut, script.each _ (by simp [cut]), cut', list.each _ (by simp [cut'])⟩

end Schemata.Script
