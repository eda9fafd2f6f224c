import Schemata.Proofs.Text.Folded
import Schemata.Script.Pieces

/-!
The pieces of a script. There are no more of them than characters, and as comments, literals,
parentheses and separators are made of characters without case, a folded script is cut where the script
itself is cut.
-/

namespace Schemata.Script

open Text

/-! ### Numbers of statements -/

theorem length_withoutComments_le (mode : Mode) (text : Text) :
    (withoutComments mode text).length ≤ text.length := by
  fun_induction withoutComments mode text <;> simp only [List.length_cons, List.length_nil] <;> omega

theorem length_segments_le {σ : Type} (next : σ → Char → σ) (cuts : σ → Char → Bool) (state : σ)
    (text : Text) : (segments next cuts state text).length ≤ text.length + 1 := by
  induction text generalizing state with
  | nil => exact Nat.le_refl 1
  | cons c rest ih =>
      unfold segments
      split
      · exact Nat.succ_le_succ (ih state)
      · have further := ih (next state c)
        split
        · exact Nat.succ_le_succ (Nat.zero_le _)
        · rename_i first others tail
          rw [tail] at further
          exact Nat.le_succ_of_le further

/-- A script has no more statements than characters, but for one. -/
theorem length_statements_le (script : Text) : (statements script).length ≤ script.length + 1 := by
  have kept : (statements script).length ≤ (statementSegments (stripComments script)).length := by
    rw [statements, pieces]
    exact Nat.le_trans (List.length_filter_le ..) (Nat.le_of_eq (List.length_map _))
  have cut := length_segments_le quoteAfter endsStatement none (stripComments script)
  have stripped := length_withoutComments_le .code script
  exact Nat.le_trans kept (Nat.le_trans cut (Nat.succ_le_succ stripped))

/-! ### Quotes -/

theorem isQuote_caseBlind : CaseBlind isQuote :=
  caseBlind_of_capitals (by decide)

theorem caseless_of_isQuote {c : Char} (quote : isQuote c = true) : Caseless c := by
  simp only [isQuote, Bool.or_eq_true, beq_iff_eq] at quote
  rcases quote with (rfl | rfl) | rfl <;> rfl

/-- The open quote of a scan, if there is one, has no case. -/
def IsSteady (quote : Option Char) : Prop :=
  ∀ c ∈ quote, Caseless c

theorem quoteAfter_folded {quote : Option Char} (steady : IsSteady quote) (c : Char) :
    quoteAfter quote c.toLower = quoteAfter quote c := by
  cases quote with
  | some q =>
      have caseless : Caseless q := steady q rfl
      simp only [quoteAfter, caseless.toLower_eq_iff]
  | none =>
      simp only [quoteAfter, isQuote_caseBlind c]
      split
      · rename_i quote
        rw [(caseless_of_isQuote quote).toLower_eq_iff.mpr rfl]
      · rfl

theorem quoteAfter_isSteady {quote : Option Char} (steady : IsSteady quote) (c : Char) :
    IsSteady (quoteAfter quote c) := by
  cases quote with
  | some q =>
      unfold quoteAfter
      dsimp only
      split
      · exact fun _ member => by cases member
      · exact steady
  | none =>
      unfold quoteAfter
      dsimp only
      split
      · rename_i quote
        intro d member
        cases member
        exact caseless_of_isQuote quote
      · exact fun _ member => by cases member

/-! ### Comments -/

theorem folded_eq_cons {text rest : Text} {c : Char} (caseless : Caseless c) :
    folded text = c :: rest ↔ ∃ after, text = c :: after ∧ folded after = rest := by
  cases text with
  | nil => simp
  | cons d after => simp [caseless.toLower_eq_iff, and_assoc]

def Mode.IsSteady : Mode → Prop
  | .literal quote => Caseless quote
  | _ => True

theorem withoutComments_folded {mode : Mode} (steady : mode.IsSteady) (text : Text) :
    withoutComments mode (folded text) = folded (withoutComments mode text) := by
  have dash : Caseless '-' := rfl
  have slash : Caseless '/' := rfl
  have star : Caseless '*' := rfl
  have newline : Caseless '\n' := rfl
  -- The marks of comments have no case, so each case of the function stays the same case for the folded text.
  fun_induction withoutComments mode text with
  | case1 mode => rw [folded_nil, withoutComments]
  | case2 quote c rest ih =>
      have caseless : Caseless quote := steady
      rw [folded_cons, withoutComments, folded_cons]
      simp only [caseless.toLower_eq_iff]
      rw [ih (by split; exacts [trivial, caseless])]
  | case3 rest ih => exact congrArg ('\n' :: ·) (ih trivial)
  | case4 c rest other ih =>
      rw [folded_cons, withoutComments, ih trivial]
      exact fun same => other (newline.toLower_eq_iff.mp same)
  | case5 rest ih => exact congrArg (' ' :: ·) (ih trivial)
  | case6 c rest other ih =>
      rw [folded_cons, withoutComments, ih trivial]
      intro after same next
      obtain ⟨later, rfl, _⟩ := (folded_eq_cons slash).mp next
      exact other later (star.toLower_eq_iff.mp same) rfl
  | case7 rest ih => exact ih trivial
  | case8 rest ih => exact ih trivial
  | case9 c rest line block ih =>
      rw [folded_cons, withoutComments, folded_cons]
      · rw [isQuote_caseBlind c]
        cases quote : isQuote c with
        | true =>
            have caseless := caseless_of_isQuote quote
            rw [quote] at ih
            rw [caseless.toLower_eq_iff.mpr rfl]
            exact congrArg (c :: ·) (ih caseless)
        | false =>
            rw [quote] at ih
            exact congrArg (c.toLower :: ·) (ih trivial)
      · intro after same next
        obtain ⟨later, rfl, _⟩ := (folded_eq_cons dash).mp next
        exact line later (dash.toLower_eq_iff.mp same) rfl
      · intro after same next
        obtain ⟨later, rfl, _⟩ := (folded_eq_cons star).mp next
        exact block later (slash.toLower_eq_iff.mp same) rfl

theorem stripComments_folded (text : Text) : stripComments (folded text) = folded (stripComments text) :=
  withoutComments_folded (show Mode.code.IsSteady from trivial) text

/-! ### Pieces -/

/-- A scan that does not see the case of letters cuts a folded text where it cuts the text. -/
theorem segments_folded {σ : Type} {next : σ → Char → σ} {cuts : σ → Char → Bool} (Steady : σ → Prop)
    (blind : ∀ state, Steady state → ∀ c, next state c.toLower = next state c)
    (keeps : ∀ state, Steady state → ∀ c, Steady (next state c))
    (same : ∀ state c, cuts state c.toLower = cuts state c) {state : σ} (steady : Steady state) (text : Text) :
    segments next cuts state (folded text) = (segments next cuts state text).map folded := by
  induction text generalizing state with
  | nil => rfl
  | cons c rest ih =>
      rw [folded_cons, segments, segments, same, blind state steady]
      split
      · rw [ih steady]
        rfl
      · rw [ih (keeps state steady c)]
        cases segments next cuts (next state c) rest <;> rfl

theorem pieces_folded (raw : List Text) : pieces (raw.map folded) = (pieces raw).map folded := by
  have filled : (fun piece : Text => !piece.isEmpty) ∘ folded = fun piece => !piece.isEmpty :=
    funext fun piece => congrArg (!·) (isEmpty_folded piece)
  rw [pieces, pieces, List.map_map, show trim ∘ folded = folded ∘ trim from funext trim_folded,
    ← List.map_map, List.filter_map, filled]

theorem endsStatement_folded (quote : Option Char) (c : Char) :
    endsStatement quote c.toLower = endsStatement quote c := by
  have semicolon : Caseless ';' := rfl
  rw [endsStatement, endsStatement, semicolon.toLower_beq]

/-- The statements of a folded script are those of the script, folded. -/
theorem statements_folded (script : Text) : statements (folded script) = (statements script).map folded := by
  rw [statements, stripComments_folded, statementSegments,
    segments_folded IsSteady (fun _ => quoteAfter_folded) (fun _ => quoteAfter_isSteady)
      endsStatement_folded (by intro _ member; cases member), pieces_folded]
  rfl

namespace Nesting

theorem after_folded {nesting : Nesting} (steady : IsSteady nesting.quote) (c : Char) :
    nesting.after c.toLower = nesting.after c := by
  have opening : Caseless '(' := rfl
  have closing : Caseless ')' := rfl
  simp only [after, quoteAfter_folded steady, opening.toLower_eq_iff, closing.toLower_eq_iff]

@[simp] theorem after_quote (nesting : Nesting) (c : Char) :
    (nesting.after c).quote = quoteAfter nesting.quote c := by
  unfold after
  dsimp only
  split
  · rfl
  · split
    · rfl
    · split <;> rfl

theorem after_isSteady {nesting : Nesting} (steady : IsSteady nesting.quote) (c : Char) :
    IsSteady (nesting.after c).quote := by
  rw [after_quote]
  exact quoteAfter_isSteady steady c

end Nesting

theorem endsItem_folded (nesting : Nesting) (c : Char) : endsItem nesting c.toLower = endsItem nesting c := by
  have comma : Caseless ',' := rfl
  rw [endsItem, endsItem, comma.toLower_beq]

theorem items_folded (body : Text) : items (folded body) = (items body).map folded := by
  rw [items, itemSegments,
    segments_folded (fun nesting => IsSteady nesting.quote) (fun _ => Nesting.after_folded)
      (fun _ => Nesting.after_isSteady) endsItem_folded (by intro _ member; cases member), pieces_folded]
  rfl

/-! ### Parentheses -/

theorem closing_folded {quote : Option Char} (steady : IsSteady quote) (depth : Int) (text : Text) :
    closing quote depth (folded text) = closing quote depth text := by
  have opening : Caseless '(' := rfl
  have ending : Caseless ')' := rfl
  induction text generalizing quote depth with
  | nil => rfl
  | cons c rest ih =>
      have next := ih (quoteAfter_isSteady steady c)
      cases quote with
      | some q =>
          have caseless : Caseless q := steady q rfl
          simp only [folded_cons, closing, caseless.toLower_eq_iff]
          exact congrArg (Option.map (· + 1)) (next depth)
      | none =>
          have quote : (if isQuote c.toLower then some c.toLower else none) = if isQuote c then some c else none :=
            quoteAfter_folded steady c
          simp only [folded_cons, closing, opening.toLower_eq_iff, ending.toLower_eq_iff, quote, ih steady]
          rw [show closing (if isQuote c then some c else none) depth (folded rest) = _ from next depth]
          rfl

theorem enclosed_folded (text : Text) : enclosed (folded text) =
    (enclosed text).map fun (inside, after) => (folded inside, folded after) := by
  have steady : IsSteady none := by intro _ member; cases member
  simp only [enclosed, matchingParen, drop_folded, closing_folded steady, Option.map_map]
  refine congrArg (Option.map · _) (funext fun close => ?_)
  simp only [Function.comp_apply, take_folded, drop_folded]

end Schemata.Script
