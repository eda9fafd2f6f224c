import Schemata.Proofs.Script.Balanced

/-!
Texts without literals in which every parenthesis that opens is closed. Such a text is balanced, so it does
not move the end of what encloses it, and as an item of a list it is not cut.
-/

namespace Schemata.Script

open Text

/-- From the given depth on, the parentheses of the text lead to the outermost level and never below it.
There is no quote, and `commas` tells whether a comma may stand on that level. -/
def nests (commas : Bool) : Nat → Text → Bool
  | depth, [] => depth == 0
  | depth, c :: rest =>
      if isQuote c then false
      else if c = '(' then nests commas (depth + 1) rest
      else if c = ')' then 0 < depth && nests commas (depth - 1) rest
      else if c = ',' then (commas || 0 < depth) && nests commas depth rest
      else nests commas depth rest

variable {commas : Bool} {depth : Nat} {text inner rest : Text}

theorem nests_append_congr {one other : Text} (same : ∀ depth, nests commas depth one = nests commas depth other)
    (depth : Nat) (text : Text) : nests commas depth (text ++ one) = nests commas depth (text ++ other) := by
  induction text generalizing depth with
  | nil => exact same depth
  | cons c text ih => simp only [List.cons_append, nests, ih]

/-- The text leaves a scan where it is. -/
def IsLevel (text : Text) : Prop :=
  ∀ commas depth rest, nests commas depth (text ++ rest) = nests commas depth rest

/-- The text leaves a scan where it is, if commas may stand there. -/
def IsInner (text : Text) : Prop :=
  ∀ commas depth rest, (commas = true ∨ 0 < depth) → nests commas depth (text ++ rest) = nests commas depth rest

theorem IsLevel.isInner (level : IsLevel text) : IsInner text :=
  fun commas depth rest _ => level commas depth rest

theorem isLevel_nil : IsLevel [] := fun _ _ _ => rfl

theorem isLevel_of_isPlain (plain : ∀ c ∈ text, isPlain c = true) : IsLevel text := by
  intro commas depth rest
  induction text with
  | nil => rfl
  | cons c text ih =>
      have here := plain c (List.mem_cons_self ..)
      simp only [isPlain, Bool.and_eq_true, Bool.not_eq_true', bne_iff_ne, ne_eq] at here
      obtain ⟨⟨⟨quote, opening⟩, closing⟩, comma⟩ := here
      rw [List.cons_append, nests, quote, if_neg opening, if_neg closing, if_neg comma]
      exact ih fun d member => plain d (List.mem_cons_of_mem _ member)

theorem IsLevel.append {one other : Text} (level : IsLevel one) (level' : IsLevel other) :
    IsLevel (one ++ other) := by
  intro commas depth rest
  rw [List.append_assoc, level, level']

theorem IsInner.append {one other : Text} (inner : IsInner one) (inner' : IsInner other) :
    IsInner (one ++ other) := by
  intro commas depth rest allowed
  rw [List.append_assoc, inner _ _ _ allowed, inner' _ _ _ allowed]

theorem isInner_comma : IsInner [','] := by
  intro commas depth rest allowed
  have here : (commas || decide (0 < depth)) = true := by
    rcases allowed with rfl | deep
    · rfl
    · simp [deep]
  simp [nests, isQuote, here]

theorem isInner_of_isPlain (plain : ∀ c ∈ text, isPlain c = true ∨ c = ',') : IsInner text := by
  induction text with
  | nil => exact isLevel_nil.isInner
  | cons c text ih =>
      have here : IsInner [c] := by
        rcases plain c (List.mem_cons_self ..) with plain | rfl
        · exact (isLevel_of_isPlain (by simpa using plain)).isInner
        · exact isInner_comma
      exact here.append (ih fun d member => plain d (List.mem_cons_of_mem _ member))

theorem IsInner.isLevel (inside : IsInner inner) : IsLevel ('(' :: inner ++ [')']) := by
  intro commas depth rest
  have enclosed : nests commas (depth + 1) (inner ++ ')' :: rest) = nests commas depth rest := by
    rw [inside _ _ _ (.inr (Nat.succ_pos depth))]
    simp [nests, isQuote]
  rw [List.append_assoc, List.cons_append, nests, if_neg (by decide), if_pos rfl]
  exact enclosed

theorem IsLevel.nests (level : IsLevel text) (commas : Bool) : nests commas 0 text = true := by
  have whole := level commas 0 []
  rwa [List.append_nil] at whole

theorem IsInner.nests (inner : IsInner text) : Script.nests true 0 text = true := by
  have whole := inner true 0 [] (.inl rfl)
  rwa [List.append_nil] at whole

/-! ### Scans of nested texts -/

/-- The count keeps step with a scan, which closes nothing that is not open and cuts only at commas. -/
theorem nests_step {c : Char} (nested : Script.nests commas depth (c :: rest) = true) :
    ∃ deeper, Nesting.after ⟨none, depth⟩ c = ⟨none, deeper⟩ ∧ Script.nests commas deeper rest = true ∧
      isQuote c = false ∧ closesTooMany ⟨none, depth⟩ c = false ∧
      (commas = false → endsItem ⟨none, depth⟩ c = false) := by
  rw [Script.nests] at nested
  cases unquoted : isQuote c with
  | true =>
      rw [unquoted] at nested
      cases nested
  | false =>
      rw [unquoted, if_neg Bool.false_ne_true] at nested
      have quote : quoteAfter none c = none := by simp [quoteAfter, unquoted]
      by_cases opening : c = '('
      · subst opening
        exact ⟨depth + 1, rfl, nested, rfl, by simp [closesTooMany], fun _ => by simp [endsItem]⟩
      · rw [if_neg opening] at nested
        by_cases closes : c = ')'
        · subst closes
          obtain ⟨deep, nested⟩ := Bool.and_eq_true_iff.mp nested
          have inside : depth ≠ 0 := Nat.ne_of_gt (of_decide_eq_true deep)
          exact ⟨depth - 1, rfl, nested, rfl, by simp [closesTooMany, Nesting.isOutermost, inside],
            fun _ => by simp [endsItem]⟩
        · have same : Nesting.after ⟨none, depth⟩ c = ⟨none, depth⟩ := by
            simp [Nesting.after, quote, opening, closes]
          have open' : closesTooMany ⟨none, depth⟩ c = false := by simp [closesTooMany, closes]
          rw [if_neg closes] at nested
          by_cases comma : c = ','
          · rw [if_pos comma] at nested
            obtain ⟨allowed, nested⟩ := Bool.and_eq_true_iff.mp nested
            refine ⟨depth, same, nested, rfl, open', fun none' => ?_⟩
            rw [none', Bool.false_or, decide_eq_true_eq] at allowed
            simp [endsItem, Nesting.isOutermost, Nat.ne_of_gt allowed]
          · rw [if_neg comma] at nested
            exact ⟨depth, same, nested, rfl, open', fun _ => by simp [endsItem, comma]⟩

theorem not_isQuote_of_nests (nested : nests commas depth text = true) : ∀ c ∈ text, isQuote c = false := by
  induction text generalizing depth with
  | nil => exact List.forall_mem_nil _
  | cons c text ih =>
      obtain ⟨_, _, further, unquoted, _⟩ := nests_step nested
      exact List.forall_mem_cons.mpr ⟨unquoted, ih further⟩

theorem balanced_of_nests (nested : nests commas 0 text = true) : Balanced text := by
  suffices general : ∀ depth, Script.nests commas depth text = true →
      Uncut Nesting.after closesTooMany ⟨none, depth⟩ text ∧ text.foldl Nesting.after ⟨none, depth⟩ = .start from
    ⟨(general 0 nested).1, (general 0 nested).2⟩
  clear nested
  induction text with
  | nil =>
      intro depth nested
      obtain rfl : depth = 0 := by simpa [Script.nests] using nested
      exact ⟨uncut_nil, rfl⟩
  | cons c text ih =>
      intro depth nested
      obtain ⟨deeper, state, further, _, open', _⟩ := nests_step nested
      obtain ⟨inside, closed⟩ := ih deeper further
      rw [← state] at inside closed
      exact ⟨uncut_cons.mpr ⟨open', inside⟩, closed⟩

/-! ### Items -/

/-- A scan for items goes through a nested text without a cut. -/
theorem uncut_of_nests (nested : Script.nests false depth text = true) :
    Uncut Nesting.after endsItem ⟨none, depth⟩ text := by
  induction text generalizing depth with
  | nil => exact uncut_nil
  | cons c text ih =>
      obtain ⟨deeper, state, further, _, _, free⟩ := nests_step nested
      refine uncut_cons.mpr ⟨free rfl, ?_⟩
      rw [state]
      exact ih further

variable {item : Text}

theorem itemSegments_of_nests (nested : Script.nests false 0 item = true) : itemSegments item = [item] :=
  segments_of_uncut (uncut_of_nests nested)

theorem itemSegments_cons (nested : Script.nests false 0 item = true) (rest : Text) :
    itemSegments (item ++ ',' :: rest) = item :: itemSegments rest := by
  have whole := itemSegments_of_nests nested
  rw [itemSegments] at whole ⊢
  rw [endsItem_separates.segments_append (balanced_of_nests nested).closed, whole]
  rfl

theorem items_of_nests (nested : Script.nests false 0 item = true) (some' : trim item ≠ []) :
    items item = [trim item] := by
  rw [items, itemSegments_of_nests nested, pieces, List.map_singleton, List.filter_cons_of_pos]
  · rfl
  · simpa using some'

theorem items_cons (nested : Script.nests false 0 item = true) (some' : trim item ≠ []) (rest : Text) :
    items (item ++ ',' :: rest) = trim item :: items rest := by
  rw [items, itemSegments_cons nested, pieces, List.map_cons, List.filter_cons_of_pos]
  · rfl
  · simpa using some'

end Schemata.Script
