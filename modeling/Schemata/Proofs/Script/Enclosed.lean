import Schemata.Proofs.Script.Depth

/-!
Lists in parentheses and their items. What a pair of parentheses encloses is balanced, and so is every item that
it is cut into: a parenthesis of an item closes within the item, at the place where it closes in the whole
text. So an item can be read by itself.
-/

namespace Schemata.Script

open Text

variable {text item list : Text}

/-! ### Parentheses of a balanced text -/

/-- In a balanced text every parenthesis that opens outside a literal is closed. -/
theorem Balanced.exists_matchingParen {before after : Text} (balanced : Balanced (before ++ '(' :: after))
    (unquoted : Script.quoteAtEnd none before = none) :
    ∃ close < (before ++ '(' :: after).length, matchingParen (before ++ '(' :: after) before.length = some close := by
  obtain ⟨_, level, above⟩ := balanced_iff_depth.mp balanced
  have one : depth none ['('] = 1 := rfl
  rw [depth_append, unquoted, depth_cons, one] at level
  cases found : closing none 1 after with
  | none =>
      -- Nothing would close what opens, so the whole would open more than it closes.
      have inside := uncut_closesTooMany_iff.mp ((closing_eq_none_iff .start after).mp found)
      have begun := above before _ rfl
      have further : 0 ≤ ((0 : Nat) : Int) + depth none after := inside after [] (List.append_nil after).symm
      change _ + (1 + depth none after) = 0 at level
      omega
  | some close =>
      have whole : closing none 0 ('(' :: after) = some (close + 1) := by
        rw [closing, if_pos rfl]
        exact congrArg (Option.map (· + 1)) found
      refine ⟨before.length + (close + 1), ?_, ?_⟩
      · have inside := closing_lt whole
        rw [List.length_append]
        omega
      · rw [matchingParen, List.drop_left, whole]
        rfl

/-! ### Items -/

/-- The items of a balanced list are balanced. -/
theorem Balanced.of_mem_items (balanced : Balanced list) (member : item ∈ items list) : Balanced item := by
  obtain ⟨left, right, rfl, before, closed⟩ := endsItem_separates.exists_place_of_mem_pieces member
  obtain ⟨_, inside⟩ := uncut_append.mp balanced.inside
  rw [before] at inside
  exact ⟨(uncut_append.mp inside).1, closed balanced.closed⟩

/-- What stands round the parenthesis at a place and the one that closes it. -/
theorem exists_of_matchingParen {start close : Nat} (opens : text[start]? = some '(')
    (found : matchingParen text start = some close) :
    ∃ front body rest, text = front ++ '(' :: (body ++ ')' :: rest) ∧ front.length = start ∧
      start + 1 + body.length = close ∧ Balanced body := by
  obtain ⟨within, here⟩ := List.getElem?_eq_some_iff.mp opens
  obtain ⟨front, tail, rfl, rfl⟩ : ∃ front tail, text = front ++ '(' :: tail ∧ front.length = start := by
    refine ⟨text.take start, text.drop (start + 1), ?_, List.length_take_of_le (Nat.le_of_lt within)⟩
    rw [← here, ← List.drop_eq_getElem_cons, List.take_append_drop]
  rw [← Nat.add_zero front.length, matchingParen_append_left] at found
  obtain ⟨offset, matched, rfl⟩ := Option.map_eq_some_iff.mp found
  obtain ⟨body, rest, rfl, rfl, balanced⟩ := matchingParen_eq_some_iff.mp matched
  exact ⟨front, body, rest, rfl, rfl, by omega, balanced⟩

/-- Between a parenthesis and the one that closes it stands a balanced text. Each of its items stands in it on the
outermost level. An item closes its literals and its parentheses, and none that it has not opened; so what closes
a parenthesis of the item by itself closes it in the whole text. -/
theorem items_of_matchingParen {start close : Nat} (opens : text[start]? = some '(')
    (found : matchingParen text start = some close) :
    let body := (text.take close).drop (start + 1)
    Balanced body ∧ ∀ item ∈ items body,
      (quoteAtEnd none item = none ∧ depth none item = 0 ∧
        ∀ front rest, item = front ++ rest → 0 ≤ depth none front) ∧
      (∃ left right, body = left ++ (item ++ right) ∧ left.foldl Nesting.after .start = .start) ∧
      ∀ left right, body = left ++ (item ++ right) →
        ∀ before after, item = before ++ '(' :: after → quoteAtEnd none before = none →
          ∃ inner < item.length, matchingParen item before.length = some inner ∧
            matchingParen text (start + 1 + left.length + before.length) = some (start + 1 + left.length + inner) := by
  intro body
  obtain ⟨front, inside, rest, whole, rfl, closed, balanced⟩ := exists_of_matchingParen opens found
  have split : text = (front ++ ['(']) ++ (inside ++ ')' :: rest) := by rw [whole]; simp
  have length : (front ++ ['(']).length = front.length + 1 := List.length_append
  have same : body = inside := by
    simp only [body, split, ← closed, ← length, List.take_length_add_append, List.drop_left, List.take_left]
  rw [same]
  refine ⟨balanced, fun item member => ⟨?_, ?_, ?_⟩⟩
  · exact balanced_iff_depth.mp (balanced.of_mem_items member)
  · obtain ⟨left, right, place, level, _⟩ := endsItem_separates.exists_place_of_mem_pieces member
    exact ⟨left, right, place, level⟩
  · rintro left right place before after rfl unquoted
    obtain ⟨inner, within, matched⟩ := (balanced.of_mem_items member).exists_matchingParen unquoted
    refine ⟨inner, within, matched, ?_⟩
    have located : text = (front ++ ['('] ++ left) ++ ((before ++ '(' :: after) ++ (right ++ ')' :: rest)) := by
      rw [split, place]
      simp
    have length' : (front ++ ['('] ++ left).length = front.length + 1 + left.length := by
      rw [List.length_append, length]
    rw [located, ← length', matchingParen_append_left, matchingParen_append_right matched]
    rfl

/-- The first item has a literal with a parenthesis in it, and the second one parentheses within parentheses. -/
theorem items_of_matchingParen_literal :
    let text := "t (a SET(')'), CHECK (b > (c)))".toList
    text[2]? = some '(' ∧ matchingParen text 2 = some 30 ∧
      matchingParen text (2 + 1 + 12 + 6) = some (2 + 1 + 12 + 14) := by
  intro text
  have opens : text[2]? = some '(' := by decide
  have found : matchingParen text 2 = some 30 := by decide
  have member : "CHECK (b > (c))".toList ∈ items ((text.take 30).drop (2 + 1)) := by decide
  obtain ⟨_, each⟩ := items_of_matchingParen opens found
  obtain ⟨inner, _, here, whole⟩ := (each _ member).2.2 "a SET(')'), ".toList [] (by decide)
    "CHECK ".toList "b > (c))".toList (by decide) (by decide)
  have last : matchingParen "CHECK (b > (c))".toList 6 = some 14 := by decide
  obtain rfl : inner = 14 := Option.some.inj (here.symm.trans last)
  exact ⟨opens, found, whole⟩

end Schemata.Script
