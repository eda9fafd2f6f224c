import Mathlib.Order.Bounds.Defs
import Schemata.Script.Nesting

/-!
The search for the parenthesis that closes. It counts what a text opens and closes outside its literals, one
character at a time; so it ends at the first `)` at which the text has closed all that it opened, and finds
nothing exactly if there is no such place. Neither what stands in front of the place where it begins nor what
stands behind the one where it ends has a part in it.
-/

namespace Schemata.Script

open Text

/-! ### Depth -/

/-- The characters of a text outside its literals, whose marks are not among them. -/
def outside : Option Char → Text → Text
  | _, [] => []
  | some q, c :: rest => outside (quoteAfter (some q) c) rest
  | none, c :: rest => if isQuote c then outside (some c) rest else c :: outside none rest

/-- How many more parentheses the text opens than it closes, outside its literals. -/
def depth (quote : Option Char) (text : Text) : Int :=
  (outside quote text).count '(' - (outside quote text).count ')'

theorem outside_append (quote : Option Char) (left right : Text) :
    outside quote (left ++ right) = outside quote left ++ outside (quoteAtEnd quote left) right := by
  induction left generalizing quote with
  | nil => cases quote <;> rfl
  | cons c left ih =>
      cases quote with
      | some q => exact ih _
      | none =>
          rw [List.cons_append, outside, outside, quoteAtEnd_cons, quoteAfter]
          cases isQuote c with
          | true => exact ih _
          | false => exact congrArg (c :: ·) (ih _)

theorem depth_nil (quote : Option Char) : depth quote [] = 0 := by
  cases quote <;> rfl

theorem depth_append (quote : Option Char) (left right : Text) :
    depth quote (left ++ right) = depth quote left + depth (quoteAtEnd quote left) right := by
  simp only [depth, outside_append, List.count_append]
  omega

theorem depth_cons (quote : Option Char) (c : Char) (rest : Text) :
    depth quote (c :: rest) = depth quote [c] + depth (quoteAfter quote c) rest :=
  depth_append quote [c] rest

theorem depth_quoted (q c : Char) : depth (some q) [c] = 0 := by
  simp [depth, outside]

theorem depth_of_ne {c : Char} (opens : c ≠ '(') (closes : c ≠ ')') : depth none [c] = 0 := by
  rw [depth, outside]
  cases isQuote c <;> simp [outside, opens, closes]

/-! ### The search -/

variable {quote : Option Char} {level : Int} {text rest : Text} {c : Char} {offset : Nat}

/-- The search ends at the `)` that closes the last open parenthesis, and counts any other character. -/
theorem closing_step (quote : Option Char) (level : Int) (c : Char) (rest : Text) :
    closing quote level (c :: rest) =
      if quote = none ∧ c = ')' ∧ level = 1 then some 0
      else (closing (quoteAfter quote c) (level + depth quote [c]) rest).map (· + 1) := by
  cases quote with
  | some q =>
      rw [if_neg (by simp), depth_quoted, Int.add_zero]
      rfl
  | none =>
      rw [closing]
      by_cases opens : c = '('
      · subst opens
        rfl
      · rw [if_neg opens]
        by_cases closes : c = ')'
        · subst closes
          simp only [true_and]
          rfl
        · have goes : ¬ ((none : Option Char) = none ∧ c = ')' ∧ level = 1) := fun ends => closes ends.2.1
          rw [if_neg closes, if_neg goes, depth_of_ne opens closes, Int.add_zero]
          rfl

/-- Behind the `)` at this offset, which stands outside literals, no parenthesis is open any more, if `level` are
where the text begins. -/
structure ReturnsAt (quote : Option Char) (level : Int) (text : Text) (offset : Nat) : Prop where
  mark : text[offset]? = some ')'
  unquoted : quoteAtEnd quote (text.take offset) = none
  closed : level + depth quote (text.take (offset + 1)) = 0

theorem returnsAt_zero_iff : ReturnsAt quote level (c :: rest) 0 ↔ quote = none ∧ c = ')' ∧ level = 1 := by
  have one : depth none [')'] = -1 := rfl
  constructor
  · intro returns
    obtain rfl : quote = none := returns.unquoted
    obtain rfl : c = ')' := Option.some.inj returns.mark
    have closed := returns.closed
    rw [List.take_succ_cons, List.take_zero, one] at closed
    exact ⟨rfl, rfl, by omega⟩
  · intro ends
    obtain ⟨rfl, rfl, rfl⟩ := ends
    exact ⟨rfl, rfl, rfl⟩

theorem returnsAt_succ_iff : ReturnsAt quote level (c :: rest) (offset + 1) ↔
    ReturnsAt (quoteAfter quote c) (level + depth quote [c]) rest offset := by
  have reached : level + depth quote ((c :: rest).take (offset + 1 + 1)) =
      level + depth quote [c] + depth (quoteAfter quote c) (rest.take (offset + 1)) := by
    rw [List.take_succ_cons, depth_cons, Int.add_assoc]
  constructor
  · intro returns
    exact ⟨returns.mark, returns.unquoted, reached.symm.trans returns.closed⟩
  · intro returns
    exact ⟨returns.mark, returns.unquoted, reached.trans returns.closed⟩

/-- The search finds the first `)` that closes the last open parenthesis. -/
theorem closing_eq_some_iff : closing quote level text = some offset ↔
    ReturnsAt quote level text offset ∧ ∀ earlier < offset, ¬ ReturnsAt quote level text earlier := by
  -- Behind a character the rest is searched with the quote and the count that it leaves, so both are general.
  induction text generalizing quote level offset with
  | nil => exact ⟨nofun, fun found => nomatch found.1.mark⟩
  | cons c rest ih =>
      rw [closing_step]
      by_cases ends : quote = none ∧ c = ')' ∧ level = 1
      · have here : ReturnsAt quote level (c :: rest) 0 := returnsAt_zero_iff.mpr ends
        rw [if_pos ends]
        cases offset with
        | zero => exact iff_of_true rfl ⟨here, fun earlier before => absurd before earlier.not_lt_zero⟩
        | succ offset => exact iff_of_false nofun fun found => found.2 0 offset.succ_pos here
      · have further : ¬ ReturnsAt quote level (c :: rest) 0 := mt returnsAt_zero_iff.mp ends
        rw [if_neg ends]
        cases offset with
        | zero => simp [further]
        | succ offset =>
            rw [returnsAt_succ_iff, Nat.forall_lt_succ_left]
            simp [further, returnsAt_succ_iff, ih]

theorem closing_lt {depth : Int} {close : Nat} (found : closing quote depth text = some close) :
    close < text.length :=
  (List.getElem?_eq_some_iff.mp (closing_eq_some_iff.mp found).1.mark).1

/-- What the search finds is found whatever follows it. -/
theorem closing_append_of_some {depth : Int} {close : Nat} (found : closing quote depth text = some close)
    (rest : Text) : closing quote depth (text ++ rest) = some close := by
  induction text generalizing quote depth close with
  | nil => cases found
  | cons c text ih =>
      rw [closing_step] at found
      rw [List.cons_append, closing_step]
      by_cases ends : quote = none ∧ c = ')' ∧ depth = 1
      · rwa [if_pos ends] at found ⊢
      · rw [if_neg ends] at found ⊢
        obtain ⟨before, here, rfl⟩ := Option.map_eq_some_iff.mp found
        rw [ih here]
        rfl

/-! ### Places -/

variable {start place close : Nat}

/-- Read from `start` on, the text has a `)` outside its literals at this place, and up to and with it as many of
them as parentheses that open. -/
structure ClosesAt (text : Text) (start place : Nat) : Prop where
  behind : start ≤ place
  mark : text[place]? = some ')'
  unquoted : quoteAtEnd none (text.extract start place) = none
  equal : (outside none (text.extract start (place + 1))).count ')' =
    (outside none (text.extract start (place + 1))).count '('

theorem closesAt_iff : ClosesAt text start place ↔
    start ≤ place ∧ text[place]? = some ')' ∧ quoteAtEnd none (text.extract start place) = none ∧
      (outside none (text.extract start (place + 1))).count ')' =
        (outside none (text.extract start (place + 1))).count '(' :=
  ⟨fun closes => ⟨closes.behind, closes.mark, closes.unquoted, closes.equal⟩,
    fun ⟨behind, mark, unquoted, equal⟩ => ⟨behind, mark, unquoted, equal⟩⟩

instance (text : Text) (start place : Nat) : Decidable (ClosesAt text start place) :=
  decidable_of_iff _ closesAt_iff.symm

example : ClosesAt "(')')".toList 0 4 ∧ ¬ ClosesAt "(')')".toList 0 2 := by decide

theorem closesAt_add_iff : ClosesAt text start (start + offset) ↔ ReturnsAt none 0 (text.drop start) offset := by
  have before : text.extract start (start + offset) = (text.drop start).take offset := by
    rw [List.extract_eq_take_drop, Nat.add_sub_cancel_left]
  have read : text.extract start (start + offset + 1) = (text.drop start).take (offset + 1) := by
    rw [List.extract_eq_take_drop, Nat.add_assoc, Nat.add_sub_cancel_left]
  constructor
  · intro closes
    have equal := closes.equal
    have unquoted := closes.unquoted
    rw [read] at equal
    rw [before] at unquoted
    exact ⟨List.getElem?_drop.trans closes.mark, unquoted, by rw [depth]; omega⟩
  · intro returns
    have closed := returns.closed
    have unquoted := returns.unquoted
    rw [← read, depth] at closed
    rw [← before] at unquoted
    exact ⟨Nat.le_add_right .., List.getElem?_drop.symm.trans returns.mark, unquoted, by omega⟩

theorem matchingParen_eq_some_iff_isLeast :
    matchingParen text start = some close ↔ IsLeast {place | ClosesAt text start place} close := by
  constructor
  · intro found
    obtain ⟨offset, scan, rfl⟩ := Option.map_eq_some_iff.mp found
    obtain ⟨returns, first⟩ := closing_eq_some_iff.mp scan
    refine ⟨closesAt_add_iff.mpr returns, fun place closes => ?_⟩
    obtain ⟨other, rfl⟩ := Nat.exists_eq_add_of_le closes.behind
    exact Nat.add_le_add_left (Nat.not_lt.mp fun before => first other before (closesAt_add_iff.mp closes)) start
  · intro first
    obtain ⟨closes, least⟩ := first
    obtain ⟨offset, rfl⟩ := Nat.exists_eq_add_of_le closes.behind
    have scan : closing none 0 (text.drop start) = some offset := by
      refine closing_eq_some_iff.mpr ⟨closesAt_add_iff.mp closes, fun earlier before returns => ?_⟩
      exact Nat.not_lt.mpr (least (closesAt_add_iff.mpr returns)) (Nat.add_lt_add_left before start)
    rw [matchingParen, scan]
    rfl

theorem matchingParen_eq_none_iff : matchingParen text start = none ↔ ∀ place, ¬ ClosesAt text start place := by
  constructor
  · intro none' place
    -- The first such place would have been found.
    induction place using Nat.strongRecOn with
    | ind place ih =>
        intro closes
        have found := matchingParen_eq_some_iff_isLeast.mpr
          ⟨closes, fun other closes' => Nat.not_lt.mp fun before => ih other before closes'⟩
        rw [none'] at found
        cases found
  · intro never
    refine Option.eq_none_iff_forall_ne_some.mpr fun close found => ?_
    exact never close (matchingParen_eq_some_iff_isLeast.mp found).1

/-- What stands in front of the place where a search starts moves what it finds. -/
theorem matchingParen_append_left (left text : Text) (start : Nat) :
    matchingParen (left ++ text) (left.length + start) = (matchingParen text start).map (left.length + ·) := by
  rw [matchingParen, matchingParen, List.drop_length_add_append, Option.map_map]
  exact congrArg (Option.map · _) (funext fun close => Nat.add_assoc ..)

/-- What stands behind the parenthesis that closes has no part in the search. -/
theorem matchingParen_append_right (found : matchingParen text start = some close) (right : Text) :
    matchingParen (text ++ right) start = some close := by
  obtain ⟨offset, scan, rfl⟩ := Option.map_eq_some_iff.mp found
  have within := closing_lt scan
  rw [List.length_drop] at within
  rw [matchingParen, List.drop_append_of_le_length (by omega), closing_append_of_some scan]
  rfl

/-- The search is exact: what it finds is the first place that closes what is open, and it finds nothing only if
there is none. It is local: a text in front of the whole moves the place, even one that ends within a literal, and
a text behind the whole leaves it where it is. -/
theorem matchingParen_isLeast_local (text : Text) (start : Nat) :
    (∀ close, matchingParen text start = some close ↔ IsLeast {place | ClosesAt text start place} close) ∧
      (matchingParen text start = none ↔ ¬ ∃ place, ClosesAt text start place) ∧
      (∀ front, matchingParen (front ++ text) (front.length + start) =
        (matchingParen text start).map (front.length + ·)) ∧
      ∀ close, matchingParen text start = some close → ∀ rest, matchingParen (text ++ rest) start = some close := by
  refine ⟨fun _ => matchingParen_eq_some_iff_isLeast, ?_, fun front => matchingParen_append_left front text start,
    fun _ => matchingParen_append_right⟩
  rw [matchingParen_eq_none_iff, not_exists]

/-- A text with a parenthesis in a literal and one within others, in front of it a literal that is open, and behind
it a parenthesis that closes; and a text whose only `)` stands in a literal. -/
theorem matchingParen_isLeast_local_literal :
    let text := "x(a ')' (b)) y".toList
    matchingParen text 1 = some 11 ∧ IsLeast {place | ClosesAt text 1 place} 11 ∧
      matchingParen ("it's ".toList ++ text) (5 + 1) = some (5 + 11) ∧ matchingParen (text ++ ")'".toList) 1 = some 11 ∧
      ¬ ∃ place, ClosesAt "(a ')'".toList 0 place := by
  intro text
  have found : matchingParen text 1 = some 11 := by decide
  obtain ⟨exact', _, moved, kept⟩ := matchingParen_isLeast_local text 1
  obtain ⟨_, never, _⟩ := matchingParen_isLeast_local "(a ')'".toList 0
  have before : matchingParen ("it's ".toList ++ text) (5 + 1) = some (5 + 11) := by
    rw [show 5 = "it's ".toList.length by decide, moved, found]
    rfl
  exact ⟨found, (exact' 11).mp found, before, kept 11 found _, never.mp (by decide)⟩

end Schemata.Script
