import Mathlib.Data.List.TakeDrop
import Mathlib.Data.List.TakeWhile
import Schemata.Layout.Markup
import Schemata.Proofs.Outcomes

/-!
Texts whose markup is right. A text without an opening bracket has no tags, and the escaped form of any text has
none either, so both can be shown.
-/

namespace Schemata.Layout.Markup

/-- The tags of the text are right, so that it can be shown. -/
def IsSound (s : Text) : Prop :=
  ∃ shown, Markup.shown s = .ok shown

def IsPlain (piece : Piece) : Prop :=
  ∃ s, piece = .plain s

/-- The text holds no tags. -/
def IsUntagged (s : Text) : Prop :=
  ∀ piece ∈ pieces s, IsPlain piece

theorem ofPieces_plain {parts : List Piece} (plain : ∀ piece ∈ parts, IsPlain piece) :
    ∃ shown, ofPieces [] parts = .ok { text := shown } := by
  induction parts with
  | nil => exact ⟨[], rfl⟩
  | cons piece rest ih =>
      obtain ⟨⟨s, rfl⟩, others⟩ := List.forall_mem_cons.mp plain
      obtain ⟨shown, read⟩ := ih others
      exact ⟨shownPiece s ++ shown, by rw [ofPieces, read]; rfl⟩

theorem IsUntagged.isSound {s : Text} (untagged : IsUntagged s) : IsSound s := by
  obtain ⟨shown, readable⟩ := ofPieces_plain untagged
  exact ⟨shown, by rw [Markup.shown, read, readable]; rfl⟩

theorem pieces_of_no_tag {s : Text} (none : findTag 0 s = none) : pieces s = [.plain s] := by
  rw [pieces]
  split
  · rfl
  · rename_i found
    cases none.symm.trans found

theorem pieces_of_tag {s : Text} {found : Found} (hit : findTag 0 s = some found) :
    pieces s = .plain found.before :: .plain (backslashes (found.slashes / 2)) ::
      (if found.slashes % 2 = 0 then .tag (Tag.ofInside found.inside)
        else .plain (bracketed found.inside)) :: pieces found.after := by
  rw [pieces]
  split
  · rename_i none
    cases none.symm.trans hit
  · rename_i other same
    cases hit.symm.trans same
    rfl

theorem findTag_eq_none {s : Text} (slashes : Nat) (free : '[' ∉ s) : findTag slashes s = none := by
  induction s generalizing slashes with
  | nil => rfl
  | cons c rest ih =>
      obtain ⟨other, further⟩ := not_or.mp (free ∘ List.mem_cons.mpr)
      unfold findTag
      rw [if_neg (Ne.symm other), ih 0 further, ih _ further]
      split <;> rfl

theorem closedBy_nil (written : Text) (closed : Tag × List Tag) : closedBy written [] ≠ .ok closed := by
  intro found
  unfold closedBy at found
  split at found
  · cases found
  · obtain ⟨name, _, hit⟩ := bind_eq_ok.mp found
    cases hit

theorem ofInside_closing {inside : Text} (closes : inside.head? = some '/') :
    ∃ written, (Tag.ofInside inside).name = '/' :: written := by
  cases inside with
  | nil => cases closes
  | cons c rest =>
      cases closes
      refine ⟨rest.takeWhile (· != '='), ?_⟩
      rw [Tag.ofInside, List.span_eq_takeWhile_dropWhile]
      dsimp only
      split <;> rfl

theorem withoutEscapes_of_no_bracket {s : Text} (free : '[' ∉ s) : withoutEscapes s = s := by
  fun_induction withoutEscapes s with
  | case1 => exact absurd (by simp) free
  | case2 c rest _ ih => rw [ih (free ∘ List.mem_cons_of_mem c)]
  | case3 => rfl

theorem withEmoji_of_no_colon {s : Text} (noColon : ':' ∉ s) : withEmoji s = s := by
  rw [withEmoji, List.splitOn_eq_singleton noColon, showCodes]

/-- A single colon is no code. -/
theorem withEmoji_of_one_colon (before after : Text) (left : ':' ∉ before) (right : ':' ∉ after) :
    withEmoji (before ++ ':' :: after) = before ++ ':' :: after := by
  have parts : (before ++ ':' :: after).splitOn ':' = [before, after] := by
    have joined : before ++ ':' :: after = [':'].intercalate [before, after] := by simp [List.intercalate]
    rw [joined]
    exact List.splitOn_intercalate ':' (by simp [left, right]) (by simp)
  rw [withEmoji, parts, showCodes]

/-- Without tags and codes of emoji a text stands for itself, but for the characters that move the cursor. -/
theorem shownPiece_of_plain {s : Text} (noTag : '[' ∉ s) (noCode : withEmoji s = s) :
    shownPiece s = s.filter fun c => !isControl c := by
  rw [shownPiece, withoutEscapes_of_no_bracket noTag, noCode]

theorem shown_of_plain {s : Text} (noTag : '[' ∉ s) (noCode : withEmoji s = s) :
    shown s = .ok (s.filter fun c => !isControl c) := by
  rw [shown, read, pieces_of_no_tag (findTag_eq_none 0 noTag), ← shownPiece_of_plain noTag noCode]
  exact congrArg Except.ok (List.append_nil _)

/-- The text that the markup stands for has an encoding. -/
def IsEncodable (s : Text) : Prop :=
  ∀ visible, shown s = .ok visible → ∀ c ∈ visible, Text.standsForHalf c = false

/-- The markup is right, and the text that it stands for has an encoding. -/
structure IsShowable (s : Text) : Prop where
  sound : IsSound s
  encodable : IsEncodable s

theorem isShowable_of_plain {s : Text} (noTag : '[' ∉ s) (noCode : withEmoji s = s)
    (encoded : ∀ c ∈ s, Text.standsForHalf c = false) : IsShowable s := by
  have shows := shown_of_plain noTag noCode
  refine ⟨⟨_, shows⟩, fun visible same c member => ?_⟩
  cases shows.symm.trans same
  exact encoded c (List.mem_filter.mp member).1

/-- A character that shows as it is, whatever stands round it. -/
def isOrdinary (c : Char) : Bool :=
  c != '[' && c != ':' && !Text.standsForHalf c

theorem isShowable_of_ordinary {s : Text} (ordinary : ∀ c ∈ s, isOrdinary c = true) : IsShowable s := by
  have noColon : ':' ∉ s := fun inside => absurd (ordinary _ inside) (by decide)
  refine isShowable_of_plain (fun inside => absurd (ordinary _ inside) (by decide))
    (withEmoji_of_no_colon noColon) fun c member => ?_
  have kept := ordinary c member
  simp only [isOrdinary, Bool.and_eq_true, Bool.not_eq_true'] at kept
  exact kept.2

/-- At the first tag of a text nothing is open, so a text whose first tag closes cannot be shown. -/
theorem not_isSound_of_closing {s : Text} {found : Found} (hit : findTag 0 s = some found)
    (live : found.slashes % 2 = 0) (closes : found.inside.head? = some '/') : ¬ IsSound s := by
  rintro ⟨visible, shows⟩
  obtain ⟨marked, reads, _⟩ := bind_eq_ok.mp shows
  rw [read, pieces_of_tag hit, if_pos live] at reads
  obtain ⟨behind, reads, _⟩ := bind_eq_ok.mp reads
  obtain ⟨behind, reads, _⟩ := bind_eq_ok.mp reads
  obtain ⟨written, named⟩ := ofInside_closing closes
  rw [ofPieces, named] at reads
  obtain ⟨closed, found, _⟩ := bind_eq_ok.mp reads
  exact closedBy_nil _ _ found

/-! ### Escaped texts -/

theorem findTag_backslashes (slashes more : Nat) (s : Text) :
    findTag slashes (backslashes more ++ s) = findTag (slashes + more) s := by
  induction more generalizing slashes with
  | zero => rfl
  | succ more ih =>
      rw [backslashes, List.replicate_succ, List.cons_append, findTag, if_pos rfl]
      exact (ih (slashes + 1)).trans (by rw [Nat.add_right_comm, Nat.add_assoc])

theorem tagInside_eq_some_iff {s inside after : Text} :
    tagInside s = some (inside, after) ↔
      s = inside ++ ']' :: after ∧
        ∃ c body, inside = c :: body ∧ startsTag c = true ∧ ∀ d ∈ body, isBracket d = false := by
  constructor
  · intro found
    cases s with
    | nil => cases found
    | cons c rest =>
        rw [tagInside] at found
        split at found
        · rename_i starts
          split at found
          · rename_i left ends
            cases found
            refine ⟨?_, c, _, rfl, starts, fun d taken => ?_⟩
            · rw [List.cons_append, ← ends, List.takeWhile_append_dropWhile]
            · simpa using List.all_eq_true.mp List.all_takeWhile d taken
          · cases found
        · cases found
  · rintro ⟨rfl, c, body, rfl, starts, plain⟩
    have free : ∀ d ∈ body, (!isBracket d) = true := fun d inside => by simp [plain d inside]
    have closes : (!isBracket ']') = false := rfl
    simp [tagInside, starts, List.dropWhile_append_of_pos free, List.takeWhile_append_of_pos free, closes]

/-- Nothing of a text is lost where its first tag is found. -/
theorem findTag_eq {slashes : Nat} {s : Text} {found : Found} (hit : findTag slashes s = some found) :
    backslashes slashes ++ s =
      found.before ++ backslashes found.slashes ++ bracketed found.inside ++ found.after := by
  induction s generalizing slashes found with
  | nil => cases hit
  | cons c rest ih =>
      unfold findTag at hit
      split at hit
      · rename_i slash
        subst slash
        rw [← ih hit, backslashes, backslashes, List.replicate_succ', List.append_assoc]
        rfl
      · split at hit
        · rename_i inside after opened
          split at opened
          · rename_i bracket
            cases hit
            rw [bracket, (tagInside_eq_some_iff.mp opened).1]
            simp [bracketed]
          · cases opened
        · obtain ⟨further, later, rfl⟩ := Option.map_eq_some_iff.mp hit
          have kept := ih later
          simp only [backslashes, List.replicate_zero, List.nil_append] at kept
          simp [Found.prepend, backslashes, kept]

/-- A bracket that begins no tag begins none with other backslashes before the next bracket either. -/
theorem tagInside_slashes {before left : Text} {slashes : Nat}
    (none : tagInside (before ++ (backslashes slashes ++ '[' :: left)) = none) (more : Nat) (right : Text) :
    tagInside (before ++ (backslashes more ++ '[' :: right)) = .none := by
  -- The search for the closing bracket passes over backslashes and stops at the bracket behind them.
  cases before with
  | nil => cases more <;> rfl
  | cons c rest =>
      have passed (count : Nat) (tail : Text) :
          (backslashes count ++ '[' :: tail).dropWhile (fun d => !isBracket d) = '[' :: tail := by
        induction count with
        | zero => rfl
        | succ count ih => exact ih
      simp only [List.cons_append, tagInside, List.dropWhile_append, passed] at none ⊢
      split
      · rename_i starts
        rw [if_pos starts] at none
        cases stopped : rest.dropWhile fun d => !isBracket d with
        | nil => rfl
        | cons d others =>
            rw [stopped] at none
            simp only [List.isEmpty_cons, Bool.false_eq_true, if_false, List.cons_append] at none ⊢
            by_cases ends : d = ']'
            · subst ends
              cases none
            · split
              · rename_i same
                exact absurd (List.cons.inj same).1 ends
              · rfl
      · rfl

/-- The first tag is found there with any backslashes in front of it and anything after it. -/
theorem findTag_rewritten {slashes : Nat} {s : Text} {found : Found} (hit : findTag slashes s = some found)
    (more : Nat) (tail : Text) :
    findTag 0 (found.before ++ (backslashes more ++ '[' :: (found.inside ++ ']' :: tail))) =
      some { found with slashes := more, after := tail } := by
  -- The backslashes counted so far are forgotten at the next other character, so the count is arbitrary here.
  induction s generalizing slashes found with
  | nil => cases hit
  | cons c rest ih =>
      unfold findTag at hit
      split at hit
      · exact ih hit
      · rename_i noSlash
        split at hit
        · rename_i inside after opened
          split at opened
          · cases hit
            obtain ⟨_, shape⟩ := tagInside_eq_some_iff.mp opened
            have again : tagInside (inside ++ ']' :: tail) = some (inside, tail) :=
              tagInside_eq_some_iff.mpr ⟨rfl, shape⟩
            rw [List.nil_append, findTag_backslashes, findTag, if_neg (by decide), if_pos rfl, again]
            simp
          · cases opened
        · rename_i noTag
          obtain ⟨further, later, rfl⟩ := Option.map_eq_some_iff.mp hit
          have kept : rest = further.before ++ (backslashes further.slashes ++ '[' ::
              (further.inside ++ ']' :: further.after)) := by
            simpa [backslashes, bracketed] using findTag_eq later
          -- A bracket in front of the tag could only begin one by reaching past the bracket of the tag.
          have stays : (if c = '[' then tagInside (further.before ++ (backslashes more ++ '[' ::
              (further.inside ++ ']' :: tail))) else none) = none := by
            split
            · rename_i bracket
              rw [if_pos bracket, kept] at noTag
              exact tagInside_slashes noTag more _
            · rfl
          have onward := ih later
          simp only [Found.prepend, List.append_assoc, List.singleton_append]
          rw [findTag_backslashes, Nat.zero_add, List.cons_append, findTag, if_neg noSlash, stays, onward]
          simp [Found.prepend]

theorem isUntagged_escapeTags (s : Text) : IsUntagged (escapeTags s) := by
  induction s using escapeTags.induct with
  | case1 s none =>
      rw [escapeTags]
      split
      · intro piece present
        rw [pieces_of_no_tag none] at present
        exact ⟨s, List.mem_singleton.mp present⟩
      · rename_i found
        cases none.symm.trans found
  | case2 s found hit ih =>
      rw [escapeTags]
      split
      · rename_i none
        cases none.symm.trans hit
      · rename_i other same
        cases hit.symm.trans same
        have again := findTag_rewritten hit (2 * found.slashes + 1) (escapeTags found.after)
        have odd : ¬ (2 * found.slashes + 1) % 2 = 0 := by omega
        simp only [bracketed, List.append_assoc, List.cons_append, List.nil_append]
        intro piece present
        rw [pieces_of_tag again] at present
        simp only [if_neg odd, List.mem_cons] at present
        rcases present with rfl | rfl | rfl | later
        · exact ⟨_, rfl⟩
        · exact ⟨_, rfl⟩
        · exact ⟨_, rfl⟩
        · exact ih piece later

theorem tagInside_append_slash (s : Text) :
    tagInside (s ++ ['\\']) = (tagInside s).map fun (inside, after) => (inside, after ++ ['\\']) := by
  cases opened : tagInside s with
  | some found =>
      obtain ⟨rfl, shape⟩ := tagInside_eq_some_iff.mp opened
      exact tagInside_eq_some_iff.mpr ⟨by simp, shape⟩
  | none =>
      cases longer : tagInside (s ++ ['\\']) with
      | none => rfl
      | some found =>
          obtain ⟨whole, shape⟩ := tagInside_eq_some_iff.mp longer
          obtain ends | ⟨after, last, ends⟩ := List.eq_nil_or_concat found.2
          · rw [ends] at whole
            cases (List.append_inj' whole rfl).2
          · rw [ends, List.concat_eq_append, ← List.cons_append, ← List.append_assoc] at whole
            have early := tagInside_eq_some_iff.mpr ⟨(List.append_inj' whole rfl).1, shape⟩
            cases opened.symm.trans early

theorem findTag_append_slash (slashes : Nat) (s : Text) :
    findTag slashes (s ++ ['\\']) =
      (findTag slashes s).map fun found => { found with after := found.after ++ ['\\'] } := by
  induction s generalizing slashes with
  | nil => rfl
  | cons c rest ih =>
      rw [List.cons_append, findTag, findTag]
      split
      · exact ih _
      · by_cases bracket : c = '['
        · rw [if_pos bracket, if_pos bracket, tagInside_append_slash, ih]
          cases tagInside rest with
          | some found => rfl
          | none => simp [Found.prepend, Function.comp_def]
        · rw [if_neg bracket, if_neg bracket, ih]
          simp [Found.prepend, Function.comp_def]

theorem IsUntagged.append_slash {s : Text} (untagged : IsUntagged s) : IsUntagged (s ++ ['\\']) := by
  induction s using pieces.induct with
  | case1 s none =>
      have none := (findTag_append_slash 0 s).trans (by rw [none, Option.map_none])
      intro piece present
      rw [pieces_of_no_tag none] at present
      exact ⟨_, List.mem_singleton.mp present⟩
  | case2 s found hit ih =>
      have longer := (findTag_append_slash 0 s).trans (by rw [hit, Option.map_some])
      have parts := untagged
      unfold IsUntagged at parts
      rw [pieces_of_tag hit] at parts
      simp only [List.forall_mem_cons] at parts
      obtain ⟨before, slashes, own, after⟩ := parts
      unfold IsUntagged
      rw [pieces_of_tag longer]
      simp only [List.forall_mem_cons]
      exact ⟨before, slashes, own, ih after⟩

/-- An escaped text shows without any tags. -/
theorem isUntagged_escape (s : Text) : IsUntagged (escape s) := by
  have untagged := isUntagged_escapeTags s
  unfold escape
  dsimp only
  split
  · exact untagged
  · exact untagged.append_slash
  · exact untagged

theorem isSound_escape (s : Text) : IsSound (escape s) :=
  (isUntagged_escape s).isSound

/-! ### Styled texts -/

/-- A name of the table is read as itself. -/
theorem colorRead_of_mem {name written : Text} (same : Text.trim (Text.lower written) = name)
    (known : name ∈ Color.names) : Color.read written = .ok name := by
  have listed : (decide (name = "default".toList) || Color.names.contains name) = true :=
    Bool.or_eq_true_iff.mpr (.inr (List.contains_iff_mem.mpr known))
  have named : Color.isName name = .ok true := if_pos listed
  rw [Color.read, same]
  exact bind_eq_ok.mpr ⟨true, named, rfl⟩

/-- The first tag behind a text without brackets and backslashes is the first one of what follows. -/
theorem findTag_append {before : Text} (free : ∀ c ∈ before, c ≠ '[' ∧ c ≠ '\\') (rest : Text) :
    findTag 0 (before ++ rest) = (findTag 0 rest).map (Found.prepend before) := by
  induction before with
  | nil => cases found : findTag 0 rest <;> exact found
  | cons c before ih =>
      obtain ⟨⟨noBracket, noSlash⟩, others⟩ := List.forall_mem_cons.mp free
      rw [List.cons_append, findTag, if_neg noSlash, if_neg noBracket, ih others]
      cases findTag 0 rest <;> rfl

theorem findTag_bracketed {before inside : Text} (front : ∀ c ∈ before, c ≠ '[' ∧ c ≠ '\\') {c : Char}
    {body : Text} (whole : inside = c :: body) (starts : startsTag c = true)
    (plain : ∀ d ∈ body, isBracket d = false) (after : Text) :
    findTag 0 (before ++ (bracketed inside ++ after)) = some ⟨before, 0, inside, after⟩ := by
  have taken : tagInside (inside ++ ']' :: after) = some (inside, after) :=
    tagInside_eq_some_iff.mpr ⟨rfl, c, body, whole, starts, plain⟩
  have here : bracketed inside ++ after = '[' :: (inside ++ ']' :: after) := by simp [bracketed]
  rw [findTag_append front, here, findTag, if_neg (by decide), if_pos rfl, taken]
  simp [Found.prepend]

theorem ofInside_word {word : Text} (letters : '=' ∉ word) : Tag.ofInside word = ⟨word, none⟩ := by
  have all : ∀ c ∈ word, (c != '=') = true := fun c member => bne_iff_ne.mpr fun same => letters (same ▸ member)
  have front : word.takeWhile (· != '=') = word := List.takeWhile_eq_self_iff.mpr all
  have back : word.dropWhile (· != '=') = [] := List.dropWhile_eq_nil_iff.mpr all
  rw [Tag.ofInside, List.span_eq_takeWhile_dropWhile, front, back]

section Styled

variable {style : Text}

/-- The tag of a style that is its own normal form is opened by its name. -/
theorem ofPieces_opening (normal : normalized style = .ok style) (noSlash : style.head? ≠ some '/')
    (opened : List Tag) (rest : List Piece) :
    ofPieces opened (.tag ⟨style, none⟩ :: rest) = ofPieces (⟨style, none⟩ :: opened) rest := by
  rw [ofPieces]
  split
  · rename_i written same
    exact absurd (congrArg List.head? same) noSlash
  · rw [normal]
    rfl

theorem ofPieces_closing (normal : normalized style = .ok style) (named : style ≠ [])
    (trimmed : Text.trim style = style) (noAction : style.head? ≠ some '@') (opened : List Tag) {rest : List Piece}
    {marked : Marked} (behind : ofPieces opened rest = .ok marked) :
    ofPieces (⟨style, none⟩ :: opened) (.tag ⟨'/' :: style, none⟩ :: rest) =
      .ok { marked with styles := style :: marked.styles } := by
  have closed : closedBy style (⟨style, none⟩ :: opened) = .ok (⟨style, none⟩, opened) := by
    rw [closedBy, if_neg (by simpa using named), normal]
    simp [bind, Except.bind, close, pure, Except.pure]
  have left : closing ⟨style, none⟩ = .ok [style] := by
    rw [closing, Tag.isAction, decide_eq_false noAction]
    rfl
  rw [ofPieces]
  split
  · rename_i written same
    cases same
    rw [trimmed]
    exact bind_eq_ok.mpr ⟨_, closed, bind_eq_ok.mpr ⟨_, left, bind_eq_ok.mpr ⟨_, behind, rfl⟩⟩⟩
  · rename_i other
    exact absurd rfl (other style)

/-- A text between the tags of a style shows without them. -/
theorem shown_of_styled {before inside : Text} (letters : ∀ c ∈ style, c.isLower = true) (named : style ≠ [])
    (trimmed : Text.trim style = style) (normal : normalized style = .ok style)
    (applies : Style.check style = .ok ())
    (front : ∀ c ∈ before, c ≠ '[' ∧ c ≠ '\\') (free : ∀ c ∈ inside, c ≠ '[' ∧ c ≠ '\\') :
    shown (before ++ bracketed style ++ inside ++ bracketed ('/' :: style)) =
      .ok (shownPiece before ++ shownPiece inside) := by
  have joined : before ++ bracketed style ++ inside ++ bracketed ('/' :: style) =
      before ++ (bracketed style ++ (inside ++ (bracketed ('/' :: style) ++ []))) := by simp
  have apart {d : Char} (other : d.isLower = false) : d ∉ style := fun member =>
    Bool.false_ne_true (other.symm.trans (letters d member))
  have plain : ∀ c ∈ style, isBracket c = false := by
    intro c member
    have left : c ≠ '[' := fun same => apart (by decide) (same ▸ member)
    have right : c ≠ ']' := fun same => apart (by decide) (same ▸ member)
    simp [isBracket, left, right]
  have begins {d : Char} (other : d.isLower = false) : style.head? ≠ some d := fun same =>
    apart other (List.mem_of_head? same)
  obtain ⟨first, rest, whole⟩ := List.exists_cons_of_ne_nil named
  have lower : first.isLower = true := letters first (whole ▸ List.mem_cons_self ..)
  have opens := findTag_bracketed front whole (by simp [startsTag, lower])
    (fun d member => plain d (whole ▸ List.mem_cons_of_mem first member))
    (inside ++ (bracketed ('/' :: style) ++ []))
  have closes : findTag 0 (inside ++ (bracketed ('/' :: style) ++ [])) = some ⟨inside, 0, '/' :: style, []⟩ :=
    findTag_bracketed free rfl (by decide) plain []
  have opening : Tag.ofInside style = ⟨style, none⟩ := ofInside_word (apart (by decide))
  have closing : Tag.ofInside ('/' :: style) = ⟨'/' :: style, none⟩ :=
    ofInside_word (by simpa using apart (d := '=') (by decide))
  have last : ofPieces [] [.plain []] = .ok {} := rfl
  have ends := ofPieces_closing normal named trimmed (begins (by decide)) [] last
  rw [joined, shown, read, pieces_of_tag opens, pieces_of_tag closes, pieces_of_no_tag rfl]
  dsimp only
  rw [if_pos rfl, if_pos rfl, opening, closing]
  have inner : ofPieces [] [.plain before, .plain [], .tag ⟨style, none⟩, .plain inside, .plain [],
      .tag ⟨'/' :: style, none⟩, .plain []] = .ok ⟨shownPiece before ++ shownPiece inside, [style]⟩ := by
    rw [ofPieces, ofPieces, ofPieces_opening normal (begins (by decide)), ofPieces, ofPieces, ends]
    simp [bind, Except.bind, pure, Except.pure, Marked.prepend, shownPiece, withoutEscapes, withEmoji, showCodes]
  exact bind_eq_ok.mpr ⟨_, inner, by simp [Marked.applied, applies, bind, Except.bind, Except.mapError, pure, Except.pure]⟩

end Styled

end Schemata.Layout.Markup
