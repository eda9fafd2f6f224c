import Schemata.Proofs.Ddl.Identifiers
import Schemata.Proofs.Ddl.Literals
import Schemata.Proofs.Ddl.TableHeads
import Schemata.Proofs.Text.Lower

/-!
Names in quotes. A scan passes over what is quoted, so a quoted name is one item of a list and stands for
what is in its quotes. Emptying the literals of a text gives another name if there was something in them.
-/

namespace Schemata.Ddl

open Text Script Reader

/-- A name between two double or backward quotes. -/
@[ext]
structure QuotedName where
  mark : Char
  inner : Text
  isMark : mark = '"' ∨ mark = '\x60' := by decide
  some' : inner ≠ [] := by decide
  free : mark ∉ inner := by decide
deriving DecidableEq

namespace QuotedName

variable (quoted : QuotedName)

def text : Text :=
  quoted.mark :: (quoted.inner ++ [quoted.mark])

/-- The name that is quoted, without regard to case. -/
def name : Text :=
  lower (trim quoted.inner)

/-! ### Reading -/

/-- What holds of both marks holds of the one in use. -/
theorem of_mark (property : Char → Prop) (double : property '"') (backward : property '\x60') : property quoted.mark := by
  rcases quoted.isMark with same | same <;> rw [same] <;> assumption

theorem isPair : IsPair quoted.mark quoted.mark :=
  quoted.of_mark (fun c => IsPair c c) (by decide) (by decide)

theorem isIdentifier : IsIdentifier quoted.text :=
  mem_identifier.mpr (.inl ⟨quoted.mark, quoted.mark, quoted.inner, quoted.isPair, quoted.some', quoted.free, rfl⟩)

theorem first_name (rest : Text) : Ddl.name.first (quoted.text ++ rest) = some ((), rest) := by
  have read : Ddl.name.first (quoted.mark :: quoted.inner ++ quoted.mark :: rest) = some ((), rest) :=
    first_identifier_delimited quoted.isPair quoted.some' quoted.free rest
  rw [text, List.cons_append, List.append_assoc]
  exact read

theorem solid : Solid quoted.text := by
  have unblank : isBlank quoted.mark = false := quoted.of_mark (isBlank · = false) (by decide) (by decide)
  refine ⟨List.cons_ne_nil _ _, ends_cons.mpr unblank, ?_⟩
  rw [text, ← List.cons_append, List.reverse_append]
  exact ends_cons.mpr unblank

theorem normalizeIdentifier_text : normalizeIdentifier quoted.text = quoted.name := by
  have opens : opensQuoted quoted.mark = true := quoted.of_mark (opensQuoted · = true) (by decide) (by decide)
  have unquoted : unquoted quoted.text = quoted.inner := by
    rw [text, Ddl.unquoted, opens, List.dropLast_concat]
    simp
  rw [quoted.isIdentifier.normalizeIdentifier_eq quoted.solid.trim_eq, unquoted]
  rfl

/-! ### Lists -/

section Scan

variable {mark : Char} {depth : Nat} {inner : Text} {cuts : Nesting → Char → Bool}

/-- Within quotes, a scan stays where it is. -/
theorem foldl_after (depth : Nat) (free : mark ∉ inner) :
    inner.foldl Nesting.after ⟨some mark, depth⟩ = ⟨some mark, depth⟩ := by
  induction inner with
  | nil => rfl
  | cons c inner ih =>
      obtain ⟨other, further⟩ := not_or.mp (mt List.mem_cons.mpr free)
      have step : Nesting.after ⟨some mark, depth⟩ c = ⟨some mark, depth⟩ := by
        simp [Nesting.after, quoteAfter, Ne.symm other]
      rw [List.foldl_cons, step]
      exact ih further

/-- A scan that cuts outside of quotes does not cut within them. -/
theorem uncut_inner (blind : ∀ q depth c, cuts ⟨some q, depth⟩ c = false) (free : mark ∉ inner) :
    Uncut Nesting.after cuts ⟨some mark, depth⟩ inner := by
  rintro before c after rfl
  rw [foldl_after depth fun member => free (List.mem_append_left _ member)]
  exact blind mark depth c

end Scan

theorem after_mark : Nesting.after .start quoted.mark = ⟨some quoted.mark, 0⟩ :=
  quoted.of_mark (fun c => Nesting.after .start c = ⟨some c, 0⟩) (by decide) (by decide)

/-- A scan from the start is at its start again behind the name. -/
theorem foldl_text : quoted.text.foldl Nesting.after .start = .start := by
  have last : Nesting.after ⟨some quoted.mark, 0⟩ quoted.mark = .start :=
    quoted.of_mark (fun c => Nesting.after ⟨some c, 0⟩ c = .start) (by decide) (by decide)
  rw [text, List.foldl_cons, List.foldl_append, quoted.after_mark, foldl_after 0 quoted.free]
  exact last

theorem uncut_text {cuts : Nesting → Char → Bool} (blind : ∀ q depth c, cuts ⟨some q, depth⟩ c = false)
    (free : cuts .start quoted.mark = false) : Uncut Nesting.after cuts .start quoted.text := by
  refine uncut_cons.mpr ⟨free, ?_⟩
  rw [quoted.after_mark]
  refine uncut_append.mpr ⟨uncut_inner blind quoted.free, ?_⟩
  rw [foldl_after 0 quoted.free]
  exact uncut_cons.mpr ⟨blind .., uncut_nil⟩

theorem balanced : Balanced quoted.text where
  inside := quoted.uncut_text (fun _ _ _ => rfl)
    (quoted.of_mark (fun c => closesTooMany .start c = false) (by decide) (by decide))
  closed := quoted.foldl_text

theorem uncut_items : Uncut Nesting.after endsItem .start quoted.text :=
  quoted.uncut_text (fun _ _ _ => rfl) (quoted.of_mark (fun c => endsItem .start c = false) (by decide) (by decide))

theorem items_text : items quoted.text = [quoted.text] := by
  rw [items, itemSegments, segments_of_uncut quoted.uncut_items]
  exact pieces_of_solid (by simpa using quoted.solid)

theorem columnList_text : columnList quoted.text = [quoted.name] := by
  have trimmed : trim quoted.text = quoted.text ++ [] := by rw [quoted.solid.trim_eq, List.append_nil]
  rw [columnList_eq_filterMap, quoted.items_text, ← quoted.normalizeIdentifier_text]
  exact List.filterMap_cons_some (columnOf_eq trimmed (quoted.isIdentifier.first ends_nil))

/-- What opens a name and does not close it is no identifier. -/
theorem refuses_open {front : Text} (free : quoted.mark ∉ front) :
    (identifier startsName).Refuses (quoted.mark :: front) := by
  have closes : ∀ closing, IsPair quoted.mark closing → closing = quoted.mark :=
    quoted.of_mark (fun c => ∀ closing, IsPair c closing → closing = c) (by simp [IsPair]) (by simp [IsPair])
  refine List.eq_nil_iff_forall_not_mem.mpr fun way member => ?_
  rcases mem_identifier.mp member with ⟨opening, closing, inner, pair, _, _, split⟩ | ⟨c, more, split, start, _⟩
  · obtain ⟨rfl, rfl⟩ := List.cons.inj split
    rw [closes closing pair] at free
    simp at free
  · rw [← (List.cons.inj split).1, quoted.of_mark (startsName · = false) (by decide) (by decide)] at start
    cases start

theorem columnList_open {front : Text} (free : quoted.mark ∉ front) : columnList (quoted.mark :: front) = [] := by
  have unblank : isBlank quoted.mark = false := quoted.of_mark (isBlank · = false) (by decide) (by decide)
  have trimmed : trim (quoted.mark :: front) = quoted.mark :: trimRight front := by
    have last : Ends isBlank [quoted.mark].reverse := ends_cons.mpr unblank
    rw [trim, trimLeft, (ends_cons.mpr unblank).dropWhile_eq]
    exact trimRight_append last front
  have free' : quoted.mark ∉ trimRight front := by
    obtain ⟨trail, split⟩ := exists_trimRight front
    exact fun member => free (by rw [split]; exact List.mem_append_left _ member)
  have uncut : Uncut Nesting.after endsItem .start (quoted.mark :: front) := by
    refine uncut_cons.mpr ⟨quoted.of_mark (fun c => endsItem .start c = false) (by decide) (by decide), ?_⟩
    rw [quoted.after_mark]
    exact uncut_inner (fun _ _ _ => rfl) free
  have listed : items (quoted.mark :: front) = [trim (quoted.mark :: front)] := by
    rw [items, itemSegments, segments_of_uncut uncut, pieces, List.map_singleton, trimmed]
    rfl
  have solid : Solid (trim (quoted.mark :: front)) := solid_trim (by rw [trimmed]; exact List.cons_ne_nil _ _)
  rw [columnList, listed]
  refine (List.filterMap_cons_none ?_).trans rfl
  have refuses := quoted.refuses_open free'
  rw [← trimmed] at refuses
  rw [solid.trim_eq, first, ways, captured, refuses]
  rfl

/-! ### Emptied literals -/

/-- The name without what is in its literals. -/
def emptied : QuotedName where
  mark := quoted.mark
  inner := withoutLiterals quoted.inner
  isMark := quoted.isMark
  some' empty := by
    have head := head?_withoutLiterals quoted.inner
    rw [empty] at head
    exact quoted.some' (List.head?_eq_none_iff.mp head.symm)
  free member := quoted.free (mem_of_mem_withoutLiterals member)

/-- Emptying the literals of a name changes what it stands for if there was something in them. -/
theorem emptied_eq_of_name (same : quoted.emptied.name = quoted.name) : quoted.emptied = quoted := by
  have longer := congrArg List.length same
  have fewer := count_withoutLiterals_le 'İ' (trim quoted.inner)
  have shorter := length_withoutLiterals_le (trim quoted.inner)
  rw [name, name, emptied, trim_withoutLiterals, length_lower, length_lower] at longer
  have kept : withoutLiterals quoted.inner = quoted.inner :=
    withoutLiterals_eq_of_trim (withoutLiterals_eq_of_length_le (by omega))
  exact QuotedName.ext rfl kept

end QuotedName

end Schemata.Ddl
