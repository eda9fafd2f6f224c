import Mathlib.Data.List.Forall2
import Mathlib.Data.List.TakeDrop
import Schemata.Text.Blank

/-!
Texts and their parts. Properties of characters that hold in a text hold in its parts, and the other way round;
and how often a separator stands in each part tells where a text is joined.
-/

namespace Schemata.Text

theorem forall_mem_intercalate {α : Type} {holds : α → Prop} {separator : List α} {parts : List (List α)}
    (between : ∀ a ∈ separator, holds a) (inside : ∀ part ∈ parts, ∀ a ∈ part, holds a) :
    ∀ a ∈ separator.intercalate parts, holds a := by
  induction parts with
  | nil => exact List.forall_mem_nil _
  | cons part parts ih =>
      have here := inside part (List.mem_cons_self ..)
      cases parts with
      | nil =>
          rw [List.intercalate_singleton]
          exact here
      | cons next parts =>
          rw [List.intercalate_cons_cons]
          refine List.forall_mem_append.mpr ⟨List.forall_mem_append.mpr ⟨here, between⟩, ?_⟩
          exact ih fun part member => inside part (List.mem_cons_of_mem _ member)

/-- A part of a joined list stands behind the parts before it, each with the separator. -/
theorem intercalate_append_cons {α : Type} (separator : List α) (before : List (List α)) (part : List α)
    (after : List (List α)) : separator.intercalate (before ++ part :: after) =
      (before.flatMap fun other => other ++ separator) ++ separator.intercalate (part :: after) := by
  induction before with
  | nil => rfl
  | cons first before ih =>
      rw [List.flatMap_cons, List.append_assoc, ← ih]
      cases before with
      | nil => exact List.intercalate_cons_cons
      | cons second before => exact List.intercalate_cons_cons

/-! ### Joined parts -/

section Joined

variable {α : Type} [DecidableEq α] {separator : α} {one other rest rest' : List α} {parts others : List (List α)}

/-- How often the separator stands in front of it tells where a list is cut in two. -/
theorem eq_of_append_cons (counts : one.count separator = other.count separator)
    (same : one ++ separator :: rest = other ++ separator :: rest') : one = other ∧ rest = rest' := by
  have none' : ∀ {later tail tail' : List α}, later.count separator = 0 →
      separator :: tail = later ++ separator :: tail' → later = [] ∧ tail = tail' := by
    intro later tail tail' free split
    cases later with
    | nil => exact ⟨rfl, (List.cons.inj split).2⟩
    | cons d later =>
        obtain ⟨rfl, _⟩ := List.cons.inj split
        exact absurd (List.mem_cons_self ..) (List.count_eq_zero.mp free)
  rcases List.append_eq_append_iff.mp same with ⟨later, rfl, split⟩ | ⟨later, rfl, split⟩
  · rw [List.count_append] at counts
    obtain ⟨rfl, rfl⟩ := none' (by omega) split
    exact ⟨(List.append_nil _).symm, rfl⟩
  · rw [List.count_append] at counts
    obtain ⟨rfl, rfl⟩ := none' (by omega) split
    exact ⟨List.append_nil _, rfl⟩

/-- Parts that hold the separator as often as those of another list are the same if they are the same when
joined. -/
theorem eq_of_intercalate_eq
    (counts : List.Forall₂ (fun part other => part.count separator = other.count separator) parts others)
    (same : [separator].intercalate parts = [separator].intercalate others) : parts = others := by
  induction counts with
  | nil => rfl
  | @cons part other parts others here further ih =>
      cases further with
      | nil => simpa using same
      | cons =>
          rw [List.intercalate_cons_cons, List.intercalate_cons_cons, List.append_assoc, List.append_assoc] at same
          obtain ⟨rfl, rest⟩ := eq_of_append_cons here same
          rw [ih rest]

theorem count_intercalate (some' : parts ≠ []) :
    ([separator].intercalate parts).count separator + 1 = parts.flatten.count separator + parts.length := by
  induction parts with
  | nil => exact absurd rfl some'
  | cons part parts ih =>
      cases parts with
      | nil => simp
      | cons next parts =>
          have further := ih (List.cons_ne_nil _ _)
          rw [List.intercalate_cons_cons, List.count_append, List.count_append, List.count_singleton_self,
            List.flatten_cons, List.count_append, List.length_cons]
          omega

end Joined

variable {holds : Char → Prop} {s : Text}

theorem forall_mem_splitOnP {p : Char → Bool} (each : ∀ c ∈ s, holds c) :
    ∀ part ∈ s.splitOnP p, ∀ c ∈ part, holds c := by
  induction s with
  | nil =>
      rw [List.splitOnP_nil]
      exact List.forall_mem_singleton.mpr nofun
  | cons c rest ih =>
      obtain ⟨first, others⟩ := List.forall_mem_cons.mp each
      have later := ih others
      rw [List.splitOnP_cons_eq_if_modifyHead]
      split
      · exact List.forall_mem_cons.mpr ⟨nofun, later⟩
      · cases parts : rest.splitOnP p with
        | nil => exact absurd parts (List.splitOnP_ne_nil p rest)
        | cons head tail =>
            rw [parts] at later
            obtain ⟨here, behind⟩ := List.forall_mem_cons.mp later
            exact List.forall_mem_cons.mpr ⟨List.forall_mem_cons.mpr ⟨first, here⟩, behind⟩

theorem forall_mem_span (each : ∀ c ∈ s, holds c) (p : Char → Bool) :
    (∀ c ∈ (s.span p).1, holds c) ∧ ∀ c ∈ (s.span p).2, holds c := by
  rw [List.span_eq_takeWhile_dropWhile]
  exact ⟨fun c member => each c ((List.takeWhile_sublist p).subset member),
    fun c member => each c ((List.dropWhile_sublist p).subset member)⟩

theorem forall_mem_trimRight (each : ∀ c ∈ s, holds c) : ∀ c ∈ trimRight s, holds c := fun c member =>
  each c (List.mem_reverse.mp ((List.dropWhile_sublist _).subset (List.mem_reverse.mp member)))

/-- A part that is not there has no characters. -/
theorem forall_mem_getD {parts : List Text} (each : ∀ part ∈ parts, ∀ c ∈ part, holds c) (index : Nat) :
    ∀ c ∈ parts[index]?.getD [], holds c := by
  cases found : parts[index]? with
  | none => exact nofun
  | some part => exact each part (List.mem_of_getElem? found)

end Schemata.Text
