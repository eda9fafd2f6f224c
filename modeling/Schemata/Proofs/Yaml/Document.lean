import Schemata.Proofs.Yaml.Printed

/-!
Whole documents: a mapping of named fields that is written and read again is the same mapping.
-/

namespace Schemata.Yaml

theorem isAllowed_of_shown {c : Char} (shown : needsEscape c = false) : isAllowed c = true := by
  simp only [needsEscape, Bool.not_eq_false', Bool.or_eq_true, beq_iff_eq, Bool.and_eq_true,
    decide_eq_true_eq] at shown
  rcases shown with rfl | printed
  · decide
  · simp [isAllowed, printed]

/-- A printed document that is one node. -/
theorem read_of_blockNode {c : Char} {s : Text} {value : Value} {node : Node} {after : Cursor}
    (printed : IsPrinted (c :: s)) (begins : beginsToken c = true) (unmarked : startsMarker (c :: s) = false)
    (read : blockNode (4 * (c :: s).length + 8) (-1) true (.start (c :: s)) = .ok (node, after))
    (stands : node.StandsFor value) (finished : after.next.rest = []) : Yaml.read (c :: s) = .ok value := by
  have allowed : (c :: s).all isAllowed = true :=
    List.all_eq_true.mpr fun d member => isAllowed_of_shown (printed d member)
  have unsigned : (c :: s).head? ≠ some '\ufeff' := by
    rw [List.head?_cons]
    intro same
    exact absurd (Option.some.inj same ▸ printed c (List.mem_cons_self ..)) (by decide)
  have first : (Cursor.start (c :: s)).next = .start (c :: s) := Cursor.skipFrom_token begins s
  have here : (Cursor.start (c :: s)).isMarker = false := unmarked
  have ends (count : Nat) : endsHere count after.next = true := by
    cases count <;> rw [endsHere, finished] <;> rfl
  have nodes : nodeOf (c :: s) = .ok node := by
    rw [nodeOf, allowed, if_neg (by decide), if_neg unsigned]
    simp only [first, here, Bool.false_and, if_neg Bool.false_ne_true, Bool.not_false, Bool.true_or, read]
    change (if endsHere _ after.next = true then _ else _) = _
    rw [ends, if_pos rfl]
    rfl
  rw [Yaml.read, nodes]
  exact Node.value_of_standsFor stands

variable {depth : Nat} {fields : List (Text × Value)}

theorem isPrinted_render (filled : fields ≠ []) (names : ∀ field ∈ fields, IsName field.1)
    (each : ∀ field ∈ fields, field.2.Storable depth) :
    IsPrinted (render (.map (fields.map Value.ofField))) := by
  obtain ⟨field, rest, rfl⟩ := List.exists_cons_of_ne_nil filled
  rw [List.map_cons, render, ← List.map_cons]
  exact isPrinted_writeEntries names (fun other member => (isPrinted_of_storable (each other member)).2) 0 true

/-- What is written for a mapping reads as the mapping. -/
theorem read_render (filled : fields ≠ []) (names : ∀ field ∈ fields, IsName field.1)
    (distinct : (fields.map Prod.fst).Nodup) (each : ∀ field ∈ fields, field.2.Storable depth)
    (room : 2 * depth + 2 < width) :
    read (render (.map (fields.map Value.ofField))) = .ok (.map (fields.map Value.ofField)) := by
  have printed := isPrinted_render filled names each
  obtain ⟨field, rest, rfl⟩ := List.exists_cons_of_ne_nil filled
  have named := names field (List.mem_cons_self ..)
  have reads : EntriesRead 0 (field :: rest) :=
    entriesRead filled names fun other member => (reads_of_storable (each other member) 0 (by omega)).2
  obtain ⟨c, more, begins, letter⟩ := writeEntries_begins 0 named rest
  obtain ⟨node, after, reads, stands, left⟩ := reads.blockNode named distinct
    (by omega : _ ≤ 4 * (writeEntries 0 true ((field :: rest).map Value.ofField)).length + 8) .done (-1) 0
  rw [List.append_nil, begins] at reads
  rw [List.map_cons, render, ← List.map_cons, begins] at printed ⊢
  exact read_of_blockNode printed (beginsToken_of_isNameChar letter)
    (startsMarker_name letter 0 more) reads stands (by rw [Cursor.next_done left])

end Schemata.Yaml
