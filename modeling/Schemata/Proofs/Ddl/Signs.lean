import Schemata.Proofs.Ddl.Identifiers
import Schemata.Proofs.Script.Separated
import Schemata.Proofs.Text.Lower

/-!
Signs in names, such as apostrophes and commas. What is read of a text is a part of it, and neither trimming nor
lower case makes a sign, so a name has no more of them than the text that it is read from.
-/

namespace Schemata

namespace Text

theorem not_isSign_of_isBlank {c : Char} : isBlank c = true → ¬ IsSign c :=
  of_isBlank (¬ IsSign ·) (by decide +kernel)

theorem IsSign.count_trim {sign : Char} (isSign : IsSign sign) (text : Text) :
    (trim text).count sign = text.count sign := by
  obtain ⟨gap, trail, split, before, after, _⟩ := exists_trim text
  have none' : ∀ {side : Text}, (∀ c ∈ side, isBlank c = true) → side.count sign = 0 := fun blank =>
    List.count_eq_zero.mpr fun member => absurd isSign (not_isSign_of_isBlank (blank _ member))
  have whole := congrArg (List.count sign) split
  rw [List.count_append, List.count_append, none' before, none' after, Nat.zero_add, Nat.add_zero] at whole
  exact whole.symm

end Text

namespace Script

/-- Each item is a part of the list that is cut. -/
theorem sublist_of_mem_items {list item : Text} (member : item ∈ items list) : item.Sublist list := by
  obtain ⟨left, right, rfl, _⟩ := endsItem_separates.exists_place_of_mem_pieces member
  exact (List.sublist_append_left item right).trans (List.sublist_append_right left _)

end Script

theorem Span.sublist (span : Span) : span.text.Sublist span.start :=
  List.take_sublist ..

namespace Reader

variable {α : Type} {reader : Reader α} {text : Text} {span : Span}

/-- Each stretch that is read is a part of the text. -/
theorem sublist_of_mem_all (leaves : reader.LeavesEnd) (member : span ∈ (captured reader).all text) :
    span.text.Sublist text := by
  suffices general : ∀ count (text : Text), span ∈ (captured reader).scan count text → span.text.Sublist text from
    general _ _ member
  clear member
  intro count
  induction count with
  | zero => exact fun _ member => by cases member
  | succ count ih =>
      intro text member
      cases text with
      | nil => cases member
      | cons c rest =>
          rw [scan] at member
          split at member
          · rename_i found left read
            obtain ⟨rfl, a, inside⟩ := mem_captured.mp (List.mem_of_mem_head? read)
            rcases List.mem_cons.mp member with rfl | later
            · exact Span.sublist _
            · exact (ih left later).trans (leaves _ _ inside).sublist
          · exact (ih rest member).cons c

end Reader

namespace Ddl

open Text Reader

variable {name list : Text} {sign : Char}

theorem identifier_leavesEnd (starts : Char → Bool) : (identifier starts).LeavesEnd := by
  intro text way member
  rcases mem_identifier.mp member with ⟨opening, closing, inner, _, _, _, rfl⟩ | ⟨c, more, rfl, _⟩
  · exact ⟨opening :: inner ++ [closing], by simp⟩
  · exact ⟨c :: more, rfl⟩

theorem unquoted_sublist (written : Text) : (unquoted written).Sublist written := by
  cases written with
  | nil => exact List.Sublist.refl []
  | cons c rest =>
      rw [unquoted]
      split
      · exact (List.dropLast_sublist rest).cons c
      · exact List.Sublist.refl _

theorem count_normalizeIdentifier_le (isSign : IsSign sign) (written : Text) :
    (normalizeIdentifier written).count sign ≤ written.count sign := by
  have last : ((((captured (identifier startsName)).all (trim written)).getLast?.map Span.text).getD
      (trim written)).Sublist (trim written) := by
    cases found : ((captured (identifier startsName)).all (trim written)).getLast? with
    | none => exact List.Sublist.refl _
    | some span => exact sublist_of_mem_all (identifier_leavesEnd _) (List.mem_of_getLast? found)
  rw [normalizeIdentifier, isSign.count_lower, isSign.count_trim]
  exact ((unquoted_sublist _).trans (last.trans (trim_sublist written))).count_le _

theorem count_columnOf_le (isSign : IsSign sign) {item : Text} (named : columnOf item = some name) :
    name.count sign ≤ item.count sign := by
  obtain ⟨⟨written, left⟩, read, rfl⟩ := Option.map_eq_some_iff.mp named
  obtain ⟨rfl, _⟩ := mem_captured.mp (List.mem_of_mem_head? read)
  have part : (Span.text ⟨trim item, left⟩).Sublist item := (Span.sublist _).trans (trim_sublist item)
  exact (count_normalizeIdentifier_le isSign _).trans (part.count_le _)

theorem count_le_of_mem_columnList (isSign : IsSign sign) (member : name ∈ columnList list) :
    name.count sign ≤ list.count sign := by
  obtain ⟨item, inside, named⟩ := List.mem_filterMap.mp member
  exact (count_columnOf_le isSign named).trans ((Script.sublist_of_mem_items inside).count_le _)

end Ddl

end Schemata
