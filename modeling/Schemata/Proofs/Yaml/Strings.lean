import Schemata.Document.Json
import Schemata.Proofs.Text.Halves
import Schemata.Proofs.Yaml.Printed

/-!
The texts of JSON documents as scalars in double quotes. They read as they were, but for code points beyond
sixteen bits: these are written as surrogate pairs, and each half reads as a character of its own.
-/

namespace Schemata.Yaml

variable {written s left : Text} {c : Char}

/-- The characters that are written as a backslash and a letter. -/
def letterPairs : List (Char × Char) :=
  [('"', '"'), ('\\', '\\'), ('\n', 'n'), ('\r', 'r'), ('\t', 't'), ('\x08', 'b'), ('\x0c', 'f')]

theorem escapedChar_letter {letter : Char} (paired : (c, letter) ∈ letterPairs) :
    Json.escapedChar c = ['\\', letter] := by
  have checked : ∀ pair ∈ letterPairs, Json.escapedChar pair.1 = ['\\', pair.2] := by decide
  exact checked _ paired

theorem escapedChar_other (unpaired : ∀ pair ∈ letterPairs, c ≠ pair.1) :
    Json.escapedChar c =
      if 32 ≤ c.toNat ∧ c.toNat < 127 then [c] else Json.pointEscape (Text.codeOf c) := by
  simp only [letterPairs, List.forall_mem_cons] at unpaired
  obtain ⟨quote, backslash, feed, carriage, tab, back, form, _⟩ := unpaired
  rw [Json.escapedChar, if_neg quote, if_neg backslash, if_neg feed, if_neg carriage, if_neg tab, if_neg back,
    if_neg form]

theorem spellsHex_hexDigits : SpellsHex Text.hexDigit Text.hexDigits :=
  ⟨fun _ => rfl, fun _ _ => rfl, by decide⟩

theorem DoubleReads.unit {n : Nat} (reads : DoubleReads written s left) (small : n < 0x10000) :
    DoubleReads (Json.unitEscape n ++ written) (Text.charOf n :: s) left := by
  have read : readEscape ('u' :: Text.hexDigits 4 n ++ written) = .ok ([Text.charOf n], written) :=
    spellsHex_hexDigits.readEscape (by simp) small (by omega) written
  exact reads.escape read

theorem pointEscape_begins (n : Nat) : ∃ more, Json.pointEscape n = '\\' :: more := by
  rw [Json.pointEscape]
  split
  · exact ⟨_, rfl⟩
  · exact ⟨_, rfl⟩

/-- A printed character without a letter is written as itself. -/
theorem shown_of_printed (printed : 32 ≤ c.toNat ∧ c.toNat < 127) : needsEscape c = false ∧ c ≠ '\n' := by
  refine ⟨by simp [needsEscape, printed.1, Nat.le_of_lt_succ printed.2], ?_⟩
  rintro rfl
  exact absurd printed.1 (by decide)

theorem escapedChar_begins (filled : c ≠ ' ') :
    ∃ d more, Json.escapedChar c = d :: more ∧ isSolid d = true := by
  have backslash : isSolid '\\' = true := by decide
  by_cases paired : ∃ pair ∈ letterPairs, c = pair.1
  · obtain ⟨pair, member, rfl⟩ := paired
    exact ⟨_, _, escapedChar_letter member, backslash⟩
  · rw [escapedChar_other fun pair member same => paired ⟨pair, member, same⟩]
    split
    · rename_i printed
      obtain ⟨shown, inside⟩ := shown_of_printed printed
      exact ⟨c, [], rfl, isSolid_of_shown shown filled inside⟩
    · obtain ⟨more, begins⟩ := pointEscape_begins (Text.codeOf c)
      exact ⟨_, more, begins, backslash⟩

theorem DoubleReads.pointEscape (reads : DoubleReads written s left) (c : Char) :
    DoubleReads (Json.pointEscape (Text.codeOf c) ++ written) (Text.halvesOf c ++ s) left := by
  rw [Json.pointEscape, Text.halvesOf]
  split
  · rename_i small
    have unit := reads.unit small
    rwa [charOf_codeOf] at unit
  · have valid := codeOf_le c
    rw [List.append_assoc]
    exact (reads.unit (by omega)).unit (by omega)

theorem DoubleReads.escapedChar (reads : DoubleReads written s left) (filled : c ≠ ' ') :
    DoubleReads (Json.escapedChar c ++ written) (Text.halvesOf c ++ s) left := by
  by_cases paired : ∃ pair ∈ letterPairs, c = pair.1
  · obtain ⟨pair, member, rfl⟩ := paired
    have checked : ∀ pair ∈ letterPairs, letterEscape? pair.2 = some pair.1.toNat ∧
        Text.charOf pair.1.toNat = pair.1 ∧ Text.halvesOf pair.1 = [pair.1] := by decide
    obtain ⟨found, char, whole⟩ := checked pair member
    have read : readEscape ([pair.2] ++ written) = .ok ([pair.1], written) := by
      rw [List.singleton_append, readEscape, found]
      dsimp only
      rw [char]
      rfl
    rw [escapedChar_letter member, whole]
    exact reads.escape read
  · have unpaired : ∀ pair ∈ letterPairs, c ≠ pair.1 := fun pair member same => paired ⟨pair, member, same⟩
    rw [escapedChar_other unpaired]
    split
    · rename_i printed
      obtain ⟨shown, inside⟩ := shown_of_printed printed
      have small : Text.codeOf c < 0x10000 := Nat.lt_of_le_of_lt (Text.codeOf_le_toNat c) (by omega)
      rw [Text.halvesOf_of_small small]
      exact reads.char (not_isSeparator shown inside filled) (unpaired ('"', '"') (by decide))
        (unpaired ('\\', '\\') (by decide))
    · exact reads.pointEscape c

/-- A text between the quotes of JSON, together with the blanks before it. -/
theorem doubleReads_escaped (left s : Text) (count : Nat) :
    DoubleReads (blanks count ++ (s.flatMap Json.escapedChar ++ '"' :: left))
      (blanks count ++ Text.halved s) left := by
  induction s generalizing count with
  | nil => exact (DoubleReads.close left).blanks (by decide) count
  | cons c rest ih =>
      rw [List.flatMap_cons, Text.halved_cons, List.append_assoc]
      by_cases blank : c = ' '
      · subst blank
        have reads := ih (count + 1)
        rw [← blanks_append, ← blanks_append] at reads
        exact reads
      · have reads := (ih 0).escapedChar blank
        obtain ⟨d, more, begins, solid⟩ := escapedChar_begins blank
        rw [begins] at reads ⊢
        exact reads.blanks solid count

theorem readQuoted_json (left s : Text) :
    readQuoted '"' (s.flatMap Json.escapedChar ++ '"' :: left) = .ok (Text.halved s, left) :=
  doubleReads_escaped left s 0 _ (Nat.lt_succ_self _)

theorem isPrinted_unitEscape (n : Nat) : IsPrinted (Json.unitEscape n) :=
  isPrinted_append.mpr ⟨by decide, spellsHex_hexDigits.isPrinted 4 n⟩

theorem isPrinted_escapedChar (c : Char) : IsPrinted (Json.escapedChar c) := by
  by_cases paired : ∃ pair ∈ letterPairs, c = pair.1
  · obtain ⟨pair, member, rfl⟩ := paired
    have checked : ∀ pair ∈ letterPairs, IsPrinted ['\\', pair.2] := by decide
    rw [escapedChar_letter member]
    exact checked pair member
  · rw [escapedChar_other fun pair member same => paired ⟨pair, member, same⟩]
    split
    · rename_i printed
      simp [(shown_of_printed printed).1]
    · rw [Json.pointEscape]
      split
      · exact isPrinted_unitEscape _
      · exact isPrinted_append.mpr ⟨isPrinted_unitEscape _, isPrinted_unitEscape _⟩

theorem isPrinted_quoted (s : Text) : IsPrinted (Json.quoted s) := by
  have quote : needsEscape '"' = false := by decide
  have inside : IsPrinted (s.flatMap Json.escapedChar) := by
    intro c member
    obtain ⟨d, _, written⟩ := List.mem_flatMap.mp member
    exact isPrinted_escapedChar d c written
  simp [Json.quoted, quote, inside]

end Schemata.Yaml
