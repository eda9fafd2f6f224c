import Schemata.Inference.Compatibility
import Schemata.Proofs.Ddl.Parenthesized
import Schemata.Proofs.Text.Lower

/-!
Compatibility of declared types. A normal form has no list in parentheses, no blanks at its ends and no capitals,
and each of these is kept by what normalizing does after it, so that normalizing once more changes nothing. Two
types are then compatible exactly if they are of one kind, which is a family or, outside of the families, a normal
form.
-/

namespace Schemata

open Text Ddl

variable {one other : Text}

/-! ### Normal forms -/

theorem closesNone_trim {text : Text} (none' : ClosesNone text) : ClosesNone (trim text) :=
  fun sublist => none' (sublist.trans (trim_sublist text))

theorem closesNone_lower {text : Text} : ClosesNone (lower text) ↔ ClosesNone text := by
  have neutral : ∀ c ∈ ['(', ')'], IsNeutral c := fun c member =>
    IsSign.isNeutral ((by decide : ∀ c ∈ ['(', ')'], IsSign c) c member)
  exact not_congr (sublist_lower_iff neutral text)

theorem closesNone_normalizeType (dataType : Text) : ClosesNone (normalizeType dataType) :=
  closesNone_lower.mpr (closesNone_trim (closesNone_replaced dataType))

/-- A normal form is its own normal form. -/
@[simp] theorem normalizeType_normalizeType (dataType : Text) :
    normalizeType (normalizeType dataType) = normalizeType dataType := by
  have trimmed : trim (normalizeType dataType) = normalizeType dataType := trim_lower_trim _
  have small : lower (normalizeType dataType) = normalizeType dataType := lower_lower _
  rw [normalizeType.eq_def (normalizeType dataType), (closesNone_normalizeType dataType).replaced_eq, trimmed, small]

/-! ### Kinds -/

theorem typeFamily?_congr (same : normalizeType one = normalizeType other) : typeFamily? one = typeFamily? other := by
  rw [typeFamily?, typeFamily?, same]

theorem typeFamily?_normalizeType (dataType : Text) : typeFamily? (normalizeType dataType) = typeFamily? dataType :=
  typeFamily?_congr (normalizeType_normalizeType dataType)

/-- What types must have in common to be compatible: their family, or their normal form if they are in none. -/
def typeKind (dataType : Text) : TypeFamily ⊕ Text :=
  match typeFamily? dataType with
  | some family => .inl family
  | none => .inr (normalizeType dataType)

theorem typeKind_congr (same : normalizeType one = normalizeType other) : typeKind one = typeKind other := by
  rw [typeKind, typeKind, typeFamily?_congr same, same]

theorem areTypesCompatible_iff :
    areTypesCompatible one other = true ↔ normalizeType one = normalizeType other ∨
      ∃ family, typeFamily? one = some family ∧ typeFamily? other = some family := by
  simp only [areTypesCompatible, typeFamily?_normalizeType, Bool.or_eq_true, Bool.and_eq_true, beq_iff_eq,
    Option.isSome_iff_exists]
  refine or_congr_right ⟨?_, ?_⟩
  · rintro ⟨⟨family, known⟩, same⟩
    exact ⟨family, known, same ▸ known⟩
  · rintro ⟨family, known, known'⟩
    exact ⟨⟨family, known⟩, known.trans known'.symm⟩

/-- Types are compatible exactly if they are of one kind. -/
theorem areTypesCompatible_iff_typeKind_eq :
    areTypesCompatible one other = true ↔ typeKind one = typeKind other := by
  rw [areTypesCompatible_iff]
  constructor
  · rintro (same | ⟨family, known, known'⟩)
    · exact typeKind_congr same
    · rw [typeKind, typeKind, known, known']
  · intro same
    rw [typeKind, typeKind] at same
    cases known : typeFamily? one with
    | none =>
        cases known' : typeFamily? other with
        | none =>
            rw [known, known'] at same
            exact .inl (Sum.inr.inj same)
        | some family' =>
            rw [known, known'] at same
            cases same
    | some family =>
        cases known' : typeFamily? other with
        | none =>
            rw [known, known'] at same
            cases same
        | some family' =>
            rw [known, known'] at same
            obtain rfl := Sum.inl.inj same
            exact .inr ⟨family, rfl, rfl⟩

/-- Types in no family are compatible only with types of the same normal form. -/
theorem areTypesCompatible_iff_of_familyless (familyless : typeFamily? one = none ∨ typeFamily? other = none) :
    areTypesCompatible one other = true ↔ normalizeType one = normalizeType other := by
  rw [areTypesCompatible_iff, or_iff_left]
  rintro ⟨family, known, known'⟩
  rcases familyless with unknown | unknown
  · cases unknown.symm.trans known
  · cases unknown.symm.trans known'

/-- Compatibility is an equivalence relation on declared types, and one on their normal forms, which is equality
outside of the families. -/
theorem areTypesCompatible_equivalence :
    (∀ dataType, normalizeType (normalizeType dataType) = normalizeType dataType) ∧
    Equivalence (fun one other => areTypesCompatible one other = true) ∧
    (∀ one one' other other', normalizeType one = normalizeType one' → normalizeType other = normalizeType other' →
      areTypesCompatible one other = areTypesCompatible one' other') ∧
    ∀ one other, typeFamily? one = none ∨ typeFamily? other = none →
      (areTypesCompatible one other = true ↔ normalizeType one = normalizeType other) := by
  refine ⟨normalizeType_normalizeType, ?_, fun one one' other other' same same' => ?_,
    fun _ _ => areTypesCompatible_iff_of_familyless⟩
  · simp only [areTypesCompatible_iff_typeKind_eq]
    exact InvImage.equivalence Eq typeKind eq_equivalence
  · rw [Bool.eq_iff_iff, areTypesCompatible_iff_typeKind_eq, areTypesCompatible_iff_typeKind_eq, typeKind_congr same,
      typeKind_congr same']

theorem areTypesCompatible_equivalence_nested :
    normalizeType "INT((10)".toList = normalizeType " int ".toList ∧
      areTypesCompatible "INT((10)".toList "serial".toList = areTypesCompatible " int ".toList "serial".toList ∧
      typeFamily? "Point((2), 4)".toList = none ∧
      areTypesCompatible "Point((2), 4)".toList "POINT, 4)()".toList = true := by
  obtain ⟨_, _, normal, familyless⟩ := areTypesCompatible_equivalence
  have same : normalizeType "INT((10)".toList = normalizeType " int ".toList := by decide +kernel
  have unknown : typeFamily? "Point((2), 4)".toList = none := by decide +kernel
  exact ⟨same, normal _ _ _ _ same rfl, unknown, (familyless _ _ (.inl unknown)).mpr (by decide +kernel)⟩

end Schemata
