/-!
Results that can be errors. A reading takes a value apart, so it can break down where the value has not the shape
that the reading relies on, and it can refuse a value of the right shape. `Settled` tells the two apart;
`FailsWith` only bounds the errors that there can be.
-/

namespace Schemata

variable {ε δ α β : Type}

theorem bind_eq_ok {first : Except ε α} {next : α → Except ε β} {b : β} :
    first >>= next = .ok b ↔ ∃ a, first = .ok a ∧ next a = .ok b := by
  cases first with
  | error => simp [bind, Except.bind]
  | ok a => simp [bind, Except.bind]

theorem mapError_eq_ok {change : ε → δ} {result : Except ε α} {a : α} :
    result.mapError change = .ok a ↔ result = .ok a := by
  cases result with
  | error => exact iff_of_false nofun nofun
  | ok other => exact ⟨fun same => Except.ok.inj same ▸ rfl, fun same => Except.ok.inj same ▸ rfl⟩

theorem map_eq_ok {f : α → β} {result : Except ε α} {b : β} :
    result.map f = .ok b ↔ ∃ a, result = .ok a ∧ f a = b := by
  cases result with
  | error => exact iff_of_false nofun nofun
  | ok a => simp [Except.map]

section

variable {read : α → Except ε β} {list : List α}

theorem mapM_cons_eq_ok {a : α} {found : List β} : (a :: list).mapM read = .ok found ↔
    ∃ b others, read a = .ok b ∧ list.mapM read = .ok others ∧ found = b :: others := by
  rw [List.mapM_cons, bind_eq_ok]
  constructor
  · rintro ⟨b, here, further⟩
    obtain ⟨others, later, same⟩ := bind_eq_ok.mp further
    exact ⟨b, others, here, later, (Except.ok.inj same).symm⟩
  · rintro ⟨b, others, here, later, rfl⟩
    exact ⟨b, here, bind_eq_ok.mpr ⟨others, later, rfl⟩⟩

theorem exists_of_mem_mapM {found : List β} {b : β} (all : list.mapM read = .ok found) (member : b ∈ found) :
    ∃ a ∈ list, read a = .ok b := by
  induction list generalizing found with
  | nil =>
      rw [List.mapM_nil] at all
      cases all
      cases member
  | cons a rest ih =>
      obtain ⟨first, others, here, later, rfl⟩ := mapM_cons_eq_ok.mp all
      rcases List.mem_cons.mp member with rfl | inside
      · exact ⟨a, List.mem_cons_self .., here⟩
      · obtain ⟨a, among, reads⟩ := ih later inside
        exact ⟨a, List.mem_cons_of_mem _ among, reads⟩

theorem mem_of_mapM {found : List β} {a : α} (all : list.mapM read = .ok found) (member : a ∈ list) :
    ∃ b ∈ found, read a = .ok b := by
  induction list generalizing found with
  | nil => cases member
  | cons c rest ih =>
      obtain ⟨first, others, here, later, rfl⟩ := mapM_cons_eq_ok.mp all
      rcases List.mem_cons.mp member with rfl | inside
      · exact ⟨first, List.mem_cons_self .., here⟩
      · obtain ⟨b, among, reads⟩ := ih later inside
        exact ⟨b, List.mem_cons_of_mem _ among, reads⟩

theorem length_of_mapM {found : List β} (all : list.mapM read = .ok found) : found.length = list.length := by
  induction list generalizing found with
  | nil =>
      rw [List.mapM_nil] at all
      cases all
      rfl
  | cons a rest ih =>
      obtain ⟨first, others, _, later, rfl⟩ := mapM_cons_eq_ok.mp all
      exact congrArg Nat.succ (ih later)

theorem forM_eq_ok {check : α → Except ε Unit} (each : ∀ a ∈ list, check a = .ok ()) :
    list.forM check = .ok () := by
  induction list with
  | nil => rfl
  | cons a rest ih =>
      obtain ⟨first, others⟩ := List.forall_mem_cons.mp each
      exact bind_eq_ok.mpr ⟨(), first, ih others⟩

theorem exists_mapM (each : ∀ a ∈ list, ∃ b, read a = .ok b) : ∃ found, list.mapM read = .ok found := by
  induction list with
  | nil => exact ⟨[], List.mapM_nil⟩
  | cons a rest ih =>
      obtain ⟨⟨b, here⟩, others⟩ := List.forall_mem_cons.mp each
      obtain ⟨found, later⟩ := ih others
      exact ⟨b :: found, mapM_cons_eq_ok.mpr ⟨b, found, here, later, rfl⟩⟩

end

/-- Each error of the result is one of the expected ones. -/
def FailsWith (expected : ε → Prop) (result : Except ε α) : Prop :=
  ∀ error, result = .error error → expected error

namespace FailsWith

variable {expected : ε → Prop} {result : Except ε α}

theorem of_eq_ok {a : α} (succeeded : result = .ok a) : FailsWith expected result :=
  fun _ failed => nomatch succeeded.symm.trans failed

theorem bind {next : α → Except ε β} (first : FailsWith expected result)
    (second : ∀ a, result = .ok a → FailsWith expected (next a)) : FailsWith expected (result >>= next) := by
  cases result with
  | error cause => exact fun _ failed => Except.error.inj failed ▸ first cause rfl
  | ok a => exact second a rfl

theorem mapM {read : α → Except ε β} {items : List α} (each : ∀ item, FailsWith expected (read item)) :
    FailsWith expected (items.mapM read) := by
  induction items with
  | nil => exact of_eq_ok List.mapM_nil
  | cons item rest ih =>
      rw [List.mapM_cons]
      exact (each item).bind fun _ _ => ih.bind fun _ _ => of_eq_ok rfl

theorem mapError {change : ε → δ} {expected : δ → Prop} (fails : FailsWith (expected ∘ change) result) :
    FailsWith expected (result.mapError change) := by
  cases result with
  | error cause => exact fun _ failed => Except.error.inj failed ▸ fails cause rfl
  | ok a => exact of_eq_ok rfl

end FailsWith

/-- The outcome of reading what may lack the shape for it, or may not be allowed. -/
structure Settled (refuses breaks : ε → Prop) (result : Except ε α) (shaped allowed : Prop) : Prop where
  accepted : ∀ a, result = .ok a → shaped ∧ allowed
  failed : ∀ error, result = .error error → refuses error ∧ ¬ allowed ∨ breaks error ∧ ¬ shaped

namespace Settled

variable {refuses breaks : ε → Prop} {result : Except ε α} {shaped allowed : Prop}

theorem ok {a : α} (yes : shaped) (right : allowed) :
    Settled refuses breaks (.ok a : Except ε α) shaped allowed :=
  ⟨fun _ _ => ⟨yes, right⟩, nofun⟩

theorem done (a : α) : Settled refuses breaks (.ok a : Except ε α) True True :=
  ok ⟨⟩ ⟨⟩

theorem refusal {error : ε} (refused : refuses error) (wrong : ¬ allowed) :
    Settled refuses breaks (.error error : Except ε α) shaped allowed :=
  ⟨nofun, fun _ failed => Or.inl ⟨Except.error.inj failed ▸ refused, wrong⟩⟩

theorem breakdown {error : ε} (broken : breaks error) (unfit : ¬ shaped) :
    Settled refuses breaks (.error error : Except ε α) shaped allowed :=
  ⟨nofun, fun _ failed => Or.inr ⟨Except.error.inj failed ▸ broken, unfit⟩⟩

theorem congr {shaped' allowed' : Prop} (settled : Settled refuses breaks result shaped allowed)
    (shape : shaped ↔ shaped') (allowance : allowed ↔ allowed') :
    Settled refuses breaks result shaped' allowed' := by
  rwa [← propext shape, ← propext allowance]

theorem ok_iff (settled : Settled refuses breaks result shaped allowed) :
    (∃ a, result = .ok a) ↔ shaped ∧ allowed := by
  cases result with
  | ok a => exact iff_of_true ⟨a, rfl⟩ (settled.accepted a rfl)
  | error cause =>
      refine iff_of_false nofun fun both => ?_
      rcases settled.failed cause rfl with ⟨_, wrong⟩ | ⟨_, unfit⟩
      · exact wrong both.2
      · exact unfit both.1

theorem refuses_of_shaped (settled : Settled refuses breaks result shaped allowed) (yes : shaped) :
    FailsWith refuses result := fun error failed => by
  rcases settled.failed error failed with ⟨refused, _⟩ | ⟨_, unfit⟩
  · exact refused
  · exact absurd yes unfit

theorem breaks_of_not_shaped (settled : Settled refuses breaks result shaped allowed) (right : allowed)
    (unfit : ¬ shaped) : ∃ error, result = .error error ∧ breaks error := by
  cases result with
  | ok a => exact absurd (settled.accepted a rfl).1 unfit
  | error cause =>
      rcases settled.failed cause rfl with ⟨_, wrong⟩ | ⟨broken, _⟩
      · exact absurd right wrong
      · exact ⟨cause, rfl, broken⟩

theorem bind {next : α → Except ε β} {shaped' allowed' : Prop}
    (first : Settled refuses breaks result shaped allowed)
    (second : ∀ a, result = .ok a → Settled refuses breaks (next a) shaped' allowed') :
    Settled refuses breaks (result >>= next) (shaped ∧ shaped') (allowed ∧ allowed') := by
  cases result with
  | error cause =>
      rcases first.failed cause rfl with ⟨refused, wrong⟩ | ⟨broken, unfit⟩
      · exact refusal refused fun both => wrong both.1
      · exact breakdown broken fun both => unfit both.1
  | ok a =>
      obtain ⟨yes, right⟩ := first.accepted a rfl
      exact (second a rfl).congr (and_iff_right yes).symm (and_iff_right right).symm

theorem mapError {change : ε → δ} {refuses breaks : δ → Prop}
    (settled : Settled (refuses ∘ change) (breaks ∘ change) result shaped allowed) :
    Settled refuses breaks (result.mapError change) shaped allowed := by
  cases result with
  | error cause =>
      rcases settled.failed cause rfl with ⟨refused, wrong⟩ | ⟨broken, unfit⟩
      · exact refusal refused wrong
      · exact breakdown broken unfit
  | ok a => exact ok (settled.accepted a rfl).1 (settled.accepted a rfl).2

theorem mapM {read : α → Except ε β} {fits permits : α → Prop} {items : List α}
    (each : ∀ item, Settled refuses breaks (read item) (fits item) (permits item)) :
    Settled refuses breaks (items.mapM read) (∀ item ∈ items, fits item) (∀ item ∈ items, permits item) := by
  induction items with
  | nil => exact ok (by simp) (by simp)
  | cons item rest ih =>
      rw [List.mapM_cons]
      refine ((each item).bind fun _ _ => ih.bind fun _ _ => done _).congr ?_ ?_ <;> simp

end Settled

end Schemata
