import Schemata.Text.Range

/-!
Line ends of texts.
-/

namespace Schemata.Text

/-- Every line end, be it a carriage return, a line feed or both, as a line feed. -/
def withLineFeeds : Text → Text
  | [] => []
  | '\r' :: '\n' :: rest => '\n' :: withLineFeeds rest
  | '\r' :: rest => '\n' :: withLineFeeds rest
  | c :: rest => c :: withLineFeeds rest

theorem length_withLineFeeds_le (s : Text) : (withLineFeeds s).length ≤ s.length := by
  fun_induction withLineFeeds s with
  | case1 => exact Nat.le_refl 0
  | case2 rest ih => exact Nat.succ_le_succ (Nat.le_succ_of_le ih)
  | case3 rest _ ih | case4 c rest _ _ ih => exact Nat.succ_le_succ ih

theorem withLineFeeds_eq_self {s : Text} (carried : '\r' ∉ s) : withLineFeeds s = s := by
  fun_induction withLineFeeds s with
  | case1 => rfl
  | case2 rest ih => exact absurd (List.mem_cons_self ..) carried
  | case3 rest _ ih => exact absurd (List.mem_cons_self ..) carried
  | case4 c rest _ plain ih => rw [ih fun member => carried (List.mem_cons_of_mem c member)]

end Schemata.Text
