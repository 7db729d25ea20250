import Mathlib.Data.List.Basic
import SurfaceDrift.Text.Edits

/-!
# Rows of edit costs

`cost` is the recursion behind the edit distance : the last characters of two texts are taken
for each other, or one of them is taken alone. A text is written backwards here, so that its
last character comes first. The row for a beginning of the first text holds its costs against
every beginning of the second (`costRow`), one character more takes such a row to the next one
(`nextRow_costRow`), and the distance is the cost of the whole texts (`editDistance_eq_cost`).
-/

namespace SurfaceDrift.Text

/-! ## The recursion -/

/-- The least cost of taking the characters of two texts for each other in order, where one for
a different one costs as much as one that is taken alone. -/
def cost : List Char → List Char → Nat
  | [], y => y.length
  | x, [] => x.length
  | c :: x, d :: y =>
    min (min (cost x y + if c = d then 0 else 1) (cost x (d :: y) + 1)) (cost (c :: x) y + 1)

theorem cost_nil_left (y : List Char) : cost [] y = y.length := by
  rw [cost]

theorem cost_nil_right (x : List Char) : cost x [] = x.length := by
  cases x <;> rw [cost]
  simp

theorem cost_self (x : List Char) : cost x x = 0 := by
  induction x with
  | nil => exact cost_nil_left []
  | cons c x ih => simp [cost, ih]

/-! ## Rows -/

/-- The costs of `x` against `y` and against what more of the second text makes of `y`. -/
def costRow (x y : List Char) : List Char → List Nat
  | [] => [cost x y]
  | d :: ds => cost x y :: costRow x (d :: y) ds

theorem costRow_eq_cons (x y ds : List Char) :
    costRow x y ds = cost x y :: (costRow x y ds).tail := by
  cases ds <;> rfl

/-- Every entry is found from those to the left, above and above to the left. -/
theorem nextRowFrom_costRow (c : Char) (x y ds : List Char) :
    nextRowFrom c (cost (c :: x) y) (cost x y) ds (costRow x y ds).tail =
      (costRow (c :: x) y ds).tail := by
  induction ds generalizing y with
  | nil => rfl
  | cons d ds ih =>
    have hentry : min (min (cost x y + if c = d then 0 else 1) (cost x (d :: y) + 1))
        (cost (c :: x) y + 1) = cost (c :: x) (d :: y) := by rw [cost]
    rw [costRow, costRow, List.tail_cons, List.tail_cons, costRow_eq_cons x (d :: y) ds,
      nextRowFrom, hentry, ih, ← costRow_eq_cons]

theorem nextRow_costRow (c : Char) (x b : List Char) :
    nextRow c b (costRow x [] b) = costRow (c :: x) [] b := by
  have hfirst : cost x [] + 1 = cost (c :: x) [] := by
    rw [cost_nil_right, cost_nil_right, List.length_cons]
  rw [costRow_eq_cons x, nextRow, hfirst, nextRowFrom_costRow, ← costRow_eq_cons]

theorem lastRow_costRow (a x b : List Char) :
    lastRow b a (costRow x [] b) = costRow (a.reverse ++ x) [] b := by
  induction a generalizing x with
  | nil => rfl
  | cons c a ih => rw [lastRow, nextRow_costRow, ih, List.reverse_cons, List.append_assoc]; rfl

/-- Against no text the costs are the lengths. -/
theorem costRow_nil (y ds : List Char) :
    costRow [] y ds = List.range' y.length (ds.length + 1) := by
  induction ds generalizing y with
  | nil => simp [costRow, cost_nil_left]
  | cons d ds ih => rw [costRow, ih, cost_nil_left, List.length_cons, List.length_cons,
      List.range'_succ (n := ds.length + 1)]

theorem getLastD_costRow (x y ds : List Char) :
    (costRow x y ds).getLastD 0 = cost x (ds.reverse ++ y) := by
  induction ds generalizing y with
  | nil => rfl
  | cons d ds ih =>
    rw [List.reverse_cons, List.append_assoc, List.singleton_append, ← ih, costRow,
      costRow_eq_cons x (d :: y)]
    rfl

/-! ## The distance -/

theorem editDistance_eq_cost (a b : String) :
    editDistance a b = cost a.toList.reverse b.toList.reverse := by
  have hrange : List.range (b.length + 1) = costRow [] [] b.toList := by
    rw [costRow_nil, String.length_toList, List.range_eq_range', List.length_nil]
  rw [editDistance, hrange, lastRow_costRow, getLastD_costRow, List.append_nil, List.append_nil]

@[simp] theorem editDistance_self (s : String) : editDistance s s = 0 := by
  rw [editDistance_eq_cost, cost_self]

end SurfaceDrift.Text
