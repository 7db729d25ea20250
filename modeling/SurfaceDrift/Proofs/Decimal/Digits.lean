import Mathlib.Data.List.TakeDrop
import SurfaceDrift.Decimal.Notation
import SurfaceDrift.Decimal.Numeral

/-!
# Digits read back

The decimal digits of a number are digits (`isDigit_of_mem_digitsOf`), spell the number
(`value_digitsOf`) and begin with a zero for zero only (`head?_digitsOf_ne_zero`). A reader of
digits takes all of them, if what follows is no digit (`spanDigits_append`).
-/

namespace SurfaceDrift.Decimal

theorem valueFrom_eq (n : Nat) (digits : List Char) :
    valueFrom n digits = Nat.ofDigitChars 10 digits n := by
  induction digits generalizing n with
  | nil =>
    unfold valueFrom
    rw [Nat.ofDigitChars_nil]
  | cons c cs ih =>
    unfold valueFrom
    rw [ih, Nat.ofDigitChars_cons, digitValue]

theorem value_eq (digits : List Char) : value digits = Nat.ofDigitChars 10 digits 0 :=
  valueFrom_eq 0 digits

theorem value_digitsOf (n : Nat) : value (digitsOf n) = n := by
  rw [value_eq, digitsOf, Nat.ofDigitChars_ten_toDigits]

theorem isDigit_of_mem_digitsOf {n : Nat} {c : Char} (h : c ∈ digitsOf n) : c.isDigit = true :=
  Nat.isDigit_of_mem_toDigits (by omega) (by omega) h

theorem digitsOf_ne_nil (n : Nat) : digitsOf n ≠ [] := Nat.toDigits_ne_nil

theorem digitsOf_zero : digitsOf 0 = ['0'] := Nat.toDigits_zero 10

theorem digitChar_ne_zero : ∀ n < 10, 0 < n → n.digitChar ≠ '0' := by decide

/-- A number but zero does not begin with a zero. -/
theorem head?_digitsOf_ne_zero {n : Nat} (h : 0 < n) : (digitsOf n).head? ≠ some '0' := by
  induction n using Nat.strongRecOn with
  | ind n ih =>
    rcases Nat.lt_or_ge n 10 with hlt | hge
    · rw [digitsOf, Nat.toDigits_of_lt_base hlt, List.head?_cons, ne_eq, Option.some_inj]
      exact digitChar_ne_zero n hlt h
    · have hfirst := ih (n / 10) (by omega) (by omega)
      rw [digitsOf, Nat.toDigits_of_base_le (by omega) hge, List.head?_append]
      cases hhead : (Nat.toDigits 10 (n / 10)).head? with
      | none => exact absurd (List.head?_eq_none_iff.mp hhead) Nat.toDigits_ne_nil
      | some c =>
        rw [digitsOf, hhead] at hfirst
        simpa using hfirst

theorem spanDigits_append {ds rest : List Char} (hds : ∀ c ∈ ds, c.isDigit = true)
    (hrest : ∀ c ∈ rest.head?, c.isDigit = false) : spanDigits (ds ++ rest) = (ds, rest) := by
  have hstop : rest.takeWhile Char.isDigit = [] ∧ rest.dropWhile Char.isDigit = rest := by
    cases rest with
    | nil => simp
    | cons c rest => simp [hrest c rfl]
  rw [spanDigits, List.span_eq_takeWhile_dropWhile, List.takeWhile_append_of_pos hds,
    List.dropWhile_append_of_pos hds, hstop.1, hstop.2, List.append_nil]

end SurfaceDrift.Decimal
