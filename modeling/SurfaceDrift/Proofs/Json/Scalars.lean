import Mathlib.Data.List.Basic
import SurfaceDrift.Json.Printer
import SurfaceDrift.Json.Reader
import SurfaceDrift.Proofs.Decimal.Digits

/-!
# Texts and whole numbers in JSON

A text in quotes is read back (`readText_quote`) : each character is read from its escape
(`readChars_escape`), the short one, that of a code below 32 or the character itself. A whole number
that 64 bits hold is read back (`readNumber_integerText`), if what follows cannot carry it on. In a
document a value is followed by a separator, the end of its container, a line break or nothing
(`Closes`).
-/

namespace SurfaceDrift.Json

open Text (hexNumber?)

/-! ## Texts -/

/-- Two digits of base sixteen for each code below 32. -/
theorem hexNumber?_hexDigit :
    ∀ n < 32, hexNumber? ['0', '0', hexDigit (n / 16), hexDigit (n % 16)] = some n := by
  decide +kernel

/-- A control character without a short escape. -/
theorem readChars_code {n : Nat} (h : n < 32) (rest : List Char) :
    readChars ('\\' :: 'u' :: '0' :: '0' :: hexDigit (n / 16) :: hexDigit (n % 16) :: rest) =
      (readChars rest).map fun p => (Char.ofNat n :: p.1, p.2) := by
  have hleading : isLeading n = false := by simp [isLeading]; omega
  have htrailing : isTrailing n = false := by simp [isTrailing]; omega
  rw [readChars, hexNumber?_hexDigit n h]
  simp [hleading, htrailing]

/-- A character that needs no escape. -/
theorem readChars_plain {c : Char} (hquote : c ≠ '"') (hbackslash : c ≠ '\\') (h : ¬ c.toNat < 32)
    (rest : List Char) :
    readChars (c :: rest) = (readChars rest).map fun p => (c :: p.1, p.2) := by
  rw [readChars, if_neg h]
  · exact hquote
  · exact fun _ _ _ _ _ heq => absurd heq hbackslash
  · exact fun _ _ heq => absurd heq hbackslash

/-- A character is read back from its escape. -/
theorem readChars_escape (c : Char) (rest : List Char) :
    readChars (escape c ++ rest) = (readChars rest).map fun p => (c :: p.1, p.2) := by
  unfold escape
  split_ifs with hquote hbackslash hbreak htab hreturn hback hfeed hcode
  · subst hquote
    rfl
  · subst hbackslash
    rfl
  · subst hbreak
    rfl
  · subst htab
    rfl
  · subst hreturn
    rfl
  · subst hback
    rfl
  · subst hfeed
    rfl
  · simpa using readChars_code hcode rest
  · exact readChars_plain hquote hbackslash hcode rest

theorem readChars_flatMap_escape (cs rest : List Char) :
    readChars (cs.flatMap escape ++ '"' :: rest) = some (cs, rest) := by
  induction cs with
  | nil => rfl
  | cons c cs ih => simp [readChars_escape, ih]

/-- A text is read back from what stands in quotes. -/
theorem readText_quote (s : String) (rest : List Char) :
    readText (quote s ++ rest) = some (s, rest) := by
  simp [quote, readText, readChars_flatMap_escape]

/-! ## Whole numbers -/

/-- What may follow a value in a document. -/
def Closes (rest : List Char) : Prop := ∀ c ∈ rest.head?, c ∈ [',', ']', '}', '\n']

theorem Closes.head {rest : List Char} (h : Closes rest) :
    ∀ c ∈ rest.head?, c.isDigit = false ∧ c ≠ '.' ∧ c ≠ 'e' ∧ c ≠ 'E' := by
  have hall : ∀ c ∈ [',', ']', '}', '\n'], c.isDigit = false ∧ c ≠ '.' ∧ c ≠ 'e' ∧ c ≠ 'E' := by
    simp
  exact fun c hc => hall c (h c hc)

theorem readWhole_digitsOf (n : Nat) {rest : List Char}
    (hrest : ∀ c ∈ rest.head?, c.isDigit = false) :
    readWhole (Decimal.digitsOf n ++ rest) = some (Decimal.digitsOf n, rest) := by
  rcases Nat.eq_zero_or_pos n with rfl | hpos
  · rw [Decimal.digitsOf_zero]
    cases rest with
    | nil => rfl
    | cons c rest => simp [readWhole, hrest c rfl]
  · have hspan :=
      Decimal.spanDigits_append (fun c => Decimal.isDigit_of_mem_digitsOf (n := n)) hrest
    have hhead := Decimal.head?_digitsOf_ne_zero hpos
    obtain ⟨c, ds, hds⟩ := List.exists_cons_of_ne_nil (Decimal.digitsOf_ne_nil n)
    rw [hds] at hspan hhead ⊢
    rw [List.head?_cons, ne_eq, Option.some_inj] at hhead
    rw [List.cons_append] at hspan ⊢
    rw [readWhole]
    · simp [hspan]
    · exact fun cs heq => hhead (List.cons.inj heq).1

theorem readFraction_of_closes {rest : List Char} (h : Closes rest) :
    readFraction rest = some (none, rest) := by
  cases rest with
  | nil => rfl
  | cons c rest =>
    rw [readFraction]
    exact fun cs heq => (h.head c rfl).2.1 (List.cons.inj heq).1

theorem readExponent_of_closes {rest : List Char} (h : Closes rest) :
    readExponent rest = some (none, rest) := by
  cases rest with
  | nil => rfl
  | cons c rest =>
    obtain ⟨-, -, he, hE⟩ := h.head c rfl
    simp [readExponent, he, hE]

/-- The whole numbers that 64 bits hold, with a sign or without. -/
def IsWord (n : Int) : Prop := Decimal.minInt64 ≤ n ∧ n ≤ Decimal.maxUInt64

theorem wholeNumber?_neg {m : Nat} (hm : m ≠ 0) (h : IsWord (-m)) :
    wholeNumber? true m = some (.integer (-m)) := by
  simp [wholeNumber?, hm, h.1, h.2]

theorem wholeNumber?_natCast {m : Nat} (h : IsWord m) :
    wholeNumber? false m = some (.integer m) := by
  simp [wholeNumber?, h.1, h.2]

theorem readNumber_integerText {n : Int} (hn : IsWord n) {rest : List Char} (h : Closes rest) :
    readNumber (integerText n ++ rest) = some (.integer n, rest) := by
  have hwhole := readWhole_digitsOf n.natAbs fun c hc => (h.head c hc).1
  unfold integerText
  split_ifs with hneg
  · have hvalue : wholeNumber? true n.natAbs = some (.integer n) := by
      have hsign : -(n.natAbs : Int) = n := by omega
      rw [wholeNumber?_neg (by omega) (by rwa [hsign]), hsign]
    simp [readNumber, hwhole, readFraction_of_closes h, readExponent_of_closes h,
      Decimal.value_digitsOf, hvalue]
  · have hvalue : wholeNumber? false n.natAbs = some (.integer n) := by
      have hsign : (n.natAbs : Int) = n := by omega
      rw [wholeNumber?_natCast (by rwa [hsign]), hsign]
    obtain ⟨c, ds, hds⟩ := List.exists_cons_of_ne_nil (Decimal.digitsOf_ne_nil n.natAbs)
    have hc : c ≠ '-' := by
      rintro rfl
      have hdigit := Decimal.isDigit_of_mem_digitsOf (n := n.natAbs) (c := '-') (by simp [hds])
      exact absurd hdigit (by decide)
    have hvalue' := Decimal.value_digitsOf n.natAbs
    rw [hds] at hwhole hvalue' ⊢
    simp only [readNumber, List.cons_append] at hwhole ⊢
    simp [hwhole, hc, readFraction_of_closes h, readExponent_of_closes h, hvalue', hvalue]

end SurfaceDrift.Json
