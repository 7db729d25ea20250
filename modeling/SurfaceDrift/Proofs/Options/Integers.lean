import SurfaceDrift.Builtin
import SurfaceDrift.Proofs.Decimal.Digits
import SurfaceDrift.Proofs.Decimal.Whole
import SurfaceDrift.Proofs.Document.Leaves
import SurfaceDrift.Proofs.Sequence

/-!
# What an integer option is read as

A value is a whole number (`Document.IsInteger`) as a number whose value is this number, or as a
text which spells it, blanks around it aside (`Decimal.SpellsInteger`). An integer option is read
as the whole number that its value is, if a signed word holds it (`Document.ReadsAs`). Beyond the
signed words the two notations part : a text is refused, but a number is read as the signed word
next to it (`Options.integer?_eq_some_iff`), and this only is in the way of an option being either
exact or refused (`Options.integer_of_given`). Neither rounding a word of 64 bits to a double nor a
double that is no whole number leads to another number.
-/

namespace SurfaceDrift

/-! ## Signed words -/

/-- A signed word holds the whole number. -/
def Decimal.IsSigned (n : Int) : Prop := minInt64 ≤ n ∧ n ≤ maxInt64

instance (n : Int) : Decidable (Decimal.IsSigned n) := instDecidableAnd

theorem Options.clampInt64_of_isSigned {n : Int} (h : Decimal.IsSigned n) : clampInt64 n = n := by
  rw [clampInt64, min_eq_right h.2, max_eq_right h.1]

theorem Options.clampInt64_of_lt {n : Int} (h : Decimal.maxInt64 < n) :
    clampInt64 n = Decimal.maxInt64 := by
  rw [clampInt64, min_eq_left h.le]
  rfl

/-! ## Whole numbers in a text -/

namespace Decimal

/-- The characters are digits, after a sign or not, and the number is what they stand for. -/
inductive SpellsInteger : List Char → Int → Prop
  | bare {digits : List Char} (hne : digits ≠ []) (hdigits : ∀ c ∈ digits, c.isDigit = true) :
    SpellsInteger digits (Nat.ofDigitChars 10 digits 0)
  | plus {digits : List Char} (hne : digits ≠ []) (hdigits : ∀ c ∈ digits, c.isDigit = true) :
    SpellsInteger ('+' :: digits) (Nat.ofDigitChars 10 digits 0)
  | minus {digits : List Char} (hne : digits ≠ []) (hdigits : ∀ c ∈ digits, c.isDigit = true) :
    SpellsInteger ('-' :: digits) (-(Nat.ofDigitChars 10 digits 0 : Int))

theorem takeSign_of_isDigit {digits : List Char} (h : ∀ c ∈ digits, c.isDigit = true) :
    takeSign digits = (false, digits) := by
  unfold takeSign
  split
  · exact absurd (h '-' List.mem_cons_self) (by decide)
  · exact absurd (h '+' List.mem_cons_self) (by decide)
  · rfl

theorem spellsInteger_iff {cs : List Char} {n : Int} :
    SpellsInteger cs n ↔ (takeSign cs).2 ≠ [] ∧ (∀ c ∈ (takeSign cs).2, c.isDigit = true) ∧
      (if (takeSign cs).1 then -(value (takeSign cs).2 : Int) else value (takeSign cs).2) = n := by
  constructor
  · rintro (⟨hne, hdigits⟩ | ⟨hne, hdigits⟩ | ⟨hne, hdigits⟩)
    · rw [takeSign_of_isDigit hdigits, value_eq]
      exact ⟨hne, hdigits, rfl⟩
    · exact ⟨hne, hdigits, by rw [value_eq]; rfl⟩
    · exact ⟨hne, hdigits, by rw [value_eq]; rfl⟩
  · rintro ⟨hne, hdigits, rfl⟩
    revert hne hdigits
    rw [value_eq]
    unfold takeSign
    split <;> intro hne hdigits
    · exact .minus hne hdigits
    · exact .plus hne hdigits
    · exact .bare hne hdigits

/-- A text is read as the signed word that it spells. -/
theorem integer64?_eq_some_iff {s : String} {n : Int} :
    integer64? s = some n ↔ SpellsInteger s.toList n ∧ IsSigned n := by
  rw [spellsInteger_iff, integer64?, IsSigned]
  generalize takeSign s.toList = signed
  obtain ⟨negative, digits⟩ := signed
  dsimp only
  generalize (if negative then -(value digits : Int) else (value digits : Int)) = m
  have hdigits : ¬ (digits.isEmpty || !digits.all Char.isDigit) = true ↔
      digits ≠ [] ∧ ∀ c ∈ digits, c.isDigit = true := by simp
  rw [Option.ite_none_left_eq_some, hdigits, Option.ite_none_right_eq_some, Bool.and_eq_true,
    decide_eq_true_eq, decide_eq_true_eq, Option.some_inj]
  constructor
  · rintro ⟨⟨hne, hall⟩, hsigned, rfl⟩
    exact ⟨⟨hne, hall, rfl⟩, hsigned⟩
  · rintro ⟨⟨hne, hall, rfl⟩, hsigned⟩
    exact ⟨⟨hne, hall⟩, hsigned, rfl⟩

end Decimal

/-! ## Whole numbers in a document -/

/-- The value of the number is the whole number. -/
def Number.IsInteger : Number → Int → Prop
  | .integer m, n => m = n
  | .double x, n => Decimal.isFinite x = true ∧ Decimal.rational x = n

theorem Number.IsInteger.unique {x : Number} {m n : Int} (hm : x.IsInteger m)
    (hn : x.IsInteger n) : m = n := by
  cases x with
  | integer k => exact hm.symm.trans hn
  | double x => exact Int.cast_inj.mp (hm.2.symm.trans hn.2)

namespace Document

/-- The document is the whole number, as a number or as a text that spells it. -/
def IsInteger : Document → Int → Prop
  | .number x, n => x.IsInteger n
  | .text s, n => Decimal.SpellsInteger (Text.trim s).toList n
  | _, _ => False

/-- What an integer option is read as : the whole number that the value is, but for a number that
no signed word holds the word next to it. -/
inductive ReadsAs : Document → Int → Prop
  | held {d : Document} {n : Int} (h : d.IsInteger n) (hn : Decimal.IsSigned n) : ReadsAs d n
  | beyond {x : Number} {n : Int} (h : x.IsInteger n) (hn : ¬ Decimal.IsSigned n) :
    ReadsAs (.number x) (Options.clampInt64 n)

theorem readsAs_text_iff {s : String} {n : Int} :
    ReadsAs (.text s) n ↔
      Decimal.SpellsInteger (Text.trim s).toList n ∧ Decimal.IsSigned n := by
  constructor
  · rintro (⟨h, hn⟩ | _)
    exact ⟨h, hn⟩
  · rintro ⟨h, hn⟩
    exact .held h hn

theorem readsAs_number_iff {x : Number} {n : Int} :
    ReadsAs (.number x) n ↔ ∃ m, x.IsInteger m ∧ Options.clampInt64 m = n := by
  constructor
  · rintro (⟨h, hn⟩ | ⟨h, hn⟩)
    · exact ⟨n, h, Options.clampInt64_of_isSigned hn⟩
    · exact ⟨_, h, rfl⟩
  · rintro ⟨m, h, rfl⟩
    by_cases hm : Decimal.IsSigned m
    · rw [Options.clampInt64_of_isSigned hm]
      exact .held h hm
    · exact .beyond h hm

end Document

/-! ## The reader -/

namespace Options

/-- A word of 64 bits is read as the signed word next to it, also by way of a double. -/
theorem integer?_integer {m : Int} (h : (Number.integer m).Writable) :
    integer? (.number (.integer m)) = some (clampInt64 m) := by
  rw [integer?]
  split_ifs with hm
  · have hsigned : Decimal.IsSigned m := by simpa [Decimal.IsSigned] using hm
    rw [clampInt64_of_isSigned hsigned]
  · have hlt : Decimal.maxInt64 < m := not_le.mp fun hle => hm (by simp [h.1, hle])
    obtain ⟨k, hk, hbeyond⟩ := Decimal.exists_integer?_ofInteger hlt h.2
    rw [hk, Option.map_some, clampInt64_of_lt hbeyond, clampInt64_of_lt hlt]

/-- What the reader makes of a value that can be written. -/
theorem integer?_eq_some_iff {d : Document} (hd : d.Writable) {n : Int} :
    integer? d = some n ↔ d.ReadsAs n := by
  cases hd with
  | number hx =>
    rw [Document.readsAs_number_iff]
    rename_i x
    cases x with
    | integer m => simp [integer?_integer hx, Number.IsInteger]
    | double x =>
      simp only [integer?, Option.map_eq_some_iff, Decimal.integer?_eq_some_iff, Number.IsInteger]
  | text s => rw [integer?, Decimal.integer64?_eq_some_iff, Document.readsAs_text_iff]
  | null | bool | list | object =>
    constructor
    · intro h
      cases h
    · rintro (⟨h, -⟩ | _)
      cases h

/-- The options hold the parameters that they are made of. -/
theorem params_of {algorithm : String} {recognized : List String} {params : Params}
    {options : Options} (h : of algorithm recognized params = .ok options) :
    options.params = params := by
  unfold of at h
  split at h
  · cases h
  · obtain rfl := Except.ok.inj h
    rfl

/-- A given option is what the reader makes of its value. -/
theorem readWith_of_given {α : Type} {options : Options} {key : String} {value : Document}
    (h : Fields.find? options.params key = some value) (expected : Expected) (default : α)
    (reader : Document → Option α) :
    options.readWith key expected default reader =
      (reader value).elim (.error (options.unfit key expected value)) .ok := by
  rw [readWith, h]
  dsimp only
  cases reader value <;> rfl

theorem integer_eq_ok_iff {options : Options} {key : String} {value : Document}
    (hgiven : Fields.find? options.params key = some value) (hvalue : value.Writable)
    (default : Int) {n : Int} : options.integer key default = .ok n ↔ value.ReadsAs n := by
  rw [integer, readWith_of_given hgiven, ← integer?_eq_some_iff hvalue]
  cases integer? value <;> simp

/-- An integer option that is given is what its value is read as, and an error if it is not read as
a whole number. So it is the whole number that its value is, if a signed word holds it, and an error
otherwise, unless the value is a number that is a whole one which no signed word holds. -/
theorem integer_of_given {options : Options} {key : String} {value : Document}
    (hgiven : Fields.find? options.params key = some value) (hvalue : value.Writable)
    (default : Int) :
    (∀ n, options.integer key default = .ok n ↔ value.ReadsAs n) ∧
      ((∀ n, ¬ value.ReadsAs n) →
        options.integer key default = .error (options.unfit key .integer value)) ∧
      ((∀ n, options.integer key default = .ok n ↔ value.IsInteger n ∧ Decimal.IsSigned n) ↔
        ∀ x n, value = .number x → x.IsInteger n → Decimal.IsSigned n) := by
  have hread (n : Int) : options.integer key default = .ok n ↔ value.ReadsAs n :=
    integer_eq_ok_iff hgiven hvalue default
  refine ⟨hread, fun hnone => ?_, ?_⟩
  · have hrefused : integer? value = none := by
      rw [Option.eq_none_iff_forall_ne_some]
      exact fun n hn => hnone n ((integer?_eq_some_iff hvalue).mp hn)
    rw [integer, readWith_of_given hgiven, hrefused, Option.elim_none]
  · simp only [hread]
    constructor
    · rintro hexact x n rfl hn
      have hclamp := (hexact (clampInt64 n)).mp (Document.readsAs_number_iff.mpr ⟨n, hn, rfl⟩)
      rw [hn.unique hclamp.1]
      exact hclamp.2
    · intro hsigned n
      constructor
      · rintro (⟨hn, hn'⟩ | ⟨hn, hn'⟩)
        · exact ⟨hn, hn'⟩
        · exact absurd (hsigned _ _ rfl hn) hn'
      · rintro ⟨hn, hn'⟩
        exact .held hn hn'

/-- The options of a clustering of which the least number of samples is given. -/
def ofMinSamples (value : Document) : Options := ⟨Clustering.name, [("min_samples", value)]⟩

/-- A double without a fraction is the whole number that it is. -/
theorem integer_of_given_double :
    Fields.find? (ofMinSamples (.number (.double 3.0))).params "min_samples" =
        some (.number (.double 3.0)) ∧
      (Document.number (.double 3.0)).Writable ∧
      (ofMinSamples (.number (.double 3.0))).integer "min_samples" 2 = .ok 3 := by
  have hgiven : Fields.find? (ofMinSamples (.number (.double 3.0))).params "min_samples" =
      some (.number (.double 3.0)) := rfl
  have hthree : (Number.double 3.0).IsInteger 3 :=
    Decimal.integer?_eq_some_iff.mp (by decide +kernel)
  have hvalue : (Document.number (.double 3.0)).Writable := .number hthree.1
  obtain ⟨hread, -, -⟩ := integer_of_given hgiven hvalue 2
  exact ⟨hgiven, hvalue, (hread 3).mpr (.held hthree (by decide))⟩

/-- One more than the greatest signed word : as a number it becomes the greatest signed word, with
which the clustering goes on, and as a text it is refused. -/
theorem integer_replaced :
    (Document.ofInt 9223372036854775808).Writable ∧
      (∀ n, (Document.ofInt 9223372036854775808).IsInteger n ↔ n = 9223372036854775808) ∧
      (ofMinSamples (.ofInt 9223372036854775808)).integer "min_samples" 2 =
        .ok 9223372036854775807 ∧
      Clustering.Params.of [("min_samples", .ofInt 9223372036854775808)] =
        .ok ⟨0.5, 9223372036854775807⟩ ∧
      (ofMinSamples (.text "9223372036854775808")).integer "min_samples" 2 =
        .error (.configuration (.unfitOption "dbscan" "min_samples" .integer
          (.text "9223372036854775808"))) := by
  refine ⟨Document.writable_ofInt (by decide), fun n => eq_comm, rfl, rfl, rfl⟩

end Options

/-! ## The options of the algorithms -/

/-- The parameters of a clustering have the least number of samples that is given. -/
theorem Clustering.readsAs_minSamples {params : SurfaceDrift.Params} {p : Clustering.Params}
    (h : Clustering.Params.of params = .ok p) {value : Document}
    (hgiven : Fields.find? params "min_samples" = some value) (hvalue : value.Writable) :
    value.ReadsAs p.minSamples := by
  rw [Clustering.Params.of, bind_eq_ok_iff] at h
  obtain ⟨options, hoptions, h⟩ := h
  obtain ⟨radius, -, h⟩ := bind_eq_ok_iff.mp h
  split_ifs at h
  obtain ⟨minSamples, hread, h⟩ := bind_eq_ok_iff.mp h
  split_ifs at h with hless
  obtain rfl := Except.ok.inj h
  rw [← Options.params_of hoptions] at hgiven
  rw [Int.toNat_of_nonneg (by omega)]
  exact (Options.integer_eq_ok_iff hgiven hvalue 2).mp hread

/-- The parameters of a table of terms have the greatest number of columns that is given. -/
theorem Terms.readsAs_maxFeatures {params : SurfaceDrift.Params} {p : Terms.Params}
    (h : Terms.Params.of params = .ok p) {value : Document}
    (hgiven : Fields.find? params "max_features" = some value) (hvalue : value.Writable) :
    value.ReadsAs p.maxFeatures := by
  rw [Terms.Params.of, bind_eq_ok_iff] at h
  obtain ⟨options, hoptions, h⟩ := h
  obtain ⟨maxFeatures, hread, h⟩ := bind_eq_ok_iff.mp h
  split_ifs at h with hless
  obtain ⟨words, -, h⟩ := bind_eq_ok_iff.mp h
  obtain rfl := Except.ok.inj h
  rw [← Options.params_of hoptions] at hgiven
  rw [Int.toNat_of_nonneg (by omega)]
  exact (Options.integer_eq_ok_iff hgiven hvalue 500).mp hread

end SurfaceDrift
