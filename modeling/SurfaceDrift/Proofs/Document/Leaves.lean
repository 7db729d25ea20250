import SurfaceDrift.Decimal.Numeral
import SurfaceDrift.Document.Leaves
import SurfaceDrift.Proofs.Decimal.Rational
import SurfaceDrift.Proofs.Document

/-!
# Numeric leaves

`Document.Rewritten` says that a document is another one with something else in the places of the
numeric leaves : the containers, the names and all other leaves stay as they are. The document
with other numbers is such a one (`rewritten_mapNumbers`), where what is written for a leaf is
told for the numbers of the document only, since both are read from the same leaves. The numbers
of a document that can be written are finite doubles (`isFinite_of_mem_numbers`).
-/

namespace SurfaceDrift

/-! ## Numbers that can be written -/

/-- The number is a whole one of at most 64 bits, or a finite double. -/
def Number.Writable : Number → Prop
  | .integer n => Decimal.minInt64 ≤ n ∧ n ≤ Decimal.maxUInt64
  | .double x => Decimal.isFinite x = true

theorem Number.Writable.isFinite_toFloat {n : Number} (h : n.Writable) :
    Decimal.isFinite n.toFloat = true := by
  cases n with
  | integer n =>
    have hmin : Decimal.minInt64 = -(2 ^ 63) := rfl
    have hmax : Decimal.maxUInt64 = 2 ^ 64 - 1 := rfl
    obtain ⟨hlow, hhigh⟩ := h
    exact Decimal.isFinite_ofInteger (by omega)
  | double x => exact h

namespace Document

/-- Every number in the document can be written. -/
inductive Writable : Document → Prop
  | null : Writable .null
  | bool (b : Bool) : Writable (.bool b)
  | number {n : Number} (hn : n.Writable) : Writable (.number n)
  | text (s : String) : Writable (.text s)
  | list {items : List Document} (hitems : ∀ d ∈ items, Writable d) : Writable (.list items)
  | object {fields : List (String × Document)} (hfields : ∀ entry ∈ fields, Writable entry.2) :
    Writable (.object fields)

theorem writable_ofInt {n : Int} (h : Decimal.minInt64 ≤ n ∧ n ≤ Decimal.maxUInt64) :
    (ofInt n).Writable :=
  .number h

/-! ## The numbers of a container -/

theorem numbersOfItems_eq (items : List Document) :
    numbersOfItems items = items.flatMap numbers := by
  induction items with
  | nil => rfl
  | cons d rest ih => rw [numbersOfItems, ih, List.flatMap_cons]

theorem numbersOfFields_eq (fields : List (String × Document)) :
    numbersOfFields fields = fields.flatMap fun entry => numbers entry.2 := by
  induction fields with
  | nil => rfl
  | cons entry rest ih => rw [numbersOfFields, ih, List.flatMap_cons]

theorem mem_numbers_list {items : List Document} {x : Float} :
    x ∈ (list items).numbers ↔ ∃ d ∈ items, x ∈ d.numbers := by
  rw [numbers, numbersOfItems_eq, List.mem_flatMap]

theorem mem_numbers_object {fields : List (String × Document)} {x : Float} :
    x ∈ (object fields).numbers ↔ ∃ entry ∈ fields, x ∈ entry.2.numbers := by
  rw [numbers, numbersOfFields_eq, List.mem_flatMap]

theorem isFinite_of_mem_numbers {d : Document} (h : d.Writable) :
    ∀ x ∈ d.numbers, Decimal.isFinite x = true := by
  induction h with
  | null | bool | text => exact fun x hx => absurd hx List.not_mem_nil
  | number hn =>
    intro x hx
    obtain rfl := List.mem_singleton.mp hx
    exact hn.isFinite_toFloat
  | list _ ih =>
    intro x hx
    obtain ⟨d, hd, hx⟩ := mem_numbers_list.mp hx
    exact ih d hd x hx
  | object _ ih =>
    intro x hx
    obtain ⟨entry, hentry, hx⟩ := mem_numbers_object.mp hx
    exact ih entry hentry x hx

theorem mapNumbersOfItems_eq_map (f : Float → Float) (items : List Document) :
    mapNumbersOfItems f items = items.map (mapNumbers f) := by
  induction items with
  | nil => rfl
  | cons d rest ih => rw [mapNumbersOfItems, ih, List.map_cons]

theorem mapNumbersOfFields_eq_mapValues (f : Float → Float)
    (fields : List (String × Document)) :
    mapNumbersOfFields f fields = Fields.mapValues (mapNumbers f) fields := by
  induction fields with
  | nil => rfl
  | cons entry rest ih =>
    rw [mapNumbersOfFields, ih]
    rfl

/-- A document without numbers stays as it is. -/
theorem mapNumbers_eq_self {d : Document} (f : Float → Float) (h : d.numbers = []) :
    d.mapNumbers f = d := by
  induction d with
  | null | bool | text => rfl
  | number n => cases h
  | list items ih =>
    rw [numbers, numbersOfItems_eq, List.flatMap_eq_nil_iff] at h
    rw [mapNumbers, mapNumbersOfItems_eq_map]
    refine congrArg list ?_
    calc items.map (mapNumbers f) = items.map id :=
          List.map_congr_left fun d hd => ih d hd (h d hd)
      _ = items := List.map_id items
  | object fields ih =>
    rw [numbers, numbersOfFields_eq, List.flatMap_eq_nil_iff] at h
    rw [mapNumbers, mapNumbersOfFields_eq_mapValues]
    refine congrArg object ?_
    calc Fields.mapValues (mapNumbers f) fields = fields.map id :=
          List.map_congr_left fun entry hentry =>
            congrArg (Prod.mk entry.1) (ih entry hentry (h entry hentry))
      _ = fields := List.map_id fields

/-! ## Other numbers in the places of the leaves -/

/-- The second document is the first one with another document in the place of each numeric
leaf, of which `R` tells which one it may be. -/
inductive Rewritten (R : Number → Document → Prop) : Document → Document → Prop
  | null : Rewritten R .null .null
  | bool (b : Bool) : Rewritten R (.bool b) (.bool b)
  | number {n : Number} {d' : Document} (hleaf : R n d') : Rewritten R (.number n) d'
  | text (s : String) : Rewritten R (.text s) (.text s)
  | list {items items' : List Document} (hlength : items'.length = items.length)
    (hitems : ∀ (i : Nat) (d d' : Document), items[i]? = some d → items'[i]? = some d' →
      Rewritten R d d') :
    Rewritten R (.list items) (.list items')
  | object {fields fields' : List (String × Document)}
    (hnames : Fields.names fields' = Fields.names fields)
    (hvalues : ∀ (i : Nat) (entry entry' : String × Document), fields[i]? = some entry →
      fields'[i]? = some entry' → Rewritten R entry.2 entry'.2) :
    Rewritten R (.object fields) (.object fields')

variable {R : Number → Document → Prop}

/-- What is written in the place of a leaf counts for the numbers of the document only. -/
theorem rewritten_mapNumbers (f : Float → Float) (d : Document)
    (h : ∀ n : Number, n.toFloat ∈ d.numbers → R n (ofFloat (f n.toFloat))) :
    Rewritten R d (d.mapNumbers f) := by
  induction d with
  | null => exact .null
  | bool b => exact .bool b
  | number n => exact .number (h n List.mem_cons_self)
  | text s => exact .text s
  | list items ih =>
    rw [mapNumbers, mapNumbersOfItems_eq_map]
    refine .list (List.length_map _) fun i d d' hd hd' => ?_
    rw [List.getElem?_map, hd, Option.map_some] at hd'
    obtain rfl := Option.some.inj hd'
    have hmem : d ∈ items := List.mem_of_getElem? hd
    exact ih d hmem fun n hn => h n (mem_numbers_list.mpr ⟨d, hmem, hn⟩)
  | object fields ih =>
    rw [mapNumbers, mapNumbersOfFields_eq_mapValues]
    refine .object (by simp [Fields.names, Fields.mapValues]) fun i entry entry' hentry hentry' => ?_
    rw [Fields.mapValues, List.getElem?_map, hentry, Option.map_some] at hentry'
    obtain rfl := Option.some.inj hentry'
    have hmem : entry ∈ fields := List.mem_of_getElem? hentry
    exact ih entry hmem fun n hn => h n (mem_numbers_object.mpr ⟨entry, hmem, hn⟩)

end Document

end SurfaceDrift
