import SurfaceDrift.Proofs.Document.Leaves

/-!
# The two walks over the numeric leaves

`Document.numbers` reads the numeric leaves of a document and `Document.mapNumbers` writes others in
their places. Both come to the same leaves in the same order : what is read after writing are the
written numbers (`numbers_mapNumbers`), without those that no document can hold, and the later of
two writings sees what the earlier one wrote (`mapNumbers_mapNumbers`).
-/

namespace SurfaceDrift.Document

variable {f g : Float → Float}

/-- A double as a document is read as itself, if it is a number. -/
theorem numbers_ofFloat (x : Float) :
    (ofFloat x).numbers = [x].filter Decimal.isFinite := by
  unfold ofFloat
  split_ifs with hx
  · simp [numbers, Number.toFloat, hx]
  · simp [numbers, hx]

/-- What is read after writing are the written numbers, unless they are infinite or no numbers. -/
theorem numbers_mapNumbers (f : Float → Float) (d : Document) :
    (d.mapNumbers f).numbers = (d.numbers.map f).filter Decimal.isFinite := by
  induction d with
  | null | bool | text => rfl
  | number n => exact numbers_ofFloat (f n.toFloat)
  | list items ih =>
    simp only [mapNumbers, numbers, mapNumbersOfItems_eq_map, numbersOfItems_eq, List.flatMap_map,
      List.map_flatMap, List.filter_flatMap]
    exact List.flatMap_congr fun d hd => ih d hd
  | object fields ih =>
    simp only [mapNumbers, numbers, mapNumbersOfFields_eq_mapValues, numbersOfFields_eq,
      Fields.mapValues, List.flatMap_map, List.map_flatMap, List.filter_flatMap]
    exact List.flatMap_congr fun entry hentry => ih entry hentry

theorem mapNumbers_ofFloat {x : Float} (hx : Decimal.isFinite x = true) :
    (ofFloat x).mapNumbers g = ofFloat (g x) := by
  rw [ofFloat, if_pos hx]
  rfl

/-- Two writings are one, if the numbers of the earlier one can be written. -/
theorem mapNumbers_mapNumbers {d : Document}
    (h : ∀ x ∈ d.numbers, Decimal.isFinite (f x) = true) :
    (d.mapNumbers f).mapNumbers g = d.mapNumbers (g ∘ f) := by
  induction d with
  | null | bool | text => rfl
  | number n => exact mapNumbers_ofFloat (h n.toFloat List.mem_cons_self)
  | list items ih =>
    simp only [mapNumbers, mapNumbersOfItems_eq_map, List.map_map]
    refine congrArg list (List.map_congr_left fun d hd => ?_)
    exact ih d hd fun x hx => h x (mem_numbers_list.mpr ⟨d, hd, hx⟩)
  | object fields ih =>
    simp only [mapNumbers, mapNumbersOfFields_eq_mapValues, Fields.mapValues, List.map_map]
    refine congrArg object (List.map_congr_left fun entry hentry => ?_)
    have hvalue := ih entry hentry fun x hx => h x (mem_numbers_object.mpr ⟨entry, hentry, hx⟩)
    exact congrArg (Prod.mk entry.1) hvalue

/-- Writing numbers keeps the containers, the names and the other leaves, and puts null where the
number cannot be written. Reading then tells what was written, in the order of the leaves, and
writing twice is writing once if everything could be written the first time. -/
theorem walks_agree (f : Float → Float) (d : Document) :
    Rewritten (fun n d' => d' =
        if Decimal.isFinite (f n.toFloat) then number (.double (f n.toFloat)) else null)
      d (d.mapNumbers f) ∧
    (d.mapNumbers f).numbers = (d.numbers.map f).filter Decimal.isFinite ∧
    ((∀ x ∈ d.numbers, Decimal.isFinite (f x) = true) →
      ∀ g, (d.mapNumbers f).mapNumbers g = d.mapNumbers (g ∘ f)) :=
  ⟨rewritten_mapNumbers f d fun _ _ => rfl, numbers_mapNumbers f d,
    fun h _ => mapNumbers_mapNumbers h⟩

/-- Numbers beside other leaves, at several depths. -/
def measured : Document :=
  .object [("a", .list [.number (.integer 3), .text "3", .bool true]),
    ("b", .object [("c", .number (.double 0.5)), ("d", .null)])]

theorem walks_agree_measured :
    (∀ x ∈ measured.numbers, Decimal.isFinite (x + x) = true) ∧
      (measured.mapNumbers fun x => x + x).mapNumbers (fun x => x / 0.0) =
        measured.mapNumbers fun x => (x + x) / 0.0 := by
  have hfinite : ∀ x ∈ measured.numbers, Decimal.isFinite (x + x) = true := by decide +kernel
  obtain ⟨-, -, htwice⟩ := walks_agree (fun x => x + x) measured
  exact ⟨hfinite, htwice hfinite fun x => x / 0.0⟩

end SurfaceDrift.Document
