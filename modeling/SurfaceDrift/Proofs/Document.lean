import Mathlib.Data.List.Basic
import SurfaceDrift.Document

/-!
# Induction over documents

What holds of a document as soon as it holds of its items, or of the values of its fields, holds
of every document (`Document.induct`). A document is ordered if the names of its fields ascend
and every document that it holds is ordered.
-/

namespace SurfaceDrift.Document

@[elab_as_elim, induction_eliminator]
theorem induct {motive : Document → Prop} (null : motive .null)
    (bool : ∀ b, motive (.bool b)) (number : ∀ n, motive (.number n))
    (text : ∀ s, motive (.text s))
    (list : ∀ items, (∀ d ∈ items, motive d) → motive (.list items))
    (object : ∀ fields, (∀ entry ∈ fields, motive entry.2) → motive (.object fields)) :
    ∀ d, motive d := fun d =>
  @Document.rec motive (fun items => ∀ d ∈ items, motive d)
    (fun fields => ∀ entry ∈ fields, motive entry.2) (fun entry => motive entry.2)
    null bool number text list object
    (fun _ hd => by cases hd)
    (fun _ _ hfirst hrest => List.forall_mem_cons.mpr ⟨hfirst, hrest⟩)
    (fun _ hentry => by cases hentry)
    (fun _ _ hfirst hrest => List.forall_mem_cons.mpr ⟨hfirst, hrest⟩)
    (fun _ _ hvalue => hvalue) d

theorem orderedItems_iff {items : List Document} :
    OrderedItems items ↔ ∀ d ∈ items, d.Ordered := by
  induction items with
  | nil => simp [OrderedItems]
  | cons d rest ih => simp [OrderedItems, ih]

theorem orderedFields_iff {fields : List (String × Document)} :
    OrderedFields fields ↔ ∀ entry ∈ fields, entry.2.Ordered := by
  induction fields with
  | nil => simp [OrderedFields]
  | cons entry rest ih => simp [OrderedFields, ih]

end SurfaceDrift.Document
