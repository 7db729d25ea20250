import SurfaceDrift.Proofs.Document
import SurfaceDrift.Proofs.Fields
import SurfaceDrift.Toml.Value

/-!
# Documents of TOML are ordered

A table of TOML becomes an object whose names ascend, at every depth, in whatever order the
text has its keys (`Toml.Value.ordered_of_toDocument?`).
-/

namespace SurfaceDrift

namespace Document

theorem ordered_ofFields {entries : List (String × Document)} (h : OrderedFields entries) :
    (ofFields entries).Ordered := by
  rw [ofFields, Ordered, orderedFields_iff]
  refine ⟨Fields.ascending_ofList entries, fun entry hentry => ?_⟩
  exact orderedFields_iff.mp h entry (Fields.mem_of_mem_ofList hentry)

end Document

namespace Toml.Value

open Document (OrderedItems OrderedFields)

mutual

/-- The document that a value is has the names of every object in order. -/
theorem ordered_of_toDocument? (v : Value) (d : Document) (h : v.toDocument? = some d) :
    d.Ordered := by
  match v with
  | .bool b =>
    obtain rfl := Option.some.inj h
    trivial
  | .integer n =>
    rw [toDocument?] at h
    split_ifs at h
    obtain rfl := Option.some.inj h
    trivial
  | .float x =>
    obtain rfl := Option.some.inj h
    unfold Document.ofFloat
    split_ifs <;> trivial
  | .beyond => cases h
  | .text s =>
    obtain rfl := Option.some.inj h
    trivial
  | .moment written =>
    obtain rfl := Option.some.inj h
    simp [Document.Ordered, OrderedFields, Fields.Ascending, Fields.names]
  | .list items =>
    rw [toDocument?, Option.map_eq_some_iff] at h
    obtain ⟨ds, hds, rfl⟩ := h
    exact orderedItems_of_toDocuments? items ds hds
  | .table entries =>
    rw [toDocument?, Option.map_eq_some_iff] at h
    obtain ⟨fields, hfields, rfl⟩ := h
    exact Document.ordered_ofFields (orderedFields_of_toFields? entries fields hfields)

theorem orderedItems_of_toDocuments? (items : List Value) (ds : List Document)
    (h : toDocuments? items = some ds) : OrderedItems ds := by
  match items with
  | [] =>
    obtain rfl := Option.some.inj h
    trivial
  | v :: rest =>
    rw [toDocuments?] at h
    simp only [Option.bind_eq_bind, Option.bind_eq_some_iff, Option.pure_def, Option.some.injEq] at h
    obtain ⟨d, hd, others, hothers, rfl⟩ := h
    exact ⟨ordered_of_toDocument? v d hd, orderedItems_of_toDocuments? rest others hothers⟩

theorem orderedFields_of_toFields? (entries : List (String × Value))
    (fields : List (String × Document)) (h : toFields? entries = some fields) :
    OrderedFields fields := by
  match entries with
  | [] =>
    obtain rfl := Option.some.inj h
    trivial
  | (name, v) :: rest =>
    rw [toFields?] at h
    simp only [Option.bind_eq_bind, Option.bind_eq_some_iff, Option.pure_def, Option.some.injEq] at h
    obtain ⟨d, hd, others, hothers, rfl⟩ := h
    exact ⟨ordered_of_toDocument? v d hd, orderedFields_of_toFields? rest others hothers⟩

end

end Toml.Value

end SurfaceDrift
