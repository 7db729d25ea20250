import SurfaceDrift.Catalog
import SurfaceDrift.Proofs.Fields
import SurfaceDrift.Proofs.Text.Casing

/-!
# What a catalog holds

A catalog comes about by putting descriptors into an empty one (`Catalog.Built`). That keeps
the names ascending, every descriptor under its own name, and only valid descriptors
(`Catalog.IsKeyed`, `Built.isKeyed`). The names are lowercase, so that a name in any letter
case leads to the descriptor of its lowercase (`IsKeyed.name_of_get?`).
-/

namespace SurfaceDrift

@[simp] theorem Descriptor.lower_name (d : Descriptor) : Text.lower d.name = d.name := by
  rw [Descriptor.name, Text.lower_lower]

namespace Catalog

/-- The catalogs that come about by putting in descriptors. -/
inductive Built : Catalog → Prop
  | empty : Built Catalog.empty
  | register {c c' : Catalog} {d : Descriptor} : Built c → c.register d = .ok c' → Built c'
  | registerOrSkip {c : Catalog} (d : Descriptor) : Built c → Built (c.registerOrSkip d)

/-- Valid descriptors, each under its own name, in the order of the names. -/
structure IsKeyed (c : Catalog) : Prop where
  ascending : Fields.Ascending c.entries
  name_eq : ∀ entry ∈ c.entries, entry.2.name = entry.1
  validate_eq : ∀ entry ∈ c.entries, entry.2.validate = .ok ()

/-! ## Every catalog is keyed -/

theorem register_eq_ok_iff {c c' : Catalog} {d : Descriptor} :
    c.register d = .ok c' ↔
      d.validate = .ok () ∧ c' = { c with entries := Fields.insert c.entries d.name d } := by
  unfold register enter
  cases d.validate with
  | error cause => exact iff_of_false (fun h => by cases h) fun h => by cases h.1
  | ok _ => exact ⟨fun h => ⟨rfl, (Except.ok.inj h).symm⟩, fun h => h.2 ▸ rfl⟩

/-- Passing over a descriptor is registering it where that succeeds. -/
theorem registerOrSkip_eq (c : Catalog) (d : Descriptor) :
    c.registerOrSkip d = match c.register d with
      | .ok after => after
      | .error cause => { c with skipped := c.skipped ++ [⟨d.display, cause.message⟩] } := by
  unfold registerOrSkip register enter
  cases d.validate <;> rfl

theorem IsKeyed.register {c c' : Catalog} {d : Descriptor} (h : c.IsKeyed)
    (hregister : c.register d = .ok c') : c'.IsKeyed := by
  obtain ⟨hvalid, rfl⟩ := register_eq_ok_iff.mp hregister
  refine ⟨h.ascending.insert d.name d, fun entry hmem => ?_, fun entry hmem => ?_⟩
  · rcases h.ascending.mem_insert hmem with rfl | hmem
    · rfl
    · exact h.name_eq entry hmem
  · rcases h.ascending.mem_insert hmem with rfl | hmem
    · exact hvalid
    · exact h.validate_eq entry hmem

/-- Passing over a descriptor leaves the entries as they are. -/
theorem IsKeyed.registerOrSkip {c : Catalog} (h : c.IsKeyed) (d : Descriptor) :
    (c.registerOrSkip d).IsKeyed := by
  rw [registerOrSkip_eq]
  cases hregister : c.register d with
  | ok c' => exact h.register hregister
  | error cause => exact ⟨h.ascending, h.name_eq, h.validate_eq⟩

theorem Built.isKeyed {c : Catalog} (h : c.Built) : c.IsKeyed := by
  induction h with
  | empty => exact ⟨Fields.ascending_nil, by simp [Catalog.empty], by simp [Catalog.empty]⟩
  | register _ hregister ih => exact ih.register hregister
  | registerOrSkip d _ ih => exact ih.registerOrSkip d

theorem built_discover (descriptors : List Descriptor) : (discover descriptors).Built := by
  have hfold : ∀ c : Catalog, c.Built → (descriptors.foldl Catalog.registerOrSkip c).Built := by
    induction descriptors with
    | nil => exact fun c h => h
    | cons d rest ih =>
      intro c h
      rw [List.foldl_cons]
      exact ih (c.registerOrSkip d) (h.registerOrSkip d)
  exact hfold Catalog.empty Built.empty

/-! ## Looking up -/

theorem resolve_eq_ok_iff {c : Catalog} {name : String} {d : Descriptor} :
    c.resolve name = .ok d ↔ c.get? name = some d := by
  unfold resolve
  cases c.get? name with
  | none => exact iff_of_false (fun h => by cases h) fun h => by cases h
  | some found =>
    exact ⟨fun h => congrArg some (Except.ok.inj h), fun h => congrArg Except.ok (Option.some.inj h)⟩

@[simp] theorem get?_lower (c : Catalog) (name : String) :
    c.get? (Text.lower name) = c.get? name := by
  rw [get?, get?, Text.lower_lower]

/-- A name in any letter case leads to the descriptor of its lowercase. -/
theorem IsKeyed.name_of_get? {c : Catalog} (h : c.IsKeyed) {name : String} {d : Descriptor}
    (hget : c.get? name = some d) : d.name = Text.lower name :=
  h.name_eq (Text.lower name, d) (Fields.mem_of_find? hget)

/-- The names of a catalog are lowercase. -/
theorem IsKeyed.lower_of_mem_names {c : Catalog} (h : c.IsKeyed) {name : String}
    (hname : name ∈ c.names) : Text.lower name = name := by
  obtain ⟨entry, hmem, rfl⟩ := List.mem_map.mp hname
  rw [← h.name_eq entry hmem, Descriptor.lower_name]

end Catalog

end SurfaceDrift
