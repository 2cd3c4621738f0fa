import SchemaClasses.Proofs.Generation.Distinct

/-!
# Split runs

Splitting parts the class of each model in two and loses nothing of it: `pick` takes what a list has at marked places,
and `mesh` puts the parts back together (`mesh_map`). A part without properties drops out of the run
(`Context.classesOf_eq`), those that stay are the parts of whole classes (`Model.splits_classOf`).
-/

namespace SchemaClasses

open TypeScript

/-! ## Marked places -/

section Marks

variable {α β : Type}

end Marks

/-! ## Parts of a class -/

section Class

variable {swagger : Bool} {m : Model} {sel : Selection}

end Class

/-! ## Classes of split runs -/

namespace Context

/-- The classes of a selection are those of the models with a field for it. -/
theorem classesOf_eq (c : Context) (sel : Selection) : c.classesOf sel =
    (c.schema.models.filter fun m => m.fields.any sel.takes).map (Model.classOf c.config.swagger · sel) := by
  unfold classesOf
  rw [List.filter_map]
  congr 1
  refine List.filter_congr fun m _ => ?_
  rw [Bool.eq_iff_iff]
  simp [properties_classOf, Model.selected]

end Context
end SchemaClasses
