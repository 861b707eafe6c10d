import SchemaRest.Json.Basic

/-!
# What is inside of a value

The parts of a value are the items of an array and the values of an object. What holds of a value if it
holds of its parts holds of every value; a value is inside of another if parts of parts lead to it.
-/

namespace SchemaRest.Json

/-- The items of an array, the values of an object. -/
def parts : Json → List Json
  | .arr items => items
  | .obj fields => fields.map (·.2)
  | _ => []

theorem sizeOf_lt_of_mem_parts {u v : Json} (h : u ∈ v.parts) : sizeOf u < sizeOf v := by
  cases v with
  | null | bool | num | str => cases h
  | arr items =>
    have hitem : sizeOf u < sizeOf items := List.sizeOf_lt_of_mem h
    simp only [arr.sizeOf_spec]
    omega
  | obj fields =>
    obtain ⟨p, hp, rfl⟩ := List.mem_map.mp h
    have hfield := List.sizeOf_lt_of_mem hp
    have hvalue : sizeOf p.2 < sizeOf p := by
      cases p
      simp only [Prod.mk.sizeOf_spec]
      omega
    simp only [obj.sizeOf_spec]
    omega

/-- What holds of a value if it holds of its parts holds of every value. -/
theorem induct_parts {P : Json → Prop} (h : ∀ v, (∀ u ∈ v.parts, P u) → P v) (v : Json) : P v :=
  h v fun u hu => have := sizeOf_lt_of_mem_parts hu; induct_parts h u
termination_by sizeOf v

/-- A value stands somewhere inside another. -/
inductive Inside (u : Json) : Json → Prop
  | part {v : Json} (h : u ∈ v.parts) : Inside u v
  | deeper {v w : Json} (h : w ∈ v.parts) (hu : Inside u w) : Inside u v

theorem inside_iff {u v : Json} : Inside u v ↔ ∃ w ∈ v.parts, u = w ∨ Inside u w := by
  constructor
  · rintro (h | ⟨h, hu⟩)
    · exact ⟨u, h, .inl rfl⟩
    · exact ⟨_, h, .inr hu⟩
  · rintro ⟨w, h, rfl | hu⟩
    · exact .part h
    · exact .deeper h hu

theorem not_inside_str {u : Json} {s : String} : ¬Inside u (.str s) := by
  rw [inside_iff]
  rintro ⟨w, hw, -⟩
  cases hw

end SchemaRest.Json
