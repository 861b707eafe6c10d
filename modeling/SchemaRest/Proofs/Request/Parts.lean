import SchemaRest.Proofs.Json.Given
import SchemaRest.Proofs.Json.Settled
import SchemaRest.Request.QuerySpec

/-!
# The parts of a query body

A body, its clauses and its order are records, and each part of them is what is given for one field. The
readings of the three are described here part by part, for bodies that are written as objects and for those
that are written as arrays.
-/

namespace SchemaRest

open Decode

theorem Json.nodup_of_canonical {v : Json} (h : v.canonical = v) (fs : Fields) (hv : v = .obj fs) :
    (Fields.keys fs).Nodup := by
  subst hv
  exact (sorted_of_canonical h).nodup

/-- What is given for a field of a value in canonical form is in canonical form. -/
theorem Decode.canonical_of_given {v w : Json} (hv : v.canonical = v) {name : String} {place : Nat}
    (h : given? name place v = some w) : w.canonical = w := by
  cases v with
  | obj fs => exact Json.canonical_field hv h
  | arr items => exact Json.canonical_item hv (List.mem_of_getElem? h)
  | null | bool b | num n | str s => cases h

theorem Decode.settled_of_given {v w : Json} (hv : v.Settled) {name : String} {place : Nat}
    (h : given? name place v = some w) : w.Settled := by
  cases hv with
  | obj _ hfields => exact hfields _ (Fields.mem_of_get? h)
  | arr hitems => exact hitems _ (List.mem_of_getElem? h)
  | null | bool b | num n | str s => cases h

namespace Sql.Clause

theorem apart_fields : Apart fields := by decide

theorem steady_fields : ∀ f ∈ fields, f.Steady := by simp [fields]

/-- What is written for each part of a clause says what it is. -/
structure SaidBy (v : Json) (c : Clause) : Prop where
  shaped : Shaped fields v
  column : Said text none (given? "column" 0 v) c.column
  value : Said anything (some .null) (given? "value" 1 v) c.value
  operation : Said (choice Operation.names (some .unsupported)) none (given? "operation" 2 v) c.operation
  negate : Said (truth "negate") (some false) (given? "negate" 3 v) c.negate
  connector : Said (choice Connector.names none) (some .or)
    ((given? "connector" 4 v).or (given? "operator" 4 v)) c.connector

variable {v : Json} {c : Clause}

theorem saidBy_of_decode (hv : v.canonical = v) (h : decode v = .ok c) : SaidBy v c := by
  have hkeys := Json.nodup_of_canonical hv
  have hshaped := ((record_ok_iff_given apart_fields steady_fields hkeys).mp ⟨c, h⟩).1
  refine ⟨hshaped, ?column, ?value, ?operation, ?negate, ?connector⟩
  case column =>
    exact said_of_record column 0 apart_fields steady_fields rfl rfl (fun _ _ => rfl) (by simp [fields]) hkeys h
  case value =>
    exact said_of_record value 1 apart_fields steady_fields rfl rfl (fun _ _ => rfl) (by simp [fields]) hkeys h
  case operation =>
    exact said_of_record operation 2 apart_fields steady_fields rfl rfl (fun _ _ => rfl) (by simp [fields]) hkeys h
  case negate =>
    exact said_of_record negate 3 apart_fields steady_fields rfl rfl (fun _ _ => rfl) (by simp [fields]) hkeys h
  case connector =>
    exact said_of_record connector 4 apart_fields steady_fields rfl rfl (fun _ _ => rfl) (by simp [fields]) hkeys h

/-- The connector alone can be given twice. -/
theorem shaped_obj_iff {fs : Fields} : Shaped fields (.obj fs) ↔
    Fields.get? "connector" fs = none ∨ Fields.get? "operator" fs = none := by
  have hconnector : Shaped fields (.obj fs) ↔ (fields[4]).Once fs := by
    simp only [Shaped, fields, List.forall_mem_cons]
    refine ⟨fun h => h.2.2.2.2.1, fun h => ⟨?_, ?_, ?_, ?_, h, List.forall_mem_nil _⟩⟩ <;>
      exact Field.once_of_single rfl
  exact hconnector.trans (Field.once_orNamed_iff (by decide))

theorem SaidBy.unique {d : Clause} (hc : SaidBy v c) (hd : SaidBy v d) : c = d := by
  obtain ⟨_, _, _, _, _⟩ := c
  rw [mk.injEq]
  exact ⟨hc.column.unique hd.column, hc.value.unique hd.value, hc.operation.unique hd.operation,
    hc.negate.unique hd.negate, hc.connector.unique hd.connector⟩

/-- A clause is decoded from what says its parts. -/
theorem decode_eq_ok_iff (hv : v.canonical = v) : decode v = .ok c ↔ SaidBy v c := by
  refine record_eq_ok_iff apart_fields steady_fields (Json.nodup_of_canonical hv)
    (fun _ => saidBy_of_decode hv) (fun _ _ => SaidBy.unique) fun c h => ⟨h.shaped, ?_⟩
  rintro (_ | _ | _ | _ | _ | i) f hf <;> cases hf
  · exact acceptsAt_of_said rfl rfl h.column
  · exact acceptsAt_of_said rfl rfl h.value
  · exact acceptsAt_of_said rfl rfl h.operation
  · exact acceptsAt_of_said rfl rfl h.negate
  · exact acceptsAt_of_said rfl rfl h.connector

end Sql.Clause

namespace SortOrder

theorem apart_fields : Apart fields := by decide

theorem steady_fields : ∀ f ∈ fields, f.Steady := by simp [fields]

/-- What is written for each part of an order says what it is. -/
structure SaidBy (v : Json) (o : SortOrder) : Prop where
  shaped : Shaped fields v
  column : Said text none ((given? "column" 0 v).or (given? "byColumn" 0 v)) o.column
  direction : Said (choice Sql.Direction.names none) (some .ascending) (given? "direction" 1 v) o.direction

variable {v : Json} {o : SortOrder}

theorem saidBy_of_decode (hv : v.canonical = v) (h : decode v = .ok o) : SaidBy v o := by
  have hkeys := Json.nodup_of_canonical hv
  have hshaped := ((record_ok_iff_given apart_fields steady_fields hkeys).mp ⟨o, h⟩).1
  refine ⟨hshaped, ?column, ?direction⟩
  case column =>
    exact said_of_record column 0 apart_fields steady_fields rfl rfl (fun _ _ => rfl) (by simp [fields]) hkeys h
  case direction =>
    exact said_of_record direction 1 apart_fields steady_fields rfl rfl (fun _ _ => rfl) (by simp [fields]) hkeys h

/-- The column alone can be given twice. -/
theorem shaped_obj_iff {fs : Fields} : Shaped fields (.obj fs) ↔
    Fields.get? "column" fs = none ∨ Fields.get? "byColumn" fs = none := by
  have hcolumn : Shaped fields (.obj fs) ↔ (fields[0]).Once fs := by
    simp only [Shaped, fields, List.forall_mem_cons]
    exact ⟨fun h => h.1, fun h => ⟨h, Field.once_of_single rfl, List.forall_mem_nil _⟩⟩
  exact hcolumn.trans (Field.once_orNamed_iff (by decide))

theorem SaidBy.unique {p : SortOrder} (ho : SaidBy v o) (hp : SaidBy v p) : o = p := by
  obtain ⟨_, _⟩ := o
  rw [mk.injEq]
  exact ⟨ho.column.unique hp.column, ho.direction.unique hp.direction⟩

/-- An order is decoded from what says its parts. -/
theorem decode_eq_ok_iff (hv : v.canonical = v) : decode v = .ok o ↔ SaidBy v o := by
  refine record_eq_ok_iff apart_fields steady_fields (Json.nodup_of_canonical hv)
    (fun _ => saidBy_of_decode hv) (fun _ _ => SaidBy.unique) fun o h => ⟨h.shaped, ?_⟩
  rintro (_ | _ | i) f hf <;> cases hf
  · exact acceptsAt_of_said rfl rfl h.column
  · exact acceptsAt_of_said rfl rfl h.direction

end SortOrder

namespace QuerySpec

theorem apart_members : Apart members := by decide

theorem steady_members : ∀ f ∈ members, f.Steady := by simp [members]

/-- What is written for each part of a query body says what it is. -/
structure SaidBy (v : Json) (spec : QuerySpec) : Prop where
  shaped : Shaped members v
  filters : Said (listOf Sql.Clause.decode) (some []) (given? "filters" 0 v) spec.filters
  fields : Said (listOf text) (some []) (given? "fields" 1 v) spec.fields
  page : Said (optional PageOverride.decode) (some none) (given? "pagination" 2 v) spec.page
  sort : Said (optional SortOrder.decode) (some none) (given? "sort" 3 v) spec.sort

variable {v : Json} {spec : QuerySpec}

theorem saidBy_of_decode (hv : v.canonical = v) (h : decode v = .ok spec) : SaidBy v spec := by
  have hkeys := Json.nodup_of_canonical hv
  have hshaped := ((record_ok_iff_given apart_members steady_members hkeys).mp ⟨spec, h⟩).1
  refine ⟨hshaped, ?filters, ?fields, ?page, ?sort⟩
  case filters =>
    exact said_of_record filters 0 apart_members steady_members rfl rfl (fun _ _ => rfl) (by simp [members])
      hkeys h
  case fields =>
    exact said_of_record QuerySpec.fields 1 apart_members steady_members rfl rfl (fun _ _ => rfl)
      (by simp [members]) hkeys h
  case page =>
    exact said_of_record page 2 apart_members steady_members rfl rfl (fun _ _ => rfl) (by simp [members]) hkeys h
  case sort =>
    exact said_of_record sort 3 apart_members steady_members rfl rfl (fun _ _ => rfl) (by simp [members]) hkeys h

theorem shaped_obj (fs : Fields) : Shaped members (.obj fs) := by
  simp only [Shaped, members, List.forall_mem_cons]
  refine ⟨?_, ?_, ?_, ?_, List.forall_mem_nil _⟩ <;> exact Field.once_of_single rfl

theorem SaidBy.unique {other : QuerySpec} (hspec : SaidBy v spec) (hother : SaidBy v other) :
    spec = other := by
  obtain ⟨_, _, _, _⟩ := spec
  rw [mk.injEq]
  exact ⟨hspec.filters.unique hother.filters, hspec.fields.unique hother.fields,
    hspec.page.unique hother.page, hspec.sort.unique hother.sort⟩

/-- A query body is decoded from what says its parts. -/
theorem decode_eq_ok_iff (hv : v.canonical = v) : decode v = .ok spec ↔ SaidBy v spec := by
  refine record_eq_ok_iff apart_members steady_members (Json.nodup_of_canonical hv)
    (fun _ => saidBy_of_decode hv) (fun _ _ => SaidBy.unique) fun spec h => ⟨h.shaped, ?_⟩
  rintro (_ | _ | _ | _ | i) f hf <;> cases hf
  · exact acceptsAt_of_said rfl rfl h.filters
  · exact acceptsAt_of_said rfl rfl h.fields
  · exact acceptsAt_of_said rfl rfl h.page
  · exact acceptsAt_of_said rfl rfl h.sort

end QuerySpec

end SchemaRest
