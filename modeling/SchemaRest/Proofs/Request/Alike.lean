import SchemaRest.Proofs.Json.Records
import SchemaRest.Proofs.Sql.ChangeValues
import SchemaRest.Request.Body
import SchemaRest.Request.QuerySpec

/-!
# Query bodies that differ in values

Two descriptions of a query that agree in everything but the values of their clauses make the same query
but for values. Bodies that are written the same way but for these values, field by field, are read as such
descriptions: decoding puts no value of a clause anywhere else.
-/

namespace SchemaRest

/-- Queries that differ in the values of their clauses. -/
structure QuerySpec.Alike (q r : QuerySpec) : Prop where
  filters : List.Forall₂ Sql.Clause.Alike q.filters r.filters
  fields : q.fields = r.fields
  page : q.page = r.page
  sort : q.sort = r.sort

theorem QuerySpec.Alike.select {spec spec' : QuerySpec} (h : spec.Alike spec') {table : String}
    {columns : List String} {q q' : Sql.Select} (hq : spec.select table columns = .ok q)
    (hq' : spec'.select table columns = .ok q') : q.mapValues Sql.blank = q'.mapValues Sql.blank := by
  unfold QuerySpec.select at hq hq'
  rw [← h.sort] at hq'
  split at hq
  · cases hq
  · next s hs =>
    split at hq'
    · cases hq'
    · next s' hs' =>
      have hselect := Sql.compile_alike h.filters rfl hs hs'
      cases hsort : spec.sort with
      | none =>
        rw [hsort] at hq hq'
        cases hq
        cases hq'
        exact hselect
      | some o =>
        rw [hsort] at hq hq'
        cases hq
        cases hq'
        exact congrArg (fun q => q.order o.column o.direction) hselect

/-- What a body is parsed to is what its value is decoded to. -/
theorem Body.decode_of_parse {α : Type} {decode : Json → Decoded α} {body : ByteArray} {v : Json} {a : α}
    (hv : json body = .ok v) (hnull : v.isNull = false) (h : parse decode body = .ok a) :
    decode v = .ok a := by
  unfold parse at h
  rw [hv] at h
  dsimp only at h
  rw [hnull, if_neg Bool.false_ne_true] at h
  split at h
  · next b hdecode =>
    cases h
    exact hdecode
  · cases h

/-! ## Bodies that differ in values -/

open Decode (Written)

/-- Clauses that are written alike but for their values, as they stand in a body that has been read. -/
structure Sql.Clause.WrittenAlike (v v' : Json) : Prop where
  written : Written fields (fun name v v' => name ≠ "value" → v = v') v v'
  members : ∀ c d, decode v = .ok c → decode v' = .ok d → c.operation = .among →
    (Clause.members c.value).length = (Clause.members d.value).length

theorem Sql.Clause.keeps_fields : ∀ f ∈ Sql.Clause.fields,
    Decode.Keeps f.read (fun v v' => f.name ≠ "value" → v = v') SameFrame := by
  have hother {name : String} (hname : name ≠ "value") (v v' : Json)
      (h : name ≠ "value" → v = v') : v = v' := h hname
  refine List.forall_mem_cons.mpr ⟨?column, List.forall_mem_cons.mpr ⟨?value,
    List.forall_mem_cons.mpr ⟨?operation, List.forall_mem_cons.mpr ⟨?negate,
      List.forall_mem_singleton.mpr ?connector⟩⟩⟩⟩
  case column =>
    exact Decode.keeps_map_eq (hother (by decide)) fun a c d h => ⟨rfl, h.operation, h.negate, h.connector⟩
  case value =>
    exact Decode.keeps_map (D := fun _ _ => True) (fun _ _ _ _ _ _ _ => trivial)
      fun a b c d _ h => ⟨h.column, h.operation, h.negate, h.connector⟩
  case operation =>
    exact Decode.keeps_map_eq (hother (by decide)) fun a c d h => ⟨h.column, rfl, h.negate, h.connector⟩
  case negate =>
    exact Decode.keeps_map_eq (hother (by decide)) fun a c d h => ⟨h.column, h.operation, rfl, h.connector⟩
  case connector =>
    exact Decode.keeps_map_eq (hother (by decide)) fun a c d h => ⟨h.column, h.operation, h.negate, rfl⟩

theorem Sql.Clause.WrittenAlike.alike {v v' : Json} (h : WrittenAlike v v') {c d : Clause}
    (hc : decode v = .ok c) (hd : decode v' = .ok d) : c.Alike d :=
  ⟨Decode.record_related keeps_fields h.written ⟨rfl, rfl, rfl, rfl⟩ hc hd, h.members c d hc hd⟩

/-- Query bodies that are written alike but for the values in their clauses. What is compared are the values
that bodies say, with those of embedded texts in their place, and not their texts. -/
def QuerySpec.WrittenAlike : Json → Json → Prop :=
  Written members fun name v v' => if name = "filters" then
    ∃ vs vs', v = .arr vs ∧ v' = .arr vs' ∧ List.Forall₂ Sql.Clause.WrittenAlike vs vs'
  else v = v'

theorem QuerySpec.keeps_members : ∀ f ∈ members, Decode.Keeps f.read (fun v v' =>
    if f.name = "filters" then
      ∃ vs vs', v = .arr vs ∧ v' = .arr vs' ∧ List.Forall₂ Sql.Clause.WrittenAlike vs vs'
    else v = v') Alike := by
  refine List.forall_mem_cons.mpr ⟨?filters, List.forall_mem_cons.mpr ⟨?fields,
    List.forall_mem_cons.mpr ⟨?page, List.forall_mem_singleton.mpr ?sort⟩⟩⟩
  case filters =>
    refine Decode.keeps_map (D := List.Forall₂ Sql.Clause.Alike) (fun v v' cs ds hv hcs hds => ?_)
      fun cs ds q r hclauses h => ⟨hclauses, h.fields, h.page, h.sort⟩
    obtain ⟨vs, vs', rfl, rfl, halike⟩ := hv
    exact Decode.listOf_related (fun v v' c d hv => hv.alike) halike hcs hds
  case fields => exact Decode.keeps_map_eq (fun v v' h => h) fun a q r h => ⟨h.filters, rfl, h.page, h.sort⟩
  case page => exact Decode.keeps_map_eq (fun v v' h => h) fun a q r h => ⟨h.filters, h.fields, rfl, h.sort⟩
  case sort => exact Decode.keeps_map_eq (fun v v' h => h) fun a q r h => ⟨h.filters, h.fields, h.page, rfl⟩

theorem QuerySpec.WrittenAlike.alike {v v' : Json} (h : WrittenAlike v v') {q r : QuerySpec}
    (hq : decode v = .ok q) (hr : decode v' = .ok r) : q.Alike r :=
  Decode.record_related keeps_members h ⟨.nil, rfl, rfl, rfl⟩ hq hr

end SchemaRest
