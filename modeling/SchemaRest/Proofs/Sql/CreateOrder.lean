import SchemaRest.Proofs.Json.Canonical
import SchemaRest.Proofs.Json.Given
import SchemaRest.Proofs.Sql.CreateItems

/-!
# The order of declared columns

A description keeps its columns in the order in which they are given. It is decoded from a value in
canonical form, though, where the columns stand in the order of their names; so the order they are written
in is kept just where it is the order of the names.
-/

namespace SchemaRest.Sql.TableSpec

open Decode

/-! ## Columns as they are decoded -/

theorem keepPlaces_append_singleton (columns : List (String × ColumnSpec)) (p : String × ColumnSpec) :
    keepPlaces (columns ++ [p]) = if (keepPlaces columns).any (·.1 == p.1) then
      (keepPlaces columns).map fun q => if q.1 == p.1 then p else q
    else keepPlaces columns ++ [p] := by
  rw [keepPlaces, List.foldl_append]
  rfl

/-- Names that are distinct keep their places. -/
theorem keepPlaces_of_nodup {columns : List (String × ColumnSpec)} (h : (columns.map (·.1)).Nodup) :
    keepPlaces columns = columns := by
  induction columns using List.reverseRecOn with
  | nil => rfl
  | append_singleton columns p ih =>
    rw [List.map_append, List.nodup_append] at h
    obtain ⟨hcolumns, -, hnew⟩ := h
    have hnone : columns.any (·.1 == p.1) = false := by
      refine List.any_eq_false.mpr fun q hq heq => ?_
      exact hnew q.1 (List.mem_map_of_mem hq) p.1 (List.mem_singleton_self _) (beq_iff_eq.mp heq)
    rw [keepPlaces_append_singleton, ih hcolumns, hnone]
    rfl

/-- No name has two places. -/
theorem nodup_keepPlaces (columns : List (String × ColumnSpec)) :
    ((keepPlaces columns).map (·.1)).Nodup := by
  induction columns using List.reverseRecOn with
  | nil => exact .nil
  | append_singleton columns p ih =>
    rw [keepPlaces_append_singleton]
    split
    · have hnames : ((keepPlaces columns).map fun q => if q.1 == p.1 then p else q).map (·.1) =
          (keepPlaces columns).map (·.1) := by
        rw [List.map_map]
        refine List.map_congr_left fun q _ => ?_
        by_cases hq : q.1 = p.1 <;> simp [hq]
      rwa [hnames]
    · next hnew =>
      rw [List.map_append, List.nodup_append]
      refine ⟨ih, List.nodup_singleton _, fun a ha b hb heq => hnew ?_⟩
      obtain ⟨q, hq, rfl⟩ := List.mem_map.mp ha
      rw [List.map_singleton, List.mem_singleton] at hb
      exact List.any_eq_true.mpr ⟨q, hq, beq_iff_eq.mpr (heq.trans hb)⟩

theorem columns_of_decode {v : Json} {spec : TableSpec} (h : decode v = .ok spec)
    (hdistinct : ∀ fields, v = .obj fields → (Fields.keys fields).Nodup) :
    (given? "columns" 2 v = none ∧ spec.columns = []) ∨
      ∃ v' pairs, given? "columns" 2 v = some v' ∧ pairsOf ColumnSpec.decode v' = .ok pairs ∧
        spec.columns = keepPlaces pairs := by
  have hspares : ∀ g ∈ fields.eraseIdx 2, g.Spares columns := by
    refine List.forall_mem_cons.mpr ⟨spares_map fun _ _ => rfl, ?_⟩
    exact List.forall_mem_singleton.mpr (spares_map fun _ _ => rfl)
  have hsteady : ∀ f ∈ fields, f.Steady := by
    simp only [fields, List.forall_mem_cons]
    exact ⟨steady_map, steady_map, steady_map, List.forall_mem_nil _⟩
  rcases part_of_given (by decide) hsteady rfl hspares hdistinct h with
    hnone | ⟨v', r, s, hgiven, hread, hcolumns⟩
  · exact .inl hnone
  · obtain ⟨pairs, hpairs, rfl⟩ := map_eq_ok hread
    exact .inr ⟨v', pairs, hgiven, hpairs, hcolumns⟩

/-! ## Columns as they are written -/

/-- What is written for the columns. Of several fields of one name the last counts. -/
def columnsOf? : Json → Option Json
  | .obj fields => Fields.get? "columns" fields.reverse
  | .arr items => items[2]?
  | _ => none

/-- The columns in the order they are written in. -/
def writtenColumns (v : Json) : Fields := ((columnsOf? v).bind Json.asObj?).getD []

def writtenNames (v : Json) : List String := Fields.keys (writtenColumns v)

/-- The names of the columns in the order of their definitions. -/
def columnNames (t : TableSpec) : List String := t.columns.map (·.1)

/-- A description that was decoded has no two columns of one name. -/
theorem nodup_of_decode {v : Json} {t : TableSpec} (h : decode v = .ok t) : t.columnNames.Nodup := by
  refine record_preserves (I := fun t => t.columnNames.Nodup) ?_ .nil h
  simp only [fields, List.forall_mem_cons]
  refine ⟨?_, ?_, ?_, List.forall_mem_nil _⟩
  · intro v r s hr hread
    obtain ⟨a, -, rfl⟩ := map_eq_ok hread
    exact hr
  · intro v r s hr hread
    obtain ⟨a, -, rfl⟩ := map_eq_ok hread
    exact hr
  · intro v r s _ hread
    obtain ⟨columns, -, rfl⟩ := map_eq_ok hread
    exact nodup_keepPlaces columns

theorem given?_canonical (v : Json) :
    given? "columns" 2 v.canonical = (columnsOf? v).map Json.canonical := by
  cases v with
  | obj fields =>
    rw [Json.canonical_obj, given?, Fields.ofList_mapValues, Fields.get?_mapValues,
      Fields.get?_ofList_reverse]
    rfl
  | arr items =>
    rw [Json.canonical_arr, given?, List.getElem?_map]
    rfl
  | _ => simp only [Json.canonical, given?, columnsOf?, Option.map_none]

/-- The columns are those that are written, in the order of their names. -/
theorem names_of_decode {v : Json} {spec : TableSpec} (h : decode v.canonical = .ok spec) :
    spec.columnNames = Fields.keys (Fields.ofList (writtenColumns v)) := by
  have hdistinct : ∀ fields, v.canonical = .obj fields → (Fields.keys fields).Nodup := by
    intro fields hfields
    cases v with
    | obj written =>
      rw [Json.canonical_obj] at hfields
      cases hfields
      exact (Fields.sorted_ofList _).imp ne_of_lt
    | _ => simp [Json.canonical] at hfields
  rcases columns_of_decode h hdistinct with ⟨hnone, hcolumns⟩ | ⟨v', pairs, hgiven, hpairs, hcolumns⟩
  · rw [given?_canonical, Option.map_eq_none_iff] at hnone
    rw [columnNames, hcolumns, writtenColumns, hnone]
    rfl
  · rw [given?_canonical] at hgiven
    obtain ⟨u, hu, rfl⟩ := Option.map_eq_some_iff.mp hgiven
    cases u with
    | obj columns =>
      rw [Json.canonical_obj] at hpairs
      have hnames : pairs.map (·.1) = Fields.keys (Fields.ofList columns) := by
        rw [keys_of_pairs hpairs, Fields.ofList_mapValues, Fields.keys_mapValues]
      have hnodup : (pairs.map (·.1)).Nodup := by
        rw [hnames]
        exact (Fields.sorted_ofList columns).imp ne_of_lt
      rw [columnNames, hcolumns, keepPlaces_of_nodup hnodup, hnames, writtenColumns, hu]
      rfl
    | _ =>
      simp only [Json.canonical] at hpairs
      cases hpairs

end SchemaRest.Sql.TableSpec
