import SchemaRest.Proofs.Json.Records
import SchemaRest.Proofs.Sql.BoundReading
import SchemaRest.Sql.Change
import SchemaRest.Sql.Filter

/-!
# Statements without their values

Building a statement and replacing its values can be done in either order: the texts of insertions,
changes and deletions do not depend on the values either. So statements that are built from the same
but for values are the same once their values are blanked out. Of a filter clause the text needs only how
many members a list has.
-/

namespace SchemaRest.Sql

/-! ## Insertions, changes and deletions with other values -/

variable (f : Json → Json)

theorem rowColumns_mapValues (rows : List Fields) :
    rowColumns (rows.map (Fields.mapValues f)) = rowColumns rows := by
  rw [rowColumns, rowColumns, List.foldl_map]
  congr 1
  funext names row
  rw [Fields.keys_mapValues]

theorem rowSql_mapValues (columns : List String) (row : Fields) :
    rowSql columns (Fields.mapValues f row) = rowSql columns row := by
  simp only [rowSql, Fields.get?_mapValues, Option.isSome_map]

theorem rowParams_mapValues (columns : List String) (row : Fields) :
    rowParams columns (Fields.mapValues f row) = (rowParams columns row).map f := by
  rw [rowParams, rowParams, List.map_filterMap]
  congr 1
  funext c
  rw [Fields.get?_mapValues]

theorem insert_mapValues (table : String) (rows : List Fields) :
    insert table (rows.map (Fields.mapValues f)) = (insert table rows).mapValues f := by
  have htexts (columns : List String) :
      (rows.map (Fields.mapValues f)).map (rowSql columns) = rows.map (rowSql columns) := by
    rw [List.map_map]
    exact List.map_congr_left fun row _ => rowSql_mapValues f columns row
  have hparams (columns : List String) :
      (rows.map (Fields.mapValues f)).flatMap (rowParams columns) =
        (rows.flatMap (rowParams columns)).map f := by
    rw [List.flatMap_map, List.map_flatMap]
    congr 1
    exact funext (rowParams_mapValues f columns)
  have hcolumns := rowColumns_mapValues f rows
  unfold insert Statement.mapValues
  dsimp only
  rw [hcolumns, htexts, hparams]

theorem update_mapValues (table : String) (changes : Fields) (column : String) (key : Json) :
    update table (Fields.mapValues f changes) column (f key) =
      (update table changes column key).mapValues f := by
  have htexts : (Fields.mapValues f changes).map (fun p => quoted p.1 ++ " = ?") =
      changes.map fun p => quoted p.1 ++ " = ?" := by
    rw [Fields.mapValues, List.map_map]
    rfl
  have hparams : (Fields.mapValues f changes).map (·.2) ++ [f key] =
      (changes.map (·.2) ++ [key]).map f := by
    rw [Fields.mapValues, List.map_map, List.map_append, List.map_map]
    rfl
  unfold update Statement.mapValues
  rw [htexts, hparams]

theorem delete_mapValues (table column : String) (key : Json) :
    delete table column (f key) = (delete table column key).mapValues f := rfl

/-! ## Without values -/

/-- A value that says nothing. -/
abbrev blank : Json → Json := fun _ => .null

theorem map_blank (values : List Json) : values.map blank = List.replicate values.length .null :=
  List.map_const'

theorem map_blank_eq_iff {values others : List Json} :
    values.map blank = others.map blank ↔ values.length = others.length := by
  rw [map_blank, map_blank]
  exact (List.replicate_left_injective Json.null).eq_iff

theorem insert_alike {table : String} {rows rows' : List Fields}
    (h : rows.map Fields.keys = rows'.map Fields.keys) :
    (insert table rows).mapValues blank = (insert table rows').mapValues blank := by
  have hblank (rows : List Fields) : rows.map (Fields.mapValues blank) =
      (rows.map Fields.keys).map fun keys => keys.map fun k => (k, Json.null) := by
    rw [List.map_map]
    exact List.map_congr_left fun row _ => Fields.mapValues_const .null row
  rw [← insert_mapValues, ← insert_mapValues, hblank, hblank, h]

/-- All that a clause says but for its value is the same. -/
structure Clause.SameFrame (c d : Clause) : Prop where
  column : c.column = d.column
  operation : c.operation = d.operation
  negate : c.negate = d.negate
  connector : c.connector = d.connector

/-- Clauses that differ in their values only. Of a list its number of members stays. -/
structure Clause.Alike (c d : Clause) : Prop extends Clause.SameFrame c d where
  members : c.operation = .among → (Clause.members c.value).length = (Clause.members d.value).length

variable {c d : Clause}

theorem predicate?_alike {p q : Option Predicate} (h : c.Alike d) (hp : c.predicate? = .ok p)
    (hq : d.predicate? = .ok q) :
    p.map (Predicate.mapValues blank) = q.map (Predicate.mapValues blank) := by
  unfold Clause.predicate? at hp hq
  rw [← h.operation, ← h.column] at hq
  cases hoperation : c.operation with
  | compare op =>
    rw [hoperation] at hp hq
    cases op <;> cases hp <;> cases hq <;> rfl
  | among =>
    rw [hoperation] at hp hq
    cases hp
    cases hq
    have hmembers := map_blank_eq_iff.mpr (h.members hoperation)
    exact congrArg (fun values => some (Predicate.among c.column values)) hmembers
  | between =>
    rw [hoperation] at hp hq
    dsimp only at hp hq
    split at hp
    · split at hq
      · cases hp
        cases hq
        rfl
      · cases hq
    · cases hp
  | isNull | unsupported =>
    rw [hoperation] at hp hq
    cases hp
    cases hq
    rfl

theorem condition?_alike {p q : Option Condition} (h : c.Alike d) (hp : c.condition? = .ok p)
    (hq : d.condition? = .ok q) :
    p.map (Condition.mapValues blank) = q.map (Condition.mapValues blank) := by
  obtain ⟨a, ha, rfl⟩ := map_eq_ok hp
  obtain ⟨b, hb, rfl⟩ := map_eq_ok hq
  have hmap (p : Option Predicate) :
      (p.map fun p => Condition.mk d.connector d.negate p).map (Condition.mapValues blank) =
        (p.map (Predicate.mapValues blank)).map (Condition.mk d.connector d.negate) := by
    rw [Option.map_map, Option.map_map]
    rfl
  rw [h.connector, h.negate, hmap, hmap, predicate?_alike h ha hb]

theorem Select.restrict_mapValues (q : Select) (condition : Condition) :
    (q.restrict condition).mapValues f = (q.mapValues f).restrict (condition.mapValues f) := by
  rw [restrict, mapValues, List.map_append]
  rfl

theorem compile_alike {cs ds : List Clause} {base base' q q' : Select}
    (h : List.Forall₂ Clause.Alike cs ds) (hbase : base.mapValues blank = base'.mapValues blank)
    (hq : compile cs base = .ok q) (hq' : compile ds base' = .ok q') :
    q.mapValues blank = q'.mapValues blank := by
  induction h generalizing base base' with
  | nil =>
    cases hq
    cases hq'
    exact hbase
  | @cons c d cs ds hcd h ih =>
    unfold compile at hq hq'
    cases hc : c.condition? with
    | error e =>
      rw [hc] at hq
      cases hq
    | ok p =>
      cases hd : d.condition? with
      | error e =>
        rw [hd] at hq'
        cases hq'
      | ok p' =>
        have hcondition := condition?_alike hcd hc hd
        rw [hc] at hq
        rw [hd] at hq'
        cases p with
        | none =>
          cases p' with
          | none => exact ih hbase hq hq'
          | some p' => cases hcondition
        | some p =>
          cases p' with
          | none => cases hcondition
          | some p' =>
            refine ih ?_ hq hq'
            rw [Select.restrict_mapValues, Select.restrict_mapValues, hbase, Option.some.inj hcondition]

end SchemaRest.Sql
