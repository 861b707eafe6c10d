import SchemaRest.Proofs.Sql.SelectReading

/-!
# Queries with other values

The text of a query does not depend on its values. So a query whose values have been replaced one by
one, as binding them does, has the same text with the new values, and is read as the query with the
new values in its conditions.
-/

namespace SchemaRest.Sql

/-- The same text with other values. -/
def Statement.mapValues (f : Json → Json) (s : Statement) : Statement := ⟨s.sql, s.params.map f⟩

def Predicate.mapValues (f : Json → Json) : Predicate → Predicate
  | .compare column op value => .compare column op (f value)
  | .among column values => .among column (values.map f)
  | .between column low high => .between column (f low) (f high)
  | .isNull column => .isNull column

def Condition.mapValues (f : Json → Json) (c : Condition) : Condition :=
  { c with predicate := c.predicate.mapValues f }

def Select.mapValues (f : Json → Json) (q : Select) : Select :=
  { q with conditions := q.conditions.map (Condition.mapValues f) }

variable (f : Json → Json)

namespace Condition

@[simp] theorem sql_mapValues (c : Condition) : (c.mapValues f).sql = c.sql := by
  obtain ⟨connector, negate, predicate⟩ := c
  cases predicate with
  | among column values => cases values <;> simp [mapValues, Predicate.mapValues, sql]
  | compare | between | isNull => rfl

@[simp] theorem params_mapValues (c : Condition) : (c.mapValues f).params = c.params.map f := by
  obtain ⟨connector, negate, predicate⟩ := c
  cases predicate <;> rfl

@[simp] theorem chain_mapValues (conditions : List Condition) :
    chain (conditions.map (mapValues f)) = chain conditions := by
  induction conditions with
  | nil => rfl
  | cons c rest ih => rw [List.map_cons, chain, chain, ih, sql_mapValues, mapValues]

end Condition

@[simp] theorem whereSql_mapValues (conditions : List Condition) :
    whereSql (conditions.map (Condition.mapValues f)) = whereSql conditions := by
  cases conditions with
  | nil => rfl
  | cons c rest => simp [whereSql]

@[simp] theorem whereParams_mapValues (conditions : List Condition) :
    whereParams (conditions.map (Condition.mapValues f)) = (whereParams conditions).map f := by
  simp [whereParams, List.flatMap_map, List.map_flatMap]

namespace Select

theorem rows_mapValues (q : Select) : (q.mapValues f).rows = q.rows.mapValues f := by
  simp only [rows, mapValues, whereSql_mapValues, whereParams_mapValues]
  rfl

theorem count_mapValues (q : Select) : (q.mapValues f).count = q.count.mapValues f := by
  have hsql : (q.mapValues f).count.sql = q.count.sql := by
    rw [count_sql, count_sql, mapValues, whereSql_mapValues]
  exact congrArg₂ Statement.mk hsql (whereParams_mapValues f q.conditions)

/-- A query with other values is read as that query. -/
theorem read?_rows_mapValues (q : Select) :
    read? (q.rows.mapValues f) = some (q.mapValues f).reading := by
  rw [← rows_mapValues]
  exact read?_rows _

theorem read?_count_mapValues (q : Select) :
    read? (q.count.mapValues f) = some (q.mapValues f).countReading := by
  rw [← count_mapValues]
  exact read?_count _

end Select

end SchemaRest.Sql
