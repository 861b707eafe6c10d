import SchemaRest.Sql.Statement

/-!
# Changing rows

Insertions of several rows at once, changes and deletions by the value of one column. An insertion
names every column that any of its rows has, in the order they first appear; a row without one of
them takes the column's default there.
-/

namespace SchemaRest.Sql

/-- Adds the names not yet there. -/
def addNames (names : List String) (more : List String) : List String :=
  more.foldl (fun ns n => if ns.contains n then ns else ns ++ [n]) names

/-- The columns of a list of rows, each where it first appears. -/
def rowColumns (rows : List Fields) : List String :=
  rows.foldl (fun ns row => addNames ns (Fields.keys row)) []

/-- One row of an insertion. -/
def rowSql (columns : List String) (row : Fields) : String :=
  let place (c : String) := if (Fields.get? c row).isSome then "?" else "DEFAULT"
  "(" ++ Text.joined ", " (columns.map place) ++ ")"

def rowParams (columns : List String) (row : Fields) : List Json :=
  columns.filterMap (Fields.get? · row)

def insert (table : String) (rows : List Fields) : Statement :=
  let columns := rowColumns rows
  { sql := "INSERT INTO " ++ quoted table ++ " (" ++ quotedList columns ++ ") VALUES " ++
      Text.joined ", " (rows.map (rowSql columns))
    params := rows.flatMap (rowParams columns) }

def update (table : String) (changes : Fields) (column : String) (key : Json) : Statement where
  sql := "UPDATE " ++ quoted table ++ " SET " ++
    Text.joined ", " (changes.map fun p => quoted p.1 ++ " = ?") ++
    " WHERE " ++ quoted column ++ " = ?"
  params := changes.map (·.2) ++ [key]

def delete (table column : String) (key : Json) : Statement where
  sql := "DELETE FROM " ++ quoted table ++ " WHERE " ++ quoted column ++ " = ?"
  params := [key]

end SchemaRest.Sql
