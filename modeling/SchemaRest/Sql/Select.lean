import SchemaRest.Sql.Statement

/-!
# Selecting rows

A query of one table: its columns, a chain of conditions, an order and a window. The conditions
stand in one row without brackets, each joined to what is before it by its own connector; the
connector of the first is not written. The text of a condition and the values it binds are two
functions, so that the text can be seen not to depend on the values.
-/

namespace SchemaRest.Sql

inductive Connector where
  | and
  | or
  deriving DecidableEq, Repr

def Connector.word : Connector → String
  | .and => "AND"
  | .or => "OR"

inductive Comparison where
  | lt
  | gt
  | eq
  | le
  | ge
  | ne
  | like
  deriving DecidableEq, Repr

def Comparison.symbol : Comparison → String
  | .lt => "<"
  | .gt => ">"
  | .eq => "="
  | .le => "<="
  | .ge => ">="
  | .ne => "<>"
  | .like => "LIKE"

inductive Predicate where
  | compare (column : String) (op : Comparison) (value : Json)
  | among (column : String) (values : List Json)
  | between (column : String) (low high : Json)
  | isNull (column : String)
  deriving Repr

structure Condition where
  connector : Connector
  negate : Bool
  predicate : Predicate
  deriving Repr

namespace Condition

def and (predicate : Predicate) : Condition := ⟨.and, false, predicate⟩

/-- The word that negates a predicate from inside. -/
def notWord (negate : Bool) : String := if negate then "NOT " else ""

/-- Nothing is a member of the empty list. -/
def sql (c : Condition) : String :=
  match c.predicate with
  | .compare column op _ =>
    let expression := quoted column ++ " " ++ op.symbol ++ " ?"
    if c.negate then "NOT (" ++ expression ++ ")" else expression
  | .among _ [] => if c.negate then "1 = 1" else "1 = 0"
  | .among column values =>
    quoted column ++ " " ++ notWord c.negate ++ "IN (" ++ marks values.length ++ ")"
  | .between column _ _ => quoted column ++ " " ++ notWord c.negate ++ "BETWEEN ? AND ?"
  | .isNull column => quoted column ++ " IS " ++ notWord c.negate ++ "NULL"

def params (c : Condition) : List Json :=
  match c.predicate with
  | .compare _ _ value => [value]
  | .among _ values => values
  | .between _ low high => [low, high]
  | .isNull _ => []

/-- The conditions after the first. -/
def chain : List Condition → String
  | [] => ""
  | c :: rest => " " ++ c.connector.word ++ " " ++ c.sql ++ chain rest

end Condition

/-- The part of a statement that restricts its rows. -/
def whereSql : List Condition → String
  | [] => ""
  | c :: rest => " WHERE " ++ c.sql ++ Condition.chain rest

def whereParams (conditions : List Condition) : List Json := conditions.flatMap Condition.params

inductive Direction where
  | ascending
  | descending
  deriving DecidableEq, Repr

namespace Direction

def word : Direction → String
  | ascending => "ASC"
  | descending => "DESC"

/-- Everything but `desc`, in any case of letters, sorts ascending. -/
def ofText (s : String) : Direction :=
  if Text.eqIgnoreCase s "desc" then descending else ascending

end Direction

structure Select where
  table : String
  /-- No columns stand for all columns. -/
  columns : List String
  conditions : List Condition
  orderBy : Option (String × Direction)
  limit : Option Nat
  /-- Counts only together with a limit. -/
  offset : Option Nat
  deriving Repr

namespace Select

/-- Every row and column of a table. -/
def all (table : String) : Select := ⟨table, [], [], none, none, none⟩

def restrict (q : Select) (c : Condition) : Select := { q with conditions := q.conditions ++ [c] }

def restrictEq (q : Select) (column : String) (value : Json) : Select :=
  q.restrict (.and (.compare column .eq value))

def order (q : Select) (column : String) (direction : Direction) : Select :=
  { q with orderBy := some (column, direction) }

def columnsSql (q : Select) : String :=
  if q.columns.isEmpty then "*" else quotedList q.columns

def orderSql (q : Select) : String :=
  match q.orderBy with
  | none => ""
  | some (column, direction) => " ORDER BY " ++ quoted column ++ " " ++ direction.word

def windowSql (q : Select) : String :=
  match q.limit, q.offset with
  | none, _ => ""
  | some n, none => " LIMIT " ++ toString n
  | some n, some k => " LIMIT " ++ toString n ++ " OFFSET " ++ toString k

/-- The statement that reads the rows. -/
def rows (q : Select) : Statement where
  sql := "SELECT " ++ q.columnsSql ++ " FROM " ++ quoted q.table ++ whereSql q.conditions ++
    q.orderSql ++ q.windowSql
  params := whereParams q.conditions

/-- The statement that counts the rows, whatever the window. -/
def count (q : Select) : Statement where
  sql := "SELECT COUNT(*) AS total FROM " ++ quoted q.table ++ whereSql q.conditions
  params := whereParams q.conditions

end Select

end SchemaRest.Sql
