import SchemaRest.Database.Cell

/-!
# Running statements

The ways a statement is run: for all rows, for the first one, for a count, for its effect. A reply
may hold several results; the first failure among them is the failure of the statement.
-/

namespace SchemaRest.Database

structure Row where
  columns : List ColumnType
  cells : List Cell
  deriving Repr

def Row.value (protocol : Protocol) (r : Row) : Json := rowValue protocol r.columns r.cells

/-- The cell under a name, the later of two. -/
def Row.cell? (r : Row) (name : String) : Option (ColumnType × Cell) :=
  (r.columns.zip r.cells).reverse.find? (·.1.name == name)

/-- The rows of all results. -/
def rowsOf : List Reply → Except DatabaseError (List Row)
  | [] => .ok []
  | .rows columns rows :: rest => (rowsOf rest).map fun more => rows.map (⟨columns, ·⟩) ++ more
  | .done _ _ :: rest => rowsOf rest
  | .failed code state message :: _ => .error (.server code state message)

/-- The number of affected rows and the last generated number. -/
def outcomeOf : List Reply → Except DatabaseError (Nat × Nat)
  | [] => .ok (0, 0)
  | .rows _ _ :: rest => outcomeOf rest
  | .done affected insertId :: rest => (outcomeOf rest).map fun p =>
      (affected + p.1, if rest.isEmpty then insertId else p.2)
  | .failed code state message :: _ => .error (.server code state message)

def rows (s : Sent) : Effect DatabaseError (List Row) := do
  Effect.ofExcept (rowsOf (← send s))

/-- A number that is not null under a name. -/
def Row.number (r : Row) (name : String) : Except DatabaseError Int :=
  match r.cell? name with
  | none => .error (.columnNotFound name)
  | some (_, none) => .error (.unexpectedNull name)
  | some (column, some bytes) =>
    match wholeTypes.contains column.type && !column.unsigned,
        Text.intBetween? Text.minI64 Text.maxI64 (Text.Utf8.lossy bytes) with
    | true, some n => .ok n
    | _, _ => .error (.wrongType name)

/-- A text under a name, or null. -/
def Row.text? (r : Row) (name : String) : Except DatabaseError (Option String) :=
  match r.cell? name with
  | none => .error (.columnNotFound name)
  | some (_, none) => .ok none
  | some (column, some bytes) =>
    if textTypes.contains column.type then .ok (some (Text.Utf8.lossy bytes))
    else .error (.wrongType name)

def Row.text (r : Row) (name : String) : Except DatabaseError String := do
  match ← r.text? name with
  | some s => .ok s
  | none => .error (.unexpectedNull name)

/-- All rows, as values. -/
def fetchAll (s : Sql.Statement) : Effect DatabaseError (List Json) := do
  return (← rows (.ofStatement s)).map (Row.value .prepared)

def fetchFirst? (s : Sql.Statement) : Effect DatabaseError (Option Json) := do
  return ((← rows (.ofStatement s)).head?).map (Row.value .prepared)

def firstRow (s : Sent) : Effect DatabaseError Row := do
  match (← rows s).head? with
  | some r => pure r
  | none => Effect.fail .rowNotFound

/-- The number that a counting statement answers, never below zero. -/
def count (s : Sql.Statement) : Effect DatabaseError Nat := do
  let r ← firstRow (.ofStatement s)
  return (← Effect.ofExcept (r.number "total")).toNat

/-- The number of affected rows and the number generated for the first row inserted. -/
def execute (s : Sql.Statement) : Effect DatabaseError (Nat × Nat) := do
  Effect.ofExcept (outcomeOf (← send (.ofStatement s)))

/-- All rows of a text. -/
def fetchText (sql : String) : Effect DatabaseError (List Json) := do
  return (← rows (.text sql)).map (Row.value .text)

/-- Runs a statement that creates a table and says whether it drew no warning. -/
def createsWithoutWarning (sql : String) : Effect DatabaseError Bool := do
  let _ ← Effect.ofExcept (outcomeOf (← send (.text sql)))
  let r ← firstRow (.text "SELECT CAST(@@warning_count AS SIGNED) AS warnings")
  return (← Effect.ofExcept (r.number "warnings")) ≤ 0

/-- Whether the database answers at all. -/
def answers : Effect DatabaseError Unit := do
  let _ ← rows (.prepared "SELECT 1" [])

end SchemaRest.Database
