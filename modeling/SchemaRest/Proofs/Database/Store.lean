import SchemaRest.Proofs.Request.Windows
import SchemaRest.Proofs.Service.Replies
import SchemaRest.Proofs.Sql.BoundReading
import SchemaRest.Proofs.Sql.Numeral
import SchemaRest.Proofs.Text.Utf8

/-!
# A store of rows

A database as its statements see it: every table is a list of rows in a fixed order, and what a condition
says of a row is up to the store. It reads the statements it is sent with the values bound to them. A
query takes the rows that satisfy its conditions, leaves out the offset and keeps the limit; a count is
the number of the rows that satisfy them.
-/

namespace SchemaRest

/-- The value that a bound value is. -/
def Sql.Bound.json : Sql.Bound → Json
  | .null => .null
  | .bool b => .bool b
  | .signed n => .int n
  | .unsigned n => .nat n
  | .double d => .num (.double d)
  | .text s => .str s

/-- The query that a statement is, with the values as they were bound. -/
def Sent.read? : Sent → Option Sql.Reading
  | .prepared sql params => Sql.read? ⟨sql, params.map Sql.Bound.json⟩
  | .text _ => none

structure Store (ρ : Type) where
  rows : String → List ρ
  /-- Whether a row of a table satisfies a chain of conditions. -/
  satisfies : String → List Sql.Term → ρ → Bool
  /-- How some columns of a table are announced, none standing for all. -/
  header : String → List String → List ColumnType
  cells : String → List String → ρ → List Cell

namespace Store

variable {ρ : Type} (d : Store ρ)

/-- The rows of the table that satisfy the conditions. -/
def matching (r : Sql.Reading) : List ρ := (d.rows r.table).filter (d.satisfies r.table r.terms)

def answer (r : Sql.Reading) : Reply :=
  match r.wanted with
  | .rows columns =>
    .rows (d.header r.table columns)
      ((windowed r.limit r.offset (d.matching r)).map (d.cells r.table columns))
  | .total =>
    .rows [⟨"total", "BIGINT", false⟩] [[some (Nat.repr (d.matching r).length).toUTF8.toList]]

/-- What the store replies to a statement. -/
def reply (s : Sent) : List Reply := (s.read?.map d.answer).toList

/-- A row as it is shown. -/
def value (table : String) (columns : List String) (row : ρ) : Json :=
  Database.rowValue .prepared (d.header table columns) (d.cells table columns row)

end Store

/-! ## Statements of a query -/

/-- The query as the database is given it. -/
def Sql.Select.given (q : Sql.Select) : Sql.Select := q.mapValues fun v => (Sql.Bound.ofJson v).json

theorem Sent.read?_ofStatement (s : Sql.Statement) :
    (Sent.ofStatement s).read? = Sql.read? (s.mapValues fun v => (Sql.Bound.ofJson v).json) := by
  rw [Sent.ofStatement, Sent.read?, Sql.Statement.mapValues, List.map_map]
  rfl

theorem Sent.read?_rows (q : Sql.Select) :
    (Sent.ofStatement q.rows).read? = some q.given.reading := by
  rw [Sent.read?_ofStatement]
  exact q.read?_rows_mapValues _

theorem Sent.read?_count (q : Sql.Select) :
    (Sent.ofStatement q.count).read? = some q.given.countReading := by
  rw [Sent.read?_ofStatement]
  exact q.read?_count_mapValues _

/-! ## What is read of the replies -/

theorem toNat_lt_of_mem_repr (n : Nat) : ∀ c ∈ n.repr.toList, c.toNat < 128 := by
  intro c hc
  obtain ⟨-, hdigit⟩ := Bool.and_eq_true_iff.mp (Sql.isDigit_of_mem_repr n c hc)
  have hle : c.toNat ≤ '9'.toNat := of_decide_eq_true hdigit
  exact Nat.lt_of_le_of_lt hle (by decide)

theorem lossy_repr (n : Nat) : Text.Utf8.lossy n.repr.toUTF8.toList = n.repr :=
  Text.Utf8.lossy_toUTF8 (toNat_lt_of_mem_repr n)

/-- The text of a number is read as the number. -/
theorem intBetween?_repr {n : Nat} (h : n < 2 ^ 63) :
    Text.intBetween? Text.minI64 Text.maxI64 n.repr = some (n : Int) := by
  have hread : Text.intBetween? Text.minI64 Text.maxI64 n.repr =
      ((Text.digits? n.repr.toList).map Int.ofNat).filter fun n =>
        Text.minI64 ≤ n && n ≤ Text.maxI64 := by
    obtain ⟨c, cs, hcs⟩ := List.exists_cons_of_ne_nil (Sql.repr_ne_nil n)
    have hdigit : Text.isDigit c := Sql.isDigit_of_mem_repr n c (hcs ▸ List.mem_cons_self)
    unfold Text.intBetween?
    rw [hcs]
    split
    · next heq =>
      cases heq
      exact absurd hdigit (by decide)
    · next heq =>
      cases heq
      exact absurd hdigit (by decide)
    · cases Text.digits? (c :: cs) <;> rfl
  have hlow : Text.minI64 ≤ Int.ofNat n := Int.le_trans (by decide) (Int.natCast_nonneg n)
  have hhigh : Int.ofNat n ≤ Text.maxI64 := Int.ofNat_le.mpr (Nat.le_of_lt_succ h)
  have hrange : (decide (Text.minI64 ≤ Int.ofNat n) && decide (Int.ofNat n ≤ Text.maxI64)) = true :=
    Bool.and_eq_true_iff.mpr ⟨decide_eq_true hlow, decide_eq_true hhigh⟩
  rw [hread, Sql.digits?_repr, Option.map_some, Option.filter_some, if_pos hrange]
  rfl

theorem number_total {n : Nat} (h : n < 2 ^ 63) :
    Database.Row.number ⟨[⟨"total", "BIGINT", false⟩], [some n.repr.toUTF8.toList]⟩ "total" = .ok n := by
  have hcell : Database.Row.cell? ⟨[⟨"total", "BIGINT", false⟩], [some n.repr.toUTF8.toList]⟩ "total" =
      some (⟨"total", "BIGINT", false⟩, some n.repr.toUTF8.toList) := rfl
  have hwhole : (Database.wholeTypes.contains "BIGINT" && !false) = true := rfl
  rw [Database.Row.number, hcell]
  dsimp only
  rw [lossy_repr, intBetween?_repr h, hwhole]

namespace Store

open Effect (Gives)

variable {ρ : Type} (d : Store ρ)

theorem rowsOf_count (q : Sql.Select) :
    Database.rowsOf (d.reply (.ofStatement q.count)) = .ok [⟨[⟨"total", "BIGINT", false⟩],
      [some (Nat.repr (d.matching q.given.countReading).length).toUTF8.toList]⟩] := by
  rw [reply, Sent.read?_count]
  rfl

theorem rowsOf_rows (q : Sql.Select) :
    Database.rowsOf (d.reply (.ofStatement q.rows)) =
      .ok ((windowed q.limit (q.limit.bind fun _ => q.offset) (d.matching q.given.reading)).map fun row =>
        ⟨d.header q.table q.columns, d.cells q.table q.columns row⟩) := by
  rw [reply, Sent.read?_rows]
  show Except.ok (_ ++ []) = _
  rw [List.append_nil, List.map_map]
  rfl

/-- Counting gives the number of matching rows. -/
theorem gives_count (q : Sql.Select) (h : (d.matching q.given.reading).length < 2 ^ 63) :
    Gives d.reply (Database.count q.count) (.ok (d.matching q.given.reading).length)
      [.ofStatement q.count] := by
  have hcount := Gives.count (d.rowsOf_count q) (number_total h)
  rwa [Int.toNat_natCast] at hcount

/-- Fetching gives the matching rows in the window. -/
theorem gives_fetchAll (q : Sql.Select) :
    Gives d.reply (Database.fetchAll q.rows)
      (.ok ((windowed q.limit (q.limit.bind fun _ => q.offset) (d.matching q.given.reading)).map
        (d.value q.table q.columns))) [.ofStatement q.rows] := by
  have hrows := Gives.fetchAll (d.rowsOf_rows q)
  rwa [List.map_map] at hrows

end Store

end SchemaRest
