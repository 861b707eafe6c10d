import SchemaRest.Proofs.Sql.SelectReader
import SchemaRest.Sql.Change

/-!
# A reader of changes

A reader of insertions, changes and deletions in the manner of the reader of queries: it takes the text
and the values of a statement and knows nothing of how statements are built. A tuple of an insertion
has one entry for each column named, and every mark has its value.
-/

namespace SchemaRest.Sql

inductive Change where
  /-- The tuples have an entry for every column, a value or the column's default. -/
  | insert (table : String) (columns : List String) (tuples : List (List (Option Json)))
  | update (table : String) (assignments : Fields) (column : String) (key : Json)
  | delete (table column : String) (key : Json)
  deriving Repr

def cell? : Token → Option (Option Json)
  | .mark v => some (some v)
  | .word "DEFAULT" => some none
  | _ => none

/-- Entries up to a closing parenthesis. -/
def cells? : List Token → Option (List (Option Json) × List Token)
  | t :: .sign ')' :: ts => (cell? t).map fun v => ([v], ts)
  | t :: .sign ',' :: ts => (cell? t).bind fun v => (cells? ts).map fun p => (v :: p.1, p.2)
  | _ => none

theorem cells?_length {ts : List Token} {p : List (Option Json) × List Token} (h : cells? ts = some p) :
    p.2.length < ts.length := by
  induction ts using cells?.induct generalizing p with
  | case1 t ts =>
    obtain ⟨v, -, rfl⟩ := Option.map_eq_some_iff.mp h
    simp only [List.length_cons]
    omega
  | case2 t ts ih =>
    obtain ⟨v, -, h⟩ := Option.bind_eq_some_iff.mp h
    obtain ⟨q, hq, rfl⟩ := Option.map_eq_some_iff.mp h
    have := ih hq
    simp only [List.length_cons]
    omega
  | case3 ts h₁ h₂ => simp [cells?] at h

/-- Tuples up to the end of the statement. -/
def tuples? : List Token → Option (List (List (Option Json)))
  | .sign '(' :: ts =>
    match h : cells? ts with
    | none => none
    | some (cells, []) => some [cells]
    | some (cells, .sign ',' :: rest) =>
      have := cells?_length h
      (tuples? rest).map (cells :: ·)
    | some _ => none
  | _ => none
termination_by ts => ts.length
decreasing_by simp only [List.length_cons] at *; omega

def assignments? : List Token → Option (Fields × List Token)
  | .name column :: .comparison "=" :: .mark v :: .sign ',' :: ts =>
    (assignments? ts).map fun p => ((column, v) :: p.1, p.2)
  | .name column :: .comparison "=" :: .mark v :: ts => some ([(column, v)], ts)
  | _ => none

/-- The one condition of a change or a deletion, at its end. -/
def key? : List Token → Option (String × Json)
  | [.word "WHERE", .name column, .comparison "=", .mark v] => some (column, v)
  | _ => none

def change? : List Token → Option Change
  | .word "INSERT" :: .word "INTO" :: .name table :: .sign '(' :: ts =>
    match names? ts with
    | some (columns, .sign ')' :: .word "VALUES" :: ts) =>
      (tuples? ts).bind fun tuples =>
        if tuples.all (·.length = columns.length) then some (.insert table columns tuples) else none
    | _ => none
  | .word "UPDATE" :: .name table :: .word "SET" :: ts =>
    (assignments? ts).bind fun p => (key? p.2).map fun k => .update table p.1 k.1 k.2
  | .word "DELETE" :: .word "FROM" :: .name table :: ts =>
    (key? ts).map fun k => .delete table k.1 k.2
  | _ => none

/-- The change that a statement with its values is. -/
def readChange? (s : Statement) : Option Change := (tokens? s).bind change?

end SchemaRest.Sql
