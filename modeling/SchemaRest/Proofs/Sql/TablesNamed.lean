import SchemaRest.Proofs.Sql.ChangeLexemes
import SchemaRest.Proofs.Sql.SelectLexemes

/-!
# Tables named in a statement

Which names in a text name tables, by the words in front of them, and that each statement of the
service names one table and no other, whatever the names in it are.
-/

namespace SchemaRest.Sql

variable {μ : Type}

/-- Whether tables are named behind a word. -/
def takesTable (w : String) : Bool := ["FROM", "JOIN", "INTO", "UPDATE", "TABLE"].contains w

/-- The names of tables. After a word that takes a table names are tables up to the next word, and so
are further names after commas and dots. -/
def tablesFrom (due : Bool) : List (Lexeme μ) → List String
  | [] => []
  | .blank _ :: ls => tablesFrom due ls
  | .word w :: ls => tablesFrom (takesTable w) ls
  | .name t :: ls => if due then t :: tablesFrom due ls else tablesFrom due ls
  | .sign c :: ls => tablesFrom (due && (c = ',' || c = '.')) ls
  | .literal _ :: ls => tablesFrom false ls
  | .mark _ :: ls => tablesFrom false ls
  | .number _ :: ls => tablesFrom false ls
  | .comparison _ :: ls => tablesFrom false ls

/-- The tables that a text names. -/
def tablesNamed? (sql : String) : Option (List String) := (lex sql.toList).map (tablesFrom false)

theorem tablesFrom_bare (due : Bool) (ls : List (Lexeme μ)) :
    tablesFrom due (ls.map Lexeme.bare) = tablesFrom due ls := by
  induction ls generalizing due with
  | nil => rfl
  | cons l ls ih => cases l <;> simp [Lexeme.bare, tablesFrom, ih]

theorem tablesNamed?_of_lex {sql : String} {ls : List (Lexeme μ)}
    (h : lex sql.toList = some (ls.map Lexeme.bare)) :
    tablesNamed? sql = some (tablesFrom false ls) := by
  rw [tablesNamed?, h, Option.map_some, tablesFrom_bare]

/-! ## Lexemes without a table -/

def Lexeme.callsTable : Lexeme μ → Bool
  | .word w => takesTable w
  | _ => false

/-- No word that takes a table. -/
def Tableless (ls : List (Lexeme μ)) : Prop := ∀ l ∈ ls, l.callsTable = false

theorem tablesFrom_tableless {ls : List (Lexeme μ)} (h : Tableless ls) (ms : List (Lexeme μ)) :
    tablesFrom false (ls ++ ms) = tablesFrom false ms := by
  induction ls with
  | nil => rfl
  | cons l ls ih =>
    obtain ⟨hl, hls⟩ := List.forall_mem_cons.mp h
    have hrest := ih hls
    cases l with
    | word w =>
      have hw : takesTable w = false := hl
      rw [List.cons_append, tablesFrom, hw]
      exact hrest
    | _ => simpa [tablesFrom] using hrest

theorem Tableless.append {ls ms : List (Lexeme μ)} (hl : Tableless ls) (hm : Tableless ms) :
    Tableless (ls ++ ms) := List.forall_mem_append.mpr ⟨hl, hm⟩

theorem Tableless.cons {l : Lexeme μ} {ls : List (Lexeme μ)} (hl : l.callsTable = false)
    (hls : Tableless ls) : Tableless (l :: ls) := List.forall_mem_cons.mpr ⟨hl, hls⟩

theorem Tableless.spaced {ls : List (Lexeme μ)} (h : Tableless ls) : Tableless (spaced ls) :=
  forall_mem_spaced (P := (·.callsTable = false)) rfl h

theorem Tableless.bracketed {ls : List (Lexeme μ)} (h : Tableless ls) : Tableless (bracketed ls) :=
  forall_mem_bracketed (P := (·.callsTable = false)) rfl rfl h

theorem Tableless.listed {gs : List (List (Lexeme μ))} (h : ∀ g ∈ gs, Tableless g) :
    Tableless (listed gs) := forall_mem_listed (P := (·.callsTable = false)) rfl rfl h

theorem tableless_nameList (names : List String) : Tableless (nameList names : List (Lexeme μ)) :=
  Tableless.listed fun g hg => by
    obtain ⟨n, -, rfl⟩ := List.mem_map.mp hg
    exact List.forall_mem_singleton.mpr rfl

theorem tableless_markList (values : List μ) : Tableless (markList values) :=
  Tableless.listed fun g hg => by
    obtain ⟨v, -, rfl⟩ := List.mem_map.mp hg
    exact List.forall_mem_singleton.mpr rfl

/-! ## Clauses of queries -/

theorem callsTable_comparison (op : Comparison) : op.lexeme.callsTable = false := by
  cases op <;> rfl

theorem tableless_not (negate : Bool) : Tableless (Condition.notLexemes negate) := by
  cases negate with
  | false => exact List.forall_mem_nil _
  | true => exact List.forall_mem_singleton.mpr rfl

theorem tableless_compare (column : String) (op : Comparison) (value : Json) :
    Tableless (Condition.compareLexemes column op value) :=
  .cons rfl (.spaced (.cons (callsTable_comparison op) (List.forall_mem_singleton.mpr rfl)))

theorem tableless_condition (c : Condition) : Tableless c.lexemes := by
  obtain ⟨connector, negate, predicate⟩ := c
  cases predicate with
  | compare column op value =>
    have h := tableless_compare column op value
    cases negate with
    | false => exact .cons rfl h
    | true => exact .append (.spaced (List.forall_mem_singleton.mpr rfl)) (.cons rfl h.bracketed)
  | among column values =>
    cases values with
    | nil =>
      cases negate <;> exact .spaced (.cons rfl (.cons rfl (List.forall_mem_singleton.mpr rfl)))
    | cons v vs =>
      have hmarks := (tableless_markList (v :: vs)).bracketed
      have hwords := Tableless.append (tableless_not negate)
        (List.forall_mem_singleton.mpr (rfl : (.word "IN" : Lexeme Json).callsTable = false))
      exact .append (.spaced (.cons rfl hwords)) (.cons rfl hmarks)
  | between column low high =>
    refine .spaced (.append (.cons rfl (tableless_not negate)) ?_)
    exact .cons rfl (.cons rfl (.cons rfl (List.forall_mem_singleton.mpr rfl)))
  | isNull column =>
    refine .spaced (.append (.cons rfl (.cons rfl (tableless_not negate))) ?_)
    exact List.forall_mem_singleton.mpr rfl

theorem tableless_chain (conditions : List Condition) :
    Tableless (Condition.chainLexemes conditions) := by
  intro l hl
  obtain ⟨c, -, hl⟩ := List.mem_flatMap.mp hl
  have hword : Tableless (spaced [(.word c.connector.word : Lexeme Json)]) :=
    .spaced (List.forall_mem_singleton.mpr (by cases c.connector <;> rfl))
  exact hword.append (tableless_condition c) l hl

/-- Behind a table its clauses name no other. -/
theorem tablesFrom_where (conditions : List Condition) {ms : List (Lexeme Json)}
    (hms : ∀ due, tablesFrom due ms = []) (due : Bool) :
    tablesFrom due (whereLexemes conditions ++ ms) = [] := by
  cases conditions with
  | nil => exact hms due
  | cons c rest =>
    have h := tablesFrom_tableless ((tableless_condition c).append (tableless_chain rest)) ms
    rw [hms false] at h
    simpa [whereLexemes, tablesFrom, takesTable] using h

namespace Select

theorem tablesFrom_window (q : Select) (due : Bool) : tablesFrom due q.windowLexemes = [] := by
  unfold windowLexemes
  split <;> rfl

theorem tablesFrom_order (q : Select) (due : Bool) :
    tablesFrom due (q.orderLexemes ++ q.windowLexemes) = [] := by
  cases horder : q.orderBy with
  | none =>
    have hnone : q.orderLexemes = [] := by simp [orderLexemes, horder]
    rw [hnone]
    exact q.tablesFrom_window due
  | some order =>
    obtain ⟨column, direction⟩ := order
    have hwindow := q.tablesFrom_window false
    cases direction <;>
      simpa [orderLexemes, horder, tablesFrom, takesTable, Direction.lexeme, Direction.word]
        using hwindow

theorem tableless_columns (q : Select) : Tableless q.columnLexemes := by
  unfold columnLexemes
  split
  · exact List.forall_mem_singleton.mpr rfl
  · exact tableless_nameList q.columns

theorem tablesNamed?_rows (q : Select) : tablesNamed? q.rows.sql = some [q.table] := by
  rw [tablesNamed?_of_lex q.lex_rows]
  have hcolumns := fun ms => tablesFrom_tableless q.tableless_columns ms
  have hwhere := tablesFrom_where q.conditions q.tablesFrom_order true
  simp [rowLexemes, fromLexemes, tablesFrom, takesTable, hcolumns, hwhere]

theorem tablesNamed?_count (q : Select) : tablesNamed? q.count.sql = some [q.table] := by
  rw [tablesNamed?_of_lex q.lex_count]
  have hnil : ∀ due, tablesFrom due ([] : List (Lexeme Json)) = [] := fun _ => rfl
  have hwhere := tablesFrom_where q.conditions hnil true
  rw [List.append_nil] at hwhere
  simp [countLexemes, fromLexemes, bracketed, tablesFrom, takesTable, hwhere]

end Select

/-! ## Changes -/

theorem tablesFrom_key (column : String) (key : Json) (due : Bool) :
    tablesFrom due (keyLexemes column key) = [] := by cases due <;> rfl

theorem tableless_row (columns : List String) (row : Fields) :
    Tableless (rowLexemes columns row) := by
  refine .bracketed (.listed fun g hg => ?_)
  obtain ⟨c, -, rfl⟩ := List.mem_map.mp hg
  refine List.forall_mem_singleton.mpr ?_
  cases Fields.get? c row <;> rfl

theorem tablesNamed?_insert (table : String) (rows : List Fields) :
    tablesNamed? (insert table rows).sql = some [table] := by
  rw [tablesNamed?_of_lex (lex_insert table rows)]
  have hnames := fun ms =>
    tablesFrom_tableless (tableless_nameList (μ := Json) (rowColumns rows)) ms
  have hrows : Tableless (listed (rows.map (rowLexemes (rowColumns rows)))) := by
    refine .listed fun g hg => ?_
    obtain ⟨row, -, rfl⟩ := List.mem_map.mp hg
    exact tableless_row (rowColumns rows) row
  have hvalues := tablesFrom_tableless hrows []
  rw [List.append_nil] at hvalues
  simp [insertLexemes, bracketed, tablesFrom, takesTable, hnames, hvalues]

theorem tablesNamed?_update (table : String) (changes : Fields) (column : String) (key : Json) :
    tablesNamed? (update table changes column key).sql = some [table] := by
  rw [tablesNamed?_of_lex (lex_update table changes column key)]
  have hchanges : Tableless (listed (changes.map changeLexemes)) := by
    refine .listed fun g hg => ?_
    obtain ⟨p, -, rfl⟩ := List.mem_map.mp hg
    exact .cons rfl (.spaced (.cons rfl (List.forall_mem_singleton.mpr rfl)))
  have hset := tablesFrom_tableless hchanges (keyLexemes column key)
  rw [tablesFrom_key] at hset
  simp [updateLexemes, tablesFrom, takesTable, hset]

theorem tablesNamed?_delete (table column : String) (key : Json) :
    tablesNamed? (delete table column key).sql = some [table] := by
  rw [tablesNamed?_of_lex (lex_delete table column key)]
  have hkey := tablesFrom_key column key true
  simp [deleteLexemes, tablesFrom, takesTable, hkey]

end SchemaRest.Sql
