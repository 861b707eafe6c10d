import SchemaRest.Proofs.Json.Fields
import SchemaRest.Proofs.Sql.ChangeLexemes
import SchemaRest.Proofs.Sql.ChangeReader
import SchemaRest.Proofs.Sql.SelectReading

/-!
# Reading changes back

`readChange?_changes` says that the reader gets every insertion, change and deletion back from its
statement. The columns of an insertion are the keys of all its rows, so rows with different keys leave
defaults where others have values.
-/

namespace SchemaRest.Sql

/-! ## Columns of an insertion -/

theorem addNames_cons (names : List String) (n : String) (more : List String) :
    addNames names (n :: more) =
      addNames (if names.contains n then names else names ++ [n]) more := rfl

theorem mem_addNames {c : String} (names more : List String) :
    c ∈ addNames names more ↔ c ∈ names ∨ c ∈ more := by
  induction more generalizing names with
  | nil => simp [addNames]
  | cons n more ih =>
    rw [addNames_cons, ih, List.mem_cons]
    split
    · next h =>
      have hn : n ∈ names := List.contains_iff_mem.mp h
      constructor
      · exact fun h => h.imp_right .inr
      · rintro (h | rfl | h)
        · exact .inl h
        · exact .inl hn
        · exact .inr h
    · rw [List.mem_append, List.mem_singleton, or_assoc]

theorem nodup_addNames {names : List String} (h : names.Nodup) (more : List String) :
    (addNames names more).Nodup := by
  induction more generalizing names with
  | nil => exact h
  | cons n more ih =>
    rw [addNames_cons]
    split
    · exact ih h
    · next hn =>
      refine ih (List.nodup_append.mpr ⟨h, by simp, ?_⟩)
      rintro a ha b hb rfl
      exact hn (List.contains_iff_mem.mpr (List.mem_singleton.mp hb ▸ ha))

theorem mem_rowColumns {c : String} (rows : List Fields) :
    c ∈ rowColumns rows ↔ ∃ row ∈ rows, c ∈ Fields.keys row := by
  have hfold : ∀ names, c ∈ rows.foldl (fun ns row => addNames ns (Fields.keys row)) names ↔
      c ∈ names ∨ ∃ row ∈ rows, c ∈ Fields.keys row := by
    induction rows with
    | nil => simp
    | cons row rows ih =>
      intro names
      rw [List.foldl_cons, ih, mem_addNames, List.exists_mem_cons_iff, or_assoc]
  exact (hfold []).trans (or_iff_right List.not_mem_nil)

theorem nodup_rowColumns (rows : List Fields) : (rowColumns rows).Nodup :=
  List.foldlRecOn (motive := List.Nodup) rows _ List.nodup_nil fun _ h _ _ => nodup_addNames h _

/-! ## Lexemes and values of an insertion -/

@[simp] theorem valuesOf_listed (groups : List (List (Lexeme Json))) :
    valuesOf (listed groups) = groups.flatMap valuesOf := by
  induction groups with
  | nil => rfl
  | cons g groups ih =>
    cases groups with
    | nil => simp
    | cons k groups => simpa using ih

theorem solid_listed_cons_cons (g k : List (Lexeme Json)) (groups : List (List (Lexeme Json))) :
    solid (listed (g :: k :: groups)) = solid g ++ .sign ',' :: solid (listed (k :: groups)) := by
  simp [solid_cons]

def cellLexemes (cells : List (Option Json)) : List (Lexeme Json) :=
  listed (cells.map fun v => [cellLexeme v])

def tupleLexemes (cells : List (Option Json)) : List (Lexeme Json) := bracketed (cellLexemes cells)

/-- The entries of a row in some columns. -/
def cellsOf (columns : List String) (row : Fields) : List (Option Json) :=
  columns.map (Fields.get? · row)

/-- The values among the entries. -/
def given (cells : List (Option Json)) : List Json := cells.filterMap id

theorem map_rowLexemes (columns : List String) (rows : List Fields) :
    rows.map (rowLexemes columns) = (rows.map (cellsOf columns)).map tupleLexemes := by
  rw [List.map_map]
  refine List.map_congr_left fun row _ => ?_
  simp [rowLexemes, tupleLexemes, cellLexemes, cellsOf, Function.comp_def]

theorem valuesOf_tuple (cells : List (Option Json)) : valuesOf (tupleLexemes cells) = given cells := by
  rw [tupleLexemes, valuesOf_bracketed, cellLexemes, valuesOf_listed, given]
  induction cells with
  | nil => rfl
  | cons v cells ih =>
    rw [List.map_cons, List.flatMap_cons, ih]
    cases v <;> rfl

theorem given_cellsOf (columns : List String) (row : Fields) :
    given (cellsOf columns row) = rowParams columns row := by
  rw [given, cellsOf, rowParams, List.filterMap_map]
  rfl

theorem valuesOf_insert (table : String) (rows : List Fields) :
    valuesOf (.word "INSERT" :: insertLexemes table rows) = (insert table rows).params := by
  have htuples : valuesOf (listed (rows.map (rowLexemes (rowColumns rows)))) =
      rows.flatMap (rowParams (rowColumns rows)) := by
    rw [map_rowLexemes, valuesOf_listed, List.map_map, List.flatMap_map]
    simp only [Function.comp_apply, valuesOf_tuple, given_cellsOf]
  have hparams : (insert table rows).params = rows.flatMap (rowParams (rowColumns rows)) := rfl
  simp [insertLexemes, hparams, htuples]

/-! ## Reading an insertion -/

theorem cell?_lexeme (v : Option Json) : cell? (cellLexeme v) = some v := by
  cases v <;> rfl

theorem solid_cell (v : Option Json) : solid [cellLexeme v] = [cellLexeme v] := by
  cases v <;> rfl

theorem solid_cells_cons_cons (v w : Option Json) (cells : List (Option Json)) :
    solid (cellLexemes (v :: w :: cells)) =
      cellLexeme v :: .sign ',' :: solid (cellLexemes (w :: cells)) := by
  rw [cellLexemes, List.map_cons, List.map_cons, solid_listed_cons_cons, solid_cell]
  rfl

theorem cells?_solid (v : Option Json) (cells : List (Option Json)) (ts : List Token) :
    cells? (solid (cellLexemes (v :: cells)) ++ .sign ')' :: ts) = some (v :: cells, ts) := by
  induction cells generalizing v with
  | nil =>
    have hsolid : solid (cellLexemes [v]) = [cellLexeme v] := solid_cell v
    rw [hsolid, List.singleton_append, cells?, cell?_lexeme]
    rfl
  | cons w cells ih =>
    rw [solid_cells_cons_cons, List.cons_append, List.cons_append, cells?, cell?_lexeme, ih]
    rfl

theorem solid_tuple (cells : List (Option Json)) (ts : List Token) :
    solid (tupleLexemes cells) ++ ts = .sign '(' :: (solid (cellLexemes cells) ++ .sign ')' :: ts) := by
  simp [tupleLexemes]

theorem tuples?_last {ts : List Token} {cells : List (Option Json)} (h : cells? ts = some (cells, [])) :
    tuples? (.sign '(' :: ts) = some [cells] := by
  rw [tuples?]
  split <;> simp_all

theorem tuples?_more {ts rest : List Token} {cells : List (Option Json)}
    (h : cells? ts = some (cells, .sign ',' :: rest)) :
    tuples? (.sign '(' :: ts) = (tuples? rest).map (cells :: ·) := by
  rw [tuples?]
  split <;> simp_all

theorem tuples?_solid {cells : List (Option Json)} {tuples : List (List (Option Json))}
    (h : ∀ cs ∈ cells :: tuples, cs ≠ []) :
    tuples? (solid (listed ((cells :: tuples).map tupleLexemes))) = some (cells :: tuples) := by
  induction tuples generalizing cells with
  | nil =>
    obtain ⟨v, vs, rfl⟩ := List.exists_cons_of_ne_nil (h cells List.mem_cons_self)
    rw [List.map_singleton, listed_singleton, ← List.append_nil (solid _), solid_tuple]
    exact tuples?_last (cells?_solid v vs [])
  | cons next tuples ih =>
    obtain ⟨hcells, hrest⟩ := List.forall_mem_cons.mp h
    obtain ⟨v, vs, rfl⟩ := List.exists_cons_of_ne_nil hcells
    rw [List.map_cons, List.map_cons, solid_listed_cons_cons, solid_tuple, ← List.map_cons,
      tuples?_more (cells?_solid v vs _), ih hrest]
    rfl

theorem tokens?_insert (table : String) (rows : List Fields) :
    tokens? (insert table rows) = some (.word "INSERT" :: .word "INTO" :: .name table :: .sign '(' ::
      (solid (nameList (rowColumns rows)) ++ .sign ')' :: .word "VALUES" ::
        solid (listed ((rows.map (cellsOf (rowColumns rows))).map tupleLexemes)))) := by
  rw [tokens?_of_lex (lex_insert table rows) (valuesOf_insert table rows).symm, insertLexemes,
    map_rowLexemes]
  simp [solid_cons]

/-- Tuples as wide as the columns are read with them. -/
theorem change?_insert (table : String) {columns : List String} {tuples : List (List (Option Json))}
    (hcolumns : columns ≠ []) (htuples : tuples ≠ [])
    (hwidth : ∀ cells ∈ tuples, cells.length = columns.length) :
    change? (.word "INSERT" :: .word "INTO" :: .name table :: .sign '(' ::
      (solid (nameList columns) ++ .sign ')' :: .word "VALUES" ::
        solid (listed (tuples.map tupleLexemes)))) = some (.insert table columns tuples) := by
  obtain ⟨n, names, rfl⟩ := List.exists_cons_of_ne_nil hcolumns
  obtain ⟨cells, rest, rfl⟩ := List.exists_cons_of_ne_nil htuples
  have hcells : ∀ cs ∈ cells :: rest, cs ≠ [] := fun cs hcs =>
    List.ne_nil_of_length_pos (by rw [hwidth cs hcs]; exact Nat.succ_pos _)
  have hall : ((cells :: rest).all fun cs => cs.length = (n :: names).length) = true :=
    List.all_eq_true.mpr fun cs hcs => decide_eq_true (hwidth cs hcs)
  have hnames := names?_solid n names (t := .sign ')')
    (.word "VALUES" :: solid (listed ((cells :: rest).map tupleLexemes))) (by simp)
  rw [change?, hnames]
  show (tuples? _).bind _ = _
  rw [tuples?_solid hcells, Option.bind_some, if_pos hall]

theorem rowColumns_ne_nil {rows : List Fields} (h : ∃ row ∈ rows, row ≠ []) : rowColumns rows ≠ [] := by
  obtain ⟨row, hrow, hne⟩ := h
  obtain ⟨p, ps, rfl⟩ := List.exists_cons_of_ne_nil hne
  have hkey : p.1 ∈ rowColumns rows := (mem_rowColumns rows).mpr ⟨_, hrow, List.mem_cons_self⟩
  exact List.ne_nil_of_mem hkey

theorem readChange?_insert (table : String) {rows : List Fields} (h : ∃ row ∈ rows, row ≠ []) :
    readChange? (insert table rows) =
      some (.insert table (rowColumns rows) (rows.map (cellsOf (rowColumns rows)))) := by
  obtain ⟨row, hrow, -⟩ := id h
  rw [readChange?, tokens?_insert, Option.bind_some]
  refine change?_insert table (rowColumns_ne_nil h) ?_ fun cells hcells => ?_
  · exact List.ne_nil_of_mem (List.mem_map_of_mem hrow)
  · obtain ⟨r, -, rfl⟩ := List.mem_map.mp hcells
    exact List.length_map _

/-! ## Rows of an insertion -/

/-- The row that a tuple is: a column with its default is left out. -/
def rowOf (columns : List String) (cells : List (Option Json)) : Fields :=
  (columns.zip cells).filterMap fun p => p.2.map fun v => (p.1, v)

theorem rowOf_cellsOf (columns : List String) (row : Fields) :
    rowOf columns (cellsOf columns row) =
      columns.filterMap fun c => (Fields.get? c row).map fun v => (c, v) := by
  induction columns with
  | nil => rfl
  | cons c columns ih =>
    rw [rowOf, cellsOf] at ih ⊢
    rw [List.map_cons, List.zip_cons_cons, List.filterMap_cons, ih, List.filterMap_cons]

theorem get?_rowOf_cellsOf (columns : List String) (row : Fields) (key : String) :
    Fields.get? key (rowOf columns (cellsOf columns row)) =
      if key ∈ columns then Fields.get? key row else none := by
  rw [rowOf_cellsOf]
  induction columns with
  | nil => rfl
  | cons c columns ih =>
    rw [List.filterMap_cons]
    by_cases hkey : c = key
    · subst hkey
      rw [if_pos List.mem_cons_self]
      cases hget : Fields.get? c row with
      | none => simp [ih, hget]
      | some v => simp [Fields.get?]
    · have hmem : key ∈ c :: columns ↔ key ∈ columns := by simp [Ne.symm hkey]
      simp only [hmem]
      cases Fields.get? c row with
      | none => exact ih
      | some v => simpa [Fields.get?, hkey] using ih

/-- A tuple is its row again, as a map. -/
theorem get?_rowOf {columns : List String} {row : Fields} (h : ∀ c ∈ Fields.keys row, c ∈ columns)
    (key : String) : Fields.get? key (rowOf columns (cellsOf columns row)) = Fields.get? key row := by
  rw [get?_rowOf_cellsOf]
  split
  · rfl
  · next hkey =>
    cases hget : Fields.get? key row with
    | none => rfl
    | some v => exact absurd (h key (List.mem_map_of_mem (Fields.mem_of_get? hget))) hkey

/-! ## Reading changes and deletions -/

theorem valuesOf_key (column : String) (key : Json) : valuesOf (keyLexemes column key) = [key] := by
  simp [keyLexemes]

theorem key?_solid (column : String) (key : Json) :
    key? (solid (keyLexemes column key)) = some (column, key) := rfl

theorem solid_change (p : String × Json) :
    solid (changeLexemes p) = [.name p.1, .comparison "=", .mark p.2] := rfl

theorem assignments?_solid (p : String × Json) (changes : Fields) (column : String) (key : Json) :
    assignments? (solid (listed ((p :: changes).map changeLexemes)) ++
      solid (keyLexemes column key)) = some (p :: changes, solid (keyLexemes column key)) := by
  induction changes generalizing p with
  | nil => rfl
  | cons q changes ih =>
    have hread := ih q
    rw [List.map_cons] at hread
    rw [List.map_cons, List.map_cons, solid_listed_cons_cons, solid_change]
    simp only [List.cons_append, List.nil_append, assignments?, hread]
    rfl

theorem valuesOf_update (table : String) (changes : Fields) (column : String) (key : Json) :
    valuesOf (.word "UPDATE" :: updateLexemes table changes column key) =
      (update table changes column key).params := by
  have hchanges : (changes.map changeLexemes).flatMap valuesOf = changes.map (·.2) := by
    rw [List.flatMap_map, List.map_eq_flatMap]
    rfl
  have hparams : (update table changes column key).params = changes.map (·.2) ++ [key] := rfl
  simp [updateLexemes, valuesOf_key, hparams, hchanges]

theorem readChange?_update (table : String) {changes : Fields} (h : changes ≠ []) (column : String)
    (key : Json) :
    readChange? (update table changes column key) = some (.update table changes column key) := by
  obtain ⟨p, changes, rfl⟩ := List.exists_cons_of_ne_nil h
  have htokens : tokens? (update table (p :: changes) column key) = some (.word "UPDATE" ::
      .name table :: .word "SET" :: (solid (listed ((p :: changes).map changeLexemes)) ++
        solid (keyLexemes column key))) := by
    rw [tokens?_of_lex (lex_update ..) (valuesOf_update ..).symm, updateLexemes]
    simp [solid_cons]
  rw [readChange?, htokens, Option.bind_some, change?, assignments?_solid, Option.bind_some,
    key?_solid]
  rfl

theorem readChange?_delete (table column : String) (key : Json) :
    readChange? (delete table column key) = some (.delete table column key) := by
  have hvalues : (delete table column key).params =
      valuesOf (.word "DELETE" :: deleteLexemes table column key) := rfl
  rw [readChange?, tokens?_of_lex (lex_delete table column key) hvalues]
  rfl

/-! ## Changes of a table -/

/-- Whatever names and values they have, statements that change a table are read back as what they were
made from. The columns of an insertion are the keys of its rows, each once; a tuple has the value of its
row under each column the row has and the default under the others, so it is its row again. -/
theorem readChange?_changes (table : String) :
    (∀ rows : List Fields, (∃ row ∈ rows, row ≠ []) → ∃ columns tuples,
      readChange? (insert table rows) = some (.insert table columns tuples) ∧
      columns.Nodup ∧ (∀ c, c ∈ columns ↔ ∃ row ∈ rows, c ∈ Fields.keys row) ∧
      tuples = rows.map (fun row => columns.map (Fields.get? · row)) ∧
      (insert table rows).params = tuples.flatMap (·.filterMap id) ∧
      List.Forall₂ (fun cells row => ∀ key, Fields.get? key (rowOf columns cells) = Fields.get? key row)
        tuples rows) ∧
    (∀ changes : Fields, changes ≠ [] → ∀ column key,
      readChange? (update table changes column key) = some (.update table changes column key)) ∧
    ∀ column key, readChange? (delete table column key) = some (.delete table column key) := by
  refine ⟨fun rows hrows => ?_, fun changes h => readChange?_update table h, readChange?_delete table⟩
  have hkeys : ∀ row ∈ rows, ∀ c ∈ Fields.keys row, c ∈ rowColumns rows := fun row hrow c hc =>
    (mem_rowColumns rows).mpr ⟨row, hrow, hc⟩
  refine ⟨rowColumns rows, rows.map (cellsOf (rowColumns rows)), readChange?_insert table hrows,
    nodup_rowColumns rows, fun c => mem_rowColumns rows, rfl, ?_, ?_⟩
  · rw [List.flatMap_map]
    exact congrArg rows.flatMap (funext fun row => (given_cellsOf (rowColumns rows) row).symm)
  · rw [List.forall₂_map_left_iff, List.forall₂_same]
    exact fun row hrow key => get?_rowOf (hkeys row hrow) key

/-- Two rows that share one of three keys, in different order. -/
def raggedRows : List Fields :=
  [[("a", .nat 1), ("b`", .null)], [("c", .str "?"), ("a", .nat 2)]]

theorem readChange?_raggedRows :
    (∃ columns tuples, readChange? (insert "t" raggedRows) = some (.insert "t" columns tuples) ∧
      (∀ c, c ∈ columns ↔ ∃ row ∈ raggedRows, c ∈ Fields.keys row) ∧
      tuples = raggedRows.map fun row => columns.map (Fields.get? · row)) ∧
    readChange? (update "t" [("b`", .null)] "id" (.str "1")) =
      some (.update "t" [("b`", .null)] "id" (.str "1")) := by
  obtain ⟨hinsert, hupdate, -⟩ := readChange?_changes "t"
  constructor
  · obtain ⟨columns, tuples, hread, -, hkeys, htuples, -⟩ :=
      hinsert raggedRows ⟨_, List.mem_cons_self, List.cons_ne_nil _ _⟩
    exact ⟨columns, tuples, hread, hkeys, htuples⟩
  · exact hupdate _ (List.cons_ne_nil _ _) "id" (.str "1")

end SchemaRest.Sql
