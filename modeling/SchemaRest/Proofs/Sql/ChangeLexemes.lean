import SchemaRest.Proofs.Sql.Phrase
import SchemaRest.Sql.Change

/-!
# Lexemes of changes

The lexemes of insertions, changes and deletions, and that their texts spell them.
-/

namespace SchemaRest.Sql

/-- What stands in a row of an insertion where the row has this value, or none. -/
def cellLexeme : Option Json → Lexeme Json
  | some v => .mark v
  | none => .word "DEFAULT"

def rowLexemes (columns : List String) (row : Fields) : List (Lexeme Json) :=
  bracketed (listed (columns.map fun c => [cellLexeme (Fields.get? c row)]))

/-- The lexemes of an insertion after its first word. -/
def insertLexemes (table : String) (rows : List Fields) : List (Lexeme Json) :=
  spaced [.word "INTO", .name table] ++ .blank ' ' :: bracketed (nameList (rowColumns rows)) ++
    spaced [.word "VALUES"] ++ .blank ' ' :: listed (rows.map (rowLexemes (rowColumns rows)))

def changeLexemes (p : String × Json) : List (Lexeme Json) :=
  .name p.1 :: spaced [.comparison "=", .mark p.2]

/-- The restriction to the rows with a key. -/
def keyLexemes (column : String) (key : Json) : List (Lexeme Json) :=
  spaced [.word "WHERE", .name column, .comparison "=", .mark key]

/-- The lexemes of a change after its first word. -/
def updateLexemes (table : String) (changes : Fields) (column : String) (key : Json) :
    List (Lexeme Json) :=
  spaced [.name table, .word "SET"] ++ .blank ' ' :: listed (changes.map changeLexemes) ++
    keyLexemes column key

/-- The lexemes of a deletion after its first word. -/
def deleteLexemes (table column : String) (key : Json) : List (Lexeme Json) :=
  spaced [.word "FROM", .name table] ++ keyLexemes column key

/-! ## Insertions -/

theorem formed_cell (v : Option Json) : (cellLexeme v).IsFormed Keeps := by
  cases v with
  | none => exact (by decide : Lexeme.isWord "DEFAULT".toList)
  | some v => trivial

theorem formed_row (columns : List String) (row : Fields) :
    ∀ l ∈ rowLexemes columns row, l.IsFormed Keeps := by
  refine formed_bracketed (formed_listed fun g hg => ?_)
  obtain ⟨c, -, rfl⟩ := List.mem_map.mp hg
  exact List.forall_mem_singleton.mpr (formed_cell _)

theorem separated_row (columns : List String) (row : Fields) :
    Separated (rowLexemes columns row) := by
  refine separated_bracketed (separated_listed _ fun g hg => ?_)
  obtain ⟨c, -, rfl⟩ := List.mem_map.mp hg
  exact separated_singleton _

theorem toList_row (columns : List String) (row : Fields) :
    (rowSql columns row).toList = spell (rowLexemes columns row) := by
  have hcells := toList_joined
    (fun c => if (Fields.get? c row).isSome then "?" else "DEFAULT")
    (fun c => [cellLexeme (Fields.get? c row)]) columns (by
      intro c _
      cases h : Fields.get? c row <;> simp [cellLexeme])
  simp only [rowSql, rowLexemes, String.toList_append, spell_bracketed, hcells]
  simp

theorem phrase_values (rows : List Fields) (columns : List String) :
    Phrase Keeps (' ' :: (Text.joined ", " (rows.map (rowSql columns))).toList)
      (.blank ' ' :: listed (rows.map (rowLexemes columns))) := by
  have hformed : ∀ l ∈ listed (rows.map (rowLexemes columns)), l.IsFormed Keeps := by
    refine formed_listed fun g hg => ?_
    obtain ⟨row, -, rfl⟩ := List.mem_map.mp hg
    exact formed_row columns row
  have hseparated : Separated (listed (rows.map (rowLexemes columns))) := by
    refine separated_listed _ fun g hg => ?_
    obtain ⟨row, -, rfl⟩ := List.mem_map.mp hg
    exact separated_row columns row
  have h := Phrase.cons (l := .blank ' ') rfl (by decide : isSpace ' ') hformed hseparated
  rw [toList_joined _ _ rows fun row _ => toList_row columns row]
  exact h

theorem insert_sql (table : String) (rows : List Fields) : (insert table rows).sql =
    "INSERT INTO " ++ quoted table ++ " (" ++ quotedList (rowColumns rows) ++ ") VALUES " ++
      Text.joined ", " (rows.map (rowSql (rowColumns rows))) := rfl

theorem lex_insert (table : String) (rows : List Fields) :
    lex (insert table rows).sql.toList =
      some ((.word "INSERT" :: insertLexemes table rows).map Lexeme.bare) := by
  have hinto := Phrase.ofWords [.word "INTO", .name table] (by simp; decide)
  have hnames := Phrase.ofBracketed (Q := Keeps) (μ := Json) (formed_nameList (rowColumns rows))
    (separated_nameList (rowColumns rows))
  have hword := Phrase.ofWords [.word "VALUES"] (by simp; decide)
  have h := (((hinto.append hnames).append hword).append
    (phrase_values rows (rowColumns rows))).lex_word "INSERT" (by decide)
  simpa [insert_sql, insertLexemes, toList_quotedList (μ := Json)] using h

/-! ## Changes and deletions -/

theorem phrase_key (column : String) (key : Json) :
    Phrase Keeps (" WHERE " ++ quoted column ++ " = ?").toList (keyLexemes column key) := by
  have h := Phrase.ofWords [.word "WHERE", .name column, .comparison "=", .mark key] (by
    simp only [List.forall_mem_cons]
    exact ⟨(by decide : Lexeme.isWord "WHERE".toList), trivial, Lexeme.formed_equals, trivial, by simp⟩)
  simpa [keyLexemes] using h

theorem phrase_change (p : String × Json) :
    Phrase Keeps (' ' :: (quoted p.1 ++ " = ?").toList) (.blank ' ' :: changeLexemes p) := by
  have h := Phrase.ofWords [.name p.1, .comparison "=", .mark p.2] (by
    simp only [List.forall_mem_cons]
    exact ⟨trivial, Lexeme.formed_equals, trivial, by simp⟩)
  simpa [changeLexemes] using h

theorem phrase_changes (changes : Fields) :
    Phrase Keeps (' ' :: (Text.joined ", " (changes.map fun p => quoted p.1 ++ " = ?")).toList)
      (.blank ' ' :: listed (changes.map changeLexemes)) := by
  have hformed : ∀ l ∈ listed (changes.map changeLexemes), l.IsFormed Keeps := by
    refine formed_listed fun g hg => ?_
    obtain ⟨p, -, rfl⟩ := List.mem_map.mp hg
    exact (List.forall_mem_cons.mp (phrase_change p).formed).2
  have hseparated : Separated (listed (changes.map changeLexemes)) := by
    refine separated_listed _ fun g hg => ?_
    obtain ⟨p, -, rfl⟩ := List.mem_map.mp hg
    exact (separated_cons rfl).mp (phrase_change p).separated
  have h := Phrase.cons (l := .blank ' ') rfl (by decide : isSpace ' ') hformed hseparated
  rw [toList_joined _ changeLexemes changes fun p _ => List.tail_eq_of_cons_eq (phrase_change p).text]
  exact h

theorem update_sql (table : String) (changes : Fields) (column : String) (key : Json) :
    (update table changes column key).sql = "UPDATE " ++ quoted table ++ " SET " ++
      Text.joined ", " (changes.map fun p => quoted p.1 ++ " = ?") ++
      " WHERE " ++ quoted column ++ " = ?" := rfl

theorem lex_update (table : String) (changes : Fields) (column : String) (key : Json) :
    lex (update table changes column key).sql.toList =
      some ((.word "UPDATE" :: updateLexemes table changes column key).map Lexeme.bare) := by
  have hset := Phrase.ofWords [.name table, .word "SET"] (by simp; decide)
  have h := ((hset.append (phrase_changes changes)).append (phrase_key column key)).lex_word
    "UPDATE" (by decide)
  simpa [update_sql, updateLexemes] using h

theorem delete_sql (table column : String) (key : Json) : (delete table column key).sql =
    "DELETE FROM " ++ quoted table ++ " WHERE " ++ quoted column ++ " = ?" := rfl

theorem lex_delete (table column : String) (key : Json) :
    lex (delete table column key).sql.toList =
      some ((.word "DELETE" :: deleteLexemes table column key).map Lexeme.bare) := by
  have hfrom := Phrase.ofWords [.word "FROM", .name table] (by simp; decide)
  have h := (hfrom.append (phrase_key column key)).lex_word "DELETE" (by decide)
  simpa [delete_sql, deleteLexemes] using h

end SchemaRest.Sql
