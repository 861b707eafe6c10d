import SchemaRest.Proofs.Sql.Numeral
import SchemaRest.Proofs.Sql.Phrase
import SchemaRest.Sql.Select

/-!
# Lexemes of a query

The lexemes of the statements of a query, and that the texts of the statements spell them. Whatever
the names in a query are, each is one lexeme, and there is one mark for every bound value.
-/

namespace SchemaRest.Sql

def Comparison.lexeme : Comparison → Lexeme Json
  | .like => .word "LIKE"
  | op => .comparison op.symbol

@[simp] theorem Comparison.chars (op : Comparison) : op.lexeme.chars = op.symbol.toList := by
  cases op <;> rfl

@[simp] theorem Comparison.formed (op : Comparison) : op.lexeme.IsFormed Keeps := by
  cases op <;> simp [Comparison.lexeme, Lexeme.IsFormed, Comparison.symbol] <;> decide

namespace Condition

def notLexemes (negate : Bool) : List (Lexeme Json) := if negate then [.word "NOT"] else []

def compareLexemes (column : String) (op : Comparison) (value : Json) : List (Lexeme Json) :=
  .name column :: spaced [op.lexeme, .mark value]

/-- The lexemes of a condition, each clause after a blank. -/
def lexemes (c : Condition) : List (Lexeme Json) :=
  match c.predicate with
  | .compare column op value =>
    if c.negate then
      spaced [.word "NOT"] ++ .blank ' ' :: bracketed (compareLexemes column op value)
    else .blank ' ' :: compareLexemes column op value
  | .among _ [] =>
    spaced [.number "1", .comparison "=", .number (if c.negate then "1" else "0")]
  | .among column values =>
    spaced (.name column :: notLexemes c.negate ++ [.word "IN"]) ++
      .blank ' ' :: bracketed (markList values)
  | .between column low high =>
    spaced (.name column :: notLexemes c.negate ++
      [.word "BETWEEN", .mark low, .word "AND", .mark high])
  | .isNull column =>
    spaced (.name column :: .word "IS" :: notLexemes c.negate ++ [.word "NULL"])

def chainLexemes (conditions : List Condition) : List (Lexeme Json) :=
  conditions.flatMap fun c => spaced [.word c.connector.word] ++ c.lexemes

end Condition

def whereLexemes : List Condition → List (Lexeme Json)
  | [] => []
  | c :: rest => spaced [.word "WHERE"] ++ c.lexemes ++ Condition.chainLexemes rest

def Direction.lexeme (d : Direction) : Lexeme Json := .word d.word

namespace Select

def columnLexemes (q : Select) : List (Lexeme Json) :=
  if q.columns.isEmpty then [.sign '*'] else nameList q.columns

def orderLexemes (q : Select) : List (Lexeme Json) :=
  match q.orderBy with
  | none => []
  | some (column, direction) => spaced [.word "ORDER", .word "BY", .name column, direction.lexeme]

def windowLexemes (q : Select) : List (Lexeme Json) :=
  match q.limit, q.offset with
  | none, _ => []
  | some n, none => spaced [.word "LIMIT", .number n.repr]
  | some n, some k => spaced [.word "LIMIT", .number n.repr, .word "OFFSET", .number k.repr]

def fromLexemes (q : Select) : List (Lexeme Json) :=
  spaced [.word "FROM", .name q.table] ++ whereLexemes q.conditions

/-- The lexemes of the statement that reads the rows, after its first word. -/
def rowLexemes (q : Select) : List (Lexeme Json) :=
  .blank ' ' :: q.columnLexemes ++ q.fromLexemes ++ q.orderLexemes ++ q.windowLexemes

/-- The lexemes of the statement that counts the rows, after its first word. -/
def countLexemes (q : Select) : List (Lexeme Json) :=
  spaced [.word "COUNT"] ++ bracketed [.sign '*'] ++ spaced [.word "AS", .word "total"] ++
    q.fromLexemes

end Select

/-! ## Texts of conditions -/

namespace Condition

theorem formed_not (negate : Bool) : ∀ l ∈ notLexemes negate, l.IsFormed Keeps := by
  cases negate
  · simp [notLexemes]
  · exact List.forall_mem_singleton.mpr (by decide : Lexeme.isWord "NOT".toList)

theorem phrase_compare (column : String) (op : Comparison) (value : Json) :
    Phrase Keeps (' ' :: (quoted column ++ " " ++ op.symbol ++ " ?").toList)
      (.blank ' ' :: compareLexemes column op value) := by
  have h := Phrase.ofWords [.name column, op.lexeme, .mark value] (by simp)
  simpa [compareLexemes] using h

theorem phrase_negated (column : String) (op : Comparison) (value : Json) :
    Phrase Keeps (' ' :: ("NOT (" ++ (quoted column ++ " " ++ op.symbol ++ " ?") ++ ")").toList)
      (spaced [.word "NOT"] ++ .blank ' ' :: bracketed (compareLexemes column op value)) := by
  have hinner := phrase_compare column op value
  have hnot := Phrase.ofWords [.word "NOT"] (by simp; decide)
  have h := hnot.append (Phrase.ofBracketed (List.forall_mem_cons.mp hinner.formed).2
    ((separated_cons rfl).mp hinner.separated))
  simpa [compareLexemes] using h

theorem phrase_among (column : String) (negate : Bool) (values : List Json) :
    Phrase Keeps (' ' :: (quoted column ++ " " ++ notWord negate ++ "IN (" ++ marks values.length ++
        ")").toList)
      (spaced (.name column :: notLexemes negate ++ [.word "IN"]) ++
        .blank ' ' :: bracketed (markList values)) := by
  have hwords := Phrase.ofWords (.name column :: notLexemes negate ++ [.word "IN"]) (by
    simp only [List.forall_mem_append, List.forall_mem_cons]
    exact ⟨⟨trivial, formed_not negate⟩, (by decide : Lexeme.isWord "IN".toList), by simp⟩)
  have h := hwords.append (Phrase.ofBracketed (formed_markList values)
    (separated_markList values))
  cases negate <;>
    simpa [notLexemes, notWord, toList_marks values] using h

theorem phrase_between (column : String) (negate : Bool) (low high : Json) :
    Phrase Keeps (' ' :: (quoted column ++ " " ++ notWord negate ++ "BETWEEN ? AND ?").toList)
      (spaced (.name column :: notLexemes negate ++
        [.word "BETWEEN", .mark low, .word "AND", .mark high])) := by
  have h := Phrase.ofWords (.name column :: notLexemes negate ++
    [.word "BETWEEN", .mark low, .word "AND", .mark high]) (by
      simp only [List.forall_mem_append, List.forall_mem_cons]
      exact ⟨⟨trivial, formed_not negate⟩, (by decide : Lexeme.isWord "BETWEEN".toList), trivial,
        (by decide : Lexeme.isWord "AND".toList), trivial, by simp⟩)
  cases negate <;> simpa [notLexemes, notWord] using h

theorem phrase_null (column : String) (negate : Bool) :
    Phrase Keeps (' ' :: (quoted column ++ " IS " ++ notWord negate ++ "NULL").toList)
      (spaced (.name column :: .word "IS" :: notLexemes negate ++ [.word "NULL"])) := by
  have h := Phrase.ofWords (.name column :: .word "IS" :: notLexemes negate ++
    [.word "NULL"]) (by
      simp only [List.forall_mem_append, List.forall_mem_cons, List.cons_append]
      exact ⟨trivial, (by decide : Lexeme.isWord "IS".toList), formed_not negate,
        (by decide : Lexeme.isWord "NULL".toList), by simp⟩)
  cases negate <;> simpa [notLexemes, notWord] using h

theorem phrase_nothing (negate : Bool) :
    Phrase Keeps (' ' :: (if negate then "1 = 1" else "1 = 0").toList)
      (spaced [(.number "1" : Lexeme Json), .comparison "=",
        .number (if negate then "1" else "0")]) := by
  have hdigit : (.number (if negate then "1" else "0") : Lexeme Json).IsFormed Keeps := by
    cases negate
    · exact isNumeral_repr 0
    · exact isNumeral_repr 1
  have h := Phrase.ofWords [.number "1", .comparison "=",
    .number (if negate then "1" else "0")] (by
      simp only [List.forall_mem_cons]
      exact ⟨isNumeral_repr 1, Lexeme.formed_equals, hdigit, by simp⟩)
  cases negate <;> simpa using h

/-- The text of a condition after a blank. -/
theorem phrase (c : Condition) : Phrase Keeps (' ' :: c.sql.toList) c.lexemes := by
  obtain ⟨connector, negate, predicate⟩ := c
  cases predicate with
  | compare column op value =>
    cases negate with
    | true => exact phrase_negated column op value
    | false => exact phrase_compare column op value
  | among column values =>
    cases values with
    | nil => exact phrase_nothing negate
    | cons v values => exact phrase_among column negate (v :: values)
  | between column low high => exact phrase_between column negate low high
  | isNull column => exact phrase_null column negate

theorem connector_isWord (c : Connector) : Lexeme.isWord c.word.toList := by
  cases c <;> decide

theorem phrase_chain (conditions : List Condition) :
    Phrase Keeps (chain conditions).toList (chainLexemes conditions) := by
  induction conditions with
  | nil => exact Phrase.empty
  | cons c rest ih =>
    have hconnector := Phrase.ofWords [.word c.connector.word]
      (List.forall_mem_singleton.mpr (connector_isWord c.connector))
    have h := (hconnector.append c.phrase).append ih
    simpa [chain, chainLexemes] using h

end Condition

theorem phrase_where (conditions : List Condition) :
    Phrase Keeps (whereSql conditions).toList (whereLexemes conditions) := by
  cases conditions with
  | nil => exact Phrase.empty
  | cons c rest =>
    have hword := Phrase.ofWords [.word "WHERE"] (by simp; decide)
    have h := (hword.append c.phrase).append (Condition.phrase_chain rest)
    simpa [whereSql, whereLexemes] using h

/-! ## Texts of queries -/

namespace Select

theorem phrase_columns (q : Select) :
    Phrase Keeps (' ' :: q.columnsSql.toList) (.blank ' ' :: q.columnLexemes) := by
  by_cases hempty : q.columns.isEmpty
  · have h := Phrase.ofWords [.sign '*'] (by simp; decide)
    simpa [columnsSql, columnLexemes, hempty] using h
  · have h := Phrase.cons (Q := Keeps) (μ := Json) (l := .blank ' ') rfl (by decide : isSpace ' ')
      (formed_nameList q.columns) (separated_nameList q.columns)
    simpa [columnsSql, columnLexemes, hempty, toList_quotedList (μ := Json)] using h

theorem phrase_from (q : Select) :
    Phrase Keeps (" FROM " ++ quoted q.table ++ whereSql q.conditions).toList q.fromLexemes := by
  have hfrom := Phrase.ofWords [.word "FROM", .name q.table] (by simp; decide)
  have h := hfrom.append (phrase_where q.conditions)
  simpa [fromLexemes] using h

theorem phrase_order (q : Select) : Phrase Keeps q.orderSql.toList q.orderLexemes := by
  cases horder : q.orderBy with
  | none => simpa [orderSql, orderLexemes, horder] using Phrase.empty
  | some order =>
    obtain ⟨column, direction⟩ := order
    have hdirection : Lexeme.isWord direction.word.toList := by cases direction <;> decide
    have h := Phrase.ofWords [.word "ORDER", .word "BY", .name column, direction.lexeme]
      (by
        simp only [List.forall_mem_cons]
        exact ⟨(by decide : Lexeme.isWord "ORDER".toList), (by decide : Lexeme.isWord "BY".toList),
          trivial, hdirection, by simp⟩)
    simpa [orderSql, orderLexemes, horder, Direction.lexeme] using h

theorem phrase_window (q : Select) : Phrase Keeps q.windowSql.toList q.windowLexemes := by
  cases hlimit : q.limit with
  | none => simpa [windowSql, windowLexemes, hlimit] using Phrase.empty
  | some n =>
    have hn : ∀ l ∈ [(.word "LIMIT" : Lexeme Json), .number n.repr], l.IsFormed Keeps := by
      simp only [List.forall_mem_cons]
      exact ⟨(by decide : Lexeme.isWord "LIMIT".toList), isNumeral_repr n, by simp⟩
    cases hoffset : q.offset with
    | none => simpa [windowSql, windowLexemes, hlimit, hoffset] using Phrase.ofWords _ hn
    | some k =>
      have hk : ∀ l ∈ [(.word "OFFSET" : Lexeme Json), .number k.repr], l.IsFormed Keeps := by
        simp only [List.forall_mem_cons]
        exact ⟨(by decide : Lexeme.isWord "OFFSET".toList), isNumeral_repr k, by simp⟩
      have h := (Phrase.ofWords _ hn).append (Phrase.ofWords _ hk)
      simpa [windowSql, windowLexemes, hlimit, hoffset] using h

theorem lex_rows (q : Select) :
    lex q.rows.sql.toList = some ((.word "SELECT" :: q.rowLexemes).map Lexeme.bare) := by
  have h := (((q.phrase_columns.append q.phrase_from).append q.phrase_order).append
    q.phrase_window).lex_word "SELECT" (by decide)
  simpa [rows, rowLexemes] using h

theorem count_sql (q : Select) : q.count.sql =
    "SELECT COUNT(*) AS total FROM " ++ quoted q.table ++ whereSql q.conditions := rfl

theorem lex_count (q : Select) :
    lex q.count.sql.toList = some ((.word "SELECT" :: q.countLexemes).map Lexeme.bare) := by
  have hword := Phrase.ofWords [.word "COUNT"] (by simp; decide)
  have hcount : Phrase Keeps [' ', 'C', 'O', 'U', 'N', 'T', '(', '*', ')']
      (spaced [.word "COUNT"] ++ bracketed [(.sign '*' : Lexeme Json)]) := by
    have hstar : ∀ l ∈ [(.sign '*' : Lexeme Json)], l.IsFormed Keeps :=
      List.forall_mem_singleton.mpr (by decide : isSign '*')
    refine ⟨by simp, List.forall_mem_append.mpr ⟨hword.formed, formed_bracketed hstar⟩, ?_,
      hword.opens⟩
    exact separated_append hword.separated (separated_bracketed (separated_singleton _))
      (by simp [bracketed, Lexeme.isBreak])
  have hname := Phrase.ofWords [.word "AS", .word "total"] (by simp; decide)
  have h := ((hcount.append hname).append q.phrase_from).lex_word "SELECT" (by decide)
  simpa [count_sql, countLexemes] using h

end Select

end SchemaRest.Sql
