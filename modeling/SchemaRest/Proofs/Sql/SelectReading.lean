import SchemaRest.Proofs.Sql.SelectLexemes
import SchemaRest.Proofs.Sql.SelectReader

/-!
# Reading a query back

`read?_select` says that the reader gets every query back from its two statements. Three things are
not in the text and so not in the reading: the connector of the first condition, the column of a
membership in nothing, and an offset without a limit.
-/

namespace SchemaRest.Sql

/-! ## Marks and their values -/

namespace Lexeme

/-- The value a lexeme carries. -/
def values : Lexeme Json → List Json
  | mark v => [v]
  | _ => []

@[simp] theorem values_blank (c : Char) : (blank c).values = [] := rfl
@[simp] theorem values_name (s : String) : (name s).values = [] := rfl
@[simp] theorem values_mark (v : Json) : (mark v).values = [v] := rfl
@[simp] theorem values_word (s : String) : (word s).values = [] := rfl
@[simp] theorem values_number (s : String) : (number s).values = [] := rfl
@[simp] theorem values_comparison (s : String) : (comparison s).values = [] := rfl
@[simp] theorem values_sign (c : Char) : (sign c).values = [] := rfl

variable {μ : Type}

@[simp] theorem isBlank_blank (c : Char) : (blank c : Lexeme μ).isBlank = true := rfl
@[simp] theorem isBlank_name (s : String) : (name s : Lexeme μ).isBlank = false := rfl
@[simp] theorem isBlank_mark (v : μ) : (mark v).isBlank = false := rfl
@[simp] theorem isBlank_word (s : String) : (word s : Lexeme μ).isBlank = false := rfl
@[simp] theorem isBlank_number (s : String) : (number s : Lexeme μ).isBlank = false := rfl
@[simp] theorem isBlank_comparison (s : String) : (comparison s : Lexeme μ).isBlank = false := rfl
@[simp] theorem isBlank_sign (c : Char) : (sign c : Lexeme μ).isBlank = false := rfl

end Lexeme

def valuesOf (ls : List (Lexeme Json)) : List Json := ls.flatMap Lexeme.values

def solid (ls : List (Lexeme Json)) : List Token := ls.filter (!·.isBlank)

theorem bound_bare (ls : List (Lexeme Json)) :
    bound (ls.map Lexeme.bare) (valuesOf ls) = some (solid ls) := by
  induction ls with
  | nil => rfl
  | cons l ls ih =>
    simp only [valuesOf, solid] at ih
    cases l <;>
      simp [valuesOf, solid, Lexeme.bare, Lexeme.values, Lexeme.isBlank, bound, ih]

theorem tokens?_of_lex {s : Statement} {ls : List (Lexeme Json)}
    (hlex : lex s.sql.toList = some (ls.map Lexeme.bare)) (hparams : s.params = valuesOf ls) :
    tokens? s = some (solid ls) := by
  rw [tokens?, hlex, Option.bind_some, hparams, bound_bare]

@[simp] theorem valuesOf_append (ls ms : List (Lexeme Json)) :
    valuesOf (ls ++ ms) = valuesOf ls ++ valuesOf ms := List.flatMap_append

@[simp] theorem valuesOf_cons (l : Lexeme Json) (ls : List (Lexeme Json)) :
    valuesOf (l :: ls) = l.values ++ valuesOf ls := rfl

@[simp] theorem valuesOf_nil : valuesOf [] = [] := rfl

@[simp] theorem valuesOf_markList (vs : List Json) : valuesOf (markList vs) = vs := by
  induction vs with
  | nil => rfl
  | cons v vs ih =>
    cases vs with
    | nil => rfl
    | cons w vs => simpa [markList] using ih

@[simp] theorem valuesOf_nameList (names : List String) : valuesOf (nameList names) = [] := by
  induction names with
  | nil => rfl
  | cons n names ih =>
    cases names with
    | nil => rfl
    | cons m names => simpa [nameList] using ih

@[simp] theorem valuesOf_spaced (ls : List (Lexeme Json)) : valuesOf (spaced ls) = valuesOf ls := by
  induction ls with
  | nil => rfl
  | cons l ls ih => simp [ih]

@[simp] theorem valuesOf_bracketed (ls : List (Lexeme Json)) :
    valuesOf (bracketed ls) = valuesOf ls := by simp [bracketed]

@[simp] theorem solid_nil : solid [] = [] := rfl

@[simp] theorem solid_append (ls ms : List (Lexeme Json)) : solid (ls ++ ms) = solid ls ++ solid ms :=
  List.filter_append ..

theorem solid_cons (l : Lexeme Json) (ls : List (Lexeme Json)) :
    solid (l :: ls) = if l.isBlank then solid ls else l :: solid ls := by
  cases h : l.isBlank <;> simp [solid, h]

@[simp] theorem solid_bracketed (ls : List (Lexeme Json)) :
    solid (bracketed ls) = .sign '(' :: solid ls ++ [.sign ')'] := by
  simp [bracketed, solid_cons]

@[simp] theorem Comparison.isBlank_lexeme (op : Comparison) : op.lexeme.isBlank = false := by
  cases op <;> rfl

@[simp] theorem Comparison.values_lexeme (op : Comparison) : op.lexeme.values = [] := by
  cases op <;> rfl

@[simp] theorem valuesOf_not (negate : Bool) : valuesOf (Condition.notLexemes negate) = [] := by
  cases negate <;> rfl

/-- Every condition has its values in the order of its marks. -/
theorem Condition.valuesOf_lexemes (c : Condition) : valuesOf c.lexemes = c.params := by
  obtain ⟨connector, negate, predicate⟩ := c
  cases predicate with
  | compare column op value =>
    cases negate <;> simp [Condition.lexemes, Condition.params, compareLexemes]
  | among column values =>
    cases values <;> simp [Condition.lexemes, Condition.params]
  | between column low high => simp [Condition.lexemes, Condition.params]
  | isNull column => simp [Condition.lexemes, Condition.params]

theorem Condition.valuesOf_chain (conditions : List Condition) :
    valuesOf (chainLexemes conditions) = whereParams conditions := by
  induction conditions with
  | nil => rfl
  | cons c rest ih =>
    simp only [chainLexemes, List.flatMap_cons, valuesOf_append, whereParams] at ih ⊢
    rw [ih, c.valuesOf_lexemes]
    simp

theorem valuesOf_where (conditions : List Condition) :
    valuesOf (whereLexemes conditions) = whereParams conditions := by
  cases conditions with
  | nil => rfl
  | cons c rest =>
    rw [whereLexemes, valuesOf_append, valuesOf_append, Condition.valuesOf_chain,
      c.valuesOf_lexemes]
    simp [whereParams]

namespace Select

theorem valuesOf_from (q : Select) : valuesOf q.fromLexemes = whereParams q.conditions := by
  simp [fromLexemes, valuesOf_where]

theorem valuesOf_rows (q : Select) : valuesOf q.rowLexemes = q.rows.params := by
  have hcolumns : valuesOf q.columnLexemes = [] := by
    unfold columnLexemes
    split <;> simp
  have horder : valuesOf q.orderLexemes = [] := by
    unfold orderLexemes
    split <;> simp [Direction.lexeme]
  have hwindow : valuesOf q.windowLexemes = [] := by
    unfold windowLexemes
    split <;> simp
  simp [rowLexemes, valuesOf_from, hcolumns, horder, hwindow, rows]

theorem valuesOf_count (q : Select) : valuesOf q.countLexemes = whereParams q.conditions := by
  simp [countLexemes, valuesOf_from]

end Select

/-! ## Reading conditions -/

/-- What of a condition is in its text. -/
def Condition.factor (c : Condition) : Factor :=
  match c.predicate with
  | .among _ [] => .constant c.negate
  | p => .test c.negate p

theorem solid_markList_cons (v w : Json) (vs : List Json) :
    solid (markList (v :: w :: vs)) = .mark v :: .sign ',' :: solid (markList (w :: vs)) := by
  simp [markList, solid_cons]

theorem values?_solid (v : Json) (vs : List Json) (ts : List Token) :
    values? (solid (markList (v :: vs)) ++ .sign ')' :: ts) = some (v :: vs, ts) := by
  induction vs generalizing v with
  | nil => rfl
  | cons w vs ih =>
    rw [solid_markList_cons, List.cons_append, List.cons_append, values?, ih]
    rfl

theorem comparison?_lexeme (op : Comparison) : comparison? op.lexeme = some op := by
  cases op <;> rfl

theorem compare?_solid (column : String) (op : Comparison) (value : Json) (ts : List Token) :
    compare? column (op.lexeme :: .mark value :: ts) = some (.compare column op value, ts) := by
  rw [compare?, comparison?_lexeme]
  rfl

/-- A comparison is none of the other things said of a column. -/
theorem test?_compare (column : String) (op : Comparison) (value : Json) (ts : List Token) :
    test? column (op.lexeme :: .mark value :: ts) =
      some (.test false (.compare column op value), ts) := by
  have hrange : range? column (op.lexeme :: .mark value :: ts) = none := by cases op <;> rfl
  have hcompare := compare?_solid column op value ts
  have htest : test? column (op.lexeme :: .mark value :: ts) =
      ((range? column (op.lexeme :: .mark value :: ts)).or
        (compare? column (op.lexeme :: .mark value :: ts))).map fun p => (.test false p.1, p.2) := by
    cases op <;> rfl
  rw [htest, hrange, hcompare]
  rfl

theorem range?_among (column : String) (v : Json) (vs : List Json) (ts : List Token) :
    range? column (.word "IN" :: .sign '(' :: (solid (markList (v :: vs)) ++ .sign ')' :: ts)) =
      some (.among column (v :: vs), ts) := by
  rw [range?, values?_solid]
  rfl

theorem factor?_solid (c : Condition) (ts : List Token) :
    factor? (solid c.lexemes ++ ts) = some (c.factor, ts) := by
  obtain ⟨connector, negate, predicate⟩ := c
  cases predicate with
  | compare column op value =>
    have hblank : solid (Condition.compareLexemes column op value) =
        [.name column, op.lexeme, .mark value] := by
      simp [Condition.compareLexemes, solid_cons]
    cases negate with
    | true =>
      have h := compare?_solid column op value (.sign ')' :: ts)
      simp [Condition.lexemes, solid_cons, hblank, factor?, h, Condition.factor]
    | false =>
      have h := test?_compare column op value ts
      simp [Condition.lexemes, solid_cons, hblank, factor?, h, Condition.factor]
  | among column values =>
    cases values with
    | nil => cases negate <;> rfl
    | cons v vs =>
      have h := range?_among column v vs ts
      cases negate <;>
        simp [Condition.lexemes, Condition.notLexemes, solid_cons, factor?, test?, h,
          Condition.factor]
  | between column low high => cases negate <;> rfl
  | isNull column => cases negate <;> rfl

/-- A condition behind others. -/
def Condition.term (c : Condition) : Term := ⟨some c.connector, c.factor⟩

def termsOf : List Condition → List Term
  | [] => []
  | c :: rest => ⟨none, c.factor⟩ :: rest.map Condition.term

theorem connector?_word (c : Connector) : connector? (.word c.word) = some c := by
  cases c <;> rfl

theorem solid_chain_cons (c : Condition) (rest : List Condition) :
    solid (Condition.chainLexemes (c :: rest)) =
      .word c.connector.word :: (solid c.lexemes ++ solid (Condition.chainLexemes rest)) := by
  simp [Condition.chainLexemes, solid_cons]

/-- A chain reads up to the first word that is no connector. -/
theorem chain?_solid (conditions : List Condition) {ts : List Token}
    (hts : ∀ t ∈ ts.head?, connector? t = none) :
    chain? (solid (Condition.chainLexemes conditions) ++ ts) =
      some (conditions.map Condition.term, ts) := by
  induction conditions with
  | nil =>
    cases ts with
    | nil => simp [Condition.chainLexemes, chain?]
    | cons t ts =>
      have ht := hts t rfl
      simp [Condition.chainLexemes, chain?, ht]
  | cons c rest ih =>
    have hfactor := factor?_solid c (solid (Condition.chainLexemes rest) ++ ts)
    rw [solid_chain_cons, List.cons_append, List.append_assoc, chain?, connector?_word]
    dsimp only
    split
    · next hnone => rw [hfactor] at hnone; cases hnone
    · next p hp =>
      obtain rfl := Option.some.inj (hfactor.symm.trans hp)
      rw [ih]
      rfl

/-- The words that may stand behind the conditions. -/
def Closing (ts : List Token) : Prop := ∀ t ∈ ts.head?, t = .word "ORDER" ∨ t = .word "LIMIT"

theorem where?_solid (conditions : List Condition) {ts : List Token} (hts : Closing ts) :
    where? (solid (whereLexemes conditions) ++ ts) = some (termsOf conditions, ts) := by
  cases conditions with
  | nil =>
    cases ts with
    | nil => rfl
    | cons t ts => obtain rfl | rfl := hts t rfl <;> rfl
  | cons c rest =>
    have hnone : ∀ t ∈ ts.head?, connector? t = none := by
      intro t ht
      obtain rfl | rfl := hts t ht <;> rfl
    have hsolid : solid (whereLexemes (c :: rest)) ++ ts =
        .word "WHERE" :: (solid c.lexemes ++ (solid (Condition.chainLexemes rest) ++ ts)) := by
      simp [whereLexemes, solid_cons]
    rw [hsolid, where?, factor?_solid, Option.bind_eq_bind, Option.bind_some]
    simp only [chain?_solid rest hnone]
    rfl

/-! ## Reading queries -/

theorem solid_nameList_cons (n m : String) (names : List String) :
    solid (nameList (n :: m :: names)) = .name n :: .sign ',' :: solid (nameList (m :: names)) := by
  simp [nameList, solid_cons]

theorem names?_solid (n : String) (names : List String) {t : Token} (ts : List Token)
    (ht : t ≠ .sign ',') :
    names? (solid (nameList (n :: names)) ++ t :: ts) = some (n :: names, t :: ts) := by
  induction names generalizing n with
  | nil =>
    have hsolid : solid (nameList [n]) = [.name n] := rfl
    rw [hsolid, List.singleton_append, names?]
    intro us hus
    exact ht (List.cons.inj hus).1
  | cons m names ih =>
    rw [solid_nameList_cons, List.cons_append, List.cons_append, names?, ih]
    rfl

theorem limit?_number (word : String) (n : Nat) (ts : List Token) :
    limit? word (.word word :: .number n.repr :: ts) = some (some n, ts) := by
  rw [limit?, if_pos rfl, digits?_repr]
  rfl

namespace Select

theorem wanted?_solid (q : Select) (ts : List Token) :
    wanted? (solid q.columnLexemes ++ .word "FROM" :: ts) =
      some (.rows q.columns, .word "FROM" :: ts) := by
  unfold columnLexemes
  cases q.columns with
  | nil => rfl
  | cons n names =>
    have hnames := names?_solid n names (t := .word "FROM") ts (by simp)
    have hrest : wanted? (solid (nameList (n :: names)) ++ .word "FROM" :: ts) =
        (names? (solid (nameList (n :: names)) ++ .word "FROM" :: ts)).map
          fun p => (.rows p.1, p.2) := by
      cases names <;> rfl
    rw [List.isEmpty_cons, if_neg Bool.false_ne_true, hrest, hnames]
    rfl

theorem closing_window (q : Select) : Closing (solid q.windowLexemes) := by
  unfold windowLexemes
  split
  · intro t ht
    cases ht
  · intro t ht
    exact .inr (Option.some.inj ht).symm
  · intro t ht
    exact .inr (Option.some.inj ht).symm

theorem closing_order (q : Select) : Closing (solid q.orderLexemes ++ solid q.windowLexemes) := by
  unfold orderLexemes
  split
  · exact q.closing_window
  · intro t ht
    exact .inl (Option.some.inj ht).symm

theorem order?_solid (q : Select) :
    order? (solid q.orderLexemes ++ solid q.windowLexemes) =
      some (q.orderBy, solid q.windowLexemes) := by
  cases horder : q.orderBy with
  | none =>
    have hnone : solid q.orderLexemes = [] := by simp [orderLexemes, horder]
    rw [hnone, List.nil_append]
    unfold windowLexemes
    split <;> rfl
  | some order =>
    obtain ⟨column, direction⟩ := order
    unfold orderLexemes
    rw [horder]
    cases direction <;> rfl

theorem window?_solid (q : Select) :
    window? (solid q.windowLexemes) = some ((q.limit, q.limit.bind fun _ => q.offset), []) := by
  cases hlimit : q.limit with
  | none => simp [windowLexemes, hlimit, window?, limit?]
  | some n =>
    cases hoffset : q.offset with
    | none =>
      have hsolid : solid q.windowLexemes = [.word "LIMIT", .number n.repr] := by
        simp [windowLexemes, hlimit, hoffset, solid_cons]
      rw [hsolid, window?, limit?_number]
      rfl
    | some k =>
      have hsolid : solid q.windowLexemes =
          [.word "LIMIT", .number n.repr, .word "OFFSET", .number k.repr] := by
        simp [windowLexemes, hlimit, hoffset, solid_cons]
      have hoffset := limit?_number "OFFSET" k []
      rw [hsolid, window?, limit?_number]
      simp [hoffset]

/-- What of a query is in its text. -/
def reading (q : Select) : Reading where
  wanted := .rows q.columns
  table := q.table
  terms := termsOf q.conditions
  orderBy := q.orderBy
  limit := q.limit
  offset := q.limit.bind fun _ => q.offset

/-- What of a query is in the text that counts its rows. -/
def countReading (q : Select) : Reading where
  wanted := .total
  table := q.table
  terms := termsOf q.conditions
  orderBy := none
  limit := none
  offset := none

theorem tokens?_rows (q : Select) :
    tokens? q.rows = some (.word "SELECT" :: (solid q.columnLexemes ++ .word "FROM" ::
      .name q.table :: (solid (whereLexemes q.conditions) ++
        (solid q.orderLexemes ++ solid q.windowLexemes)))) := by
  have hvalues : q.rows.params = valuesOf (.word "SELECT" :: q.rowLexemes) := q.valuesOf_rows.symm
  rw [tokens?_of_lex q.lex_rows hvalues]
  simp [rowLexemes, fromLexemes, solid_cons]

theorem tokens?_count (q : Select) :
    tokens? q.count = some (.word "SELECT" :: .word "COUNT" :: .sign '(' :: .sign '*' ::
      .sign ')' :: .word "AS" :: .word "total" :: .word "FROM" :: .name q.table ::
        (solid (whereLexemes q.conditions) ++ [])) := by
  have hvalues : q.count.params = valuesOf (.word "SELECT" :: q.countLexemes) :=
    q.valuesOf_count.symm
  rw [tokens?_of_lex q.lex_count hvalues]
  simp [countLexemes, fromLexemes, solid_cons]

theorem read?_rows (q : Select) : read? q.rows = some q.reading := by
  have hwhere := where?_solid q.conditions q.closing_order
  rw [read?, q.tokens?_rows, Option.bind_some, select?, q.wanted?_solid]
  simp [from?, hwhere, q.order?_solid, q.window?_solid, reading]

theorem read?_count (q : Select) : read? q.count = some q.countReading := by
  have hclosing : Closing [] := by simp [Closing]
  have hwhere := where?_solid q.conditions hclosing
  rw [read?, q.tokens?_count, Option.bind_some, select?]
  simp only [wanted?, from?, Option.bind_eq_bind, Option.bind_some, hwhere]
  rfl

/-- Both statements of a query are read back as the query, whatever names and values it has. -/
theorem read?_select (q : Select) :
    read? q.rows = some q.reading ∧ read? q.count = some q.countReading :=
  ⟨q.read?_rows, q.read?_count⟩

end Select

end SchemaRest.Sql
