import SchemaRest.Proofs.Sql.Lexeme
import SchemaRest.Sql.Select

/-!
# A reader of queries

A reader that knows the lexemes, the order of the clauses and nothing of how statements are built. It
takes the statement a server gets, a text and a list of values: it cuts the text, gives each mark the
next value, and reads clause by clause until nothing is left of either.
-/

namespace SchemaRest.Sql

/-- A lexeme other than a blank, its mark with the value bound to it. -/
abbrev Token := Lexeme Json

def Lexeme.isBlank {μ : Type} : Lexeme μ → Bool
  | .blank _ => true
  | _ => false

/-- Leaves out the blanks and gives each mark the next value. Every mark gets one, and none is left. -/
def bound : List (Lexeme Unit) → List Json → Option (List Token)
  | [], [] => some []
  | [], _ :: _ => none
  | .mark _ :: _, [] => none
  | .mark _ :: ls, v :: vs => (bound ls vs).map (.mark v :: ·)
  | .blank _ :: ls, vs => bound ls vs
  | .name s :: ls, vs => (bound ls vs).map (.name s :: ·)
  | .literal s :: ls, vs => (bound ls vs).map (.literal s :: ·)
  | .word s :: ls, vs => (bound ls vs).map (.word s :: ·)
  | .number s :: ls, vs => (bound ls vs).map (.number s :: ·)
  | .comparison s :: ls, vs => (bound ls vs).map (.comparison s :: ·)
  | .sign c :: ls, vs => (bound ls vs).map (.sign c :: ·)

def tokens? (s : Statement) : Option (List Token) := (lex s.sql.toList).bind (bound · s.params)

/-! ## What is read -/

/-- What a condition of a chain says. -/
inductive Factor where
  | test (negate : Bool) (predicate : Predicate)
  | constant (value : Bool)
  deriving Repr

/-- A condition as it stands in a chain, the first without a connector. -/
structure Term where
  connector : Option Connector
  factor : Factor
  deriving Repr

inductive Wanted where
  /-- Rows with some columns, or with all. -/
  | rows (columns : List String)
  | total
  deriving DecidableEq, Repr

structure Reading where
  wanted : Wanted
  table : String
  terms : List Term
  orderBy : Option (String × Direction)
  limit : Option Nat
  offset : Option Nat
  deriving Repr

/-! ## Conditions -/

def comparison? : Token → Option Comparison
  | .comparison "<" => some .lt
  | .comparison ">" => some .gt
  | .comparison "=" => some .eq
  | .comparison "<=" => some .le
  | .comparison ">=" => some .ge
  | .comparison "<>" => some .ne
  | .word "LIKE" => some .like
  | _ => none

def connector? : Token → Option Connector
  | .word "AND" => some .and
  | .word "OR" => some .or
  | _ => none

/-- Values up to a closing parenthesis. -/
def values? : List Token → Option (List Json × List Token)
  | .mark v :: .sign ')' :: ts => some ([v], ts)
  | .mark v :: .sign ',' :: ts => (values? ts).map fun p => (v :: p.1, p.2)
  | _ => none

def compare? (column : String) : List Token → Option (Predicate × List Token)
  | t :: .mark v :: ts => (comparison? t).map fun op => (.compare column op v, ts)
  | _ => none

/-- A membership or a range. The word between the ends of a range is no connector. -/
def range? (column : String) : List Token → Option (Predicate × List Token)
  | .word "IN" :: .sign '(' :: ts => (values? ts).map fun p => (.among column p.1, p.2)
  | .word "BETWEEN" :: .mark low :: .word "AND" :: .mark high :: ts =>
    some (.between column low high, ts)
  | _ => none

/-- What is said of a column. -/
def test? (column : String) : List Token → Option (Factor × List Token)
  | .word "IS" :: .word "NULL" :: ts => some (.test false (.isNull column), ts)
  | .word "IS" :: .word "NOT" :: .word "NULL" :: ts => some (.test true (.isNull column), ts)
  | .word "NOT" :: ts => (range? column ts).map fun p => (.test true p.1, p.2)
  | ts => ((range? column ts).or (compare? column ts)).map fun p => (.test false p.1, p.2)

def digit? : Token → Option Bool
  | .number "1" => some true
  | .number "0" => some false
  | _ => none

def factor? : List Token → Option (Factor × List Token)
  | .word "NOT" :: .sign '(' :: .name column :: ts =>
    match compare? column ts with
    | some (p, .sign ')' :: ts) => some (.test true p, ts)
    | _ => none
  | .number "1" :: .comparison "=" :: t :: ts => (digit? t).map fun b => (.constant b, ts)
  | .name column :: ts => test? column ts
  | _ => none

/-! ## A chain comes to an end -/

theorem values?_length {ts : List Token} {p : List Json × List Token} (h : values? ts = some p) :
    p.2.length < ts.length := by
  induction ts using values?.induct generalizing p with
  | case1 v ts =>
    simp only [values?, Option.some.injEq] at h
    subst h
    simp only [List.length_cons]
    omega
  | case2 v ts ih =>
    simp only [values?, Option.map_eq_some_iff] at h
    obtain ⟨q, hq, rfl⟩ := h
    have := ih hq
    simp only [List.length_cons]
    omega
  | case3 ts h₁ h₂ => simp [values?] at h

theorem compare?_length {column : String} {ts : List Token} {p : Predicate × List Token}
    (h : compare? column ts = some p) : p.2.length < ts.length := by
  unfold compare? at h
  split at h
  · obtain ⟨op, -, rfl⟩ := Option.map_eq_some_iff.mp h
    simp only [List.length_cons]
    omega
  · cases h

theorem range?_length {column : String} {ts : List Token} {p : Predicate × List Token}
    (h : range? column ts = some p) : p.2.length < ts.length := by
  unfold range? at h
  split at h
  · obtain ⟨q, hq, rfl⟩ := Option.map_eq_some_iff.mp h
    have := values?_length hq
    simp only [List.length_cons]
    omega
  · cases h
    simp only [List.length_cons]
    omega
  · cases h

theorem test?_length {column : String} {ts : List Token} {p : Factor × List Token}
    (h : test? column ts = some p) : p.2.length < ts.length := by
  unfold test? at h
  split at h
  · cases h
    simp only [List.length_cons]
    omega
  · cases h
    simp only [List.length_cons]
    omega
  · obtain ⟨q, hq, rfl⟩ := Option.map_eq_some_iff.mp h
    have := range?_length hq
    simp only [List.length_cons]
    omega
  · obtain ⟨q, hq, rfl⟩ := Option.map_eq_some_iff.mp h
    rcases Option.or_eq_some_iff.mp hq with hq | ⟨-, hq⟩
    · exact range?_length hq
    · exact compare?_length hq

theorem factor?_length {ts : List Token} {p : Factor × List Token} (h : factor? ts = some p) :
    p.2.length < ts.length := by
  unfold factor? at h
  split at h
  · split at h
    · next hcompare =>
      cases h
      have := compare?_length hcompare
      simp only [List.length_cons] at this ⊢
      omega
    · cases h
  · obtain ⟨b, -, rfl⟩ := Option.map_eq_some_iff.mp h
    simp only [List.length_cons]
    omega
  · have := test?_length h
    simp only [List.length_cons]
    omega
  · cases h

/-! ## Clauses -/

/-- The conditions after the first. -/
def chain? : List Token → Option (List Term × List Token)
  | [] => some ([], [])
  | t :: ts =>
    match connector? t with
    | none => some ([], t :: ts)
    | some connector =>
      match h : factor? ts with
      | none => none
      | some p =>
        have := factor?_length h
        (chain? p.2).map fun q => (⟨some connector, p.1⟩ :: q.1, q.2)
termination_by ts => ts.length

def where? : List Token → Option (List Term × List Token)
  | .word "WHERE" :: ts => do
    let (factor, ts) ← factor? ts
    let (terms, ts) ← chain? ts
    return (⟨none, factor⟩ :: terms, ts)
  | ts => some ([], ts)

def names? : List Token → Option (List String × List Token)
  | .name n :: .sign ',' :: ts => (names? ts).map fun p => (n :: p.1, p.2)
  | .name n :: ts => some ([n], ts)
  | _ => none

def wanted? : List Token → Option (Wanted × List Token)
  | .sign '*' :: ts => some (.rows [], ts)
  | .word "COUNT" :: .sign '(' :: .sign '*' :: .sign ')' :: .word "AS" :: .word "total" :: ts =>
    some (.total, ts)
  | ts => (names? ts).map fun p => (.rows p.1, p.2)

def from? : List Token → Option (String × List Token)
  | .word "FROM" :: .name table :: ts => some (table, ts)
  | _ => none

def direction? : Token → Option Direction
  | .word "ASC" => some .ascending
  | .word "DESC" => some .descending
  | _ => none

def order? : List Token → Option (Option (String × Direction) × List Token)
  | .word "ORDER" :: .word "BY" :: .name column :: t :: ts =>
    (direction? t).map fun d => (some (column, d), ts)
  | ts => some (none, ts)

def limit? (word : String) : List Token → Option (Option Nat × List Token)
  | .word w :: .number n :: ts =>
    if w = word then (Text.digits? n.toList).map fun n => (some n, ts)
    else some (none, .word w :: .number n :: ts)
  | ts => some (none, ts)

/-- An offset is read only behind a limit. -/
def window? (ts : List Token) : Option ((Option Nat × Option Nat) × List Token) := do
  let (limit, ts) ← limit? "LIMIT" ts
  let (offset, ts) ← if limit.isSome then limit? "OFFSET" ts else some (none, ts)
  return ((limit, offset), ts)

def select? : List Token → Option Reading
  | .word "SELECT" :: ts => do
    let (wanted, ts) ← wanted? ts
    let (table, ts) ← from? ts
    let (terms, ts) ← where? ts
    let (orderBy, ts) ← order? ts
    let ((limit, offset), ts) ← window? ts
    if ts.isEmpty then some ⟨wanted, table, terms, orderBy, limit, offset⟩ else none
  | _ => none

/-- The query that a statement with its values is. -/
def read? (s : Statement) : Option Reading := (tokens? s).bind select?

end SchemaRest.Sql
